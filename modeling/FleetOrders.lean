import FleetOrders.CharacterType
import FleetOrders.Command
import FleetOrders.Command.Grammar
import FleetOrders.Command.Reading
import FleetOrders.Command.Stage
import FleetOrders.Command.SyntaxError
import FleetOrders.CommandLine
import FleetOrders.Console
import FleetOrders.Console.Batch
import FleetOrders.Console.Config
import FleetOrders.Console.Dialogue
import FleetOrders.Console.Editor
import FleetOrders.Console.Help
import FleetOrders.Fault
import FleetOrders.FileTree
import FleetOrders.Highlight
import FleetOrders.History
import FleetOrders.Ids
import FleetOrders.Main
import FleetOrders.MessagePack
import FleetOrders.Proofs.Feedback
import FleetOrders.Proofs.Legality
import FleetOrders.Proofs.Lexemes
import FleetOrders.Proofs.Numerals
import FleetOrders.Proofs.Readers
import FleetOrders.Proofs.Readings
import FleetOrders.Proofs.Sentences
import FleetOrders.Proofs.Suggestions
import FleetOrders.Proofs.Trimming
import FleetOrders.Proofs.WireRoundTrip
import FleetOrders.Proofs.Words
import FleetOrders.Roster
import FleetOrders.Similarity
import FleetOrders.Snapshot
import FleetOrders.Snapshot.Bytes
import FleetOrders.Snapshot.Demo
import FleetOrders.Snapshot.File
import FleetOrders.Snapshot.Summary
import FleetOrders.Store
import FleetOrders.Suggestion
import FleetOrders.Suggestion.Completion
import FleetOrders.Suggestion.Stages
import FleetOrders.Suggestion.Typed
import FleetOrders.Text.Ascii
import FleetOrders.Text.Backspace
import FleetOrders.Text.Blank
import FleetOrders.Text.Column
import FleetOrders.Text.Decimal
import FleetOrders.Text.Grapheme
import FleetOrders.Text.Grapheme.Table
import FleetOrders.Text.Lines
import FleetOrders.Text.LowerCase
import FleetOrders.Text.LowerCase.Table
import FleetOrders.Text.Ranges
import FleetOrders.Text.Slice
import FleetOrders.Token
import FleetOrders.Token.Segment
import FleetOrders.Verdict
import FleetOrders.Verdict.Assessment
import FleetOrders.Verdict.Finding
import FleetOrders.Verdict.Rules
import FleetOrders.Proofs.Spellings
import FleetOrders.Proofs.Fidelity
import FleetOrders.Proofs.Staging
import FleetOrders.Proofs.SuggestionTexts
import FleetOrders.Proofs.Finishing
import FleetOrders.Proofs.SpoiledAmounts
import FleetOrders.Proofs.HopSuggestions
import FleetOrders.Proofs.MoveCompletion
import FleetOrders.Proofs.HistoryPersistence
import FleetOrders.Proofs.ConsoleRuns
import FleetOrders.Proofs.SnapshotRoundTrip
import FleetOrders.Proofs.Capitals
import FleetOrders.Proofs.Lookahead
import FleetOrders.Proofs.BatchAccounts
import FleetOrders.Proofs.DialogueSending
import FleetOrders.Proofs.LetterCase
import FleetOrders.Proofs.Placing
import FleetOrders.Proofs.Spacing
import FleetOrders.Proofs.Indexing
import FleetOrders.Proofs.PathDiagnosis
import FleetOrders.Proofs.Faithfulness
import FleetOrders.Proofs.MissingWorlds
import FleetOrders.Proofs.Locality
import FleetOrders.Proofs.QueuedOrders
import FleetOrders.Proofs.Truncation
import FleetOrders.Proofs.Cutting
import FleetOrders.Proofs.Layout
import FleetOrders.Proofs.Failures
import FleetOrders.Proofs.Viability
import FleetOrders.Proofs.TargetSuggestions
import FleetOrders.Proofs.Offences
import FleetOrders.Proofs.Typing
import FleetOrders.Proofs.TypedPaths
import FleetOrders.Proofs.Rankings
import FleetOrders.Proofs.Colouring
import FleetOrders.Proofs.InlineHints
import FleetOrders.Proofs.ScriptPieces
