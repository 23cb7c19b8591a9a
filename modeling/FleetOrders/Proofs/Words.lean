/-
FleetOrders.Proofs.Words — the words that an order is made of.

A word is a token without its place and without the leading zeros of its
number. `Command.words` lists the words of a command; the wire text of a
complete command is those words in a row (`wire?_eq_words`).

* `Word.Fits` — the token is the word.
* `Leads` — a list of tokens starts with given words, and what is left
  after them. The readers of `Command.Reading` take tokens and return the
  rest in the same way, so each has a specification by `Leads`.
-/
import FleetOrders.Command
import FleetOrders.Proofs.Lexemes

namespace FleetOrders

open Text (digits word32?)

/-! ## Words of commands -/

/-- A word of an order. -/
inductive Word where
  | sign (s : Sign)
  | number (n : UInt32)
  /-- The free text after `JOIN`. -/
  | free (text : String)
  deriving DecidableEq, Repr

namespace Word

def kind : Word → TokenKind
  | .sign s => s.kind
  | .number _ => .number
  | .free _ => .joinText

/-- The number that a word stands for, if it is one. -/
def number? : Word → Option UInt32
  | .number n => some n
  | _ => none

theorem kind_ne_endOfInput (w : Word) : w.kind ≠ .endOfInput := by
  cases w with
  | sign s => exact s.kind_ne_endOfInput
  | number n => exact TokenKind.noConfusion
  | free text => exact TokenKind.noConfusion

/-- A word as wire texts write it. -/
def chars : Word → List Char
  | .sign s => s.letters
  | .number n => digits n.toNat
  | .free text => ' ' :: text.toList

end Word

def FleetId.words (f : FleetId) : List Word :=
  [.sign .fleetMark, .number f.number]

def WorldId.words (w : WorldId) : List Word :=
  [.sign .worldMark, .number w.number]

def Destination.words : Destination → List Word
  | .industry => [.sign .industry]
  | .population => [.sign .population]
  | .fleet id => id.words

def Resource.words : Resource → List Word
  | .population => [.sign .population]
  | .industry => [.sign .industry]

namespace Command

/-- The words of a command in the order in which they are written. -/
def words : Command → List Word
  | .move fleet path => fleet.words ++ path.flatMap WorldId.words
  | .build world amount goal => world.words ++ [.sign .build, .number amount] ++ goal.words
  | .transfer fleet amount goal =>
    fleet.words ++ [.sign .transfer, .number amount] ++ goal.words
  | .fireAtWorld fleet target => fleet.words ++ [.sign .attack] ++ target.words
  | .fireAtFleet fleet target => fleet.words ++ [.sign .attack] ++ target.words
  | .ambush fleet => fleet.words ++ [.sign .attack]
  | .join text => [.sign .join, .free text]
  | .turn => [.sign .turn]
  | .partialFleet fleet => fleet.words
  | .partialWorld world => world.words
  | .partialTransfer fleet amount => fleet.words ++ [.sign .transfer, .number amount]
  | .partialBuild world amount => world.words ++ [.sign .build, .number amount]
  | .partialJoin => [.sign .join]

end Command

/-! ## Words as text -/

theorem FleetId.toList_text (f : FleetId) : f.text.toList = f.words.flatMap Word.chars := by
  simp [FleetId.text, FleetId.numeral, Text.decimal, FleetId.words, Word.chars, Sign.letters]

theorem WorldId.toList_text (w : WorldId) : w.text.toList = w.words.flatMap Word.chars := by
  simp [WorldId.text, WorldId.numeral, Text.decimal, WorldId.words, Word.chars, Sign.letters]

theorem Destination.toList_wire (d : Destination) :
    d.wire.toList = d.words.flatMap Word.chars := by
  cases d with
  | industry => rfl
  | population => rfl
  | fleet id => exact id.toList_text

theorem Resource.toList_wire (r : Resource) : r.wire.toList = r.words.flatMap Word.chars := by
  cases r <;> rfl

theorem toList_join_worldTexts (path : List WorldId) :
    (String.join (path.map WorldId.text)).toList =
      (path.flatMap WorldId.words).flatMap Word.chars := by
  induction path with
  | nil => rfl
  | cons w path ih =>
    simp only [List.map_cons, String.join_cons, String.toList_append, List.flatMap_cons,
      List.flatMap_append, ih, w.toList_text]

/-- The wire text of a complete command is its words in a row. -/
theorem Command.wire?_eq_words {c : Command} (h : c.isComplete = true) :
    c.wire? = some (String.ofList (c.words.flatMap Word.chars)) := by
  have hstring : ∀ {s : String} {cs : List Char},
      s.toList = cs → some s = some (String.ofList cs) := by
    rintro s cs rfl
    rw [String.ofList_toList]
  cases c with
  | move fleet path =>
    refine hstring ?_
    simp only [String.toList_append, fleet.toList_text, toList_join_worldTexts, words,
      List.flatMap_append]
  | build world amount goal =>
    refine hstring ?_
    simp [world.toList_text, goal.toList_wire, words, Text.decimal, Word.chars, Sign.letters]
  | transfer fleet amount goal =>
    refine hstring ?_
    simp [fleet.toList_text, goal.toList_wire, words, Text.decimal, Word.chars, Sign.letters]
  | fireAtWorld fleet target =>
    refine hstring ?_
    simp [fleet.toList_text, target.toList_wire, words, Word.chars, Sign.letters]
  | fireAtFleet fleet target =>
    refine hstring ?_
    simp [fleet.toList_text, target.toList_text, words, Word.chars, Sign.letters]
  | ambush fleet =>
    refine hstring ?_
    simp [fleet.toList_text, words, Word.chars, Sign.letters]
  | join text =>
    refine hstring ?_
    simp [words, Word.chars, Sign.letters]
  | turn => exact hstring rfl
  | _ => cases h

/-! ## Words as tokens -/

/-- The token is the word: it has its kind, a number has its value, and a
free text has its letters. -/
def Word.Fits : Word → Token → Prop
  | .sign s, t => t.kind = s.kind
  | .number n, t => t.kind = .number ∧ word32? t.text.toList = some n
  | .free text, t => t.kind = .joinText ∧ t.text = text

theorem Word.Fits.kind {w : Word} {t : Token} (h : w.Fits t) : t.kind = w.kind := by
  cases w with
  | sign s => exact h
  | number n => exact h.1
  | free text => exact h.1

/-- The number that the digits of a token stand for, if it has any. -/
def Token.number? (t : Token) : Option Nat :=
  if t.kind = .number then some (Text.numeral t.text.toList) else none

theorem Word.Fits.number? {w : Word} {t : Token} (h : w.Fits t) :
    t.number? = w.number?.map UInt32.toNat := by
  cases w with
  | sign s =>
    have hkind : t.kind ≠ .number := fun hnumber => s.kind_ne_number (h.symm.trans hnumber)
    simp [Token.number?, Word.number?, hkind]
  | number n =>
    have hvalue := (Text.word32?_eq_some_iff.mp h.2).2.2
    simp [Token.number?, Word.number?, h.1, hvalue]
  | free text => simp [Token.number?, Word.number?, h.1]

/-- The tokens start with the words, and after them come the rest. -/
def Leads : List Word → List Token → List Token → Prop
  | [], ts, rest => ts = rest
  | w :: ws, ts, rest => ∃ t more, ts = t :: more ∧ w.Fits t ∧ Leads ws more rest

theorem leads_nil {ts rest : List Token} : Leads [] ts rest ↔ ts = rest :=
  Iff.rfl

theorem leads_cons {w : Word} {ws : List Word} {ts rest : List Token} :
    Leads (w :: ws) ts rest ↔ ∃ t more, ts = t :: more ∧ w.Fits t ∧ Leads ws more rest :=
  Iff.rfl

theorem leads_append {vs ws : List Word} {ts rest : List Token} :
    Leads (vs ++ ws) ts rest ↔ ∃ mid, Leads vs ts mid ∧ Leads ws mid rest := by
  induction vs generalizing ts with
  | nil => simp [leads_nil]
  | cons v vs ih =>
    simp only [List.cons_append, leads_cons, ih]
    constructor
    · intro h
      obtain ⟨t, more, hts, ht, mid, hvs, hws⟩ := h
      exact ⟨mid, ⟨t, more, hts, ht, hvs⟩, hws⟩
    · intro h
      obtain ⟨mid, ⟨t, more, hts, ht, hvs⟩, hws⟩ := h
      exact ⟨t, more, hts, ht, mid, hvs, hws⟩

/-- What follows the rest does not matter. -/
theorem Leads.append {ws : List Word} {ts rest : List Token} (h : Leads ws ts rest)
    (more : List Token) : Leads ws (ts ++ more) (rest ++ more) := by
  induction ws generalizing ts with
  | nil =>
    rw [leads_nil.mp h]
    exact leads_nil.mpr rfl
  | cons w ws ih =>
    obtain ⟨t, us, rfl, ht, hws⟩ := h
    exact ⟨t, us ++ more, rfl, ht, ih hws⟩

/-- The words take a first part of the tokens. -/
theorem Leads.exists_prefix {ws : List Word} {ts rest : List Token} (h : Leads ws ts rest) :
    ∃ taken, ts = taken ++ rest ∧ Leads ws taken [] := by
  induction ws generalizing ts with
  | nil => exact ⟨[], leads_nil.mp h, rfl⟩
  | cons w ws ih =>
    obtain ⟨t, us, rfl, ht, hws⟩ := h
    obtain ⟨taken, rfl, htaken⟩ := ih hws
    exact ⟨t :: taken, rfl, t, taken, rfl, ht, htaken⟩

/-- Each word that leads the tokens is one of them. -/
theorem Leads.exists_fits {ws : List Word} {ts rest : List Token} (h : Leads ws ts rest) :
    ∀ w ∈ ws, ∃ t ∈ ts, w.Fits t := by
  induction ws generalizing ts with
  | nil => simp
  | cons v ws ih =>
    obtain ⟨t, more, rfl, ht, hws⟩ := h
    intro w hw
    rcases List.mem_cons.mp hw with rfl | hw
    · exact ⟨t, List.mem_cons_self, ht⟩
    · obtain ⟨u, hu, hfits⟩ := ih hws w hw
      exact ⟨u, List.mem_cons_of_mem t hu, hfits⟩

theorem Leads.map_kind {ws : List Word} {ts rest : List Token} (h : Leads ws ts rest) :
    ts.map Token.kind = ws.map Word.kind ++ rest.map Token.kind := by
  induction ws generalizing ts with
  | nil => rw [leads_nil.mp h, List.map_nil, List.nil_append]
  | cons w ws ih =>
    obtain ⟨t, us, rfl, ht, hws⟩ := h
    rw [List.map_cons, List.map_cons, ih hws, ht.kind, List.cons_append]

theorem Leads.length_eq {ws : List Word} {ts rest : List Token} (h : Leads ws ts rest) :
    ts.length = ws.length + rest.length := by
  simpa using congrArg List.length h.map_kind

theorem Leads.numbers {ws : List Word} {ts rest : List Token} (h : Leads ws ts rest) :
    ts.filterMap Token.number? =
      (ws.filterMap Word.number?).map UInt32.toNat ++ rest.filterMap Token.number? := by
  induction ws generalizing ts with
  | nil => rw [leads_nil.mp h, List.filterMap_nil, List.map_nil, List.nil_append]
  | cons w ws ih =>
    obtain ⟨t, us, rfl, ht, hws⟩ := h
    rw [List.filterMap_cons, List.filterMap_cons, ht.number?, ih hws]
    cases w.number? <;> rfl

end FleetOrders
