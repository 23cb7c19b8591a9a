/-
FleetOrders.Proofs.LetterCase — what the case of letters decides about a
line: the letters of the free text after `JOIN`, and nothing else.

Two lines equal but for the ASCII case of letters have tokens that differ in
free text only (`tokenize_alike`). Free text stands behind `JOIN`, and a
`JOIN` that is not the first token ends the reading; so either both lines
are read as one command without free text, or both as `JOIN` with two texts
that differ in case. The verdict on the latter folds the text before it looks
for a character, and the ranking of a line that starts no order folds the
line.

* `Reading.Alike`, `Reading.live_alike`, `Reading.final_alike` — the readings
  of two such lines.
* `Snapshot.analyze_eq` — without a `JOIN`, the whole feedback is the same.
* `Command.Alike.verdict` — the verdicts agree in validity and in the number
  of warnings.
* `feedback_of_sameLetters` — all of it, about lines.
-/
import FleetOrders.Console.Editor
import FleetOrders.Proofs.Capitals
import FleetOrders.Proofs.Lookahead
import FleetOrders.Proofs.SpoiledAmounts

namespace FleetOrders

open Text (SameLetters)

/-! ## Tokens up to the first `JOIN` -/

namespace Token

/-- Alike tokens are equal, or they are so up to a `JOIN`. -/
theorem eq_or_split {ts us : List Token} (h : List.Forall₂ Alike ts us)
    (hplaced : FreePlaced ts) :
    ts = us ∨ ∃ words j ta ub, ts = words ++ j :: ta ∧ us = words ++ j :: ub ∧
      j.kind = .join ∧ (∀ w ∈ words, w.kind ≠ .join) ∧ List.Forall₂ Alike ta ub ∧
      FreePlaced (j :: ta) := by
  induction h with
  | nil => exact .inl rfl
  | @cons t u ts us htu hmore ih =>
    obtain rfl : t = u := htu.eq (hplaced.head t rfl)
    by_cases hjoin : t.kind = .join
    · exact .inr ⟨[], t, ts, us, rfl, rfl, hjoin, nofun, hmore, hplaced⟩
    · obtain rfl | ⟨words, j, ta, ub, rfl, rfl, hj, hwords, hrest, hfree⟩ :=
        ih (hplaced.of_cons hjoin)
      · exact .inl rfl
      · exact .inr ⟨t :: words, j, ta, ub, rfl, rfl, hj,
          List.forall_mem_cons.mpr ⟨hjoin, hwords⟩, hrest, hfree⟩

theorem Alike.next {ts us : List Token} (h : List.Forall₂ Alike ts us) :
    (Reading.next ts).Alike (Reading.next us) := by
  cases h with
  | nil => exact ⟨rfl, rfl, fun _ => rfl, rfl⟩
  | cons htu hmore => exact htu

end Token

/-! ## Stages -/

theorem Stage.ofTokens_eq {ts us : List Token} (h : List.Forall₂ Token.Alike ts us) :
    Stage.ofTokens ts = Stage.ofTokens us := by
  have hend : ∀ ⦃t u : Token⦄, t.Alike u → ((!t.isEnd) = true ↔ (!u.isEnd) = true) := by
    intro t u htu
    rw [Token.isEnd, Token.isEnd, htu.kind]
  have hfiltered : List.Forall₂ Token.Alike (ts.filter fun t => !t.isEnd)
      (us.filter fun u => !u.isEnd) := List.rel_filter hend h
  have hkinds : List.Forall₂ Eq ((ts.filter fun t => !t.isEnd).map Token.kind)
      ((us.filter fun u => !u.isEnd).map Token.kind) :=
    List.rel_map (R := Token.Alike) (fun _ _ htu => htu.kind) hfiltered
  rw [List.forall₂_eq_eq_eq] at hkinds
  rw [Stage.ofTokens, Stage.ofTokens, hkinds]

/-! ## Commands -/

/-- The commands are one, or both are `JOIN` with texts that differ in the
case of letters. -/
inductive Command.Alike : Option Command → Option Command → Prop
  | same (c : Option Command) : Alike c c
  | join {x y : String} (h : SameLetters x y) : Alike (some (.join x)) (some (.join y))

namespace Reading

/-- What two orders leave to be read, given that the orders are alike. -/
inductive AlikeOrders : Except SyntaxError (Option Command × List Token) →
    Except SyntaxError (Option Command × List Token) → Prop
  | error (e : SyntaxError) : AlikeOrders (.error e) (.error e)
  | ok {c d : Option Command} {left left' : List Token} (hcommand : Command.Alike c d)
      (hnext : next left = next left') : AlikeOrders (.ok (c, left)) (.ok (d, left'))

/-- Behind `JOIN` the free text is read, and nothing else. -/
theorem alike_joinOrder {j : Token} {ts us : List Token}
    (h : List.Forall₂ Token.Alike ts us) (hplaced : Token.FreePlaced (j :: ts)) :
    Command.Alike (some (joinOrder ts).1) (some (joinOrder us).1) ∧
      next (joinOrder ts).2 = next (joinOrder us).2 := by
  have hkind : (next us).kind = (next ts).kind := (Token.Alike.next h).kind.symm
  rw [joinOrder, joinOrder, hkind]
  split
  · next hfree =>
    refine ⟨.join (Token.Alike.next h).letters, ?_⟩
    cases h with
    | nil => rfl
    | @cons t u ts us htu hmore =>
      -- Free text is followed by none: that stands behind `JOIN` alone.
      have hchain := (List.isChain_cons_cons.mp hplaced.chain).2
      have hafter : (next ts).kind ≠ .joinText := by
        cases ts with
        | nil => exact TokenKind.noConfusion
        | cons v ts =>
          intro hv
          have hkinds := (List.isChain_cons_cons.mp hchain).1 hv
          rw [show t.kind = .joinText from hfree] at hkinds
          exact TokenKind.noConfusion hkinds
      exact (Token.Alike.next hmore).eq hafter
  · next hno => exact ⟨.same _, (Token.Alike.next h).eq hno⟩

/-- Alike tokens are read as alike orders, or give one error. -/
theorem alike_order {ts us : List Token} (h : List.Forall₂ Token.Alike ts us)
    (hplaced : Token.FreePlaced ts) : AlikeOrders (order ts) (order us) := by
  obtain rfl | ⟨words, j, ta, ub, rfl, rfl, hj, hwords, hrest, hfree⟩ :=
    Token.eq_or_split h hplaced
  · cases order ts with
    | error e => exact .error e
    | ok p => exact .ok (.same p.1) rfl
  · cases words with
    | nil =>
      have hread : ∀ ts, order ([] ++ j :: ts) =
          .ok (some (joinOrder ts).1, (joinOrder ts).2) := fun ts => by
        simp only [List.nil_append, order, next, List.headD_cons, hj, List.tail_cons]
      rw [hread, hread]
      obtain ⟨hcommand, hnext⟩ := alike_joinOrder hrest hfree
      exact .ok hcommand hnext
    | cons t words =>
      obtain ⟨result, hresult⟩ := order_past_join (hwords t List.mem_cons_self) hj words
      rw [hresult, hresult]
      cases result with
      | error e => exact .error e
      | ok p =>
        refine .ok (.same p.1) ?_
        cases p.2 <;> rfl

/-! ## Readings -/

/-- The readings differ in free text only. -/
structure Alike (r q : Reading) : Prop where
  command : Command.Alike r.command q.command
  stage : r.stage = q.stage
  error : r.error = q.error
  consumedAll : r.consumedAll = q.consumedAll
  tokens : List.Forall₂ Token.Alike r.tokens q.tokens

section Readings

variable {ts us : List Token} (h : List.Forall₂ Token.Alike ts us) (hplaced : Token.FreePlaced ts)
include h hplaced

theorem alike_liveOfTokens : (liveOfTokens ts).Alike (liveOfTokens us) := by
  have hstage := Stage.ofTokens_eq h
  have horder := alike_order h hplaced
  unfold liveOfTokens
  generalize order ts = x, order us = y at horder
  cases horder with
  | error e => exact ⟨.same none, hstage, rfl, rfl, h⟩
  | ok hcommand hnext => exact ⟨hcommand, hstage, rfl, congrArg Token.isEnd hnext, h⟩

theorem alike_finalOfTokens : (finalOfTokens ts).Alike (finalOfTokens us) := by
  have hstage := Stage.ofTokens_eq h
  have horder := alike_order h hplaced
  unfold finalOfTokens
  generalize order ts = x, order us = y at horder
  cases horder with
  | error e => exact ⟨.same none, hstage, rfl, rfl, h⟩
  | ok hcommand hnext =>
    dsimp only
    rw [hnext]
    split
    · exact ⟨hcommand, hstage, rfl, rfl, h⟩
    · exact ⟨hcommand, hstage, rfl, rfl, h⟩

end Readings

theorem live_alike {a b : String} (h : SameLetters a b) : (live a).Alike (live b) :=
  alike_liveOfTokens (tokenize_alike h) (Token.freePlaced_of_cut (Segment.cut_segments _) 0)

theorem final_alike {a b : String} (h : SameLetters a b) : (final a).Alike (final b) :=
  alike_finalOfTokens (tokenize_alike h) (Token.freePlaced_of_cut (Segment.cut_segments _) 0)

end Reading

/-- Without a `JOIN` the tokens are the same. -/
theorem tokenize_eq_of_no_join {a b : String} (h : SameLetters a b)
    (hno : ∀ t ∈ tokenize a, t.kind ≠ .join) : tokenize a = tokenize b := by
  obtain heq | ⟨words, j, ta, ub, htokens, -, hj, -⟩ :=
    Token.eq_or_split (tokenize_alike h) (Token.freePlaced_of_cut (Segment.cut_segments _) 0)
  · exact heq
  · exact absurd hj (hno j (by rw [htokens]; simp))

/-! ## Verdicts -/

theorem CharacterType.find?_eq {x y : String} (h : SameLetters x y) : find? x = find? y := by
  rw [find?, find?, h.lowerCase]

/-- The text after `JOIN` is judged without regard to case: as much is found
about both, and each finding of the kind that bars the order is found about
both. -/
theorem Snapshot.joinFindings_alike {x y : String} (h : SameLetters x y) :
    (joinFindings x).objections = (joinFindings y).objections ∧
      (joinFindings x).cautions.length = (joinFindings y).cautions.length := by
  have htrimmed := h.trimmed
  unfold joinFindings
  simp only [htrimmed.eq_empty_iff, CharacterType.find?_eq htrimmed]
  by_cases hempty : Text.trimmed y = ""
  · simp [hempty]
  · cases CharacterType.find? (Text.trimmed y) <;> simp [hempty, Findings.given, Findings.ofCaution]

/-- The verdicts on alike commands agree in validity and in the number of
warnings. -/
theorem Command.Alike.verdict {c d : Option Command} (h : Command.Alike c d) (s : Snapshot)
    (mode : Mode) :
    (assess s mode c).isValid = (assess s mode d).isValid ∧
      (assess s mode c).warnings.length = (assess s mode d).warnings.length := by
  cases h with
  | same => exact ⟨rfl, rfl⟩
  | join h =>
    obtain ⟨hobjections, hcautions⟩ := Snapshot.joinFindings_alike h
    simp [assess, Snapshot.findings, Findings.ofExcept, Findings.verdict, Verdict.isValid,
      hobjections, hcautions]

/-! ## Feedback -/

namespace Snapshot

variable (s : Snapshot) {a b : String}

/-- The ranking of a line that starts no order folds the line. -/
theorem matching_eq (h : SameLetters a b) : s.matching a = s.matching b := by
  unfold matching Similarity.ranked Similarity.score
  rw [h.trimmed.lowerCase]

/-- Of two lines with the same tokens and the same ranking the whole feedback
is the same. -/
theorem analyze_of_tokens {a b : String} (htokens : tokenize a = tokenize b)
    (hmatching : s.matching a = s.matching b) (limit : Nat) :
    s.analyze limit a = s.analyze limit b := by
  have hlive : Reading.live a = Reading.live b := congrArg Reading.liveOfTokens htokens
  have hstaged : ∀ t stage, s.staged limit a t stage = s.staged limit b t stage := by
    intro t stage
    cases stage with
    | unknown => exact hmatching
    | _ => rfl
  unfold analyze suggest
  simp only [hlive, hstaged]

theorem analyze_eq (h : SameLetters a b) (htokens : tokenize a = tokenize b) (limit : Nat) :
    s.analyze limit a = s.analyze limit b :=
  s.analyze_of_tokens htokens (s.matching_eq h) limit

end Snapshot

/-- The case of letters decides nothing about a line but the letters of the
free text after `JOIN`. Two lines that differ in nothing else have alike
tokens and alike readings; without a `JOIN` all the feedback on them is the
same, and the verdicts on them agree in validity and in the number of
warnings in any case. -/
theorem feedback_of_sameLetters {a b : String} (h : SameLetters a b) :
    List.Forall₂ Token.Alike (tokenize a) (tokenize b) ∧
      (Reading.live a).Alike (Reading.live b) ∧ (Reading.final a).Alike (Reading.final b) ∧
      ((∀ t ∈ tokenize a, t.kind ≠ .join) →
        ∀ (s : Snapshot) (limit : Nat), s.analyze limit a = s.analyze limit b) ∧
      ∀ (s : Snapshot) (mode : Mode),
        let va := assess s mode (Reading.live a).command
        let vb := assess s mode (Reading.live b).command
        va.isValid = vb.isValid ∧ va.warnings.length = vb.warnings.length :=
  ⟨tokenize_alike h, Reading.live_alike h, Reading.final_alike h,
    fun hno s => s.analyze_eq h (tokenize_eq_of_no_join h hno),
    (Reading.live_alike h).command.verdict⟩

/-- A known character in two spellings, and the beginning of a word that
starts no order. -/
theorem feedback_of_sameLetters_demo :
    SameLetters "join Pirate" "JOIN pIRATE" ∧
      (Reading.live "join Pirate").command = some (.join "Pirate") ∧
      (Reading.live "JOIN pIRATE").command = some (.join "pIRATE") ∧
      (∀ (s : Snapshot) (mode : Mode),
        (assess s mode (Reading.live "join Pirate").command).isValid =
          (assess s mode (Reading.live "JOIN pIRATE").command).isValid) ∧
      SameLetters "tuR" "Tur" ∧ (Reading.live "tuR").stage = .unknown ∧
      ∀ (s : Snapshot) (limit : Nat), s.analyze limit "tuR" = s.analyze limit "Tur" := by
  have hjoin : SameLetters "join Pirate" "JOIN pIRATE" := by decide
  have hword : SameLetters "tuR" "Tur" := by decide
  exact ⟨hjoin, by decide, by decide,
    fun s mode => ((feedback_of_sameLetters hjoin).2.2.2.2 s mode).1,
    hword, by decide, (feedback_of_sameLetters hword).2.2.2.1 (by decide)⟩

end FleetOrders
