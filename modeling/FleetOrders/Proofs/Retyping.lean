/-
FleetOrders.Proofs.Retyping — what suggestions repeat of a line.

Suggestions repeat tokens in canonical text, and put something behind them.

* `Leads.spells_upTo` — what is repeated of a line spells the words that
  its tokens start with.
* `Reading.final_of_spells` — a text that spells the words of a command is
  accepted as that command.
-/
import FleetOrders.Proofs.Readings
import FleetOrders.Proofs.Spellings
import FleetOrders.Suggestion.Typed

namespace FleetOrders

/-- A text that spells the words of a command is accepted as that
command. -/
theorem Reading.final_of_spells {c : Command} {text : String} (hs : Spells c.words text.toList)
    (hapart : Apart c.words) (hstop : c.StopsBefore .endOfInput) :
    (final text).error = none ∧ (final text).command = some c :=
  final_accepts_iff.mpr ⟨hapart.leads_tokenize hs, hstop⟩

/-! ## Tokens as text -/

/-- A lexeme that is a sign is written with its letters. -/
theorem IsLexeme.letters {s : Sign} {cs : List Char} (h : IsLexeme s.kind cs) :
    cs.map Text.upper = s.letters := by
  have hsign : ∃ r : Sign, r.kind = s.kind ∧ cs.map Text.upper = r.letters := by
    cases s <;> exact h
  obtain ⟨r, hr, htext⟩ := hsign
  rw [htext, Sign.kind_injective hr]

/-- A sound token that is a sign has its letters. -/
theorem Token.Sound.letters {t : Token} (h : t.Sound) {s : Sign} (hkind : t.kind = s.kind) :
    t.text.toList = s.letters := by
  have hsign : ∃ r : Sign, r.kind = s.kind ∧ t.text.toList = r.letters := by
    rw [Sound, hkind] at h
    cases s <;> exact h
  obtain ⟨r, hr, htext⟩ := hsign
  rw [htext, Sign.kind_injective hr]

/-- A token that is a word is repeated as that word. -/
theorem Word.Fits.writes {w : Word} {t : Token} (h : w.Fits t) (hsound : t.Sound) :
    w.Writes (Typed.canonical t).toList := by
  cases w with
  | sign s =>
    have hkind : t.kind = s.kind := h
    rw [Typed.canonical, if_neg (hkind ▸ s.kind_ne_joinText)]
    exact hsound.letters hkind
  | number n =>
    rw [Typed.canonical, if_neg (by simp [h.1])]
    exact h.2
  | free text =>
    rw [Typed.canonical, if_pos h.1, h.2]
    simp [Writes]

namespace Typed

theorem toList_upTo (t : Typed) (n : Nat) :
    (t.upTo n).toList = (t.tokens.take n).flatMap fun u => (canonical u).toList := by
  rw [upTo]
  induction t.tokens.take n with
  | nil => rfl
  | cons u us ih =>
    rw [List.map_cons, String.join_cons, String.toList_append, ih, List.flatMap_cons]

theorem toList_text (t : Typed) :
    t.text.toList = t.tokens.flatMap fun u => (canonical u).toList := by
  rw [text, toList_upTo, count, List.take_length]

end Typed

/-- The canonical text of the first tokens spells the words that they
are. -/
theorem Leads.spells_upTo {ws : List Word} {ts rest : List Token} (h : Leads ws ts rest)
    (hsound : ∀ t ∈ ts, t.Sound) : Spells ws ((Typed.mk ts).upTo ws.length).toList := by
  rw [Typed.toList_upTo]
  induction ws generalizing ts with
  | nil => rfl
  | cons w ws ih =>
    obtain ⟨t, more, rfl, ht, hws⟩ := h
    have hmore : ∀ u ∈ more, u.Sound := fun u hu => hsound u (List.mem_cons_of_mem t hu)
    exact .cons (ht.writes (hsound t List.mem_cons_self)) (ih hws hmore)

/-- The canonical text of all tokens spells the words, when there is
nothing else. -/
theorem Leads.spells_text {ws : List Word} {ts : List Token} (h : Leads ws ts [])
    (hsound : ∀ t ∈ ts, t.Sound) : Spells ws (Typed.mk ts).text.toList := by
  have hlength : (Typed.mk ts).count = ws.length := h.length_eq
  rw [Typed.text, hlength]
  exact h.spells_upTo hsound

end FleetOrders
