/-
FleetOrders.Proofs.Numerals — a number survives being written and read.

`digits` writes a number and `numeral` reads a run of digits. Reading what
was written gives the number back (`numeral_digits`), and so it does for
ids and amounts, whose reader checks the bound of 32 bits on the value
(`word32?_digits`, `word32?_eq_some_iff`).

Digits are their own capitals and are never blank, so neither capitals nor
trimming touches a numeral.
-/
import FleetOrders.Text.Ascii
import FleetOrders.Text.Blank
import FleetOrders.Text.Decimal

namespace FleetOrders.Text

/-! ## Digits as characters -/

theorem isDigit_iff {c : Char} : isDigit c = true ↔ 48 ≤ c.toNat ∧ c.toNat ≤ 57 := by
  simp only [isDigit, Bool.and_eq_true, decide_eq_true_eq, Char.le_def, UInt32.le_iff_toNat_le]
  exact Iff.rfl

theorem upper_of_isDigit {c : Char} (h : isDigit c = true) : upper c = c := by
  have hc := isDigit_iff.mp h
  unfold upper
  rw [if_neg]
  rintro ⟨ha, -⟩
  have : 97 ≤ c.toNat := ha
  omega

theorem isBlank_of_isDigit {c : Char} (h : isDigit c = true) : isBlank c = false := by
  have hc := isDigit_iff.mp h
  simp only [isBlank, Bool.or_eq_false_iff, Bool.and_eq_false_iff, decide_eq_false_iff_not,
    beq_eq_false_iff_ne]
  omega

theorem map_upper_of_isDigit {cs : List Char} (h : ∀ c ∈ cs, isDigit c = true) :
    cs.map upper = cs := by
  rw [List.map_congr_left fun c hc => upper_of_isDigit (h c hc)]
  exact List.map_id cs

theorem digitChar_facts : ∀ n, n < 10 →
    isDigit (digitChar n) = true ∧ digitValue (digitChar n) = n := by
  decide

/-! ## Writing and reading -/

theorem digits_ne_nil (n : Nat) : digits n ≠ [] := by
  rw [digits]
  split <;> simp

theorem isDigit_of_mem_digits (n : Nat) : ∀ c ∈ digits n, isDigit c = true := by
  intro c hc
  rw [digits] at hc
  split at hc
  · rename_i hn
    rw [List.mem_singleton.mp hc]
    exact (digitChar_facts n hn).1
  · rcases List.mem_append.mp hc with hc | hc
    · exact isDigit_of_mem_digits (n / 10) c hc
    · rw [List.mem_singleton.mp hc]
      exact (digitChar_facts (n % 10) (by omega)).1
termination_by n

theorem numeral_append_singleton (cs : List Char) (c : Char) :
    numeral (cs ++ [c]) = 10 * numeral cs + digitValue c := by
  simp [numeral]

/-- Digits behind a numeral make its number no smaller. -/
theorem numeral_le_append (cs ds : List Char) : numeral cs ≤ numeral (cs ++ ds) := by
  induction ds generalizing cs with
  | nil => exact Nat.le_of_eq (by rw [List.append_nil])
  | cons d ds ih =>
    have hstep := numeral_append_singleton cs d
    have hrest := ih (cs ++ [d])
    rw [List.append_assoc, List.singleton_append] at hrest
    omega

/-- Reading the numeral of a number gives the number. -/
theorem numeral_digits (n : Nat) : numeral (digits n) = n := by
  rw [digits]
  split
  · rename_i hn
    simpa [numeral] using (digitChar_facts n hn).2
  · rw [numeral_append_singleton, numeral_digits (n / 10), (digitChar_facts (n % 10) (by omega)).2]
    omega
termination_by n

/-! ## Ids and amounts -/

/-- A run of digits is an id or an amount exactly when it stands for a
number of 32 bits; leading zeros do not matter. -/
theorem word32?_eq_some_iff {cs : List Char} {n : UInt32} :
    word32? cs = some n ↔ cs ≠ [] ∧ (∀ c ∈ cs, isDigit c = true) ∧ numeral cs = n.toNat := by
  simp only [word32?, numeralBelow?, Option.map_eq_some_iff, List.all_eq_true]
  constructor
  · rintro ⟨v, hv, rfl⟩
    split at hv
    · rename_i h
      injection hv with hv
      refine ⟨h.1, h.2.1, ?_⟩
      rw [← hv, UInt32.toNat_ofNat_of_lt' h.2.2]
    · cases hv
  · intro h
    obtain ⟨hne, hdigits, hvalue⟩ := h
    refine ⟨n.toNat, ?_, UInt32.ofNat_toNat⟩
    rw [if_pos ⟨hne, hdigits, hvalue ▸ n.toNat_lt_size⟩, hvalue]

/-- A non-empty run of digits is refused only for its value. -/
theorem isSome_word32?_iff {cs : List Char} (hne : cs ≠ []) (hdigits : ∀ c ∈ cs, isDigit c = true) :
    (∃ n, word32? cs = some n) ↔ numeral cs ≤ 4294967295 := by
  constructor
  · rintro ⟨n, hn⟩
    have hvalue := (word32?_eq_some_iff.mp hn).2.2
    have hlt : n.toNat < 4294967296 := n.toNat_lt_size
    omega
  · intro hle
    refine ⟨UInt32.ofNat (numeral cs), word32?_eq_some_iff.mpr ⟨hne, hdigits, ?_⟩⟩
    exact (UInt32.toNat_ofNat_of_lt' (show numeral cs < 4294967296 by omega)).symm

/-- The first digits of a number of 32 bits are such a number. -/
theorem exists_word32?_of_isPrefix {n : UInt32} {cs : List Char} (h : cs <+: digits n.toNat)
    (hne : cs ≠ []) : ∃ m, word32? cs = some m := by
  obtain ⟨more, hmore⟩ := h
  have hdigits : ∀ c ∈ cs, isDigit c = true := fun c hc =>
    isDigit_of_mem_digits n.toNat c (hmore ▸ List.mem_append_left more hc)
  have hle := numeral_le_append cs more
  rw [hmore, numeral_digits] at hle
  have hlt : n.toNat < 4294967296 := n.toNat_lt_size
  exact (isSome_word32?_iff hne hdigits).mpr (by omega)

theorem word32?_digits (n : UInt32) : word32? (digits n.toNat) = some n :=
  word32?_eq_some_iff.mpr
    ⟨digits_ne_nil _, isDigit_of_mem_digits _, numeral_digits _⟩

theorem digits_injective {n m : UInt32} (h : digits n.toNat = digits m.toNat) : n = m := by
  have hread := word32?_digits n
  rw [h, word32?_digits] at hread
  exact (Option.some.inj hread).symm

end FleetOrders.Text
