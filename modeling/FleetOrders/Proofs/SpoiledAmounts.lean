/-
FleetOrders.Proofs.SpoiledAmounts — suggestions that cannot be finished.

Where an amount is due and something else was typed, targets are offered
behind it. The text between the sign and the target stays what it is,
whatever is typed on, and no line with it is accepted.

* `ForeignHead` — how the text of a token starts that is no number and no
  free text: neither with a digit nor with a blank.
* `Token.FreePlaced` — free text stands only after `JOIN`, so none stands in
  the place of an amount.
* `AmountOffer.not_finishable` — what is offered behind a spoiled amount
  cannot be finished.

`Snapshot.finishable_iff` says which suggestions can be finished.
-/
import FleetOrders.Proofs.Fidelity
import FleetOrders.Proofs.Finishing
import Mathlib.Data.List.Infix

namespace FleetOrders

open Text (isBlank isDigit upper dropWord? digits numeral word32?)

/-! ## Orders without an amount -/

namespace Reading

/-- After a fleet and `T`, or a world and `B`, reading fails where no number
of 32 bits follows. -/
theorem final_error_of_amount {line : String} {vs : List Word} {mid : List Token}
    (hhead : AmountHead vs) (hleads : Leads vs (tokenize line) mid)
    (hmid : ∀ n rest, ¬ Leads [.number n] mid rest) : (final line).error ≠ none := by
  obtain ⟨e, hnumber⟩ : ∃ e, number mid = .error e := by
    cases h : number mid with
    | error e => exact ⟨e, rfl⟩
    | ok p => exact absurd (number_eq_ok_iff.mp h) (hmid p.1 p.2)
  have horder : order (tokenize line) = .error e := by
    rcases hhead with ⟨f, rfl⟩ | ⟨w, rfl⟩
    · obtain ⟨left, hfleet, hsign⟩ := leads_append.mp hleads
      obtain ⟨hthird, hrest⟩ := leads_sign_iff.mp hsign
      obtain ⟨hfirst, -⟩ := leads_sign_iff.mp hfleet
      obtain ⟨afterMark, ⟨t, hmark⟩, hid⟩ := leads_mark_number_iff.mp hfleet
      have htransfer : transfer f left.tail = .error e := by
        rw [leads_nil.mp hrest, transfer, hnumber]
        rfl
      simp only [Sign.kind] at hfirst hmark hthird
      simp [order, hfirst, fleetOrder, hmark, hid, hthird, htransfer, bind, Except.bind]
    · obtain ⟨left, hworld, hsign⟩ := leads_append.mp hleads
      obtain ⟨hthird, hrest⟩ := leads_sign_iff.mp hsign
      obtain ⟨hfirst, -⟩ := leads_sign_iff.mp hworld
      obtain ⟨afterMark, ⟨t, hmark⟩, hid⟩ := leads_mark_number_iff.mp hworld
      obtain ⟨u, hbuild⟩ := one_sign_iff.mpr hsign
      have hend : (next left).isEnd = false := by simp [Token.isEnd, hthird, Sign.kind]
      simp only [Sign.kind] at hfirst hmark hbuild
      simp [order, hfirst, worldOrder, hmark, hid, hend, hbuild, hnumber, bind, Except.bind]
  simp [final, finalOfTokens, horder]

end Reading

/-! ## Tokens that start no number -/

namespace Text

/-- A capital is no digit and no blank. -/
theorem upper_facts {c : Char} (hdigit : isDigit c = false) (hblank : isBlank c = false) :
    isDigit (upper c) = false ∧ isBlank (upper c) = false := by
  unfold upper
  split
  · rename_i h
    have hlow : 97 ≤ c.toNat := h.1
    have hhigh : c.toNat ≤ 122 := h.2
    have hsmall : ∀ n, n < 123 → 97 ≤ n → isDigit (Char.ofNat (n - 32)) = false ∧
        isBlank (Char.ofNat (n - 32)) = false := by decide
    exact hsmall c.toNat (by omega) hlow
  · exact ⟨hdigit, hblank⟩

end Text

namespace Segment

/-- A character that the language does not know is no digit and no
blank. -/
theorem exists_of_unknown {cs text : List Char} (h : .lexeme .unknown text ∈ segments cs) :
    ∃ c, text = [c] ∧ isDigit c = false ∧ isBlank c = false := by
  have hcut := cut_segments cs
  generalize segments cs = segs at h hcut
  induction hcut with
  | nil => cases h
  | join hhead tail =>
    rcases List.mem_cons.mp h with h | h
    · cases h
    · cases (mem_afterJoin h).1
  | turn hhead tail =>
    rcases List.mem_cons.mp h with h | h
    · cases h
    · cases tail with
      | nil => cases h
      | cons d tail => simp [afterTurn] at h
  | letter _ _ hletter _ ih =>
    rcases List.mem_cons.mp h with h | h
    · obtain ⟨s, rfl, -⟩ := exists_sign_of_letterKind? hletter
      injection h with hkind
      cases s <;> cases hkind
    · exact ih h
  | number _ _ _ _ ih =>
    rcases List.mem_cons.mp h with h | h
    · cases h
    · exact ih h
  | blank _ _ ih =>
    rcases List.mem_cons.mp h with h | h
    · cases h
    · exact ih h
  | unknown _ _ _ hdigit hblank _ ih =>
    rcases List.mem_cons.mp h with h | h
    · injection h with _ htext
      exact ⟨_, htext, hdigit, hblank⟩
    · exact ih h

end Segment

/-- The text starts with neither a digit nor a blank, and cannot go on with
`URN` after a `T` unless it is a single character. -/
def ForeignHead (cs : List Char) : Prop :=
  ∃ c more, cs = c :: more ∧ isDigit c = false ∧ isBlank c = false ∧ (upper c ≠ 'U' ∨ more = [])

/-- A token of a line that is no number and no free text starts so. -/
theorem foreignHead_of_mem {line : String} {t : Token} (ht : t ∈ lineTokens line)
    (hnumber : t.kind ≠ .number) (hfree : t.kind ≠ .joinText) : ForeignHead t.text.toList := by
  obtain ⟨htokens, hend⟩ := List.mem_filter.mp ht
  obtain ⟨cs, hcs, htext⟩ := Token.exists_of_mem_ofSegments htokens (by simpa using hend)
  have hsign : ∀ s : Sign, ForeignHead s.letters := by
    intro s
    cases s <;> exact ⟨_, _, rfl, rfl, rfl, .inl (by decide)⟩
  by_cases hunknown : t.kind = .unknown
  · rw [hunknown] at hcs
    obtain ⟨c, rfl, hdigit, hblank⟩ := Segment.exists_of_unknown hcs
    obtain ⟨hdigit, hblank⟩ := Text.upper_facts hdigit hblank
    rw [htext, hunknown]
    exact ⟨upper c, [], by simp [Token.spelling], hdigit, hblank, .inr rfl⟩
  · have hsound := sound_of_mem_lineTokens ht
    obtain ⟨s, -, hletters⟩ : ∃ s : Sign, s.kind = t.kind ∧ t.text.toList = s.letters := by
      obtain ⟨kind, text, offset⟩ := t
      cases kind with
      | number => exact absurd rfl hnumber
      | joinText => exact absurd rfl hfree
      | unknown => exact absurd rfl hunknown
      | endOfInput => exact hsound.elim
      | _ => exact hsound
    exact hletters ▸ hsign s

/-! ## The free text of `JOIN` -/

namespace Token

/-- Free text stands only after `JOIN`. -/
def FreeAfterJoin (t u : Token) : Prop :=
  u.kind = .joinText → t.kind = .join

/-- No free text stands at the head, and elsewhere only after `JOIN`. -/
structure FreePlaced (ts : List Token) : Prop where
  head : ∀ t ∈ ts.head?, t.kind ≠ .joinText
  chain : ts.IsChain FreeAfterJoin

theorem FreePlaced.cons {t : Token} {ts : List Token} (h : FreePlaced ts)
    (hkind : t.kind ≠ .joinText) : FreePlaced (t :: ts) where
  head u hu := by
    obtain rfl : t = u := Option.some.inj hu
    exact hkind
  chain := List.isChain_cons.mpr ⟨fun u hu hfree => absurd hfree (h.head u hu), h.chain⟩

theorem FreePlaced.of_cons {t : Token} {ts : List Token} (h : FreePlaced (t :: ts))
    (hkind : t.kind ≠ .join) : FreePlaced ts where
  head u hu hfree := hkind ((List.isChain_cons.mp h.chain).1 u hu hfree)
  chain := (List.isChain_cons.mp h.chain).2

/-- After words other than `JOIN` comes no free text. -/
theorem FreePlaced.of_leads {ws : List Word} {ts rest : List Token} (h : FreePlaced ts)
    (hleads : Leads ws ts rest) (hws : ∀ w ∈ ws, w.kind ≠ .join) : FreePlaced rest := by
  induction ws generalizing ts with
  | nil => exact leads_nil.mp hleads ▸ h
  | cons w ws ih =>
    obtain ⟨t, more, rfl, ht, hmore⟩ := hleads
    have hkind : t.kind ≠ .join := ht.kind ▸ hws w List.mem_cons_self
    exact ih (h.of_cons hkind) hmore fun v hv => hws v (List.mem_cons_of_mem w hv)

theorem freePlaced_atEnd (offset : Nat) : FreePlaced [atEnd offset] where
  head t ht := by
    obtain rfl : atEnd offset = t := Option.some.inj ht
    exact TokenKind.noConfusion
  chain := List.isChain_singleton _

/-- After `JOIN` there is the free text, or nothing. -/
theorem freePlaced_join {t : Token} (ht : t.kind = .join) (tail : List Char) (offset : Nat) :
    FreePlaced (t :: ofSegments offset (Segment.afterJoin tail)) := by
  have hkind : t.kind ≠ .joinText := by simp [ht]
  rw [ofSegments_afterJoin]
  split
  · exact (freePlaced_atEnd _).cons hkind
  · refine ⟨fun u hu => ?_, ?_⟩
    · obtain rfl : t = u := Option.some.inj hu
      exact hkind
    · refine List.isChain_cons_cons.mpr ⟨fun _ => ht, ?_⟩
      exact List.isChain_cons_cons.mpr ⟨nofun, List.isChain_singleton _⟩

theorem freePlaced_of_cut {cs : List Char} {segs : List Segment} (h : Segment.Cut cs segs)
    (offset : Nat) : FreePlaced (ofSegments offset segs) := by
  induction h generalizing offset with
  | nil => exact freePlaced_atEnd offset
  | join hhead tail => exact freePlaced_join rfl tail _
  | turn hhead tail =>
    rw [ofSegments, ofSegments_afterTurn]
    exact (freePlaced_atEnd _).cons TokenKind.noConfusion
  | letter _ _ hletter _ ih =>
    obtain ⟨s, rfl, -⟩ := Segment.exists_sign_of_letterKind? hletter
    exact (ih _).cons s.kind_ne_joinText
  | number _ _ _ _ ih => exact (ih _).cons TokenKind.noConfusion
  | blank _ _ ih => exact ih _
  | unknown _ _ _ _ _ _ ih => exact (ih _).cons TokenKind.noConfusion

end Token

/-- After words other than `JOIN` the next token of a line is no free
text. -/
theorem kind_ne_joinText_of_leads {line : String} {ws : List Word} {i : Nat}
    (hleads : Leads ws (lineTokens line) ((lineTokens line).drop i))
    (hws : ∀ w ∈ ws, w.kind ≠ .join) {t : Token} (ht : (lineTokens line)[i]? = some t) :
    t.kind ≠ .joinText := by
  obtain ⟨stop, htokens⟩ := exists_tokenize_eq line
  have hplaced : Token.FreePlaced (tokenize line) := Token.freePlaced_of_cut (Segment.cut_segments _) 0
  rw [htokens] at hplaced
  refine (hplaced.of_leads (hleads.append [Token.atEnd stop]) hws).head t ?_
  rw [List.head?_append, List.head?_drop, ht]
  rfl

/-! ## What is offered behind a spoiled amount -/

/-- The text is no number of 32 bits, and no digit behind it could make it
one: it is a number that is too large, or starts otherwise. -/
def NoAmount (cs : List Char) : Prop :=
  (cs ≠ [] ∧ (∀ c ∈ cs, isDigit c = true) ∧ word32? cs = none) ∨ ForeignHead cs

/-- A target of ships starts with a letter other than `R`. -/
theorem Destination.exists_letter (d : Destination) :
    ∃ c more, d.words.flatMap Word.chars = c :: more ∧ isDigit c = false ∧ isBlank c = false ∧
      upper c ≠ 'R' := by
  cases d with
  | industry | population | fleet => exact ⟨_, _, rfl, rfl, rfl, by decide⟩

/-- Text that is no amount, with a letter behind it, is cut into tokens the
first of which is no number of 32 bits. -/
theorem NoAmount.not_leads {cs : List Char} (h : NoAmount cs) {c : Char}
    (hletter : isDigit c = false) (rest : List Char) (offset : Nat) (n : UInt32)
    (more : List Token) :
    ¬ Leads [.number n] (Token.ofSegments offset (Segment.segments (cs ++ c :: rest))) more := by
  rintro ⟨t, us, htokens, ⟨hkind, hvalue⟩, -⟩
  rcases h with ⟨hne, hdigits, hlarge⟩ | ⟨d, ds, rfl, hdigit, hblank, -⟩
  · have hhead := Segment.noDigitHead_cons hletter rest
    rw [Segment.segments_digits hne hdigits hhead, Token.ofSegments] at htokens
    injection htokens with ht
    rw [← ht] at hvalue
    simp [Token.spelling, Text.map_upper_of_isDigit hdigits, hlarge] at hvalue
  · have hbare : ∀ e ∈ (d :: ds ++ c :: rest).head?, isBlank e = false := by
      intro e he
      obtain rfl := Option.some.inj he
      exact hblank
    obtain ⟨kind, text, segs, hsegments⟩ :=
      Segment.exists_lexeme_of_head (List.cons_ne_nil d (ds ++ c :: rest)) hbare
    have hhead := Segment.noDigitHead_cons hdigit (ds ++ c :: rest)
    rw [List.cons_append, hsegments, Token.ofSegments] at htokens
    injection htokens with ht
    rw [← ht] at hkind
    obtain rfl : kind = .number := hkind
    exact Segment.segments_ne_number hhead text segs hsegments

/-- Between a `T` and a target such a text does not make `TURN`. -/
theorem NoAmount.dropWord?_eq_none {cs : List Char} (h : NoAmount cs) {c : Char}
    (hletter : upper c ≠ 'R') (rest : List Char) :
    dropWord? ['U', 'R', 'N'] (cs ++ c :: rest) = none := by
  rcases h with ⟨hne, hdigits, -⟩ | ⟨d, ds, rfl, -, -, hd⟩
  · obtain ⟨d, ds, rfl⟩ := List.exists_cons_of_ne_nil hne
    have hd : upper 'U' ≠ upper d :=
      Segment.upper_ne_of_isDigit (hdigits d List.mem_cons_self) (by decide)
    exact Segment.dropWord?_of_ne hd _ _
  · rcases hd with hd | rfl
    · have hd : upper 'U' ≠ upper d := Ne.symm hd
      exact Segment.dropWord?_of_ne hd _ _
    · have hletter : upper 'R' ≠ upper c := Ne.symm hletter
      have hnext := Segment.dropWord?_of_ne hletter ['N'] rest
      rw [List.singleton_append, dropWord?, hnext]
      exact ite_self none

/-- The sign of an action is cut off alone where no word starts. -/
theorem Segment.segments_action {s : Sign} (hs : s = .build ∨ s = .transfer) {rest : List Char}
    (hrest : dropWord? ['U', 'R', 'N'] rest = none) :
    segments (s.letters ++ rest) = .lexeme s.kind s.letters :: segments rest := by
  rcases hs with rfl | rfl
  · exact segments_letter rfl rfl rfl
  · exact segments_letter rfl hrest rfl

namespace AmountHead

variable {vs : List Word} {base : List Char}

/-- The first three words of an order, spelled at the head of a text, are
its first three tokens. -/
theorem leads_ofSegments (h : AmountHead vs) (hbase : Spells vs base) {rest : List Char}
    (hrest : dropWord? ['U', 'R', 'N'] rest = none) (offset : Nat) :
    ∃ stop, Leads vs (Token.ofSegments offset (Segment.segments (base ++ rest)))
      (Token.ofSegments stop (Segment.segments rest)) := by
  obtain ⟨ws, s, rfl, hws, hs⟩ : ∃ ws s, vs = ws ++ [.sign s] ∧ Apart ws ∧
      (s = .build ∨ s = .transfer) := by
    rcases h with ⟨f, rfl⟩ | ⟨w, rfl⟩
    · exact ⟨_, _, rfl, .numbered (.inl rfl) f.number .nil, .inr rfl⟩
    · exact ⟨_, _, rfl, Apart.nil.hop w, .inl rfl⟩
  obtain ⟨cs, ds, rfl, hcs, _, _, rfl, rfl, rfl⟩ := hbase.exists_append
  obtain ⟨mid, hmid⟩ :=
    hws.leads_ofSegments_append hcs (Segment.noDigitHead_letters s rest) offset
  rw [Segment.segments_action hs hrest] at hmid
  rw [List.append_nil, List.append_assoc]
  exact ⟨_, leads_append.mpr ⟨_, hmid, _, _, rfl, rfl, rfl⟩⟩

theorem exists_letter (h : AmountHead vs) (hbase : Spells vs base) :
    ∃ c more, base = c :: more ∧ isBlank c = false := by
  rcases h with ⟨f, rfl⟩ | ⟨w, rfl⟩
  · obtain ⟨_, more, rfl, rfl, -⟩ := hbase
    exact ⟨_, _, rfl, rfl⟩
  · obtain ⟨_, more, rfl, rfl, -⟩ := hbase
    exact ⟨_, _, rfl, rfl⟩

end AmountHead

/-- A target behind text that is no amount: whatever is typed on, the line
is not accepted. -/
theorem not_finishable_of_noAmount {vs : List Word} {base cs : List Char} (hhead : AmountHead vs)
    (hbase : Spells vs base) (hcs : NoAmount cs) {d : Destination} {text : String}
    (htext : text.toList = base ++ (cs ++ d.words.flatMap Word.chars)) : ¬ Finishable text := by
  rintro ⟨more, c, herror, -, -⟩
  obtain ⟨first, others, hd, hdigit, hblank, hr⟩ := d.exists_letter
  obtain ⟨b, bs, hb, hbare⟩ := hhead.exists_letter hbase
  -- trimming the line leaves it alone up to the letter of the target
  have hends : Text.BareEnds (b :: (bs ++ cs) ++ [first]) :=
    Text.bareEnds_cons_append hbare (List.cons_ne_nil _ _)
      (Text.bareEnds_of_forall (by simpa using hblank))
  obtain ⟨rest, hrest⟩ :=
    Text.exists_trim_append (by simp) hends (others ++ more.toList)
  have hline : Text.trim (text ++ more).toList = base ++ (cs ++ first :: rest) := by
    have hchars : (text ++ more).toList =
        b :: (bs ++ cs) ++ [first] ++ (others ++ more.toList) := by
      simp [htext, hd, hb]
    rw [hchars, hrest, hb]
    simp
  obtain ⟨stop, hleads⟩ :=
    hhead.leads_ofSegments hbase (hcs.dropWord?_eq_none hr rest) 0
  rw [← hline] at hleads
  exact Reading.final_error_of_amount hhead hleads
    (fun n us => hcs.not_leads hdigit rest stop n us) herror

theorem AmountHead.kind_ne_join {vs : List Word} (h : AmountHead vs) :
    ∀ w ∈ vs, w.kind ≠ .join := by
  rcases h with ⟨f, rfl⟩ | ⟨w, rfl⟩ <;>
  simp [FleetId.words, WorldId.words, Word.kind, Sign.kind]

/-- What stands in the place of an amount, and is none, is repeated as text
that is no amount. -/
theorem noAmount_of_spoiled {line : String} {vs : List Word} (hhead : AmountHead vs)
    (hleads : Leads vs (lineTokens line) ((lineTokens line).drop 3)) {t : Token}
    (ht : (lineTokens line)[3]? = some t) (hspoiled : ∀ n, ¬ (Word.number n).Fits t) :
    NoAmount (Typed.canonical t).toList := by
  have hmem : t ∈ lineTokens line := List.mem_of_getElem? ht
  have hfree := kind_ne_joinText_of_leads hleads hhead.kind_ne_join ht
  rw [Typed.canonical, if_neg hfree]
  by_cases hkind : t.kind = .number
  · obtain ⟨hne, hdigits⟩ := (sound_of_mem_lineTokens hmem).digits hkind
    refine .inl ⟨hne, hdigits, ?_⟩
    rw [Option.eq_none_iff_forall_ne_some]
    exact fun n hn => hspoiled n ⟨hkind, hn⟩
  · exact .inr (foreignHead_of_mem hmem hkind hfree)

/-- Text that is no amount starts no numeral of 32 bits. -/
theorem NoAmount.not_isPrefix {cs : List Char} (h : NoAmount cs) (n : UInt32) :
    ¬ cs <+: digits n.toNat := by
  intro hpre
  rcases h with ⟨hne, -, hlarge⟩ | ⟨c, ds, rfl, hdigit, -⟩
  · obtain ⟨m, hm⟩ := Text.exists_word32?_of_isPrefix hpre hne
    rw [hlarge] at hm
    cases hm
  · obtain ⟨more, hmore⟩ := hpre
    have hc : isDigit c = true :=
      Text.isDigit_of_mem_digits n.toNat c (hmore ▸ by simp)
    rw [hdigit] at hc
    cases hc

theorem Typed.toList_upTo_succ {t : Typed} {i : Nat} {u : Token} (hu : t.tokens[i]? = some u) :
    (t.upTo (i + 1)).toList = (t.upTo i).toList ++ (canonical u).toList := by
  rw [toList_upTo, toList_upTo, List.take_add_one, hu, List.flatMap_append]
  simp

theorem Typed.toList_upTo_isPrefix (t : Typed) (i : Nat) :
    (t.upTo i).toList <+: t.text.toList := by
  rw [toList_upTo, toList_text]
  exact List.IsPrefix.flatMap (List.take_prefix i t.tokens) _

/-- What is offered behind a spoiled amount cannot be finished: amounts are
not offered there, and a target comes too late. -/
theorem AmountOffer.not_finishable {line : String} {x : Suggestion} {vs : List Word}
    (h : AmountOffer ⟨lineTokens line⟩ x) (hhead : AmountHead vs)
    (hleads : Leads vs (lineTokens line) ((lineTokens line).drop 3)) {t : Token}
    (ht : (lineTokens line)[3]? = some t) (hspoiled : ∀ n, ¬ (Word.number n).Fits t) :
    ¬ Finishable x.text := by
  have hno := noAmount_of_spoiled hhead hleads ht hspoiled
  have hfour := Typed.toList_upTo_succ (t := ⟨lineTokens line⟩) ht
  cases h with
  | target d hadds =>
    have hbase := hleads.spells_upTo fun _ => sound_of_mem_lineTokens
    rw [hhead.length_eq] at hbase
    refine not_finishable_of_noAmount hhead hbase hno (d := d) ?_
    rw [show x.text.toList = _ from hadds, hfour, List.append_assoc]
  | amount n hadds hextends =>
    -- an amount that goes on from the line goes on from its fourth token
    have hwhole : (Typed.mk (lineTokens line)).text.toList <+: x.text.toList := by
      simpa [Text.isHeadOf] using hextends
    have hfourth := (Typed.toList_upTo_isPrefix ⟨lineTokens line⟩ 4).trans hwhole
    rw [show x.text.toList = _ from hadds, hfour, List.prefix_append_right_inj] at hfourth
    exact absurd (by simpa [Word.chars] using hfourth) (hno.not_isPrefix n)

/-! ## Which suggestions can be finished -/

/-- The amount of a complete order is not spoiled. -/
theorem not_amountSpoiled_of_command {line : String} {c : Command}
    (h : (Reading.live line).command = some c) (hcomplete : c.isComplete = true) :
    ¬ AmountSpoiled line := by
  rintro ⟨htakes, t, ht, hspoiled⟩
  rw [Reading.stage_of_command h] at htakes
  obtain ⟨rest, horder⟩ := Reading.live_command_eq_some_iff.mp h
  obtain ⟨hleads, -⟩ := Reading.order_eq_ok_iff.mp horder
  obtain ⟨stop, htokens⟩ := exists_tokenize_eq line
  have hfour : (tokenize line)[3]? = some t := by
    have hlt := (List.getElem?_eq_some_iff.mp ht).1
    rw [htokens, List.getElem?_append_left hlt, ht]
  cases c with
  | transfer f n d =>
    obtain ⟨_, _, htake, -, _, _, rfl, -, _, _, rfl, -, u, _, rfl, hu, -⟩ := hleads
    rw [htake] at hfour
    exact hspoiled n (Option.some.inj hfour ▸ hu)
  | build w n d =>
    obtain ⟨_, _, htake, -, _, _, rfl, -, _, _, rfl, -, u, _, rfl, hu, -⟩ := hleads
    rw [htake] at hfour
    exact hspoiled n (Option.some.inj hfour ▸ hu)
  | partialTransfer | partialBuild => cases hcomplete
  | ambush f =>
    generalize (Reading.live line).consumedAll = consumedAll at htakes
    cases consumedAll <;> exact htakes.elim
  | _ => exact htakes.elim

/-- A submission is finished already. -/
theorem finishable_wire {s : Snapshot} {line : String} {sub : Submission}
    (h : s.check line = .ok sub) : Finishable sub.wire := by
  obtain ⟨hcommand, hwire⟩ := check_ok_facts h
  obtain ⟨herror, -, hread⟩ :=
    Reading.final_wire hwire (Reading.wellFormed_of_live_command hcommand)
  refine ⟨"", sub.command, ?_⟩
  rw [String.append_empty]
  exact ⟨herror, hread, Command.isComplete_of_wire? hwire⟩

namespace Snapshot

/-- A suggestion can be finished unless it repeats a spoiled amount, and
then it cannot. -/
theorem finishable_iff (s : Snapshot) (limit : Nat) (line : String) {x : Suggestion}
    (hx : x ∈ (s.analyze limit line).suggestions) :
    Finishable x.text ↔ ¬ AmountSpoiled line := by
  rcases mem_suggestions hx with ⟨sub, hsub, htext⟩ | ⟨y, hy, htext⟩
  · obtain ⟨hcommand, hwire⟩ := check_ok_facts hsub
    have hcomplete := Command.isComplete_of_wire? hwire
    rw [htext]
    exact iff_of_true (finishable_wire hsub) (not_amountSpoiled_of_command hcommand hcomplete)
  · rw [htext]
    by_cases htakes : (Reading.live line).stage.TakesAmount
    · obtain ⟨⟨vs, hhead, hleads⟩, hoffer⟩ := amountOffer_of_mem_staged htakes hy
      constructor
      · rintro hfinish ⟨-, t, ht, hspoiled⟩
        exact hoffer.not_finishable hhead hleads ht hspoiled hfinish
      · intro hsound
        refine hoffer.finishable hhead hleads (fun _ => sound_of_mem_lineTokens) fun t ht => ?_
        by_contra hnone
        exact hsound ⟨htakes, t, ht, fun n hn => hnone ⟨n, hn⟩⟩
    · exact iff_of_true (finishable_of_mem_staged htakes hy) fun h => htakes h.1

/-- On the demonstration map, behind an amount with a leading zero. -/
theorem finishable_demo :
    ∃ x ∈ (demo.analyze 10 "f1 t05").suggestions, x.text = "F1T05I" ∧ Finishable x.text := by
  have hoffered : ∃ x ∈ (demo.analyze 10 "f1 t05").suggestions, x.text = "F1T05I" := by
    decide +kernel
  obtain ⟨x, hx, htext⟩ := hoffered
  refine ⟨x, hx, htext, (finishable_iff demo 10 "f1 t05" hx).mpr ?_⟩
  rintro ⟨-, t, ht, hspoiled⟩
  have hfourth : (lineTokens "f1 t05")[3]? = some ⟨.number, "05", 4⟩ := by decide +kernel
  obtain rfl := Option.some.inj (hfourth.symm.trans ht)
  exact hspoiled 5 ⟨rfl, by decide⟩

/-- On the demonstration map a target is offered behind an amount that is
no number. -/
theorem not_finishable_demo :
    ∃ x ∈ (demo.analyze 10 "F1TX").suggestions, ¬ Finishable x.text := by
  have hoffered : ∃ x ∈ (demo.analyze 10 "F1TX").suggestions, x.text = "F1TXI" := by
    decide +kernel
  obtain ⟨x, hx, htext⟩ := hoffered
  refine ⟨x, hx, ?_⟩
  have hbase := spells_chars ((FleetId.mk 1).words ++ [.sign .transfer])
  have hforeign : NoAmount ['X'] := .inr ⟨'X', [], rfl, rfl, rfl, .inr rfl⟩
  rw [htext]
  exact not_finishable_of_noAmount (d := .industry) (.inl ⟨⟨1⟩, rfl⟩) hbase hforeign
    (by decide +kernel)

end Snapshot

end FleetOrders
