/-
FleetOrders.Proofs.Sentences — the readers accept exactly the sentences of
the grammar table.

The table of `Command.Grammar` is data, and reading does not use it. Here
it is given a meaning of its own: `Derives` says which kinds of token in a
row are an instance of an element, and a sentence of a production is an
instance of all its elements in order.

* `sentence_of_command` — the kinds of a command's words are a sentence of
  its production.
* `exists_command_of_sentence` — tokens whose kinds are a sentence, and
  whose numbers are of 32 bits, are the words of a command.

`final_accepts_sentences` puts the two together. Since a list of tokens is
read in one way, no sentence belongs to two kinds of command.
-/
import FleetOrders.Command.Grammar
import FleetOrders.Proofs.Readings

namespace FleetOrders

namespace Grammar

/-! ## What the table means -/

mutual

/-- The kinds of token are an instance of the element. -/
inductive Derives : Element → List TokenKind → Prop where
  | token (kind : TokenKind) : Derives (.token kind) [kind]
  | once {sequence : List Element} {ks : List TokenKind} :
      DerivesAll sequence ks → Derives (.repeated sequence) ks
  | again {sequence : List Element} {ks ls : List TokenKind} :
      DerivesAll sequence ks → Derives (.repeated sequence) ls →
        Derives (.repeated sequence) (ks ++ ls)
  | oneOf {options : List (List Element)} {sequence : List Element} {ks : List TokenKind} :
      sequence ∈ options → DerivesAll sequence ks → Derives (.oneOf options) ks

/-- The kinds of token are instances of the elements in a row. -/
inductive DerivesAll : List Element → List TokenKind → Prop where
  | nil : DerivesAll [] []
  | cons {e : Element} {es : List Element} {ks ls : List TokenKind} :
      Derives e ks → DerivesAll es ls → DerivesAll (e :: es) (ks ++ ls)

end

/-- The kinds of token are a sentence of the production. -/
def Production.IsSentence (p : Production) (ks : List TokenKind) : Prop :=
  DerivesAll p.elements ks

theorem DerivesAll.token {es : List Element} {ks : List TokenKind} (kind : TokenKind)
    (h : DerivesAll es ks) : DerivesAll (.token kind :: es) (kind :: ks) :=
  .cons (.token kind) h

theorem DerivesAll.one {e : Element} {ks : List TokenKind} (h : Derives e ks) :
    DerivesAll [e] ks := by
  simpa using DerivesAll.cons h .nil

theorem derivesAll_nil_iff {ks : List TokenKind} : DerivesAll [] ks ↔ ks = [] := by
  constructor
  · intro h
    cases h
    rfl
  · rintro rfl
    exact .nil

theorem derivesAll_one_iff {e : Element} {ks : List TokenKind} :
    DerivesAll [e] ks ↔ Derives e ks := by
  refine ⟨fun h => ?_, .one⟩
  cases h with
  | cons he hes =>
    rw [derivesAll_nil_iff.mp hes, List.append_nil]
    exact he

theorem derivesAll_token_iff {kind : TokenKind} {es : List Element} {ks : List TokenKind} :
    DerivesAll (.token kind :: es) ks ↔ ∃ ls, ks = kind :: ls ∧ DerivesAll es ls := by
  constructor
  · intro h
    cases h with
    | cons he hes =>
      cases he
      exact ⟨_, rfl, hes⟩
  · rintro ⟨ls, rfl, h⟩
    exact h.token kind

theorem derives_oneOf_iff {options : List (List Element)} {ks : List TokenKind} :
    Derives (.oneOf options) ks ↔ ∃ sequence ∈ options, DerivesAll sequence ks := by
  constructor
  · intro h
    cases h with
    | oneOf hmem hks => exact ⟨_, hmem, hks⟩
  · intro h
    obtain ⟨sequence, hmem, hks⟩ := h
    exact .oneOf hmem hks

/-! ## From commands to sentences -/

/-- One hop of a path. -/
def hop : List Element :=
  [.token .worldMark, .token .number]

theorem derives_hops (w : WorldId) (path : List WorldId) :
    Derives (.repeated hop) (((w :: path).flatMap WorldId.words).map Word.kind) := by
  have hhop : ∀ v : WorldId, DerivesAll hop (v.words.map Word.kind) :=
    fun v => (DerivesAll.nil.token .number).token .worldMark
  induction path generalizing w with
  | nil => exact .once (hhop w)
  | cons v path ih => exact .again (hhop w) (ih v)

theorem derives_shipTarget (d : Destination) :
    Derives shipTarget (d.words.map Word.kind) := by
  cases d with
  | industry => exact .oneOf (.head _) (.one (.token _))
  | population => exact .oneOf (.tail _ (.head _)) (.one (.token _))
  | fleet id => exact .oneOf (.tail _ (.tail _ (.head _))) ((DerivesAll.nil.token _).token _)

/-- The kinds of the words of a complete command are a sentence of its
production. -/
theorem sentence_of_command {c : Command} (hcomplete : c.isComplete = true)
    (hstop : c.StopsBefore .endOfInput) :
    ∃ p, production? c.kind = some p ∧ p.IsSentence (c.words.map Word.kind) := by
  cases c with
  | move f path =>
    obtain ⟨w, path, rfl⟩ := List.exists_cons_of_ne_nil hstop.1
    exact ⟨_, rfl, ((DerivesAll.one (derives_hops w path)).token _).token _⟩
  | build w n d =>
    exact ⟨_, rfl, ((((DerivesAll.one (derives_shipTarget d)).token _).token _).token _).token _⟩
  | transfer f n d =>
    exact ⟨_, rfl, ((((DerivesAll.one (derives_shipTarget d)).token _).token _).token _).token _⟩
  | fireAtWorld f r =>
    have htarget : DerivesAll [.oneOf [[.token .population], [.token .industry]]]
        (r.words.map Word.kind) := by
      cases r with
      | population => exact .one (.oneOf (.head _) (.one (.token _)))
      | industry => exact .one (.oneOf (.tail _ (.head _)) (.one (.token _)))
    exact ⟨_, rfl, ((htarget.token _).token _).token _⟩
  | fireAtFleet f g =>
    exact ⟨_, rfl, ((((DerivesAll.nil.token _).token _).token _).token _).token _⟩
  | ambush f => exact ⟨_, rfl, ((DerivesAll.nil.token _).token _).token _⟩
  | join text => exact ⟨_, rfl, (DerivesAll.nil.token _).token _⟩
  | turn => exact ⟨_, rfl, DerivesAll.nil.token _⟩
  | _ => cases hcomplete

/-! ## From sentences to commands -/

/-- Every number among the tokens is of 32 bits. -/
def Fitting (ts : List Token) : Prop :=
  ∀ t ∈ ts, t.kind = .number → ∃ n, Text.word32? t.text.toList = some n

theorem Fitting.of_leads {ws : List Word} {ts rest : List Token} (hfit : Fitting ts)
    (h : Leads ws ts rest) : Fitting rest := by
  induction ws generalizing ts with
  | nil => exact leads_nil.mp h ▸ hfit
  | cons w ws ih =>
    obtain ⟨t, more, rfl, -, hws⟩ := h
    exact ih (fun u hu => hfit u (List.mem_cons_of_mem t hu)) hws

theorem exists_sign {s : Sign} {es : List Element} {ts : List Token}
    (h : DerivesAll (.token s.kind :: es) (ts.map Token.kind)) :
    ∃ us, Leads [.sign s] ts us ∧ DerivesAll es (us.map Token.kind) := by
  obtain ⟨ls, hmap, hes⟩ := derivesAll_token_iff.mp h
  obtain ⟨t, us, rfl, ht, rfl⟩ := List.map_eq_cons_iff.mp hmap
  exact ⟨us, ⟨t, us, rfl, ht, rfl⟩, hes⟩

theorem exists_number {es : List Element} {ts : List Token} (hfit : Fitting ts)
    (h : DerivesAll (.token .number :: es) (ts.map Token.kind)) :
    ∃ n us, Leads [.number n] ts us ∧ DerivesAll es (us.map Token.kind) := by
  obtain ⟨ls, hmap, hes⟩ := derivesAll_token_iff.mp h
  obtain ⟨t, us, rfl, ht, rfl⟩ := List.map_eq_cons_iff.mp hmap
  obtain ⟨n, hn⟩ := hfit t List.mem_cons_self ht
  exact ⟨n, us, ⟨t, us, rfl, ⟨ht, hn⟩, rfl⟩, hes⟩

/-- A sign with a number after it: the beginning of most orders. -/
theorem exists_numbered {s : Sign} {es : List Element} {ts : List Token} (hfit : Fitting ts)
    (h : DerivesAll (.token s.kind :: .token .number :: es) (ts.map Token.kind)) :
    ∃ n us, Leads [.sign s, .number n] ts us ∧ Fitting us ∧
      DerivesAll es (us.map Token.kind) := by
  obtain ⟨mid, hsign, hmid⟩ := exists_sign h
  obtain ⟨n, us, hnumber, hus⟩ := exists_number (hfit.of_leads hsign) hmid
  have hboth : Leads [.sign s, .number n] ts us := leads_append.mpr ⟨mid, hsign, hnumber⟩
  exact ⟨n, us, hboth, hfit.of_leads hboth, hus⟩

theorem leads_of_derives_nil {ts : List Token} (h : DerivesAll [] (ts.map Token.kind)) : ts = [] :=
  List.map_eq_nil_iff.mp (derivesAll_nil_iff.mp h)

/-- The first hop of a sentence, taken off the tokens. -/
theorem exists_hop {ks ls : List TokenKind} (h : DerivesAll hop ks) {ts : List Token}
    (hts : ts.map Token.kind = ks ++ ls) (hfit : Fitting ts) :
    ∃ w us, Leads (WorldId.words w) ts us ∧ us.map Token.kind = ls := by
  obtain ⟨afterMark, hmark, hmore⟩ := derivesAll_token_iff.mp h
  obtain ⟨afterNumber, hnumber, hnil⟩ := derivesAll_token_iff.mp hmore
  rw [hmark, hnumber, derivesAll_nil_iff.mp hnil] at hts
  obtain ⟨mark, us, rfl, hmarkKind, hus⟩ := List.map_eq_cons_iff.mp hts
  obtain ⟨digits, vs, rfl, hdigitsKind, hvs⟩ := List.map_eq_cons_iff.mp hus
  obtain ⟨n, hn⟩ := hfit digits (by simp) hdigitsKind
  exact ⟨⟨n⟩, vs, ⟨mark, _, rfl, hmarkKind, digits, vs, rfl, ⟨hdigitsKind, hn⟩, rfl⟩, hvs⟩

/-- Repeated hops are a path of at least one world. -/
theorem exists_path {e : Element} {ks : List TokenKind} (h : Derives e ks)
    (he : e = .repeated hop) {ts : List Token} (hts : ts.map Token.kind = ks)
    (hfit : Fitting ts) :
    ∃ path, path ≠ [] ∧ Leads (path.flatMap WorldId.words) ts [] :=
  match h with
  | .token _ => Element.noConfusion he
  | .oneOf _ _ => Element.noConfusion he
  | .once hks => by
    rw [← List.append_nil ks] at hts
    obtain ⟨w, us, hw, hus⟩ := exists_hop (Element.repeated.inj he ▸ hks) hts hfit
    obtain rfl := List.map_eq_nil_iff.mp hus
    exact ⟨[w], List.cons_ne_nil w [], by simpa using hw⟩
  | .again hks hls => by
    obtain ⟨w, us, hw, hus⟩ := exists_hop (Element.repeated.inj he ▸ hks) hts hfit
    obtain ⟨path, -, hpath⟩ := exists_path hls he hus (hfit.of_leads hw)
    exact ⟨w :: path, List.cons_ne_nil w path, leads_append.mpr ⟨us, hw, hpath⟩⟩

theorem exists_destination {ts : List Token} (hfit : Fitting ts)
    (h : DerivesAll [shipTarget] (ts.map Token.kind)) :
    ∃ d, Leads (Destination.words d) ts [] := by
  obtain ⟨sequence, hmem, h⟩ := derives_oneOf_iff.mp (derivesAll_one_iff.mp h)
  simp only [List.mem_cons, List.not_mem_nil, or_false] at hmem
  rcases hmem with rfl | rfl | rfl
  · obtain ⟨us, hsign, hus⟩ := exists_sign (s := .industry) h
    exact ⟨.industry, leads_of_derives_nil hus ▸ hsign⟩
  · obtain ⟨us, hsign, hus⟩ := exists_sign (s := .population) h
    exact ⟨.population, leads_of_derives_nil hus ▸ hsign⟩
  · obtain ⟨n, us, hfleet, -, hus⟩ := exists_numbered (s := .fleetMark) hfit h
    exact ⟨.fleet ⟨n⟩, leads_of_derives_nil hus ▸ hfleet⟩

theorem exists_resource {ts : List Token}
    (h : DerivesAll [.oneOf [[.token .population], [.token .industry]]] (ts.map Token.kind)) :
    ∃ r, Leads (Resource.words r) ts [] := by
  obtain ⟨sequence, hmem, h⟩ := derives_oneOf_iff.mp (derivesAll_one_iff.mp h)
  simp only [List.mem_cons, List.not_mem_nil, or_false] at hmem
  rcases hmem with rfl | rfl
  · obtain ⟨us, hsign, hus⟩ := exists_sign (s := .population) h
    exact ⟨.population, leads_of_derives_nil hus ▸ hsign⟩
  · obtain ⟨us, hsign, hus⟩ := exists_sign (s := .industry) h
    exact ⟨.industry, leads_of_derives_nil hus ▸ hsign⟩

/-- Tokens whose kinds are a sentence are the words of a command of that
kind. -/
theorem exists_command_of_sentence {p : Production} (hp : p ∈ productions) {ts : List Token}
    (hfit : Fitting ts) (h : p.IsSentence (ts.map Token.kind)) :
    ∃ c : Command, c.kind = p.kind ∧ c.StopsBefore .endOfInput ∧ Leads c.words ts [] := by
  have hopens : ¬ Reading.OpensTarget .endOfInput := by decide
  simp only [productions, List.mem_cons, List.not_mem_nil, or_false] at hp
  rcases hp with rfl | rfl | rfl | rfl | rfl | rfl | rfl | rfl
  · obtain ⟨f, us, hf, hfit, h⟩ := exists_numbered (s := .fleetMark) hfit h
    obtain ⟨path, hne, hpath⟩ := exists_path (derivesAll_one_iff.mp h) rfl rfl hfit
    exact ⟨.move ⟨f⟩ path, rfl, ⟨hne, TokenKind.noConfusion⟩, leads_append.mpr ⟨us, hf, hpath⟩⟩
  · obtain ⟨w, us, hw, hfit, h⟩ := exists_numbered (s := .worldMark) hfit h
    obtain ⟨n, vs, hn, hfit, h⟩ := exists_numbered (s := .build) hfit h
    obtain ⟨d, hd⟩ := exists_destination hfit h
    have hhead := leads_append.mpr ⟨us, hw, hn⟩
    exact ⟨.build ⟨w⟩ n d, rfl, trivial, leads_append.mpr ⟨vs, hhead, hd⟩⟩
  · obtain ⟨f, us, hf, hfit, h⟩ := exists_numbered (s := .fleetMark) hfit h
    obtain ⟨n, vs, hn, hfit, h⟩ := exists_numbered (s := .transfer) hfit h
    obtain ⟨d, hd⟩ := exists_destination hfit h
    have hhead := leads_append.mpr ⟨us, hf, hn⟩
    exact ⟨.transfer ⟨f⟩ n d, rfl, trivial, leads_append.mpr ⟨vs, hhead, hd⟩⟩
  · obtain ⟨f, us, hf, -, h⟩ := exists_numbered (s := .fleetMark) hfit h
    obtain ⟨vs, hattack, h⟩ := exists_sign (s := .attack) h
    obtain ⟨r, hr⟩ := exists_resource h
    have hhead := leads_append.mpr ⟨us, hf, hattack⟩
    exact ⟨.fireAtWorld ⟨f⟩ r, rfl, trivial, leads_append.mpr ⟨vs, hhead, hr⟩⟩
  · obtain ⟨f, us, hf, hfit, h⟩ := exists_numbered (s := .fleetMark) hfit h
    obtain ⟨vs, hattack, h⟩ := exists_sign (s := .attack) h
    obtain ⟨g, xs, hg, -, h⟩ := exists_numbered (s := .fleetMark) (hfit.of_leads hattack) h
    have hhead := leads_append.mpr ⟨us, hf, hattack⟩
    have htarget := leads_append.mpr ⟨vs, hhead, hg⟩
    exact ⟨.fireAtFleet ⟨f⟩ ⟨g⟩, rfl, trivial, leads_of_derives_nil h ▸ htarget⟩
  · obtain ⟨f, us, hf, -, h⟩ := exists_numbered (s := .fleetMark) hfit h
    obtain ⟨vs, hattack, h⟩ := exists_sign (s := .attack) h
    have hhead := leads_append.mpr ⟨us, hf, hattack⟩
    exact ⟨.ambush ⟨f⟩, rfl, hopens, leads_of_derives_nil h ▸ hhead⟩
  · obtain ⟨us, hjoin, h⟩ := exists_sign (s := .join) h
    obtain ⟨ls, hmap, h⟩ := derivesAll_token_iff.mp h
    obtain ⟨t, vs, rfl, ht, rfl⟩ := List.map_eq_cons_iff.mp hmap
    obtain rfl := leads_of_derives_nil h
    have hfree : Leads [.free t.text] [t] [] := ⟨t, [], rfl, ⟨ht, rfl⟩, rfl⟩
    exact ⟨.join t.text, rfl, trivial, leads_append.mpr ⟨[t], hjoin, hfree⟩⟩
  · obtain ⟨us, hturn, h⟩ := exists_sign (s := .turn) h
    exact ⟨.turn, rfl, trivial, leads_of_derives_nil h ▸ hturn⟩

/-! ## One reading for each sentence -/

/-- Tokens of the kinds, each with a zero for its text. -/
def zeros (ks : List TokenKind) : List Token :=
  ks.map fun k => ⟨k, "0", 0⟩

theorem map_kind_zeros (ks : List TokenKind) : (zeros ks).map Token.kind = ks := by
  simp [zeros, Function.comp_def]

theorem fitting_zeros (ks : List TokenKind) : Fitting (zeros ks) := by
  intro t ht _
  obtain ⟨k, -, rfl⟩ := List.mem_map.mp ht
  exact ⟨0, show Text.word32? "0".toList = some 0 by decide⟩

/-- No tokens are sentences of two productions: they would be read as two
commands. -/
theorem kind_eq_of_sentences {p q : Production} (hp : p ∈ productions) (hq : q ∈ productions)
    {ks : List TokenKind} (hpks : p.IsSentence ks) (hqks : q.IsSentence ks) :
    p.kind = q.kind := by
  -- any tokens of these kinds will do; with a zero as text, their numbers fit
  let ts := zeros ks
  have hkinds : ts.map Token.kind = ks := map_kind_zeros ks
  have hfit : Fitting ts := fitting_zeros ks
  obtain ⟨c, hc, hcstop, hcleads⟩ := exists_command_of_sentence hp hfit (hkinds ▸ hpks)
  obtain ⟨d, hd, hdstop, hdleads⟩ := exists_command_of_sentence hq hfit (hkinds ▸ hqks)
  have hreadc : Reading.order ts = .ok (some c, []) :=
    Reading.order_eq_ok_iff.mpr ⟨hcleads, hcstop⟩
  have hreadd : Reading.order ts = .ok (some d, []) :=
    Reading.order_eq_ok_iff.mpr ⟨hdleads, hdstop⟩
  have hsame : c = d := by
    rw [hreadc] at hreadd
    injection hreadd with h
    injection h with h
    injection h
  rw [← hc, ← hd, hsame]

theorem mem_of_production? {k : CommandKind} {p : Production} (h : production? k = some p) :
    p ∈ productions ∧ p.kind = k := by
  refine ⟨List.mem_of_find?_eq_some h, ?_⟩
  simpa using List.find?_some h

/-- The table has a production for the complete commands and no others. -/
theorem isSome_production? (c : Command) : (production? c.kind).isSome = c.isComplete := by
  cases c <;> rfl

end Grammar

/-! ## The numbers of a command -/

def Destination.numbers : Destination → List UInt32
  | .industry | .population => []
  | .fleet id => [id.number]

/-- The ids and amounts of a command, in the order in which they are
written. -/
def Command.numbers : Command → List UInt32
  | .move fleet path => fleet.number :: path.map WorldId.number
  | .build world amount goal => world.number :: amount :: goal.numbers
  | .transfer fleet amount goal => fleet.number :: amount :: goal.numbers
  | .fireAtWorld fleet _ => [fleet.number]
  | .fireAtFleet fleet target => [fleet.number, target.number]
  | .ambush fleet => [fleet.number]
  | .join _ | .turn | .partialJoin => []
  | .partialFleet fleet => [fleet.number]
  | .partialWorld world => [world.number]
  | .partialTransfer fleet amount => [fleet.number, amount]
  | .partialBuild world amount => [world.number, amount]

theorem Destination.filterMap_words (d : Destination) :
    d.words.filterMap Word.number? = d.numbers := by
  cases d <;> rfl

theorem Command.filterMap_words (c : Command) : c.words.filterMap Word.number? = c.numbers := by
  cases c with
  | move f path =>
    have hpath : ∀ p : List WorldId,
        (p.flatMap WorldId.words).filterMap Word.number? = p.map WorldId.number := by
      intro p
      induction p with
      | nil => rfl
      | cons w p ih => rw [List.flatMap_cons, List.filterMap_append, ih]; rfl
    rw [words, List.filterMap_append, hpath]
    rfl
  | build w n d =>
    rw [words, List.filterMap_append, d.filterMap_words]
    rfl
  | transfer f n d =>
    rw [words, List.filterMap_append, d.filterMap_words]
    rfl
  | fireAtWorld f r => cases r <;> rfl
  | _ => rfl

/-- The numbers on a line, left to right. -/
def lineNumbers (line : String) : List Nat :=
  (lineTokens line).filterMap Token.number?

/-- The digits on a line are of 32 bits when their values are. -/
theorem fitting_lineTokens {line : String} (h : ∀ n ∈ lineNumbers line, n ≤ 4294967295) :
    Grammar.Fitting (lineTokens line) := by
  intro t ht hkind
  obtain ⟨hne, hdigits⟩ := (sound_of_mem_lineTokens ht).digits hkind
  have hvalue : t.number? = some (Text.numeral t.text.toList) := if_pos hkind
  have hbound := h _ (List.mem_filterMap.mpr ⟨t, ht, hvalue⟩)
  exact (Text.isSome_word32?_iff hne hdigits).mpr hbound

/-! ## The readers and the table -/

/-- The kinds of command that may be sent. -/
def CommandKind.IsComplete (k : CommandKind) : Prop :=
  ∃ c : Command, c.kind = k ∧ c.isComplete = true

namespace Reading

open Grammar (production?)

/-- The numbers of the command that a line is accepted as. -/
theorem numbers_of_leads {line : String} {c : Command} (h : Leads c.words (lineTokens line) []) :
    c.numbers.map UInt32.toNat = lineNumbers line := by
  rw [lineNumbers, h.numbers, c.filterMap_words, List.filterMap_nil, List.append_nil]

/-- A line is accepted as a command of a kind exactly when the kinds of its
tokens are a sentence of the production and its numbers fit into 32 bits. -/
theorem accepts_kind_iff {line : String} {k : CommandKind} {p : Grammar.Production}
    (hp : production? k = some p) :
    ((final line).error = none ∧ ∃ c, (final line).command = some c ∧ c.kind = k) ↔
      p.IsSentence ((lineTokens line).map Token.kind) ∧
        ∀ n ∈ lineNumbers line, n ≤ 4294967295 := by
  constructor
  · intro h
    obtain ⟨herror, c, hcommand, rfl⟩ := h
    obtain ⟨hleads, hstop⟩ := final_accepts_iff_lineTokens.mp ⟨herror, hcommand⟩
    have hcomplete : c.isComplete = true := by
      rw [← Grammar.isSome_production?, hp]
      rfl
    obtain ⟨q, hq, hsentence⟩ := Grammar.sentence_of_command hcomplete hstop
    obtain rfl : q = p := Option.some.inj (hq.symm.trans hp)
    rw [hleads.map_kind, List.map_nil, List.append_nil]
    refine ⟨hsentence, fun n hn => ?_⟩
    rw [← numbers_of_leads hleads] at hn
    obtain ⟨m, -, rfl⟩ := List.mem_map.mp hn
    exact Nat.le_of_lt_succ m.toNat_lt_size
  · rintro ⟨hsentence, hbound⟩
    obtain ⟨hmem, hkind⟩ := Grammar.mem_of_production? hp
    obtain ⟨c, hc, hstop, hleads⟩ :=
      Grammar.exists_command_of_sentence hmem (fitting_lineTokens hbound) hsentence
    obtain ⟨herror, hcommand⟩ := final_accepts_iff_lineTokens.mpr ⟨hleads, hstop⟩
    exact ⟨herror, c, hcommand, hc.trans hkind⟩

/-- For each kind of complete command: a line is accepted for sending as
such a command exactly when the kinds of its tokens are a sentence of the
production and its numbers fit into 32 bits. The numbers of the command are
then those of the line, in order. No tokens are sentences of productions of
two kinds. -/
theorem final_accepts_sentences :
    (∀ (line : String) (k : CommandKind), k.IsComplete → ∃ p, production? k = some p ∧
      (((final line).error = none ∧ ∃ c, (final line).command = some c ∧ c.kind = k) ↔
        p.IsSentence ((lineTokens line).map Token.kind) ∧
          ∀ n ∈ lineNumbers line, n ≤ 4294967295)) ∧
    (∀ (line : String) (c : Command), (final line).error = none →
      (final line).command = some c → c.numbers.map UInt32.toNat = lineNumbers line) ∧
    (∀ (k l : CommandKind) (p q : Grammar.Production), production? k = some p →
      production? l = some q → ∀ ks, p.IsSentence ks → q.IsSentence ks → k = l) := by
  refine ⟨?_, ?_, ?_⟩
  · rintro line _ ⟨c, rfl, hcomplete⟩
    rw [← Grammar.isSome_production?] at hcomplete
    obtain ⟨p, hp⟩ := Option.isSome_iff_exists.mp hcomplete
    exact ⟨p, hp, accepts_kind_iff hp⟩
  · intro line c herror hcommand
    exact numbers_of_leads (final_accepts_iff_lineTokens.mp ⟨herror, hcommand⟩).1
  · intro k l p q hp hq ks hpks hqks
    obtain ⟨hpmem, rfl⟩ := Grammar.mem_of_production? hp
    obtain ⟨hqmem, rfl⟩ := Grammar.mem_of_production? hq
    exact Grammar.kind_eq_of_sentences hpmem hqmem hpks hqks

/-- A path with a leading zero and a blank, read as a sentence; its numbers;
and that its tokens are a sentence of no other production. -/
theorem final_accepts_sentences_samples :
    (∃ p, production? .move = some p ∧
      p.IsSentence ((lineTokens "f5 w01w3").map Token.kind)) ∧
    ([5, 1, 3] : List UInt32).map UInt32.toNat = lineNumbers "f5 w01w3" ∧
    ∀ k q, production? k = some q →
      q.IsSentence ((lineTokens "f5 w01w3").map Token.kind) → k = .move := by
  have herror : (final "f5 w01w3").error = none := by decide +kernel
  have hcommand : (final "f5 w01w3").command = some (.move ⟨5⟩ [⟨1⟩, ⟨3⟩]) := by decide +kernel
  obtain ⟨p, hp, haccepts⟩ := final_accepts_sentences.1 "f5 w01w3" .move ⟨.move ⟨5⟩ [], rfl, rfl⟩
  have hmove := (haccepts.mp ⟨herror, _, hcommand, rfl⟩).1
  refine ⟨⟨p, hp, hmove⟩, final_accepts_sentences.2.1 "f5 w01w3" _ herror hcommand, ?_⟩
  intro k q hq hother
  exact final_accepts_sentences.2.2 k .move q p hq hp _ hother hmove

end Reading

end FleetOrders
