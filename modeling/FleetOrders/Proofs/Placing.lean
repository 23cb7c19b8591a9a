/-
FleetOrders.Proofs.Placing — what the places of tokens decide about a line:
where an error is told to be, and nothing else.

No reader asks where a token stands, and no stage of the suggestions does.
A token is forgotten its place by `Token.unplaced`, and each function over
tokens gives the same on tokens with and without places, up to the places
in what it gives.

* `Placeless` — a reader that reads the same from tokens without places.
  Readers are put together from one another, and so are the proofs
  (`Placeless.bind`, `Placeless.tail`), up to `placeless_order`.
* `Reading.liveOfTokens_unplaced`, `Reading.finalOfTokens_unplaced` — the
  readings.
* `Snapshot.staged_unplaced` — the suggestions of a stage.
* `SameTokens` — two lines have the same tokens but for their places; then
  readings, verdicts and suggestions of stages agree.
-/
import FleetOrders.Console.Editor
import FleetOrders.Proofs.SuggestionTexts

namespace FleetOrders

/-! ## Tokens and errors without places -/

/-- The token without its place. -/
def Token.unplaced (t : Token) : Token :=
  { t with offset := 0 }

@[simp] theorem Token.kind_unplaced (t : Token) : t.unplaced.kind = t.kind := rfl

@[simp] theorem Token.text_unplaced (t : Token) : t.unplaced.text = t.text := rfl

@[simp] theorem Token.isEnd_unplaced (t : Token) : t.unplaced.isEnd = t.isEnd := rfl

/-- The error without its place. -/
def SyntaxError.unplaced : SyntaxError → SyntaxError
  | .expected what t => .expected what t.unplaced
  | .numberOutOfRange t => .numberOutOfRange t.unplaced
  | .incomplete t => .incomplete t.unplaced

namespace Reading

variable {α β : Type}

/-! ## Readers that do not ask for places -/

/-- What a reader gives, without the places in it. -/
def unplacedResult : Except SyntaxError (α × List Token) → Except SyntaxError (α × List Token)
  | .ok (x, left) => .ok (x, left.map Token.unplaced)
  | .error e => .error e.unplaced

/-- From tokens without places the reader reads what it reads from the
tokens, and it meets the same error or leaves the same tokens over. -/
def Placeless (read : List Token → Except SyntaxError (α × List Token)) : Prop :=
  ∀ ts, read (ts.map Token.unplaced) = unplacedResult (read ts)

@[simp] theorem next_unplaced (ts : List Token) :
    next (ts.map Token.unplaced) = (next ts).unplaced := by
  cases ts <;> rfl

theorem placeless_ok (x : α) : Placeless fun ts => .ok (x, ts) :=
  fun _ => rfl

theorem Placeless.bind {read : List Token → Except SyntaxError (α × List Token)}
    {f : α × List Token → Except SyntaxError (β × List Token)} (h : Placeless read)
    (hf : ∀ x, Placeless fun ts => f (x, ts)) : Placeless fun ts => read ts >>= f := by
  intro ts
  dsimp only
  rw [h ts]
  cases read ts with
  | error e => rfl
  | ok p => exact hf p.1 p.2

/-- What was read may be turned into something else. -/
theorem Placeless.giving {read : List Token → Except SyntaxError (α × List Token)}
    (h : Placeless read) (g : α → β) : Placeless fun ts => read ts >>= fun p => .ok (g p.1, p.2) :=
  h.bind fun x => placeless_ok (g x)

theorem Placeless.tail {read : List Token → Except SyntaxError (α × List Token)}
    (h : Placeless read) : Placeless fun ts => read ts.tail := by
  intro ts
  dsimp only
  rw [← List.map_tail]
  exact h ts.tail

/-- A token of the given kind is read whatever its place, and so is what
follows it if that does not ask for the place either. -/
theorem placeless_one_bind {kind : TokenKind}
    {f : Token × List Token → Except SyntaxError (α × List Token)}
    (hf : ∀ t ts, f (t.unplaced, ts.map Token.unplaced) = unplacedResult (f (t, ts))) :
    Placeless fun ts => one kind ts >>= f := by
  intro ts
  dsimp only [one]
  rw [next_unplaced, Token.kind_unplaced]
  split
  · rw [← List.map_tail]
    exact hf (next ts) ts.tail
  · rfl

/-! ## Readers -/

theorem placeless_number : Placeless number := by
  refine placeless_one_bind fun t ts => ?_
  dsimp only [Token.text_unplaced]
  cases Text.word32? t.text.toList <;> rfl

theorem placeless_hops : Placeless hops := by
  intro ts
  fun_induction hops ts with
  | case1 => rfl
  | case2 mark hmark =>
    rw [List.map_singleton, hops, if_pos (show mark.unplaced.kind = .worldMark from hmark)]
    rfl
  | case3 mark hmark digits more ih =>
    have hnumber := placeless_number (digits :: more)
    rw [List.map_cons] at hnumber
    rw [List.map_cons, List.map_cons, hops,
      if_pos (show mark.unplaced.kind = .worldMark from hmark)]
    dsimp only
    rw [hnumber, ih]
    cases number (digits :: more) with
    | error e => rfl
    | ok p => cases hops more <;> rfl
  | case4 mark more hmark =>
    rw [List.map_cons, hops.eq_def]
    exact if_neg (show ¬ mark.unplaced.kind = .worldMark from hmark)

theorem placeless_destination? : Placeless destination? := by
  intro ts
  unfold destination?
  rw [next_unplaced, Token.kind_unplaced]
  cases (next ts).kind with
  | industry | population => exact (placeless_ok _).tail ts
  | fleetMark => exact (placeless_number.giving fun n => some (Destination.fleet ⟨n⟩)).tail ts
  | _ => rfl

theorem placeless_attack (fleet : FleetId) : Placeless (attack fleet) := by
  rw [attack_eq_destination?]
  exact placeless_destination?.bind fun goal => placeless_ok (attackOn fleet goal)

theorem placeless_transfer (fleet : FleetId) : Placeless (transfer fleet) := by
  refine placeless_number.bind fun amount => placeless_destination?.bind fun goal => ?_
  cases goal with
  | none => exact placeless_ok _
  | some d => exact placeless_ok _

theorem placeless_fleetOrder : Placeless fleetOrder := by
  refine placeless_one_bind fun mark => placeless_number.bind fun n left => ?_
  dsimp only
  rw [next_unplaced, Token.kind_unplaced]
  cases (next left).kind with
  | endOfInput => rfl
  | worldMark => exact placeless_hops.giving (Command.move ⟨n⟩) left
  | transfer => exact (placeless_transfer _).tail left
  | attack => exact (placeless_attack _).tail left
  | _ => rfl

theorem placeless_worldOrder : Placeless worldOrder := by
  refine placeless_one_bind fun mark => placeless_number.bind fun n left => ?_
  dsimp only
  rw [next_unplaced, Token.isEnd_unplaced]
  split
  · rfl
  · refine placeless_one_bind (fun build => ?_) left
    refine placeless_number.bind fun amount => ?_
    dsimp only
    refine placeless_destination?.bind fun goal => ?_
    cases goal with
    | none => exact placeless_ok _
    | some d => exact placeless_ok _

theorem joinOrder_unplaced (ts : List Token) :
    joinOrder (ts.map Token.unplaced) =
      ((joinOrder ts).1, (joinOrder ts).2.map Token.unplaced) := by
  unfold joinOrder
  rw [next_unplaced, Token.kind_unplaced]
  split
  · rw [← List.map_tail]
    rfl
  · rfl

/-- No order asks where its tokens stand. -/
theorem placeless_order : Placeless order := by
  intro ts
  unfold order
  rw [next_unplaced, Token.kind_unplaced]
  cases (next ts).kind with
  | endOfInput => rfl
  | fleetMark => exact placeless_fleetOrder.giving some ts
  | worldMark => exact placeless_worldOrder.giving some ts
  | join =>
    dsimp only
    rw [← List.map_tail, joinOrder_unplaced]
    rfl
  | turn => exact (placeless_ok _).tail ts
  | _ => rfl

/-! ## Readings -/

/-- The reading without places. -/
def unplaced (r : Reading) : Reading :=
  { r with
    error := r.error.map SyntaxError.unplaced
    tokens := r.tokens.map Token.unplaced }

end Reading

theorem Stage.ofTokens_unplaced (ts : List Token) :
    ofTokens (ts.map Token.unplaced) = ofTokens ts := by
  rw [ofTokens, ofTokens, List.filter_map, List.map_map]
  rfl

namespace Reading

theorem liveOfTokens_unplaced (ts : List Token) :
    liveOfTokens (ts.map Token.unplaced) = (liveOfTokens ts).unplaced := by
  unfold liveOfTokens
  rw [placeless_order ts, Stage.ofTokens_unplaced]
  cases order ts with
  | error e => rfl
  | ok p => simp [unplacedResult, unplaced]

theorem finalOfTokens_unplaced (ts : List Token) :
    finalOfTokens (ts.map Token.unplaced) = (finalOfTokens ts).unplaced := by
  unfold finalOfTokens
  rw [placeless_order ts, Stage.ofTokens_unplaced]
  cases order ts with
  | error e => rfl
  | ok p =>
    simp only [unplacedResult, next_unplaced, Token.isEnd_unplaced]
    split <;> rfl

end Reading

/-! ## Suggestions -/

namespace Typed

/-- The tokens typed, without their places. -/
def unplaced (t : Typed) : Typed :=
  ⟨t.tokens.map Token.unplaced⟩

theorem ofTokens_unplaced (ts : List Token) :
    ofTokens (ts.map Token.unplaced) = (ofTokens ts).unplaced := by
  rw [ofTokens, List.takeWhile_map]
  rfl

variable (t : Typed)

@[simp] theorem count_unplaced : t.unplaced.count = t.count :=
  List.length_map _

@[simp] theorem upTo_unplaced (n : Nat) : t.unplaced.upTo n = t.upTo n := by
  rw [upTo, upTo, unplaced, ← List.map_take, List.map_map]
  rfl

@[simp] theorem text_unplaced : t.unplaced.text = t.text := by
  rw [text, text, count_unplaced, upTo_unplaced]

@[simp] theorem number?_unplaced (place : Nat) : t.unplaced.number? place = t.number? place := by
  rw [number?, number?, unplaced, List.getElem?_map]
  cases t.tokens[place]? <;> rfl

@[simp] theorem endsInBareWorld_unplaced : t.unplaced.endsInBareWorld = t.endsInBareWorld := by
  rw [endsInBareWorld, endsInBareWorld, unplaced, List.getLast?_map]
  cases t.tokens.getLast? <;> rfl

theorem worldPairs_unplaced (ts : List Token) :
    worldPairs (ts.map Token.unplaced) = worldPairs ts := by
  fun_induction worldPairs ts with
  | case1 mark digits rest hkinds n hn ih => simp [worldPairs, hkinds, hn, ih]
  | case2 mark digits rest hkinds hn => simp [worldPairs, hkinds, hn]
  | case3 mark digits rest hkinds => simp [worldPairs, hkinds]
  | case4 ts hshort =>
    cases ts with
    | nil => rfl
    | cons mark ts =>
      cases ts with
      | nil => rfl
      | cons digits rest => exact absurd rfl (hshort mark digits rest)

@[simp] theorem hops_unplaced : t.unplaced.hops = t.hops := by
  rw [hops, hops, unplaced, ← List.map_drop, worldPairs_unplaced]

@[simp] theorem keepExtending_unplaced (found : List Suggestion) :
    t.unplaced.keepExtending found = t.keepExtending found := by
  rw [keepExtending, keepExtending, text_unplaced]

@[simp] theorem longerAmounts_unplaced (available : UInt32) :
    t.unplaced.longerAmounts available = t.longerAmounts available := by
  rw [longerAmounts, longerAmounts, text_unplaced, upTo_unplaced]

end Typed

theorem joinSuggestions_unplaced (t : Typed) :
    joinSuggestions t.unplaced = joinSuggestions t := by
  rw [joinSuggestions, joinSuggestions, Typed.unplaced, List.getElem?_map]
  cases t.tokens[1]? <;> rfl

namespace Snapshot

variable (s : Snapshot) (t : Typed)

theorem pathStage_unplaced (fleet : FleetId) :
    s.pathStage fleet t.unplaced = s.pathStage fleet t := by
  simp only [pathStage, longerHops, Typed.count_unplaced, Typed.hops_unplaced,
    Typed.endsInBareWorld_unplaced, Typed.upTo_unplaced, Typed.text_unplaced]

theorem fleetStage_unplaced (stage : FleetStage) :
    s.fleetStage stage t.unplaced = s.fleetStage stage t := by
  simp only [fleetStage, fleetNumbers, fleetActionStage, transferAmountStage, pathStage_unplaced,
    Typed.number?_unplaced, Typed.count_unplaced, Typed.endsInBareWorld_unplaced,
    Typed.upTo_unplaced, Typed.text_unplaced, Typed.keepExtending_unplaced,
    Typed.longerAmounts_unplaced]

theorem worldStage_unplaced (stage : WorldStage) :
    s.worldStage stage t.unplaced = s.worldStage stage t := by
  simp only [worldStage, worldNumbers, buildAmountStage, Typed.number?_unplaced,
    Typed.count_unplaced, Typed.upTo_unplaced, Typed.text_unplaced, Typed.keepExtending_unplaced,
    Typed.longerAmounts_unplaced]

/-- No stage asks where the tokens stand. -/
theorem staged_unplaced (limit : Nat) (line : String) (stage : Stage) :
    s.staged limit line t.unplaced stage = s.staged limit line t stage := by
  cases stage with
  | fleet stage => exact s.fleetStage_unplaced t stage
  | world stage => exact s.worldStage_unplaced t stage
  | join => exact joinSuggestions_unplaced t
  | _ => rfl

end Snapshot

/-! ## Lines with the same tokens -/

/-- The lines have the same tokens, which may stand at other places. -/
def SameTokens (a b : String) : Prop :=
  (tokenize a).map Token.unplaced = (tokenize b).map Token.unplaced

namespace SameTokens

variable {a b : String} (h : SameTokens a b)
include h

theorem live : (Reading.live a).unplaced = (Reading.live b).unplaced := by
  rw [Reading.live, Reading.live, ← Reading.liveOfTokens_unplaced, h,
    Reading.liveOfTokens_unplaced]

theorem final : (Reading.final a).unplaced = (Reading.final b).unplaced := by
  rw [Reading.final, Reading.final, ← Reading.finalOfTokens_unplaced, h,
    Reading.finalOfTokens_unplaced]

theorem command : (Reading.live a).command = (Reading.live b).command := by
  show (Reading.live a).unplaced.command = (Reading.live b).unplaced.command
  rw [h.live]

theorem stage : (Reading.live a).stage = (Reading.live b).stage := by
  show (Reading.live a).unplaced.stage = (Reading.live b).unplaced.stage
  rw [h.live]

/-- The line itself is offered for both or for neither. -/
theorem submitSuggestion? (v : Verdict) :
    FleetOrders.submitSuggestion? (Reading.live a) v =
      FleetOrders.submitSuggestion? (Reading.live b) v := by
  have hforget : ∀ r : Reading,
      FleetOrders.submitSuggestion? r.unplaced v = FleetOrders.submitSuggestion? r v := by
    intro r
    have hok : r.unplaced.isOk = r.isOk := by
      cases herror : r.error <;> simp [Reading.isOk, Reading.unplaced, herror]
    rw [FleetOrders.submitSuggestion?, FleetOrders.submitSuggestion?, hok]
    rfl
  rw [← hforget, h.live, hforget]

/-- Of two lines that start an order the suggestions are the same. -/
theorem suggestions (s : Snapshot) (limit : Nat) (hstage : (Reading.live a).stage ≠ .unknown) :
    (s.analyze limit a).suggestions = (s.analyze limit b).suggestions := by
  have htyped : ∀ line : String, (Typed.ofTokens (Reading.live line).tokens).unplaced =
      Typed.ofTokens (Reading.live line).unplaced.tokens :=
    fun line => (Typed.ofTokens_unplaced _).symm
  have hstaged : ∀ v, s.staged limit a (.ofTokens (Reading.live a).tokens) v =
      s.staged limit a (.ofTokens (Reading.live b).tokens) v := by
    intro v
    rw [← s.staged_unplaced, htyped, h.live, ← htyped, s.staged_unplaced]
  have hline : ∀ t, s.staged limit a t (Reading.live a).stage =
      s.staged limit b t (Reading.live a).stage := by
    intro t
    cases hcase : (Reading.live a).stage with
    | unknown => exact absurd hcase hstage
    | _ => rfl
  unfold Snapshot.analyze Snapshot.suggest
  dsimp only
  rw [hstaged, hline, h.submitSuggestion?, h.command, h.stage]

end SameTokens

end FleetOrders
