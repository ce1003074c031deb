import CrownClash.Go.Tactical
import CrownClash.Lib.CheapestPath
import Mathlib.Data.Int.ConditionallyCompleteOrder
import Mathlib.Data.String.Basic
import Mathlib.Data.Sym.Sym2

/-!
# Server: routes on any roads

`tactical.go` reads its roads from the table of the shipped maps.  Here the same
functions take the roads as an argument, so that what is proved of them holds of any
road graph, and the functions of `Go/Tactical.lean` are those of the table's roads.

They also take the order of texts that breaks ties, as the client has another one:
`findDispatchRouteOn` is the search with the order of the server.

`findDispatchRouteBy_correct` is what a route is: there is one exactly if the sender
can walk from the source to the target through towers of its own, and the one that
is found is cheapest.
-/

namespace CrownClash.Go

open Lib

/-! ### The search, on any roads -/

/-- The order of texts of the server: by their bytes, and so by their characters. -/
def textBefore (a b : String) : Bool := a < b

theorem totalOrder_textBefore : TotalOrder textBefore := totalOrder_lt

def tacticalNeighborsBy (lt : String → String → Bool) (roads : List (String × String))
    (id : String) : List String :=
  sortBy lt <| roads.filterMap fun r =>
    if r.1 = id then some r.2 else if r.2 = id then some r.1 else none

def queueBeforeBy (lt : String → String → Bool) (a b : QueueEntry) : Bool :=
  if a.cost ≠ b.cost then a.cost < b.cost else lt (pathKey a.path) (pathKey b.path)

def chooseRouteBy (lt : String → String → Bool) (chosen : Option RouteEntry)
    (candidate : RouteEntry) : Option RouteEntry :=
  match chosen with
  | none => some candidate
  | some c =>
    if candidate.cost < c.cost ∨
        (candidate.cost = c.cost ∧ lt (pathKey candidate.path) (pathKey c.path) = true) then
      some candidate
    else some c

variable [MathLib]

def considerEntryBy (lt : String → String → Bool) (state : GameState)
    (reachable : Record String RouteEntry) (target : Territory) (targetId : String)
    (chosen : Option RouteEntry) (entryId : String) : Option RouteEntry :=
  match reachable.get? entryId with
  | none => chosen
  | some entry => chooseRouteBy lt chosen
      ⟨entry.cost + legCost (state.territory entryId) target, entry.path ++ [targetId]⟩

def friendlyPushesBy (lt : String → String → Bool) (roads : List (String × String)) (state : GameState) (owner : Team)
    (best : Record String RouteEntry) (next : QueueEntry) : List QueueEntry :=
  (tacticalNeighborsBy lt roads next.id).filterMap fun id =>
    match state.territories.get? id with
    | none => none
    | some t =>
      if t.owner ≠ owner ∨ (best.get? id).isSome then none
      else some ⟨id, next.cost + legCost (state.territory next.id) t, next.path ++ [id]⟩

def friendlyPathsLoopBy (lt : String → String → Bool) (roads : List (String × String)) (state : GameState) (owner : Team) :
    ℕ → List QueueEntry → Record String RouteEntry → Record String RouteEntry
  | 0, _, best => best
  | fuel + 1, queue, best =>
    match sortBy (queueBeforeBy lt) queue with
    | [] => best
    | next :: queue =>
      if (best.get? next.id).isSome then friendlyPathsLoopBy lt roads state owner fuel queue best
      else
        let best := best.set next.id ⟨next.cost, next.path⟩
        friendlyPathsLoopBy lt roads state owner fuel
          (queue ++ friendlyPushesBy lt roads state owner best next) best

def friendlyPathsBy (lt : String → String → Bool) (roads : List (String × String)) (state : GameState) (sourceId : String)
    (owner : Team) : Record String RouteEntry :=
  friendlyPathsLoopBy lt roads state owner (1 + 2 * roads.length) [⟨sourceId, 0, [sourceId]⟩] .empty

def findDispatchRouteBy (lt : String → String → Bool) (roads : List (String × String)) (state : GameState)
    (sourceId targetId : String) (owner : Team) : Option (List String) :=
  match state.territories.get? sourceId, state.territories.get? targetId with
  | some source, some target =>
    if sourceId = targetId ∨ source.owner ≠ owner then none
    else if usesTacticalRules state.gameplayRulesVersion = false then some [sourceId, targetId]
    else if target.owner ≠ owner then
      if targetId ∈ tacticalNeighborsBy lt roads sourceId then some [sourceId, targetId]
      else
        let reachable := friendlyPathsBy lt roads state sourceId owner
        let chosen := (tacticalNeighborsBy lt roads targetId).foldl
          (considerEntryBy lt state reachable target targetId) none
        chosen.map RouteEntry.path
    else ((friendlyPathsBy lt roads state sourceId owner).get? targetId).map RouteEntry.path
  | _, _ => none

/-- The search of the server, on any roads. -/
def findDispatchRouteOn (roads : List (String × String)) (state : GameState)
    (sourceId targetId : String) (owner : Team) : Option (List String) :=
  findDispatchRouteBy textBefore roads state sourceId targetId owner

theorem friendlyPathsLoop_on (state : GameState) (owner : Team) :
    ∀ (fuel : ℕ) (queue : List QueueEntry) (best : Record String RouteEntry),
      friendlyPathsLoop state owner fuel queue best = friendlyPathsLoopBy textBefore
        (battlefieldRoads state.battlefieldId) state owner fuel queue best := by
  intro fuel
  induction fuel with
  | zero => intro queue best; rfl
  | succ fuel ih =>
    intro queue best
    rw [friendlyPathsLoop, friendlyPathsLoopBy]
    have hqueue : queueBeforeBy textBefore = queueBefore := rfl
    rw [hqueue]
    cases sortBy queueBefore queue with
    | nil => rfl
    | cons next rest =>
      dsimp only
      rw [ih, ih]
      rfl

theorem friendlyPaths_on (state : GameState) (sourceId : String) (owner : Team) :
    friendlyPaths state sourceId owner = friendlyPathsBy textBefore
      (battlefieldRoads state.battlefieldId) state sourceId owner :=
  friendlyPathsLoop_on state owner _ _ _

theorem considerEntry_by (state : GameState) (reachable : Record String RouteEntry)
    (target : Territory) (targetId : String) :
    considerEntry state reachable target targetId
      = considerEntryBy textBefore state reachable target targetId := by
  funext chosen entryId
  unfold considerEntry considerEntryBy
  cases reachable.get? entryId with
  | none => rfl
  | some entry =>
    cases chosen with
    | none => rfl
    | some c =>
      dsimp only
      unfold chooseRoute chooseRouteBy textBefore
      simp only [decide_eq_true_eq]

/-- **The routes of a match are those on the roads of its map.** -/
theorem findDispatchRoute_on (state : GameState) (sourceId targetId : String) (owner : Team) :
    findDispatchRoute state sourceId targetId owner
      = findDispatchRouteOn (battlefieldRoads state.battlefieldId) state sourceId targetId
          owner := by
  unfold findDispatchRoute findDispatchRouteOn findDispatchRouteBy
  simp only [friendlyPaths_on, considerEntry_by]
  rfl

variable {lt : String → String → Bool}

/-! ### The queue loop empties

The measure is the length of the queue plus the number of road ends whose tower
is not settled yet.  A round takes one entry off the queue; if it settles a
tower, every entry it pushes is paid for by a road end at that tower. -/

section Fuel

omit [MathLib]

/-- The ends of all roads, each road giving two. -/
def roadEnds (roads : List (String × String)) : List String := roads.flatMap fun r => [r.1, r.2]

/-- The number of road ends at towers that are not settled. -/
def openEnds (roads : List (String × String)) (best : Record String RouteEntry) : ℕ :=
  (roadEnds roads).countP fun id => (best.get? id).isNone

theorem length_roadEnds (roads : List (String × String)) :
    (roadEnds roads).length = 2 * roads.length := by
  unfold roadEnds
  induction roads with
  | nil => rfl
  | cons r rs ih =>
    rw [List.flatMap_cons, List.length_append, ih, List.length_cons, List.length_cons,
      List.length_cons, List.length_nil]
    omega

theorem length_tacticalNeighborsBy_le (roads : List (String × String)) (id : String) :
    (tacticalNeighborsBy lt roads id).length ≤ (roadEnds roads).countP fun e => e = id := by
  unfold tacticalNeighborsBy roadEnds
  rw [length_sortBy]
  induction roads with
  | nil => exact Nat.le_refl _
  | cons r rs ih =>
    rw [List.flatMap_cons, List.countP_append, List.filterMap_cons]
    by_cases h1 : r.1 = id
    · simp only [h1, if_true, List.length_cons, List.countP_cons, List.countP_nil,
        decide_true]
      omega
    · by_cases h2 : r.2 = id
      · simp only [h1, h2, if_true, if_false, List.length_cons, List.countP_cons,
          List.countP_nil, decide_true]
        omega
      · simp only [h1, h2, if_false]
        omega

/-- Settling a tower closes the road ends at it. -/
theorem openEnds_set (roads : List (String × String)) {best : Record String RouteEntry}
    {id : String} (e : RouteEntry) (h : best.get? id = none) :
    openEnds roads (best.set id e) + (roadEnds roads).countP (fun x => x = id)
      = openEnds roads best := by
  unfold openEnds
  induction roadEnds roads with
  | nil => rfl
  | cons x xs ih =>
    simp only [List.countP_cons]
    by_cases hx : x = id
    · subst hx
      rw [Record.get?_set_self, h]
      simp only [Option.isNone_some, Option.isNone_none, decide_true, if_true]
      simp only [Bool.false_eq_true, if_false]
      omega
    · rw [Record.get?_set_ne hx]
      simp only [hx, decide_false, Bool.false_eq_true, if_false]
      omega

theorem openEnds_empty_le (roads : List (String × String)) :
    openEnds roads .empty ≤ 2 * roads.length := by
  rw [← length_roadEnds]
  exact List.countP_le_length

end Fuel

theorem length_friendlyPushesBy_le (lt : String → String → Bool)
    (roads : List (String × String)) (state : GameState)
    (owner : Team) (best : Record String RouteEntry) (next : QueueEntry) :
    (friendlyPushesBy lt roads state owner best next).length
      ≤ (roadEnds roads).countP fun e => e = next.id :=
  (List.length_filterMap_le _ _).trans (length_tacticalNeighborsBy_le roads next.id)


/-! ### What the search finds -/

/-- A tower of the owner's. -/
def Owned (state : GameState) (owner : Team) (id : String) : Prop :=
  ∃ t, state.territories.get? id = some t ∧ t.owner = owner

/-- A road joins the two, in one direction or the other. -/
def Road (roads : List (String × String)) (a b : String) : Prop := (a, b) ∈ roads ∨ (b, a) ∈ roads

/-- A road to a tower of the owner's. -/
def OwnRoad (roads : List (String × String)) (state : GameState) (owner : Team)
    (a b : String) : Prop :=
  Road roads a b ∧ Owned state owner b

/-- The cost of a leg, by the ids of its ends. -/
def legCostOf (state : GameState) (a b : String) : ℤ :=
  legCost (state.territory a) (state.territory b)

omit [MathLib] in
theorem mem_tacticalNeighborsBy {roads : List (String × String)} {a b : String} :
    b ∈ tacticalNeighborsBy lt roads a ↔ Road roads a b := by
  unfold tacticalNeighborsBy Road
  rw [mem_sortBy, List.mem_filterMap]
  constructor
  · rintro ⟨r, hr, hb⟩
    split at hb
    · next ha =>
      cases hb
      exact Or.inl (ha ▸ hr)
    · split at hb
      · next ha =>
        cases hb
        exact Or.inr (ha ▸ hr)
      · cases hb
  · rintro (hr | hr)
    · exact ⟨(a, b), hr, if_pos rfl⟩
    · by_cases hab : b = a
      · exact ⟨(b, a), hr, by rw [if_pos hab, hab]⟩
      · exact ⟨(b, a), hr, by rw [if_neg hab, if_pos rfl]⟩

theorem legCost_nonneg (source target : Territory) : 0 ≤ legCost source target := by
  unfold legCost
  have hn : 0 ≤ hypot (target.x - source.x) (target.y - source.y) * 1000 :=
    mul_nonneg (hypot_nonneg _ _) (by norm_num)
  rw [roundHalfAway_of_nonneg hn, roundHalfUp]
  exact Int.floor_nonneg.mpr (by linarith)

def QueueEntry.search (e : QueueEntry) : SearchEntry String ℤ := ⟨e.id, e.cost, e.path⟩

/-- What is settled, with cost and path. -/
def settledOf (best : Record String RouteEntry) (id : String) : Option (ℤ × List String) :=
  (best.get? id).map fun e => (e.cost, e.path)

/-- The invariant of the search, at the towers of an owner. -/
abbrev RoutesOk (roads : List (String × String)) (state : GameState) (owner : Team)
    (sourceId : String) (queue : List QueueEntry) (best : Record String RouteEntry) : Prop :=
  SearchOk (OwnRoad roads state owner) (legCostOf state) sourceId (queue.map QueueEntry.search)
    (settledOf best)

omit [MathLib] in
theorem settledOf_set (best : Record String RouteEntry) (id : String) (e : RouteEntry) :
    settledOf (best.set id e) = Function.update (settledOf best) id (some (e.cost, e.path)) := by
  funext k
  unfold settledOf
  by_cases hk : k = id
  · rw [hk, Record.get?_set_self, Function.update_self]
    rfl
  · rw [Record.get?_set_ne hk, Function.update_of_ne hk]

omit [MathLib] in
theorem settledOf_isSome {best : Record String RouteEntry} {id : String} :
    (settledOf best id).isSome = (best.get? id).isSome := by
  unfold settledOf
  rw [Option.isSome_map]

/-- What a round pushes: an entry behind each road to an own tower that is not settled. -/
theorem mem_friendlyPushesBy {roads : List (String × String)} {state : GameState} {owner : Team}
    {best : Record String RouteEntry} {next d : QueueEntry} :
    d ∈ friendlyPushesBy lt roads state owner best next ↔
      OwnRoad roads state owner next.id d.id ∧ best.get? d.id = none ∧
        d.cost = next.cost + legCostOf state next.id d.id ∧ d.path = next.path ++ [d.id] := by
  unfold friendlyPushesBy OwnRoad Owned
  rw [List.mem_filterMap]
  constructor
  · rintro ⟨id, hid, hd⟩
    cases ht : state.territories.get? id with
    | none =>
      rw [ht] at hd
      cases hd
    | some t =>
      rw [ht] at hd
      dsimp only at hd
      split at hd
      · cases hd
      · next hn =>
        cases hd
        obtain ⟨ho, hb⟩ := not_or.mp hn
        have hterritory : state.territory id = t := by
          unfold GameState.territory Record.getD
          rw [ht]
          rfl
        refine ⟨⟨mem_tacticalNeighborsBy.mp hid, t, ht, not_not.mp ho⟩, ?_, ?_, rfl⟩
        · rw [Bool.not_eq_true, Option.isSome_eq_false_iff, Option.isNone_iff_eq_none] at hb
          exact hb
        · show next.cost + legCost (state.territory next.id) t = _
          rw [legCostOf, hterritory]
  · rintro ⟨⟨hroad, t, ht, ho⟩, hb, hc, hp⟩
    refine ⟨d.id, mem_tacticalNeighborsBy.mpr hroad, ?_⟩
    have hterritory : state.territory d.id = t := by
      unfold GameState.territory Record.getD
      rw [ht]
      rfl
    rw [ht]
    dsimp only
    rw [hb, if_neg (by rw [ho]; simp)]
    rw [legCostOf, hterritory] at hc
    rw [← hc, ← hp]

omit [MathLib] in
/-- No entry comes before the first of the sorted queue. -/
theorem queueBefore_least (horder : WeakOrder lt) {queue rest : List QueueEntry}
    {next : QueueEntry} (h : sortBy (queueBeforeBy lt) queue = next :: rest) : ∀ d ∈ rest, next.cost ≤ d.cost := by
  have hqueue : WeakOrder (queueBeforeBy lt) :=
    (horder.pullback fun e : QueueEntry => pathKey e.path).lex QueueEntry.cost
  have hsorted := pairwise_sortBy hqueue queue
  rw [h, List.pairwise_cons] at hsorted
  intro d hd
  have hle := hsorted.1 d hd
  unfold queueBeforeBy at hle
  by_cases he : d.cost = next.cost
  · exact he.ge
  · rw [if_pos he] at hle
    exact not_lt.mp (of_decide_eq_false hle)

/-- **With a round for the source and one for each road end the search is complete**:
when the loop ends nothing waits. -/
theorem friendlyPathsLoopBy_ok (horder : WeakOrder lt) {roads : List (String × String)} {state : GameState}
    {owner : Team} {sourceId : String} : ∀ (fuel : ℕ) (queue : List QueueEntry)
      (best : Record String RouteEntry), queue.length + openEnds roads best ≤ fuel →
        RoutesOk roads state owner sourceId queue best →
          RoutesOk roads state owner sourceId []
            (friendlyPathsLoopBy lt roads state owner fuel queue best) := by
  intro fuel
  induction fuel with
  | zero =>
    intro queue best h hok
    have hq : queue = [] := List.length_eq_zero_iff.mp (by omega)
    rw [hq] at hok
    exact hok
  | succ fuel ih =>
    intro queue best h hok
    rw [friendlyPathsLoopBy]
    have hlen := length_sortBy (queueBeforeBy lt) queue
    have hperm := (perm_sortBy (queueBeforeBy lt) queue).map QueueEntry.search
    cases hs : sortBy (queueBeforeBy lt) queue with
    | nil =>
      rw [hs, List.map_nil] at hperm
      exact hok.perm hperm
    | cons next rest =>
      rw [hs, List.length_cons] at hlen
      rw [hs, List.map_cons] at hperm
      have hfirst := hok.perm hperm
      cases hb : best.get? next.id with
      | some e =>
        dsimp only
        rw [hb, if_pos (by rfl)]
        apply ih rest best (by omega)
        apply hfirst.drop
        show (settledOf best next.id).isSome = true
        rw [settledOf_isSome, hb]
        rfl
      | none =>
        dsimp only
        rw [hb, Option.isSome_none, if_neg Bool.false_ne_true]
        have hp := length_friendlyPushesBy_le lt roads state owner
          (best.set next.id ⟨next.cost, next.path⟩) next
        have ho := openEnds_set roads (⟨next.cost, next.path⟩ : RouteEntry) hb
        apply ih
        · rw [List.length_append]
          omega
        show SearchOk (OwnRoad roads state owner) (legCostOf state) sourceId _
          (settledOf (best.set next.id ⟨next.cost, next.path⟩))
        rw [List.map_append, settledOf_set]
        apply hfirst.settle
        · intro u v _
          exact legCost_nonneg _ _
        · intro d hd
          obtain ⟨c, hc, rfl⟩ := List.mem_map.mp hd
          exact queueBefore_least horder hs c hc
        · show settledOf best next.id = none
          unfold settledOf
          rw [hb]
          rfl
        · intro d hd
          obtain ⟨c, hc, rfl⟩ := List.mem_map.mp hd
          obtain ⟨hroad, -, hcost, hpath⟩ := mem_friendlyPushesBy.mp hc
          exact ⟨hroad, hcost, hpath⟩
        · intro v hroad hv hnew
          have hopen : best.get? v = none := by
            unfold settledOf at hnew
            exact Option.map_eq_none_iff.mp hnew
          let pushed : QueueEntry :=
            ⟨v, next.cost + legCostOf state next.id v, next.path ++ [v]⟩
          refine ⟨pushed.search, List.mem_map.mpr ⟨pushed, ?_, rfl⟩, rfl⟩
          rw [mem_friendlyPushesBy]
          refine ⟨hroad, ?_, rfl, rfl⟩
          have hother : v ≠ next.id := hv
          show (best.set next.id ⟨next.cost, next.path⟩).get? v = none
          rw [Record.get?_set_ne hother]
          exact hopen

theorem friendlyPathsBy_ok (horder : WeakOrder lt) (roads : List (String × String)) (state : GameState)
    (sourceId : String) (owner : Team) :
    RoutesOk roads state owner sourceId [] (friendlyPathsBy lt roads state sourceId owner) := by
  unfold friendlyPathsBy
  apply friendlyPathsLoopBy_ok horder
  · have h := openEnds_empty_le roads
    rw [List.length_singleton]
    omega
  · exact searchOk_start _ _ _


/-- What is known of a tower the search has found. -/
theorem friendlyPathsBy_some (horder : WeakOrder lt) {roads : List (String × String)} {state : GameState}
    {sourceId id : String} {owner : Team} {e : RouteEntry}
    (h : (friendlyPathsBy lt roads state sourceId owner).get? id = some e) :
    PathTo (OwnRoad roads state owner) sourceId id e.path ∧
      e.cost = pathCost (legCostOf state) e.path ∧ e.path.Nodup ∧
      ∀ p, PathTo (OwnRoad roads state owner) sourceId id p →
        e.cost ≤ pathCost (legCostOf state) p := by
  have hok := friendlyPathsBy_ok horder roads state sourceId owner
  have hs : settledOf (friendlyPathsBy lt roads state sourceId owner) id = some (e.cost, e.path) := by
    unfold settledOf
    rw [h]
    rfl
  obtain ⟨hpath, hcost, hnodup, -⟩ := hok.settledPath id e.cost e.path hs
  exact ⟨hpath, hcost, hnodup, hok.least id e.cost e.path hs⟩

theorem friendlyPathsBy_isSome (horder : WeakOrder lt) {roads : List (String × String)} {state : GameState}
    {sourceId id : String} {owner : Team} :
    ((friendlyPathsBy lt roads state sourceId owner).get? id).isSome = true ↔
      ∃ p, PathTo (OwnRoad roads state owner) sourceId id p := by
  rw [← settledOf_isSome]
  exact (friendlyPathsBy_ok horder roads state sourceId owner).settled_iff id

/-! ### The cheapest way into the target -/

/-- The candidates of an attack: a found tower next to the target, and the road from there. -/
def Candidate (state : GameState) (reachable : Record String RouteEntry) (target : Territory)
    (targetId entryId : String) (c : RouteEntry) : Prop :=
  ∃ e, reachable.get? entryId = some e ∧
    c = ⟨e.cost + legCost (state.territory entryId) target, e.path ++ [targetId]⟩

omit [MathLib] in
theorem chooseRoute_some (chosen : Option RouteEntry) (candidate : RouteEntry) :
    ∃ c, chooseRouteBy lt chosen candidate = some c ∧ (c = candidate ∨ chosen = some c) ∧
      c.cost ≤ candidate.cost ∧ ∀ d, chosen = some d → c.cost ≤ d.cost := by
  cases chosen with
  | none => exact ⟨candidate, rfl, Or.inl rfl, le_rfl, fun _ h => nomatch h⟩
  | some b =>
    unfold chooseRouteBy
    dsimp only
    split
    · next h =>
      refine ⟨candidate, rfl, Or.inl rfl, le_rfl, fun d hd => ?_⟩
      cases hd
      rcases h with h | ⟨h, -⟩
      · exact h.le
      · exact h.le
    · next h =>
      refine ⟨b, rfl, Or.inr rfl, not_lt.mp (not_or.mp h).1, fun d hd => ?_⟩
      cases hd
      exact le_rfl

/-- The loop over the towers next to the target keeps a cheapest candidate. -/
theorem foldl_considerEntry {state : GameState} {reachable : Record String RouteEntry}
    {target : Territory} {targetId : String} : ∀ (ids : List String) (chosen : Option RouteEntry),
      (∀ c, ids.foldl (considerEntryBy lt state reachable target targetId) chosen = some c →
        (chosen = some c ∨ ∃ id ∈ ids, Candidate state reachable target targetId id c) ∧
        (∀ d, chosen = some d → c.cost ≤ d.cost) ∧
        ∀ id ∈ ids, ∀ d, Candidate state reachable target targetId id d → c.cost ≤ d.cost) ∧
      (ids.foldl (considerEntryBy lt state reachable target targetId) chosen = none →
        chosen = none ∧ ∀ id ∈ ids, reachable.get? id = none) := by
  intro ids
  induction ids with
  | nil =>
    intro chosen
    refine ⟨fun c hc => ⟨Or.inl hc, fun d hd => ?_, fun id hid => absurd hid List.not_mem_nil⟩,
      fun hn => ⟨hn, fun id hid => absurd hid List.not_mem_nil⟩⟩
    rw [List.foldl_nil, hd] at hc
    cases hc
    exact le_rfl
  | cons id ids ih =>
    intro chosen
    rw [List.foldl_cons]
    obtain ⟨hsome, hnone⟩ := ih (considerEntryBy lt state reachable target targetId chosen id)
    cases hr : reachable.get? id with
    | none =>
      have hsame : considerEntryBy lt state reachable target targetId chosen id = chosen := by
        unfold considerEntryBy
        rw [hr]
      rw [hsame] at hsome hnone ⊢
      constructor
      · intro c hc
        obtain ⟨hfrom, hle, hall⟩ := hsome c hc
        refine ⟨hfrom.imp_right fun ⟨k, hk, hcand⟩ => ⟨k, List.mem_cons_of_mem id hk, hcand⟩, hle,
          fun k hk d hd => ?_⟩
        rcases List.mem_cons.mp hk with rfl | hk
        · obtain ⟨e, he, -⟩ := hd
          rw [hr] at he
          cases he
        · exact hall k hk d hd
      · intro hn
        refine ⟨(hnone hn).1, fun k hk => ?_⟩
        rcases List.mem_cons.mp hk with rfl | hk
        · exact hr
        · exact (hnone hn).2 k hk
    | some e =>
      have hstep : considerEntryBy lt state reachable target targetId chosen id = chooseRouteBy lt chosen
          ⟨e.cost + legCost (state.territory id) target, e.path ++ [targetId]⟩ := by
        unfold considerEntryBy
        rw [hr]
      rw [hstep] at hsome hnone ⊢
      obtain ⟨b, hb, hwhich, hnew, hold⟩ := chooseRoute_some chosen
        ⟨e.cost + legCost (state.territory id) target, e.path ++ [targetId]⟩
      rw [hb] at hsome hnone ⊢
      constructor
      · intro c hc
        obtain ⟨hfrom, hle, hall⟩ := hsome c hc
        have hcb : c.cost ≤ b.cost := hle b rfl
        refine ⟨?_, fun d hd => hcb.trans (hold d hd), fun k hk d hd => ?_⟩
        · rcases hfrom with hfrom | ⟨k, hk, hcand⟩
          · cases hfrom
            rcases hwhich with rfl | hwhich
            · exact Or.inr ⟨id, List.mem_cons_self, e, hr, rfl⟩
            · exact Or.inl hwhich
          · exact Or.inr ⟨k, List.mem_cons_of_mem id hk, hcand⟩
        · rcases List.mem_cons.mp hk with rfl | hk
          · obtain ⟨e', he', rfl⟩ := hd
            rw [hr] at he'
            cases he'
            exact hcb.trans hnew
          · exact hall k hk d hd
      · intro hn
        exact absurd (hnone hn).1 (Option.some_ne_none b)

/-! ### Routes -/

omit [MathLib] in
/-- **A path the sender may walk**: along roads from the source to the target, and
every tower in between is the sender's. -/
structure OpenPath (roads : List (String × String)) (state : GameState) (owner : Team)
    (sourceId targetId : String) (p : List String) : Prop where
  path : PathTo (Road roads) sourceId targetId p
  between : ∀ id ∈ p.tail.dropLast, Owned state owner id

/-- What the legs of a route cost. -/
abbrev routeCost (state : GameState) (route : List String) : ℤ := pathCost (legCostOf state) route

section Paths

variable {roads : List (String × String)} {state : GameState} {owner : Team}
variable {sourceId targetId : String}

omit [MathLib] in
theorem pathTo_ownRoad {id : String} {p : List String} :
    PathTo (OwnRoad roads state owner) sourceId id p ↔
      PathTo (Road roads) sourceId id p ∧ ∀ k ∈ p.tail, Owned state owner k := by
  constructor
  · intro h
    obtain ⟨hchain, howned⟩ := isChain_and_iff.mp h.chain
    exact ⟨⟨h.head, h.last, hchain⟩, howned⟩
  · rintro ⟨h, howned⟩
    exact ⟨h.head, h.last, isChain_and_iff.mpr ⟨h.chain, howned⟩⟩

omit [MathLib] in
/-- An open path walks through own towers and takes one road more. -/
theorem openPath_iff (hne : sourceId ≠ targetId) {p : List String} :
    OpenPath roads state owner sourceId targetId p ↔ ∃ u q,
      PathTo (OwnRoad roads state owner) sourceId u q ∧ Road roads u targetId ∧
        p = q ++ [targetId] := by
  have hbetween : ∀ {q : List String}, q ≠ [] → (q ++ [targetId]).tail.dropLast = q.tail := by
    intro q hq
    cases q with
    | nil => exact absurd rfl hq
    | cons a q => exact List.dropLast_concat
  constructor
  · rintro ⟨hpath, hown⟩
    rcases hpath.cases_last with ⟨heq, -⟩ | ⟨u, q, hq, hroad, rfl⟩
    · exact absurd heq.symm hne
    · rw [hbetween hq.ne_nil] at hown
      exact ⟨u, q, pathTo_ownRoad.mpr ⟨hq, hown⟩, hroad, rfl⟩
  · rintro ⟨u, q, hq, hroad, rfl⟩
    obtain ⟨hpath, hown⟩ := pathTo_ownRoad.mp hq
    refine ⟨hpath.snoc hroad, ?_⟩
    rw [hbetween hpath.ne_nil]
    exact hown

omit [MathLib] in
/-- All towers of an open path but the target are the sender's. -/
theorem OpenPath.own {p : List String} (h : OpenPath roads state owner sourceId targetId p)
    (hne : sourceId ≠ targetId) (hsource : Owned state owner sourceId) :
    ∀ id ∈ p, id ≠ targetId → Owned state owner id := by
  obtain ⟨u, q, hq, -, rfl⟩ := (openPath_iff hne).mp h
  obtain ⟨hpath, hown⟩ := pathTo_ownRoad.mp hq
  have hhead := hpath.head
  intro id hid htarget
  rcases List.mem_append.mp hid with hid | hid
  · cases q with
    | nil => cases hhead
    | cons first rest =>
      cases hhead
      rcases List.mem_cons.mp hid with rfl | hid
      · exact hsource
      · exact hown id hid
  · exact absurd (List.mem_singleton.mp hid) htarget

omit [MathLib] in
/-- To an own tower the open paths are the paths through own towers. -/
theorem openPath_own_iff (hne : sourceId ≠ targetId) (ht : Owned state owner targetId)
    {p : List String} : OpenPath roads state owner sourceId targetId p ↔
      PathTo (OwnRoad roads state owner) sourceId targetId p := by
  rw [openPath_iff hne]
  constructor
  · rintro ⟨u, q, hq, hroad, rfl⟩
    exact hq.snoc ⟨hroad, ht⟩
  · intro h
    rcases h.cases_last with ⟨heq, -⟩ | ⟨u, q, hq, hroad, rfl⟩
    · exact absurd heq.symm hne
    · exact ⟨u, q, hq, hroad.1, rfl⟩

end Paths


/-- A route joins an own tower to another tower of the map. -/
theorem findDispatchRouteBy_ends {roads : List (String × String)} {state : GameState}
    {sourceId targetId : String} {owner : Team} {route : List String}
    (h : findDispatchRouteBy lt roads state sourceId targetId owner = some route) :
    Owned state owner sourceId ∧ (∃ t, state.territories.get? targetId = some t) ∧
      sourceId ≠ targetId := by
  unfold findDispatchRouteBy at h
  cases hs : state.territories.get? sourceId with
  | none =>
    rw [hs] at h
    cases h
  | some source =>
    cases ht : state.territories.get? targetId with
    | none =>
      rw [hs, ht] at h
      cases h
    | some target =>
      rw [hs, ht] at h
      dsimp only at h
      split at h
      · cases h
      · next hn =>
        obtain ⟨hne, ho⟩ := not_or.mp hn
        exact ⟨⟨source, hs, not_not.mp ho⟩, ⟨target, rfl⟩, hne⟩

/-! ### What routes depend on -/

omit [MathLib] in
/-- What a road sees of a tower. -/
def Territory.site (t : Territory) : String × Team × ℚ × ℚ := (t.id, t.owner, t.x, t.y)

/-- Two maps whose towers a road cannot tell apart. -/
structure SameSites (s s' : GameState) : Prop where
  site : ∀ id, (s'.territories.get? id).map Territory.site
    = (s.territories.get? id).map Territory.site

section Sites

variable {s s' : GameState}

omit [MathLib]

/-- A tower of one map on the other. -/
theorem SameSites.get? (h : SameSites s s') {id : String} {t : Territory}
    (ht : s.territories.get? id = some t) :
    ∃ t', s'.territories.get? id = some t' ∧ Territory.site t' = Territory.site t := by
  have hs := h.site id
  rw [ht] at hs
  obtain ⟨t', ht', he⟩ := Option.map_eq_some_iff.mp hs
  exact ⟨t', ht', he⟩

theorem SameSites.get?_none (h : SameSites s s') {id : String}
    (ht : s.territories.get? id = none) : s'.territories.get? id = none := by
  have hs := h.site id
  rw [ht] at hs
  exact Option.map_eq_none_iff.mp hs

theorem SameSites.territory (h : SameSites s s') (id : String) :
    Territory.site (s'.territory id) = Territory.site (s.territory id) := by
  unfold GameState.territory Record.getD
  cases ht : s.territories.get? id with
  | none => rw [h.get?_none ht]
  | some t =>
    obtain ⟨t', ht', he⟩ := h.get? ht
    rw [ht']
    exact he

end Sites

theorem legCost_congr {a a' b b' : Territory} (ha : Territory.site a' = Territory.site a)
    (hb : Territory.site b' = Territory.site b) : legCost a' b' = legCost a b := by
  unfold Territory.site at ha hb
  simp only [Prod.mk.injEq] at ha hb
  unfold legCost
  rw [ha.2.2.1, ha.2.2.2, hb.2.2.1, hb.2.2.2]

section Congr

variable {roads roads' : List (String × String)} {s s' : GameState}

theorem friendlyPushesBy_congr
    (hroads : ∀ id, tacticalNeighborsBy lt roads' id = tacticalNeighborsBy lt roads id)
    (h : SameSites s s') (owner : Team) (best : Record String RouteEntry) (next : QueueEntry) :
    friendlyPushesBy lt roads' s' owner best next = friendlyPushesBy lt roads s owner best next := by
  unfold friendlyPushesBy
  rw [hroads]
  refine List.filterMap_congr fun id _ => ?_
  cases ht : s.territories.get? id with
  | none => rw [h.get?_none ht]
  | some t =>
    obtain ⟨t', ht', he⟩ := h.get? ht
    have ho : t'.owner = t.owner := congrArg (fun p => p.2.1) he
    rw [ht']
    dsimp only
    rw [ho, legCost_congr (h.territory next.id) he]

theorem friendlyPathsLoopBy_congr
    (hroads : ∀ id, tacticalNeighborsBy lt roads' id = tacticalNeighborsBy lt roads id)
    (h : SameSites s s') (owner : Team) :
    ∀ (fuel : ℕ) (queue : List QueueEntry) (best : Record String RouteEntry),
      friendlyPathsLoopBy lt roads' s' owner fuel queue best
        = friendlyPathsLoopBy lt roads s owner fuel queue best := by
  intro fuel
  induction fuel with
  | zero => intro queue best; rfl
  | succ fuel ih =>
    intro queue best
    rw [friendlyPathsLoopBy, friendlyPathsLoopBy]
    cases sortBy (queueBeforeBy lt) queue with
    | nil => rfl
    | cons next rest =>
      dsimp only
      rw [ih, ih, friendlyPushesBy_congr hroads h]

theorem considerEntry_congr (h : SameSites s s') (reachable : Record String RouteEntry)
    {t t' : Territory} (ht : Territory.site t' = Territory.site t) (targetId : String) :
    considerEntryBy lt s' reachable t' targetId = considerEntryBy lt s reachable t targetId := by
  funext chosen entryId
  unfold considerEntryBy
  cases reachable.get? entryId with
  | none => rfl
  | some entry =>
    dsimp only
    rw [legCost_congr (h.territory entryId) ht]

/-- **A route depends on the neighbours and the sites of the towers alone.** -/
theorem findDispatchRouteBy_congr
    (hroads : ∀ id, tacticalNeighborsBy lt roads' id = tacticalNeighborsBy lt roads id)
    (hlength : roads'.length = roads.length) (h : SameSites s s')
    (hversion : s'.gameplayRulesVersion = s.gameplayRulesVersion) (sourceId targetId : String)
    (owner : Team) : findDispatchRouteBy lt roads' s' sourceId targetId owner
      = findDispatchRouteBy lt roads s sourceId targetId owner := by
  have hpaths : friendlyPathsBy lt roads' s' sourceId owner = friendlyPathsBy lt roads s sourceId owner := by
    unfold friendlyPathsBy
    rw [hlength, friendlyPathsLoopBy_congr hroads h]
  unfold findDispatchRouteBy
  cases hs : s.territories.get? sourceId with
  | none => rw [h.get?_none hs]
  | some source =>
    obtain ⟨source', hs', hse⟩ := h.get? hs
    cases ht : s.territories.get? targetId with
    | none => rw [hs', h.get?_none ht]
    | some target =>
      obtain ⟨target', ht', hte⟩ := h.get? ht
      have hso : source'.owner = source.owner := congrArg (fun p => p.2.1) hse
      have hto : target'.owner = target.owner := congrArg (fun p => p.2.1) hte
      rw [hs', ht']
      dsimp only
      rw [hso, hto, hversion, hroads, hroads, hpaths, considerEntry_congr h _ hte]

end Congr

/-- The other end of a road at `id`. -/
def roadFrom (id : String) : Sym2 String → Option String :=
  Sym2.lift ⟨fun a b => if a = id then some b else if b = id then some a else none, fun a b => by
    dsimp only
    by_cases ha : a = id
    · by_cases hb : b = id
      · rw [if_pos ha, if_pos hb, ha, hb]
      · rw [if_pos ha, if_neg hb, if_pos ha]
    · by_cases hb : b = id
      · rw [if_neg ha, if_pos hb, if_pos hb]
      · rw [if_neg ha, if_neg hb, if_neg hb, if_neg ha]⟩

omit [MathLib] in
/-- The neighbours of a tower are the same whichever way the roads are listed. -/
theorem tacticalNeighborsBy_perm (horder : TotalOrder lt) {roads roads' : List (String × String)}
    (h : (roads'.map fun r => s(r.1, r.2)).Perm (roads.map fun r => s(r.1, r.2))) (id : String) :
    tacticalNeighborsBy lt roads' id = tacticalNeighborsBy lt roads id := by
  have hends : ∀ l : List (String × String),
      (l.filterMap fun r => if r.1 = id then some r.2 else if r.2 = id then some r.1 else none)
        = (l.map fun r => s(r.1, r.2)).filterMap (roadFrom id) := by
    intro l
    rw [List.filterMap_map]
    rfl
  unfold tacticalNeighborsBy
  rw [hends, hends]
  exact horder.sortBy_perm (h.filterMap (roadFrom id))

/-! ### Routes are found, and they are cheapest -/

section Cases

variable {roads : List (String × String)} {state : GameState} {owner : Team}
variable {sourceId targetId : String} {target : Territory}

omit [MathLib] in
theorem Road.symm {a b : String} (h : Road roads a b) : Road roads b a := Or.symm h

/-- **What a route should be**, whatever finds it: found if there is an open path, and
then a cheapest one that visits no tower twice. -/
structure CheapestRoute (roads : List (String × String)) (state : GameState) (owner : Team)
    (sourceId targetId : String) (found : Option (List String)) : Prop where
  complete : found = none → ¬ ∃ p, OpenPath roads state owner sourceId targetId p
  sound : ∀ route, found = some route → OpenPath roads state owner sourceId targetId route ∧
    route.Nodup ∧ ∀ p, OpenPath roads state owner sourceId targetId p →
      routeCost state route ≤ routeCost state p

/-- To an own tower the search has found the route. -/
theorem cheapestRoute_own (horder : WeakOrder lt) (hne : sourceId ≠ targetId) (ht : Owned state owner targetId) :
    CheapestRoute roads state owner sourceId targetId
      (((friendlyPathsBy lt roads state sourceId owner).get? targetId).map RouteEntry.path) := by
  constructor
  · intro hnone
    rintro ⟨p, hp⟩
    have hsome := (friendlyPathsBy_isSome horder).mpr ⟨p, (openPath_own_iff hne ht).mp hp⟩
    rw [Option.map_eq_none_iff.mp hnone] at hsome
    cases hsome
  · intro route hroute
    obtain ⟨e, he, rfl⟩ := Option.map_eq_some_iff.mp hroute
    obtain ⟨hpath, hcost, hnodup, hleast⟩ := friendlyPathsBy_some horder he
    refine ⟨(openPath_own_iff hne ht).mpr hpath, hnodup, fun p hp => ?_⟩
    rw [routeCost, ← hcost]
    exact hleast p ((openPath_own_iff hne ht).mp hp)

/-- To a hostile tower the cheapest way in is chosen. -/
theorem cheapestRoute_hostile (horder : WeakOrder lt) (hne : sourceId ≠ targetId)
    (htarget : state.territories.get? targetId = some target) (ht : target.owner ≠ owner) :
    CheapestRoute roads state owner sourceId targetId
      (((tacticalNeighborsBy lt roads targetId).foldl (considerEntryBy lt state
        (friendlyPathsBy lt roads state sourceId owner) target targetId) none).map
          RouteEntry.path) := by
  obtain ⟨hsome, hnone⟩ := @foldl_considerEntry _ lt state
    (friendlyPathsBy lt roads state sourceId owner) target targetId
    (tacticalNeighborsBy lt roads targetId) none
  have hterritory : state.territory targetId = target := by
    unfold GameState.territory Record.getD
    rw [htarget]
    rfl
  constructor
  · intro hn
    rintro ⟨p, hp⟩
    obtain ⟨u, q, hq, hroad, -⟩ := (openPath_iff hne).mp hp
    have hfound := (friendlyPathsBy_isSome horder).mpr ⟨q, hq⟩
    have hnot := (hnone (Option.map_eq_none_iff.mp hn)).2 u
      (mem_tacticalNeighborsBy.mpr hroad.symm)
    rw [hnot] at hfound
    cases hfound
  · intro route hroute
    obtain ⟨c, hc, rfl⟩ := Option.map_eq_some_iff.mp hroute
    obtain ⟨hfrom, -, hall⟩ := hsome c hc
    obtain ⟨id, hid, e, he, rfl⟩ : ∃ id ∈ tacticalNeighborsBy lt roads targetId,
        Candidate state (friendlyPathsBy lt roads state sourceId owner) target targetId id c := by
      rcases hfrom with hfrom | hfrom
      · cases hfrom
      · exact hfrom
    obtain ⟨hpath, hcost, hnodup, -⟩ := friendlyPathsBy_some horder he
    have hroad : Road roads id targetId := (mem_tacticalNeighborsBy.mp hid).symm
    refine ⟨(openPath_iff hne).mpr ⟨id, e.path, hpath, hroad, rfl⟩, ?_, fun p hp => ?_⟩
    · -- the target is hostile, the towers before it are not
      rw [List.nodup_append]
      refine ⟨hnodup, List.nodup_singleton targetId, fun a ha b hb hab => ?_⟩
      have hb' : b = targetId := List.mem_singleton.mp hb
      have hmem : targetId ∈ e.path := by rw [← hb', ← hab]; exact ha
      have hhead := hpath.head
      cases hp : e.path with
      | nil =>
        rw [hp] at hmem
        exact absurd hmem List.not_mem_nil
      | cons first rest =>
        rw [hp] at hmem hhead
        rcases List.mem_cons.mp hmem with hfirst | hrest
        · cases hhead
          exact hne hfirst.symm
        · obtain ⟨t, hget, hown⟩ := (pathTo_ownRoad.mp hpath).2 targetId (by rw [hp]; exact hrest)
          rw [htarget] at hget
          cases hget
          exact ht hown
    · obtain ⟨u, q, hq, hroad', rfl⟩ := (openPath_iff hne).mp hp
      obtain ⟨e', he'⟩ := Option.isSome_iff_exists.mp ((friendlyPathsBy_isSome horder).mpr ⟨q, hq⟩)
      have hle := hall u (mem_tacticalNeighborsBy.mpr hroad'.symm) _ ⟨e', he', rfl⟩
      have hleast := (friendlyPathsBy_some horder he').2.2.2 q hq
      rw [routeCost, routeCost, pathCost_snoc _ hpath.last, pathCost_snoc _ hq.last, ← hcost]
      unfold legCostOf
      rw [hterritory]
      dsimp only at hle
      unfold legCostOf at hleast
      omega

/-- What `findDispatchRoute` does under the tactical rules. -/
theorem findDispatchRouteBy_tactical (lt : String → String → Bool) (roads : List (String × String))
    (hrules : usesTacticalRules state.gameplayRulesVersion = true)
    (hsource : Owned state owner sourceId)
    (htarget : state.territories.get? targetId = some target) (hne : sourceId ≠ targetId) :
    findDispatchRouteBy lt roads state sourceId targetId owner =
      if target.owner ≠ owner then
        if targetId ∈ tacticalNeighborsBy lt roads sourceId then some [sourceId, targetId]
        else ((tacticalNeighborsBy lt roads targetId).foldl (considerEntryBy lt state
          (friendlyPathsBy lt roads state sourceId owner) target targetId) none).map RouteEntry.path
      else ((friendlyPathsBy lt roads state sourceId owner).get? targetId).map RouteEntry.path := by
  obtain ⟨source, hs, ho⟩ := hsource
  unfold findDispatchRouteBy
  rw [hs, htarget]
  dsimp only
  rw [if_neg (not_or.mpr ⟨hne, not_not.mpr ho⟩), if_neg (by rw [hrules]; decide)]

end Cases

/-- What finds routes on roads, in a state and from a source to a target, for an owner. -/
abbrev RouteFinder : Type :=
  List (String × String) → GameState → String → String → Team → Option (List String)

/-- **What a route search should do** from an own source to another tower.  A route is
found exactly if there is an open path.  The route is one, visits no tower twice, is the
single road into a hostile target next to the source and otherwise cheapest among the open
paths.  Neither the order and direction in which the roads are listed nor the order of the
towers has an influence on it. -/
structure RouteSearch (find : RouteFinder) (roads : List (String × String)) (state : GameState)
    (sourceId targetId : String) (owner : Team) (target : Territory) : Prop where
  complete : (∃ route, find roads state sourceId targetId owner = some route) ↔
    ∃ p, OpenPath roads state owner sourceId targetId p
  route : ∀ route, find roads state sourceId targetId owner = some route →
    OpenPath roads state owner sourceId targetId route ∧ route.Nodup ∧
    (target.owner ≠ owner → Road roads sourceId targetId → route = [sourceId, targetId]) ∧
    (¬ (target.owner ≠ owner ∧ Road roads sourceId targetId) →
      ∀ p, OpenPath roads state owner sourceId targetId p →
        routeCost state route ≤ routeCost state p)
  order : ∀ (roads' : List (String × String)) (state' : GameState),
    (roads'.map fun r => s(r.1, r.2)).Perm (roads.map fun r => s(r.1, r.2)) →
    (∀ id, state'.territories.get? id = state.territories.get? id) →
    state'.gameplayRulesVersion = state.gameplayRulesVersion →
    find roads' state' sourceId targetId owner = find roads state sourceId targetId owner

/-- **The route search is correct**, on any roads, for any owners and any sites of the
towers, whatever the order of texts that breaks ties. -/
theorem findDispatchRouteBy_correct (horder : TotalOrder lt) (roads : List (String × String))
    {state : GameState} (hrules : usesTacticalRules state.gameplayRulesVersion = true)
    {sourceId targetId : String} {owner : Team} (hsource : Owned state owner sourceId)
    {target : Territory} (htarget : state.territories.get? targetId = some target)
    (hne : sourceId ≠ targetId) :
    RouteSearch (findDispatchRouteBy lt) roads state sourceId targetId owner target := by
  have hfind := findDispatchRouteBy_tactical lt roads hrules hsource htarget hne
  have hlisted : ∀ (roads' : List (String × String)) (state' : GameState),
      (roads'.map fun r => s(r.1, r.2)).Perm (roads.map fun r => s(r.1, r.2)) →
      (∀ id, state'.territories.get? id = state.territories.get? id) →
      state'.gameplayRulesVersion = state.gameplayRulesVersion →
      findDispatchRouteBy lt roads' state' sourceId targetId owner
        = findDispatchRouteBy lt roads state sourceId targetId owner := by
    intro roads' state' hperm hsame hversion
    have hlength := hperm.length_eq
    rw [List.length_map, List.length_map] at hlength
    exact findDispatchRouteBy_congr (tacticalNeighborsBy_perm horder hperm) hlength
      ⟨fun id => by rw [hsame id]⟩ hversion sourceId targetId owner
  by_cases hnext : target.owner ≠ owner ∧ Road roads sourceId targetId
  · -- a hostile target next to the source
    obtain ⟨hhostile, hroad⟩ := hnext
    rw [if_pos hhostile, if_pos (mem_tacticalNeighborsBy.mpr hroad)] at hfind
    have hopen : OpenPath roads state owner sourceId targetId [sourceId, targetId] :=
      (openPath_iff hne).mpr ⟨sourceId, [sourceId], .single _ _, hroad, rfl⟩
    refine ⟨⟨fun _ => ⟨_, hopen⟩, fun _ => ⟨_, hfind⟩⟩, fun route hroute => ?_, hlisted⟩
    rw [hfind] at hroute
    cases hroute
    refine ⟨hopen, ?_, fun _ _ => rfl, fun hn => absurd ⟨hhostile, hroad⟩ hn⟩
    rw [List.nodup_cons]
    exact ⟨by rw [List.mem_singleton]; exact hne, List.nodup_singleton _⟩
  · have hcheapest : CheapestRoute roads state owner sourceId targetId
        (findDispatchRouteBy lt roads state sourceId targetId owner) := by
      rw [hfind]
      by_cases hhostile : target.owner ≠ owner
      · have hfar : ¬ targetId ∈ tacticalNeighborsBy lt roads sourceId := fun hm =>
          hnext ⟨hhostile, mem_tacticalNeighborsBy.mp hm⟩
        rw [if_pos hhostile, if_neg hfar]
        exact cheapestRoute_hostile horder.toWeakOrder hne htarget hhostile
      · rw [if_neg hhostile]
        exact cheapestRoute_own horder.toWeakOrder hne ⟨target, htarget, not_not.mp hhostile⟩
    refine ⟨⟨fun ⟨route, hroute⟩ => ⟨route, (hcheapest.sound route hroute).1⟩, fun hp => ?_⟩,
      fun route hroute => ?_, hlisted⟩
    · cases hr : findDispatchRouteBy lt roads state sourceId targetId owner with
      | none => exact absurd hp (hcheapest.complete hr)
      | some route => exact ⟨route, rfl⟩
    · obtain ⟨hopen, hnodup, hleast⟩ := hcheapest.sound route hroute
      exact ⟨hopen, hnodup, fun hh hr => absurd ⟨hh, hr⟩ hnext, fun _ => hleast⟩

/-- **The route search of the server is correct.** -/
theorem findDispatchRouteOn_correct (roads : List (String × String)) {state : GameState}
    (hrules : usesTacticalRules state.gameplayRulesVersion = true) {sourceId targetId : String}
    {owner : Team} (hsource : Owned state owner sourceId) {target : Territory}
    (htarget : state.territories.get? targetId = some target) (hne : sourceId ≠ targetId) :
    RouteSearch findDispatchRouteOn roads state sourceId targetId owner target :=
  findDispatchRouteBy_correct totalOrder_textBefore roads hrules hsource htarget hne

end CrownClash.Go
