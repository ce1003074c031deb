import CrownClash.Go.Domain
import CrownClash.Parity.RouteText
import CrownClash.Ts.Routes
import CrownClash.Ts.Simulation

/-!
# The two engines agree on combat, roads and dispatch

One lemma for each function that is written twice.  Most of them are equal
outright.  The ones about roads need what every battle state has: the map is a
shipped one (`KnownMap`), since the server gives an unknown map no roads where
the client gives it those of the default map.
-/

namespace CrownClash.Parity

open Lib

/-! ### Rules and combat -/

theorem hasCaptureRecovery_eq (version : ℤ) :
    Ts.hasCaptureRecovery version = Go.hasCaptureRecovery version := by
  rw [Bool.eq_iff_iff]
  simp only [Ts.hasCaptureRecovery, Go.hasCaptureRecovery, Bool.or_eq_true, Bool.and_eq_true,
    beq_iff_eq, decide_eq_true_eq]
  omega

theorem usesTacticalRules_eq (version : ℤ) :
    Ts.usesTacticalRules version = Go.usesTacticalRules version := rfl

theorem getTerritoryDefenseMultiplier_eq (type : TerritoryType) :
    Ts.getTerritoryDefenseMultiplier type = Go.territoryDefenseMultiplier type := by
  cases type <;> rfl

theorem getTerritoryProductionMultiplier_eq (type : TerritoryType) :
    Ts.getTerritoryProductionMultiplier type = Go.territoryProductionMultiplier type := by
  cases type <;> rfl

theorem getTerritoryArmySpeedMultiplier_eq (type : TerritoryType) :
    Ts.getTerritoryArmySpeedMultiplier type = Go.territoryArmySpeedMultiplier type := by
  cases type <;> rfl

theorem getTerritoryDefenseStrength_eq (territory : Territory) (bonus : ℚ) :
    Ts.getTerritoryDefenseStrength territory bonus
      = Go.territoryDefenseStrengthWithBonus territory bonus := by
  rw [Ts.getTerritoryDefenseStrength, Go.territoryDefenseStrengthWithBonus,
    getTerritoryDefenseMultiplier_eq]

theorem getRemainingDefenders_eq (type : TerritoryType) (effectiveUnits : ℤ) (bonus : ℚ) :
    Ts.getRemainingDefenders type effectiveUnits bonus
      = Go.remainingDefenders type effectiveUnits bonus := by
  rw [Ts.getRemainingDefenders, Go.remainingDefenders, getTerritoryDefenseMultiplier_eq]

/-- The part of the client's combat result that the server has too. -/
def combatOf (r : Ts.CombatResult) : Go.CombatResult := ⟨r.newOwner, r.remainingUnits, r.captured⟩

/-- The client has a case of its own for an exact tie, where the server lets the
defenders that remain be none. -/
theorem resolveArrival_eq (target : Territory) (incoming : ℤ) (attacker : Team) (bonus : ℚ) :
    combatOf (Ts.resolveArrival target incoming attacker bonus)
      = Go.resolveArrivalWithBonus target incoming attacker bonus := by
  unfold Ts.resolveArrival Go.resolveArrivalWithBonus
  by_cases h0 : incoming ≤ 0
  · simp only [h0, if_true]
    rfl
  by_cases ho : attacker = target.owner
  · simp only [h0, ho, if_true, if_false]
    rfl
  simp only [h0, ho, if_false]
  rw [getTerritoryDefenseStrength_eq]
  by_cases hgt : incoming > Go.territoryDefenseStrengthWithBonus target bonus
  · simp only [hgt, if_true]
    rfl
  by_cases hlt : incoming < Go.territoryDefenseStrengthWithBonus target bonus
  · simp only [hgt, hlt, if_true, if_false, combatOf, getRemainingDefenders_eq]
  · have he : Go.territoryDefenseStrengthWithBonus target bonus - incoming = 0 := by omega
    simp only [hgt, hlt, if_false, combatOf, he, Go.remainingDefenders, Int.cast_zero, zero_div,
      Int.ceil_zero]

theorem newOwner_resolveArrival (target : Territory) (incoming : ℤ) (attacker : Team)
    (bonus : ℚ) : (Ts.resolveArrival target incoming attacker bonus).newOwner
      = (Go.resolveArrivalWithBonus target incoming attacker bonus).newOwner := by
  rw [← resolveArrival_eq]
  rfl

theorem remainingUnits_resolveArrival (target : Territory) (incoming : ℤ) (attacker : Team)
    (bonus : ℚ) : (Ts.resolveArrival target incoming attacker bonus).remainingUnits
      = (Go.resolveArrivalWithBonus target incoming attacker bonus).remaining := by
  rw [← resolveArrival_eq]
  rfl

theorem captured_resolveArrival (target : Territory) (incoming : ℤ) (attacker : Team)
    (bonus : ℚ) : (Ts.resolveArrival target incoming attacker bonus).captured
      = (Go.resolveArrivalWithBonus target incoming attacker bonus).captured := by
  rw [← resolveArrival_eq]
  rfl

theorem calculateDispatchUnits_eq (units : ℤ) (ratio : ℚ) :
    Ts.calculateDispatchUnits units ratio = Go.calculateDispatchUnitsWithRatio units ratio := rfl

/-! ### The map -/

theorem find_of_known {id : String} (h : ∃ b ∈ battlefields, b.id = id) :
    battlefields.find? (fun b => b.id = id) = some (battlefieldOf id) := by
  unfold battlefieldOf
  cases hf : battlefields.find? fun b => b.id = id with
  | some b => rfl
  | none =>
    obtain ⟨b, hb, he⟩ := h
    exact absurd (decide_eq_true he) (List.find?_eq_none.mp hf b hb)

theorem getBattlefield_eq (id : String) : Ts.getBattlefield id = battlefieldOf id := by
  unfold Ts.getBattlefield Ts.normalizeBattlefieldId
  by_cases h : battlefields.any fun b => b.id = id
  · rw [if_pos h]
    rfl
  · rw [if_neg h]
    unfold battlefieldOf
    have hf : battlefields.find? (fun b => b.id = id) = none := by
      rw [List.find?_eq_none]
      intro b hb he
      exact h (List.any_eq_true.mpr ⟨b, hb, he⟩)
    rw [hf]
    rfl

theorem createDefaultTerritories_eq (player enemy : PlayerUpgradeModifiers) (id : String) :
    Ts.createDefaultTerritories player enemy id
      = Go.createTerritoriesForBattlefield player enemy id := by
  refine Record.ext ?_
  change (Ts.getBattlefield id).territories.map _ = (battlefieldOf id).territories.map _
  rw [getBattlefield_eq]
  rfl

theorem battlefieldRoads_of_known {state : GameState} (h : KnownMap state) :
    Go.battlefieldRoads state.battlefieldId = (battlefieldOf state.battlefieldId).roads := by
  rw [Go.battlefieldRoads, find_of_known h]

theorem tacticalNeighborsOn_eq (roads : List (String × String)) (id : String) :
    Ts.tacticalNeighborsOn roads id = Go.tacticalNeighborsBy utf16Lt roads id := by
  unfold Ts.tacticalNeighborsOn Go.tacticalNeighborsBy
  congr 1
  induction roads with
  | nil => rfl
  | cons r rs ih =>
    rw [List.flatMap_cons, List.filterMap_cons, ih]
    by_cases h1 : r.1 = id
    · simp only [h1, if_true, List.singleton_append]
    · by_cases h2 : r.2 = id
      · simp only [h1, h2, if_true, if_false, List.singleton_append]
      · simp only [h1, h2, if_false, List.nil_append]

theorem roads_eq {state : GameState} (h : KnownMap state) :
    (Ts.getBattlefield state.battlefieldId).roads = Go.battlefieldRoads state.battlefieldId := by
  rw [getBattlefield_eq, battlefieldRoads_of_known h]

/-- The ids of the shipped maps are of the first plane. -/
theorem plainRoads_shipped : ∀ b ∈ battlefields, PlainRoads b.roads := by decide +kernel

theorem plainRoads_of_known {state : GameState} (h : KnownMap state) :
    PlainRoads (Go.battlefieldRoads state.battlefieldId) := by
  rw [battlefieldRoads_of_known h]
  exact plainRoads_shipped _ (List.mem_of_find?_eq_some (find_of_known h))

theorem tacticalNeighbors_eq {state : GameState} (h : KnownMap state) (id : String) :
    Ts.tacticalNeighbors state id = Go.tacticalNeighbors state id := by
  show Ts.tacticalNeighborsOn (Ts.getBattlefield state.battlefieldId).roads id
    = Go.tacticalNeighborsBy Go.textBefore (Go.battlefieldRoads state.battlefieldId) id
  rw [roads_eq h, tacticalNeighborsOn_eq, tacticalNeighborsBy_utf16 (plainRoads_of_known h)]

/-! ### Routes -/

theorem comparePath_neg (a b : List String) :
    Ts.comparePath a b < 0 ↔ utf16Lt (Go.pathKey a) (Go.pathKey b) = true := by
  unfold Ts.comparePath Go.pathKey
  by_cases h : utf16Lt (String.intercalate "|" a) (String.intercalate "|" b) = true
  · simp [h]
  · by_cases h' : utf16Lt (String.intercalate "|" b) (String.intercalate "|" a) = true
    · simp [h, h']
    · simp [h, h']

/-- The server's queue entry of a client one, and the entry of a settled tower. -/
def queueEntryOf (e : Ts.PathEntry) : Go.QueueEntry := ⟨e.id, e.cost, e.path⟩

def routeEntryOf (e : Ts.PathEntry) : Go.RouteEntry := ⟨e.cost, e.path⟩

theorem comparePathEntry_neg (a b : Ts.PathEntry) :
    decide (Ts.comparePathEntry a b < 0)
      = Go.queueBeforeBy utf16Lt (queueEntryOf a) (queueEntryOf b) := by
  unfold Ts.comparePathEntry Go.queueBeforeBy queueEntryOf
  by_cases h : a.cost = b.cost
  · simp [h, comparePath_neg]
  · have h' : a.cost - b.cost ≠ 0 := by omega
    simp only [h', h, ne_eq, not_false_eq_true, if_true, decide_eq_decide]
    omega

theorem chooseRoute_eq (chosen : Option Ts.PathEntry) (candidate : Ts.PathEntry) :
    (Ts.chooseRoute chosen candidate).map routeEntryOf
      = Go.chooseRouteBy utf16Lt (chosen.map routeEntryOf) (routeEntryOf candidate) := by
  cases chosen with
  | none => rfl
  | some c =>
    simp only [Ts.chooseRoute, Go.chooseRouteBy, Option.map_some, comparePath_neg]
    by_cases hc : candidate.cost < c.cost ∨
        (candidate.cost = c.cost ∧
          utf16Lt (Go.pathKey candidate.path) (Go.pathKey c.path) = true)
    · have hc' : (routeEntryOf candidate).cost < (routeEntryOf c).cost ∨
          ((routeEntryOf candidate).cost = (routeEntryOf c).cost ∧
            utf16Lt (Go.pathKey (routeEntryOf candidate).path)
              (Go.pathKey (routeEntryOf c).path) = true) := hc
      rw [if_pos hc, if_pos hc']
      rfl
    · have hc' : ¬ ((routeEntryOf candidate).cost < (routeEntryOf c).cost ∨
          ((routeEntryOf candidate).cost = (routeEntryOf c).cost ∧
            utf16Lt (Go.pathKey (routeEntryOf candidate).path)
              (Go.pathKey (routeEntryOf c).path) = true)) := hc
      rw [if_neg hc, if_neg hc']
      rfl

section Routes

variable [MathLib]

theorem legCost_eq (source target : Territory) :
    Ts.legCost source target = Go.legCost source target := by
  unfold Ts.legCost Go.legCost
  rw [roundHalfAway_of_nonneg (mul_nonneg (hypot_nonneg _ _) (by norm_num))]

theorem friendlyPushesOn_eq (roads : List (String × String)) (state : GameState) (owner : Team)
    (best : Record String Ts.PathEntry) (next : Ts.PathEntry) :
    (Ts.friendlyPushesOn roads state owner best next).map queueEntryOf
      = Go.friendlyPushesBy utf16Lt roads state owner (best.map fun _ e => routeEntryOf e)
          (queueEntryOf next) := by
  unfold Ts.friendlyPushesOn Go.friendlyPushesBy
  rw [tacticalNeighborsOn_eq, List.map_filterMap]
  refine List.filterMap_congr fun id _ => ?_
  cases state.territories.get? id with
  | none => rfl
  | some t =>
    simp only [Record.get?_map, Option.isSome_map]
    split
    · rfl
    · rw [Option.map_some, legCost_eq]
      rfl

theorem friendlyPathsLoopOn_eq (roads : List (String × String)) (state : GameState)
    (owner : Team) : ∀ (fuel : ℕ) (queue : List Ts.PathEntry) (best : Record String Ts.PathEntry),
      (Ts.friendlyPathsLoopOn roads state owner fuel queue best).map (fun _ e => routeEntryOf e)
        = Go.friendlyPathsLoopBy utf16Lt roads state owner fuel (queue.map queueEntryOf)
            (best.map fun _ e => routeEntryOf e) := by
  intro fuel
  induction fuel with
  | zero => intro queue best; rfl
  | succ fuel ih =>
    intro queue best
    rw [Ts.friendlyPathsLoopOn, Go.friendlyPathsLoopBy]
    have hs : (sortBy (fun a b => decide (Ts.comparePathEntry a b < 0)) queue).map queueEntryOf
        = sortBy (Go.queueBeforeBy utf16Lt) (queue.map queueEntryOf) := by
      rw [← sortBy_map]
      congr 2
      funext a b
      exact comparePathEntry_neg a b
    rw [← hs]
    cases sortBy (fun a b => decide (Ts.comparePathEntry a b < 0)) queue with
    | nil => rfl
    | cons next rest =>
      simp only [List.map_cons, Record.get?_map, Option.isSome_map]
      by_cases hb : (best.get? next.id).isSome
      · have hb' : (best.get? (queueEntryOf next).id).isSome = true := hb
        rw [if_pos hb, if_pos hb']
        exact ih rest best
      · have hb' : ¬ (best.get? (queueEntryOf next).id).isSome = true := hb
        rw [if_neg hb, if_neg hb', ih, List.map_append, friendlyPushesOn_eq, Record.map_set]
        rfl

theorem friendlyPathsOn_eq (roads : List (String × String)) (state : GameState)
    (sourceId : String) (owner : Team) :
    (Ts.friendlyPathsOn roads state sourceId owner).map (fun _ e => routeEntryOf e)
      = Go.friendlyPathsBy utf16Lt roads state sourceId owner :=
  friendlyPathsLoopOn_eq roads state owner _ _ _

theorem foldl_considerEntry_eq (state : GameState) (reachable : Record String Ts.PathEntry)
    (target : Territory) (targetId : String) (ids : List String) :
    ∀ chosen : Option Ts.PathEntry,
      (ids.foldl (Ts.considerEntry state reachable target targetId) chosen).map routeEntryOf
        = ids.foldl (Go.considerEntryBy utf16Lt state (reachable.map fun _ e => routeEntryOf e) target
            targetId) (chosen.map routeEntryOf) := by
  induction ids with
  | nil => intro chosen; rfl
  | cons id ids ih =>
    intro chosen
    rw [List.foldl_cons, List.foldl_cons, ih]
    congr 1
    rw [Ts.considerEntry, Go.considerEntryBy, Record.get?_map]
    cases reachable.get? id with
    | none => rfl
    | some entry =>
      simp only [Option.map_some]
      rw [chooseRoute_eq, legCost_eq]
      rfl

/-- **The search of the client is that of the server with another order of the texts.** -/
theorem findDispatchRouteOn_by (roads : List (String × String)) (state : GameState)
    (sourceId targetId : String) (owner : Team) :
    Ts.findDispatchRouteOn roads state sourceId targetId owner
      = Go.findDispatchRouteBy utf16Lt roads state sourceId targetId owner := by
  unfold Ts.findDispatchRouteOn Go.findDispatchRouteBy
  cases state.territories.get? sourceId with
  | none => rfl
  | some source =>
    cases state.territories.get? targetId with
    | none => rfl
    | some target =>
      simp only [usesTacticalRules_eq, tacticalNeighborsOn_eq, Bool.not_eq_true',
        List.contains_iff_mem]
      have hpath : ∀ o : Option Ts.PathEntry,
          o.map Ts.PathEntry.path = (o.map routeEntryOf).map Go.RouteEntry.path := by
        intro o
        cases o <;> rfl
      rw [hpath, hpath, foldl_considerEntry_eq, friendlyPathsOn_eq,
        ← Record.get?_map (fun _ e => routeEntryOf e), friendlyPathsOn_eq]
      rfl

/-- **The route search of the client is correct.** -/
theorem findDispatchRouteOn_correct (roads : List (String × String)) {state : GameState}
    (hrules : Go.usesTacticalRules state.gameplayRulesVersion = true)
    {sourceId targetId : String} {owner : Team} (hsource : Go.Owned state owner sourceId)
    {target : Territory} (htarget : state.territories.get? targetId = some target)
    (hne : sourceId ≠ targetId) :
    Go.RouteSearch Ts.findDispatchRouteOn roads state sourceId targetId owner target := by
  have hsearch : Ts.findDispatchRouteOn = Go.findDispatchRouteBy utf16Lt := by
    funext roads state sourceId targetId owner
    exact findDispatchRouteOn_by roads state sourceId targetId owner
  rw [hsearch]
  exact Go.findDispatchRouteBy_correct totalOrder_utf16Lt roads hrules hsource htarget hne

/-- **Both engines route a dispatch the same way** between ids of the first plane. -/
theorem findDispatchRouteOn_eq {roads : List (String × String)} (h : PlainRoads roads)
    (state : GameState) (sourceId targetId : String) (owner : Team) :
    Ts.findDispatchRouteOn roads state sourceId targetId owner
      = Go.findDispatchRouteOn roads state sourceId targetId owner := by
  rw [findDispatchRouteOn_by, findDispatchRouteBy_utf16 h]

/-- The same on the roads of a shipped map. -/
theorem findDispatchRoute_eq {state : GameState} (h : KnownMap state)
    (sourceId targetId : String) (owner : Team) :
    Ts.findDispatchRoute state sourceId targetId owner
      = Go.findDispatchRoute state sourceId targetId owner := by
  rw [Ts.findDispatchRoute_on, Go.findDispatchRoute_on, roads_eq h,
    findDispatchRouteOn_eq (plainRoads_of_known h)]

end Routes

end CrownClash.Parity
