import CrownClash.Go.LaneRun
import CrownClash.Parity.BotBattle
import CrownClash.Ts.Lanes

/-!
# The two engines agree on a lane battle

Function by function: the lanes, the two loops of a step, the policy of the bot,
the engine.  The client prunes its lanes before they emit and the server skips
them while they do, which is the same because emission changes no owner.  The
client sorts the towers it may rescue and takes the first, the server keeps the
least one it has seen.  The client remembers its cuts as texts, and the texts
separate the towers because no name on a map holds the sign between them.

The one difference is the check of the recorded orders: a name that every object
inherits passes it on the client and not on the server.
-/

namespace CrownClash.Parity

open Lib

/-! ### Lanes -/

theorem cutLane_eq (lanes : LaneState) (owner : Team) (sourceId targetId : String) :
    Ts.cutLane lanes owner sourceId targetId = (Go.cutLane lanes owner sourceId targetId).1 := by
  unfold Ts.cutLane Go.cutLane
  dsimp only
  split <;> rfl

theorem maxLanes_eq {state : GameState} {lanes : LaneState} (h : Go.LanesOk state lanes)
    (id : String) : Ts.maxLanes state id = Go.maxLanes state id := by
  unfold Ts.maxLanes Go.maxLanes
  cases ht : state.territories.get? id with
  | none => rfl
  | some t =>
    dsimp only
    rw [if_pos (h.tiers id t ht)]

section Opening

variable [MathLib]

theorem routeLength_eq (state : GameState) : ∀ route : List String,
    Ts.routeLength state route = Go.laneRouteLength state route := by
  intro route
  induction route with
  | nil => rfl
  | cons a route ih =>
    cases route with
    | nil => rfl
    | cons b route => rw [Ts.routeLength, Go.laneRouteLength, ih]

theorem routeSeconds_eq (state : GameState) (route : List String) :
    Ts.routeSeconds state route = Go.laneRouteSeconds state route := by
  unfold Ts.routeSeconds Go.laneRouteSeconds
  rw [routeLength_eq]
  rfl

/-- **Both engines open the same lane.** -/
theorem openLane_eq {state : GameState} {lanes : LaneState} (h : Go.LanesOk state lanes)
    (owner : Team) (sourceId targetId : String) :
    Ts.openLane state lanes owner sourceId targetId
      = Go.openLane state lanes owner sourceId targetId := by
  unfold Ts.openLane Go.openLane Go.countLanes
  rw [maxLanes_eq h, findDispatchRoute_eq h.ok.known] <;> rfl

end Opening

/-! ### The step -/

/-- Both soldier loops hold the same. -/
structure LaneMarchEq (m : Ts.LaneMarch) (g : Go.LaneMarch) : Prop where
  territories : m.territories = g.territories
  stats : m.stats = g.stats
  flying : m.flying = g.flying

theorem moveSoldier_eq (delta : ℚ) {m : Ts.LaneMarch} {g : Go.LaneMarch} (h : LaneMarchEq m g)
    (soldier : Soldier) :
    LaneMarchEq (Ts.moveSoldier delta m soldier) (Go.moveSoldier delta g soldier) := by
  obtain ⟨ht, hs, hf⟩ := h
  unfold Ts.moveSoldier Go.moveSoldier Go.laneEpsilon
  dsimp only
  by_cases hr : soldier.remaining - delta > 1 / 10 ^ 9
  · rw [if_pos hr, if_pos hr]
    exact ⟨ht, hs, by rw [hf]⟩
  rw [if_neg hr, if_neg hr, ht]
  cases g.territories.get? soldier.targetId with
  | none => exact ⟨ht, hs, hf⟩
  | some target =>
    dsimp only
    unfold Go.meetTower Go.countCapture
    by_cases ho : target.owner = soldier.owner
    · rw [if_pos ho, if_pos ho, if_pos (Or.inl ho)]
      exact ⟨rfl, hs, hf⟩
    by_cases hu : target.units > 0
    · rw [if_neg ho, if_neg ho, if_pos hu, if_pos hu, if_pos (Or.inr hu)]
      exact ⟨rfl, hs, hf⟩
    · have hn : ¬ (target.owner = soldier.owner ∨ target.units > 0) :=
        not_or.mpr ⟨ho, hu⟩
      rw [if_neg ho, if_neg ho, if_neg hu, if_neg hu, if_neg hn, hs]
      exact ⟨rfl, rfl, hf⟩

theorem moveSoldiers_eq (state : GameState) (lanes : LaneState) (delta : ℚ) :
    LaneMarchEq
      (lanes.soldiers.foldl (Ts.moveSoldier delta) ⟨state.territories, state.stats, []⟩)
      (Go.moveSoldiers state lanes delta) :=
  foldl_lockstep (R := LaneMarchEq) (fun _ _ s _ h => moveSoldier_eq delta h s) ⟨rfl, rfl, rfl⟩

/-- A wait of the client in the server's words. -/
def waitOf (w : Ts.LaneWait) : Go.LaneWait := ⟨w.wait, w.source, w.stats, w.emitted⟩

theorem emitOnce_eq (lane : Lane) (total : ℚ) (w : Ts.LaneWait) :
    waitOf (Ts.emitOnce lane total w) = Go.emitOnce lane total (waitOf w) := by
  unfold Ts.emitOnce Go.emitOnce waitOf Go.addUnitsDispatched
  dsimp only
  by_cases hu : w.source.units > 1
  · rw [if_pos hu, if_pos hu]
    rfl
  · rw [if_neg hu, if_neg hu]
    rfl

theorem emitLoop_eq (lane : Lane) (total : ℚ) (w : Ts.LaneWait) :
    waitOf (Ts.emitLoop lane total w) = Go.emitLoop lane total (waitOf w) :=
  whileLoop_lockstep (R := fun v v' => waitOf v = v')
    (fun v v' h => by subst h; rfl)
    (fun v v' _ h => by subst h; exact emitOnce_eq lane total v) _ rfl

/-- Both emission loops hold the same, and every tower still stands as it did
when the loop began. -/
structure LaneEmitEq (start : Record String Territory) (e : Ts.LaneEmit) (g : Go.LaneEmit) :
    Prop where
  territories : e.territories = g.territories
  stats : e.stats = g.stats
  emitted : e.emitted = g.emitted
  nextLanes : e.nextLanes = g.nextLanes
  standing : (g.territories.map fun _ => Go.standing) = start.map fun _ => Go.standing

theorem owner_of_standing {r start : Record String Territory} {id : String}
    (h : (r.map fun _ => Go.standing) = start.map fun _ => Go.standing) (hid : id ∈ start.keys) :
    (start.get? id).map Territory.owner
      = some (r.getD id Territory.zero).owner := by
  obtain ⟨t, ht⟩ := Record.exists_get?_of_mem_keys hid
  have hget : (r.get? id).map Go.standing = (start.get? id).map Go.standing := by
    rw [← Record.get?_map (fun _ => Go.standing), h, Record.get?_map]
  rw [ht, Option.map_some] at hget
  obtain ⟨u, hu, he⟩ := Option.map_eq_some_iff.mp hget
  have howner := congrArg Territory.owner he
  change u.owner = t.owner at howner
  rw [ht, Record.getD, hu, Option.map_some, Option.getD_some, howner]

section Step

variable [MathLib]

theorem emitLane_eq (state : GameState) (delta : ℚ) {start : Record String Territory}
    {e : Ts.LaneEmit} {g : Go.LaneEmit} (h : LaneEmitEq start e g) {lane : Lane}
    (hl : lane.sourceId ∈ start.keys) :
    LaneEmitEq start
      (if (start.get? lane.sourceId).map Territory.owner = some lane.owner then
        Ts.emitLane state delta e lane else e)
      (Go.emitLane state delta g lane) := by
  have howner := owner_of_standing h.standing hl
  have hk : lane.sourceId ∈ g.territories.keys := by
    rw [Go.keys_of_map_eq h.standing]
    exact hl
  have hst := (Go.emitLane_standing state delta hk).trans h.standing
  rw [howner]
  unfold Go.emitLane at hst ⊢
  dsimp only at hst ⊢
  by_cases ho : (g.territories.getD lane.sourceId Territory.zero).owner = lane.owner
  · rw [if_neg (not_not.mpr ho)] at hst ⊢
    rw [if_pos (congrArg some ho)]
    unfold Ts.emitLane
    dsimp only
    have hloop := emitLoop_eq lane (Ts.routeSeconds state lane.routeIds)
      ⟨lane.nextEmitIn - delta, e.territories.getD lane.sourceId Territory.zero, e.stats,
        e.emitted⟩
    have hstart : waitOf ⟨lane.nextEmitIn - delta,
        e.territories.getD lane.sourceId Territory.zero, e.stats, e.emitted⟩
        = ⟨lane.nextEmitIn - delta, g.territories.getD lane.sourceId Territory.zero, g.stats,
          g.emitted⟩ := by
      unfold waitOf
      rw [h.territories, h.stats, h.emitted]
    rw [hstart, routeSeconds_eq] at hloop
    rw [← hloop] at hst ⊢
    rw [routeSeconds_eq]
    exact
      { territories := by rw [h.territories]; rfl
        stats := rfl
        emitted := rfl
        nextLanes := by rw [h.nextLanes]; rfl
        standing := hst }
  · rw [if_pos ho, if_neg fun hc => ho (Option.some.inj hc)]
    exact h

/-- **Pruning first is skipping on the way.** -/
theorem emitLanes_eq (state : GameState) {m : Ts.LaneMarch} {g : Go.LaneMarch}
    (h : LaneMarchEq m g) (lanes : LaneState) (delta : ℚ)
    (hl : ∀ l ∈ lanes.lanes, l.sourceId ∈ g.territories.keys) :
    LaneEmitEq g.territories
      ((Ts.pruneDeadLanes m.territories lanes.lanes).foldl (Ts.emitLane state delta)
        ⟨m.territories, m.stats, [], []⟩)
      (Go.emitLanes state g lanes delta) := by
  unfold Ts.pruneDeadLanes Go.emitLanes
  rw [h.territories, h.stats, List.foldl_filter]
  refine foldl_lockstep (R := LaneEmitEq g.territories) ?_ ⟨rfl, rfl, rfl, rfl, rfl⟩
  intro e e' lane hlane he
  simp only [decide_eq_true_eq]
  exact emitLane_eq state delta he (hl lane hlane)

/-- A client step in the server's words. -/
def laneStepOf (r : Ts.LaneStepResult) : Go.LaneBattle := ⟨r.state, r.accumulators, r.lanes⟩

theorem stepLanes_eq {state : GameState} {lanes : LaneState} (h : Go.LanesOk state lanes)
    (accumulators : Accumulators) (delta : ℚ) :
    laneStepOf (Ts.stepLanes state accumulators lanes delta)
      = Go.stepLanes state accumulators lanes delta := by
  have hm := moveSoldiers_eq state lanes delta
  have hk := Go.keys_of_map_eq (Go.moveSoldiers_ground state lanes delta)
  have he := emitLanes_eq state hm lanes delta
    (fun l hl => by rw [hk]; exact (h.ends l hl).source)
  unfold Ts.stepLanes Go.stepLanes laneStepOf Go.laneStatus
  dsimp only
  rw [he.territories, he.stats, he.emitted, he.nextLanes, hm.flying]
  rfl

/-- **One lane step, twice.** -/
theorem stepLaneSimulation_eq {state : GameState} {lanes : LaneState} {a b : Accumulators}
    {delta : ℚ} (h : Go.LanesOk state lanes) (hδ : 0 ≤ delta)
    (hacc : AccEq state.territories.keys a b) :
    (Ts.stepLaneSimulation state a lanes delta).state
        = (Go.stepLaneSimulation state b lanes delta).state ∧
      (Ts.stepLaneSimulation state a lanes delta).lanes
        = (Go.stepLaneSimulation state b lanes delta).lanes ∧
      AccEq state.territories.keys (Ts.stepLaneSimulation state a lanes delta).accumulators
        (Go.stepLaneSimulation state b lanes delta).accumulators := by
  obtain ⟨hs, ha⟩ := stepSimulation_eq h.ok hδ hacc
  unfold Ts.stepLaneSimulation Go.stepLaneSimulation
  dsimp only
  rw [hs]
  by_cases hp : (Go.stepSimulation state b delta).1.status = .playing
  · rw [if_neg (not_not.mpr hp), if_neg (not_not.mpr hp)]
    have hl := stepLanes_eq (h.base b hδ) (Ts.stepSimulation state a delta).accumulators delta
    have hstate := congrArg Go.LaneBattle.state hl
    have hlanes := congrArg Go.LaneBattle.lanes hl
    exact ⟨hstate, hlanes, ha⟩
  · rw [if_pos hp, if_pos hp]
    exact ⟨rfl, rfl, ha⟩

end Step

/-! ### The policy -/

theorem laneTowers_eq {state : GameState} (h : Go.BattleOk state) :
    Ts.laneTowers state = Go.laneTowers state := sortedTowers_eq h

theorem regeneration_eq (t : Territory) : Ts.regeneration t = Go.laneRegeneration t := by
  unfold Ts.regeneration Go.laneRegeneration
  rw [getTerritoryProductionMultiplier_eq]

/-- The cuts of the client and of the server. -/
theorem cutOrder_eq {state : GameState} {lane : Lane} {team : Team}
    (hl : Go.LaneEndsOk state lane) :
    (if lane.owner = team then Ts.cutOrder state team lane else none)
      = Go.cutOrder state team lane := by
  unfold Ts.cutOrder Go.cutOrder
  by_cases ho : lane.owner = team
  · rw [if_pos ho, if_neg (not_not.mpr ho)]
    cases state.territories.get? lane.targetId with
    | none => rfl
    | some target =>
      cases state.territories.get? lane.sourceId with
      | none => rfl
      | some source =>
        dsimp only
        rw [if_neg hl.ne, regeneration_eq]
        rfl
  · rw [if_neg ho, if_pos ho]

theorem cuts_eq {state : GameState} {lanes : LaneState} (h : Go.LanesOk state lanes)
    (team : Team) :
    (lanes.lanes.filter fun l => l.owner = team).filterMap (Ts.cutOrder state team)
      = lanes.lanes.filterMap (Go.cutOrder state team) := by
  rw [List.filterMap_filter]
  refine List.filterMap_congr fun l hl => ?_
  rw [← cutOrder_eq (h.ends l hl)]
  simp only [decide_eq_true_eq]

/-! A cut is remembered as a text.  The towers of a map have no `>` in their names. -/

theorem toList_cutKey (source target : String) :
    (Ts.cutKey source target).toList = source.toList ++ '>' :: target.toList := by
  unfold Ts.cutKey
  rw [String.toList_append, String.toList_append, List.append_assoc]
  rfl

theorem append_cons_inj {α : Type} {c : α} : ∀ {a a' b b' : List α}, c ∉ a → c ∉ a' →
    a ++ c :: b = a' ++ c :: b' → a = a' ∧ b = b' := by
  intro a
  induction a with
  | nil =>
    intro a' b b' _ h' he
    cases a' with
    | nil => exact ⟨rfl, List.tail_eq_of_cons_eq he⟩
    | cons x a' =>
      have hx : c = x := List.head_eq_of_cons_eq he
      exact absurd (hx ▸ List.mem_cons_self) h'
  | cons x a ih =>
    intro a' b b' h h' he
    cases a' with
    | nil =>
      have hx : x = c := List.head_eq_of_cons_eq he
      exact absurd (hx ▸ List.mem_cons_self) h
    | cons y a' =>
      have hxy : x = y := List.head_eq_of_cons_eq he
      obtain ⟨ha, hb⟩ := ih (fun hc => h (List.mem_cons_of_mem _ hc))
        (fun hc => h' (List.mem_cons_of_mem _ hc)) (List.tail_eq_of_cons_eq he)
      exact ⟨by rw [hxy, ha], hb⟩

theorem cutKey_inj {s s' t t' : String} (h : '>' ∉ s.toList) (h' : '>' ∉ s'.toList) :
    Ts.cutKey s t = Ts.cutKey s' t' ↔ s = s' ∧ t = t' := by
  constructor
  · intro he
    have hl := congrArg String.toList he
    rw [toList_cutKey, toList_cutKey] at hl
    obtain ⟨hs, ht⟩ := append_cons_inj h h' hl
    exact ⟨String.toList_inj.mp hs, String.toList_inj.mp ht⟩
  · rintro ⟨rfl, rfl⟩
    rfl

theorem templates_plain : ∀ b ∈ battlefields, ∀ id ∈ b.order, '>' ∉ id.toList := by decide

theorem plain_of_key {state : GameState} (h : Go.BattleOk state) {id : String}
    (hid : id ∈ state.territories.keys) : '>' ∉ id.toList := by
  rw [h.keys] at hid
  exact templates_plain _ (battlefieldOf_mem state.battlefieldId) id hid

theorem cutOrder_source {state : GameState} {team : Team} {lane : Lane} {o : LaneOrder}
    (h : Go.cutOrder state team lane = some o) : o.source = lane.sourceId := by
  unfold Go.cutOrder at h
  split at h
  · cases h
  cases ht : state.territories.get? lane.targetId with
  | none => rw [ht] at h; cases h
  | some target =>
    cases hs : state.territories.get? lane.sourceId with
    | none => rw [ht, hs] at h; cases h
    | some source =>
      rw [ht, hs] at h
      dsimp only at h
      split at h
      · cases h
        rfl
      · cases h

/-- **Both engines keep the same lanes.** -/
theorem active_eq {state : GameState} {lanes : LaneState} (h : Go.LanesOk state lanes)
    (team : Team) :
    (lanes.lanes.filter fun l => l.owner = team ∧ Ts.cutKey l.sourceId l.targetId ∉
        (lanes.lanes.filterMap (Go.cutOrder state team)).map
          fun o => Ts.cutKey o.source o.target)
      = Go.activeLanes lanes team (lanes.lanes.filterMap (Go.cutOrder state team)) := by
  unfold Go.activeLanes Go.isCut
  refine List.filter_congr fun l hl => ?_
  have hplain := plain_of_key h.ok (h.ends l hl).source
  have hmem : Ts.cutKey l.sourceId l.targetId ∈
      (lanes.lanes.filterMap (Go.cutOrder state team)).map (fun o => Ts.cutKey o.source o.target)
        ↔ (lanes.lanes.filterMap (Go.cutOrder state team)).any
            (fun c => c.source = l.sourceId ∧ c.target = l.targetId) = true := by
    rw [List.mem_map, List.any_eq_true]
    refine exists_congr fun o => and_congr_right fun ho => ?_
    obtain ⟨l', hl', hcut⟩ := List.mem_filterMap.mp ho
    have hplain' : '>' ∉ o.source.toList := by
      rw [cutOrder_source hcut]
      exact plain_of_key h.ok (h.ends l' hl').source
    rw [cutKey_inj hplain' hplain, decide_eq_true_eq]
  rw [decide_eq_decide, hmem, Bool.not_eq_true]

theorem keepWeakest_eq (rescue : Option Territory) (t : Territory) :
    Go.keepWeakest rescue t = keepLeast Ts.weakerBefore rescue t := by
  unfold Go.keepWeakest keepLeast Ts.weakerBefore
  cases rescue with
  | none => rfl
  | some r =>
    dsimp only
    by_cases he : t.units = r.units
    · rw [if_neg (not_not.mpr he)]
      simp only [true_and, false_or, decide_eq_true_eq, he, lt_irrefl]
    · rw [if_pos he]
      simp only [he, false_and, or_false, decide_eq_true_eq]

theorem weakOrder_weakerBefore : WeakOrder Ts.weakerBefore :=
  weakOrder_lex Territory.units Territory.id

section Policy

variable [MathLib]

theorem needsRescue_iff {state : GameState} (h : Go.BattleOk state) (lanes : LaneState)
    (team : Team) (active own : List Lane) (source t : Territory) :
    Go.needsRescue state lanes team active own source t
      = (decide (t.owner = team ∧ t.id ≠ source.id ∧ Ts.attackedBy lanes team t > 0 ∧
            t.units < 8 ∧ source.units ≥ 12 ∧ Ts.targeted active t = 0) &&
          decide ((!own.any fun l => l.targetId = t.id) = true ∧
            (Ts.findDispatchRoute state source.id t.id team).isSome = true)) := by
  unfold Go.needsRescue Go.hasOwnTo
  rw [← findDispatchRoute_eq h.known]
  have hat : Go.attackedBy lanes team t = Ts.attackedBy lanes team t := rfl
  have htg : Go.targeted active t = Ts.targeted active t := rfl
  rw [hat, htg, Bool.eq_iff_iff]
  simp only [Bool.and_eq_true, Bool.not_eq_true', Bool.or_eq_false_iff, decide_eq_false_iff_not,
    decide_eq_true_eq, Go.laneRescueMaxHold, not_le, not_lt, not_not, ge_iff_le,
    Option.isSome_iff_ne_none, gt_iff_lt, and_assoc, ne_eq]

/-- **Both engines rescue the same tower.** -/
theorem rescue_eq {state : GameState} (h : Go.BattleOk state) (lanes : LaneState) (team : Team)
    (active own : List Lane) (source : Territory) :
    (Go.laneTowers state).foldl (fun rescue t =>
        if Go.needsRescue state lanes team active own source t then Go.keepWeakest rescue t
        else rescue) none
      = (Ts.rescues state lanes team active own source).head? := by
  unfold Ts.rescues
  dsimp only
  rw [← foldl_keepLeast weakOrder_weakerBefore, List.filter_filter, List.foldl_filter,
    laneTowers_eq h]
  refine congrArg (fun f => List.foldl f none (Go.laneTowers state)) ?_
  funext rescue t
  rw [keepWeakest_eq, needsRescue_iff h, Bool.and_comm]

theorem optionScore_eq (lanes : LaneState) (team : Team) (source t : Territory) :
    (t.units : ℚ) + (if t.owner = .neutral then 0 else 3)
        + hypot (t.x - source.x) (t.y - source.y) / 45
        - (if Ts.attackedBy lanes team t > 0 then 2 else 0)
      = Go.optionScore lanes team source t := by
  have hat : Go.attackedBy lanes team t = Ts.attackedBy lanes team t := rfl
  unfold Go.optionScore
  dsimp only
  rw [hat]
  by_cases ho : t.owner = .neutral
  · rw [if_pos ho, if_neg (not_not.mpr ho), add_zero]
    split
    · rfl
    · rw [sub_zero]
  · rw [if_neg ho, if_pos ho]
    split
    · rfl
    · rw [sub_zero]

/-- **Both engines rank the same targets.** -/
theorem laneOptions_eq {state : GameState} (h : Go.BattleOk state) (lanes : LaneState)
    (team : Team) (active own : List Lane) (source : Territory) :
    Ts.laneOptions state lanes team active own source
      = sortBy Go.optionBefore
          (((Go.laneTowers state).filter (Go.isOption state team active own source)).map
            fun t => (t, Go.optionScore lanes team source t)) := by
  have hbefore : Ts.optionBefore = Go.optionBefore := rfl
  unfold Ts.laneOptions
  dsimp only
  rw [hbefore, laneTowers_eq h, List.filter_filter]
  simp only [optionScore_eq]
  refine congrArg (fun l : List Territory => sortBy Go.optionBefore
    (l.map fun t => (t, Go.optionScore lanes team source t))) ?_
  refine List.filter_congr fun t _ => ?_
  have htg : Ts.targeted active t = Go.targeted active t := rfl
  have hrate : Ts.laneRate = Go.laneRate := rfl
  unfold Go.isOption Go.hasOwnTo
  rw [← findDispatchRoute_eq h.known, htg, hrate, regeneration_eq, Bool.eq_iff_iff]
  simp only [Bool.and_eq_true, Bool.not_eq_true', Bool.or_eq_false_iff, decide_eq_false_iff_not,
    decide_eq_true_eq, not_le, ge_iff_le, gt_iff_lt, Option.isSome_iff_ne_none, ne_eq,
    Bool.not_eq_false', and_assoc]
  tauto

theorem openOrder_eq {state : GameState} {lanes : LaneState} (h : Go.LanesOk state lanes)
    (team : Team) (active : List Lane) (source : Territory) :
    (if source.owner = team ∧ source.units ≥ 4 then
        Ts.openOrder state lanes team active source else none)
      = Go.openOrder state lanes team active source := by
  unfold Ts.openOrder Go.openOrder
  dsimp only
  by_cases hready : source.owner = team ∧ source.units ≥ 4
  · have hn : ¬ (source.owner ≠ team ∨ source.units < 4) :=
      not_or.mpr ⟨not_not.mpr hready.1, not_lt.mpr hready.2⟩
    rw [if_pos hready, if_neg hn, maxLanes_eq h, rescue_eq h.ok, laneOptions_eq h.ok]
    split
    · rfl
    · cases (Ts.rescues state lanes team active
          (active.filter fun l => l.sourceId = source.id) source).head? with
      | some r => rfl
      | none =>
        dsimp only
        cases sortBy Go.optionBefore _ with
        | nil => rfl
        | cons best rest => rfl
  · have hn : source.owner ≠ team ∨ source.units < 4 := by
      by_contra hc
      rw [not_or, not_not, not_lt] at hc
      exact hready hc
    rw [if_neg hready, if_pos hn]

/-- **Both bots plan the same lanes.** -/
theorem planLanes_eq {state : GameState} {lanes : LaneState} (h : Go.LanesOk state lanes)
    (team : Team) :
    (Ts.planLanes state lanes team).opens = (Go.planLanes state lanes team).opens ∧
      (Ts.planLanes state lanes team).cuts = (Go.planLanes state lanes team).cuts := by
  unfold Ts.planLanes Go.planLanes
  dsimp only
  rw [cuts_eq h, active_eq h, laneTowers_eq h.ok, List.filterMap_filter]
  refine ⟨List.filterMap_congr fun source _ => ?_, rfl⟩
  rw [← openOrder_eq h]
  simp only [decide_eq_true_eq]

end Policy

end CrownClash.Parity
