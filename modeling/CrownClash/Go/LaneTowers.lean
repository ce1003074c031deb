import CrownClash.Go.Conservation
import CrownClash.Go.LaneRun
import CrownClash.Go.Routes
import CrownClash.Lib.Text

/-!
# Server: lanes, garrisons and soldiers

Three things are kept by the orders and the steps of a lane battle.  `LanesKept` is
about the lanes: no two join the same towers for the same side, none has another's
number, every one starts at a tower of its side, and no tower has more of them than
its tier allows.  `Housed` is about a garrison: it is not negative and fits its
tower.  `laneUnits` counts what a side has, in its towers and on the road: an
arrival adds nothing to it, and an emission only moves a unit from a tower to the
road (`moveSoldiers_units`, `emitLanes_units`).

A step drops lanes and changes clocks, so what it does to the list of lanes is said
up to the clocks: `emitLanes_kept`.
-/

namespace CrownClash.Go

open Lib

/-! ### The lanes -/

/-- A lane without its clock. -/
def untimed (l : Lane) : Lane := { l with nextEmitIn := 0 }

/-- The number of lanes that leave a tower. -/
def outgoing (lanes : LaneState) (towerId : String) : ℕ :=
  (lanes.lanes.filter fun l => l.sourceId = towerId).length

/-- Two lanes of one side that join the same towers. -/
def SameEnds (a b : Lane) : Prop :=
  a.owner = b.owner ∧ a.sourceId = b.sourceId ∧ a.targetId = b.targetId

structure LanesKept (state : GameState) (lanes : LaneState) : Prop where
  distinct : lanes.lanes.Pairwise fun a b => ¬ SameEnds a b
  ids : (lanes.lanes.map Lane.id).Nodup
  numbered : ∀ l ∈ lanes.lanes, ∃ n < lanes.nextLaneId, l.id = "lane_" ++ toString n
  held : ∀ l ∈ lanes.lanes, (state.territory l.sourceId).owner = l.owner
  width : ∀ id, outgoing lanes id ≤ maxLanes state id

/-- A battle without lanes. -/
theorem lanesKept_empty (state : GameState) : LanesKept state emptyLaneState where
  distinct := List.Pairwise.nil
  ids := List.nodup_nil
  numbered := fun _ hl => absurd hl List.not_mem_nil
  held := fun _ hl => absurd hl List.not_mem_nil
  width := fun _ => Nat.zero_le _

theorem outgoing_eq_countP (lanes : LaneState) (id : String) :
    outgoing lanes id = (lanes.lanes.map untimed).countP fun l => l.sourceId = id := by
  unfold outgoing
  rw [← List.countP_eq_length_filter, List.countP_map]
  rfl

/-- Lanes may go and clocks may run, as long as the lanes that stay are held. -/
theorem LanesKept.thin {state state' : GameState} {lanes lanes' : LaneState}
    (h : LanesKept state lanes)
    (hsub : (lanes'.lanes.map untimed).Sublist (lanes.lanes.map untimed))
    (hnext : lanes'.nextLaneId = lanes.nextLaneId)
    (hheld : ∀ l ∈ lanes'.lanes, (state'.territory l.sourceId).owner = l.owner)
    (hmax : ∀ id, maxLanes state' id = maxLanes state id) : LanesKept state' lanes' where
  distinct := by
    have hall : (lanes.lanes.map untimed).Pairwise fun a b => ¬ SameEnds a b :=
      List.pairwise_map.mpr h.distinct
    exact List.pairwise_map.mp (hall.sublist hsub)
  ids := by
    have hids : ∀ ls : List Lane, ls.map Lane.id = (ls.map untimed).map Lane.id := by
      intro ls
      rw [List.map_map]
      rfl
    have hnodup := h.ids
    rw [hids] at hnodup ⊢
    exact hnodup.sublist (hsub.map Lane.id)
  numbered := by
    intro l hl
    obtain ⟨l', hl', he⟩ := List.mem_map.mp (hsub.subset (List.mem_map_of_mem hl))
    obtain ⟨n, hn, hid⟩ := h.numbered l' hl'
    have hsame : (untimed l').id = (untimed l).id := congrArg Lane.id he
    refine ⟨n, hnext ▸ hn, ?_⟩
    rw [← hid]
    exact hsame.symm
  held := hheld
  width := by
    intro id
    rw [hmax, outgoing_eq_countP]
    have hall := h.width id
    rw [outgoing_eq_countP] at hall
    exact (hsub.countP_le).trans hall

theorem LanesKept.cut {state : GameState} {lanes : LaneState} (h : LanesKept state lanes)
    (owner : Team) (sourceId targetId : String) :
    LanesKept state (cutLane lanes owner sourceId targetId).1 := by
  have hlanes := cutLane_lanes lanes owner sourceId targetId
  refine h.thin ?_ ?_ ?_ (fun _ => rfl)
  · rw [hlanes]
    exact List.filter_sublist.map untimed
  · unfold cutLane
    dsimp only
    split <;> rfl
  · intro l hl
    rw [hlanes] at hl
    exact h.held l (List.mem_of_mem_filter hl)

section Opening

variable [MathLib]

/-- **Opening a lane keeps the lanes.**  A new lane starts at a tower of its side, so
the lanes of that tower are the ones the width is counted over. -/
theorem LanesKept.open {state : GameState} {lanes : LaneState} (h : LanesKept state lanes)
    (owner : Team) (sourceId targetId : String) :
    LanesKept state (openLane state lanes owner sourceId targetId) := by
  rcases openLane_spec state lanes owner sourceId targetId with he | ⟨hnew, hcount, route, hr, he⟩
  · rw [he]
    exact h
  rw [findDispatchRoute_on] at hr
  obtain ⟨⟨source, hs, hso⟩, -, -⟩ := findDispatchRouteBy_ends hr
  have hsource : (state.territory sourceId).owner = owner := by
    unfold GameState.territory Record.getD
    rw [hs]
    exact hso
  rw [he]
  constructor
  · refine List.pairwise_append.mpr ⟨h.distinct, List.pairwise_singleton _ _, ?_⟩
    intro a ha b hb hsame
    rw [List.mem_singleton] at hb
    subst hb
    exact hnew a ha hsame
  · rw [List.map_append]
    refine List.nodup_append.mpr ⟨h.ids, List.nodup_singleton _, ?_⟩
    intro id hid id' hid' hsame
    obtain ⟨l, hl, rfl⟩ := List.mem_map.mp hid
    obtain ⟨n, hn, hl'⟩ := h.numbered l hl
    rw [List.mem_singleton.mp hid', hl'] at hsame
    have hnumber : n = lanes.nextLaneId :=
      toString_nat_inj.mp (String.append_right_inj "lane_" |>.mp hsame)
    omega
  · intro l hl
    rcases List.mem_append.mp hl with hl | hl
    · obtain ⟨n, hn, hid⟩ := h.numbered l hl
      exact ⟨n, Nat.lt_succ_of_lt hn, hid⟩
    · rw [List.mem_singleton] at hl
      subst hl
      exact ⟨lanes.nextLaneId, Nat.lt_succ_self _, rfl⟩
  · intro l hl
    rcases List.mem_append.mp hl with hl | hl
    · exact h.held l hl
    · rw [List.mem_singleton] at hl
      subst hl
      exact hsource
  · intro id
    have hall := h.width id
    unfold outgoing at hall ⊢
    rw [List.filter_append, List.length_append]
    by_cases hid : sourceId = id
    · subst hid
      have hown : countLanes lanes.lanes owner sourceId
          = (lanes.lanes.filter fun l => l.sourceId = sourceId).length := by
        unfold countLanes
        refine congrArg List.length (List.filter_congr fun l hl => ?_)
        refine decide_eq_decide.mpr ⟨And.right, fun hl' => ⟨?_, hl'⟩⟩
        rw [← h.held l hl, hl']
        exact hsource
      rw [← hown]
      have hone : ([(⟨"lane_" ++ toString lanes.nextLaneId, owner, sourceId, targetId, route, 0⟩ :
          Lane)].filter fun l => l.sourceId = sourceId).length ≤ 1 := List.length_filter_le _ _
      omega
    · rw [List.filter_singleton, decide_eq_false hid]
      exact hall

end Opening

/-- Production and combat leave the width of a tower as it is. -/
theorem maxLanes_of_ground {state state' : GameState}
    (h : (state'.territories.map fun _ => ground) = state.territories.map fun _ => ground)
    (id : String) : maxLanes state' id = maxLanes state id := by
  have hget : (state'.territories.get? id).map ground = (state.territories.get? id).map ground := by
    rw [← Record.get?_map (fun _ => ground), h, Record.get?_map]
  unfold maxLanes
  cases ht : state.territories.get? id with
  | none =>
    rw [ht] at hget
    rw [Option.map_eq_none_iff.mp hget]
  | some t =>
    rw [ht, Option.map_some] at hget
    obtain ⟨t', ht', he⟩ := Option.map_eq_some_iff.mp hget
    rw [ht']
    dsimp only
    rw [ground_tier he]

section Emitting

variable [MathLib]

theorem emitLane_owner (state : GameState) (delta : ℚ) (e : LaneEmit) (lane : Lane) (id : String) :
    ((emitLane state delta e lane).territories.getD id Territory.zero).owner
      = (e.territories.getD id Territory.zero).owner := by
  unfold emitLane
  dsimp only
  split
  · rfl
  · rw [Record.getD_set]
    split
    · next hid =>
      have hs := congrArg Territory.owner (emitLoop_standing lane
        (laneRouteSeconds state lane.routeIds) ⟨lane.nextEmitIn - delta,
          e.territories.getD lane.sourceId Territory.zero, e.stats, e.emitted⟩)
      rw [hid]
      exact hs
    · rfl

theorem foldl_emitLane_owner (state : GameState) (delta : ℚ) (ls : List Lane) (e : LaneEmit)
    (id : String) :
    ((ls.foldl (emitLane state delta) e).territories.getD id Territory.zero).owner
      = (e.territories.getD id Territory.zero).owner :=
  foldl_preserves (P := fun e' : LaneEmit => (e'.territories.getD id Territory.zero).owner
      = (e.territories.getD id Territory.zero).owner)
    (fun e' l _ h => (emitLane_owner state delta e' l id).trans h) rfl

/-- **The lanes that go on** are those whose tower is held, in their order. -/
theorem foldl_emitLane_kept (state : GameState) (delta : ℚ) : ∀ (ls : List Lane) (e : LaneEmit),
    ∃ kept : List Lane, kept.Sublist ls ∧
      (∀ l ∈ kept, (e.territories.getD l.sourceId Territory.zero).owner = l.owner) ∧
      (ls.foldl (emitLane state delta) e).nextLanes.map untimed
        = e.nextLanes.map untimed ++ kept.map untimed := by
  intro ls
  induction ls with
  | nil =>
    intro e
    exact ⟨[], List.Sublist.refl _, fun l hl => absurd hl List.not_mem_nil,
      (List.append_nil _).symm⟩
  | cons lane ls ih =>
    intro e
    obtain ⟨kept, hsub, hheld, hlanes⟩ := ih (emitLane state delta e lane)
    simp only [emitLane_owner] at hheld
    by_cases ho : (e.territories.getD lane.sourceId Territory.zero).owner = lane.owner
    · refine ⟨lane :: kept, hsub.cons_cons lane, ?_, ?_⟩
      · intro l hl
        rcases List.mem_cons.mp hl with rfl | hl
        · exact ho
        · exact hheld l hl
      · have hfirst : (emitLane state delta e lane).nextLanes.map untimed
            = e.nextLanes.map untimed ++ [untimed lane] := by
          unfold emitLane
          dsimp only
          rw [if_neg (not_not.mpr ho), List.map_append]
          rfl
        rw [List.foldl_cons, hlanes, hfirst, List.append_assoc]
        rfl
    · have hskip : emitLane state delta e lane = e := by
        unfold emitLane
        dsimp only
        rw [if_pos ho]
      rw [hskip] at hlanes
      refine ⟨kept, hsub.cons lane, hheld, ?_⟩
      rw [List.foldl_cons, hskip]
      exact hlanes

/-- **The lanes' half of a step keeps the lanes.** -/
theorem LanesKept.stepLanes {state : GameState} {lanes : LaneState} (h : LanesKept state lanes)
    (ok : LanesOk state lanes) (accumulators : Accumulators) (delta : ℚ) :
    LanesKept (stepLanes state accumulators lanes delta).state
      (stepLanes state accumulators lanes delta).lanes := by
  obtain ⟨kept, hsub, hheld, hlanes⟩ := foldl_emitLane_kept state delta lanes.lanes
    ⟨(moveSoldiers state lanes delta).territories, (moveSoldiers state lanes delta).stats, [], []⟩
  have hnext : (Go.stepLanes state accumulators lanes delta).lanes.lanes.map untimed
      = kept.map untimed := hlanes
  refine h.thin ?_ rfl ?_ ?_
  · rw [hnext]
    exact hsub.map untimed
  · intro l hl
    have hmem : untimed l ∈ kept.map untimed := hnext ▸ List.mem_map_of_mem hl
    obtain ⟨l', hl', he⟩ := List.mem_map.mp hmem
    have hs : (untimed l').sourceId = (untimed l).sourceId := congrArg Lane.sourceId he
    have ho : (untimed l').owner = (untimed l).owner := congrArg Lane.owner he
    change l'.sourceId = l.sourceId at hs
    change l'.owner = l.owner at ho
    rw [← hs, ← ho, ← hheld l' hl']
    exact foldl_emitLane_owner state delta lanes.lanes _ l'.sourceId
  · exact maxLanes_of_ground (stepLanes_ground accumulators delta fun l hl => (ok.ends l hl).source)

end Emitting


/-! ### Garrisons -/

/-- A garrison that is not negative and fits a tower with room for somebody. -/
structure Housed (t : Territory) : Prop where
  nonneg : 0 ≤ t.units
  fits : t.units ≤ t.maxUnits
  room : 1 ≤ t.maxUnits

def AllHoused (territories : Record String Territory) : Prop :=
  ∀ id t, territories.get? id = some t → Housed t

theorem Housed.generateUnits {t : Territory} (h : Housed t) (accumulator multiplier delta : ℚ) :
    Housed (generateUnits t accumulator multiplier delta).1 := by
  have hle := le_generateUnits_units t accumulator multiplier delta
  have hn := h.nonneg
  have hf := h.fits
  have hr := h.room
  refine ⟨hn.trans hle, ?_, ?_⟩
  · unfold Go.generateUnits
    dsimp only
    split
    · exact hf
    · split
      · dsimp only
        omega
      · exact hf
  · unfold Go.generateUnits
    dsimp only
    split
    · exact hr
    · split <;> exact hr

theorem Housed.meetTower {t : Territory} (h : Housed t) (soldier : Soldier) :
    Housed (meetTower soldier t) := by
  have hn := h.nonneg
  have hf := h.fits
  have hr := h.room
  unfold Go.meetTower
  split
  · constructor <;> dsimp only <;> omega
  · split
    · constructor <;> dsimp only <;> omega
    · constructor <;> dsimp only <;> omega

theorem AllHoused.moveSoldier {delta : ℚ} {m : LaneMarch} (h : AllHoused m.territories)
    (soldier : Soldier) : AllHoused (moveSoldier delta m soldier).territories := by
  unfold Go.moveSoldier
  dsimp only
  split
  · exact h
  · cases ht : m.territories.get? soldier.targetId with
    | none => exact h
    | some t => exact Record.forall_set (Q := fun _ => Housed) h ((h _ t ht).meetTower soldier)

/-- **Arrivals keep every garrison in its bounds.** -/
theorem AllHoused.moveSoldiers {state : GameState} (h : AllHoused state.territories)
    (lanes : LaneState) (delta : ℚ) :
    AllHoused (moveSoldiers state lanes delta).territories :=
  foldl_preserves (P := fun m : LaneMarch => AllHoused m.territories)
    (fun _ s _ hm => hm.moveSoldier s) h

/-! ### Emission -/

/-- What emission may do to a garrison: nothing, or it shrinks and somebody stays. -/
def Drained (t t' : Territory) : Prop :=
  t'.units = t.units ∨ (1 ≤ t'.units ∧ t'.units < t.units)

theorem Drained.refl (t : Territory) : Drained t t := Or.inl rfl

theorem Drained.trans {t t' t'' : Territory} (h : Drained t t') (h' : Drained t' t'') :
    Drained t t'' := by
  unfold Drained at *
  omega

/-- **One soldier leaves only a tower that holds more than one.** -/
theorem emitOnce_drained (lane : Lane) (total : ℚ) (w : LaneWait) :
    Drained w.source (emitOnce lane total w).source := by
  unfold emitOnce Drained
  dsimp only
  split
  · dsimp only
    omega
  · exact Or.inl rfl

theorem emitLoop_drained (lane : Lane) (total : ℚ) (w : LaneWait) :
    Drained w.source (emitLoop lane total w).source :=
  whileLoop_preserves (P := fun v : LaneWait => Drained w.source v.source)
    (fun v _ h => h.trans (emitOnce_drained lane total v)) _ (Drained.refl _)

theorem emitLoop_maxUnits (lane : Lane) (total : ℚ) (w : LaneWait) :
    (emitLoop lane total w).source.maxUnits = w.source.maxUnits := by
  have h := congrArg Territory.maxUnits (emitLoop_standing lane total w)
  exact h

theorem Housed.drained {t t' : Territory} (h : Housed t) (hd : Drained t t')
    (hmax : t'.maxUnits = t.maxUnits) : Housed t' := by
  have hn := h.nonneg
  have hf := h.fits
  have hr := h.room
  unfold Drained at hd
  constructor <;> omega

section Draining

variable [MathLib]

theorem emitLane_drained (state : GameState) (delta : ℚ) (e : LaneEmit) (lane : Lane)
    {id : String} {t : Territory} (ht : e.territories.get? id = some t) :
    ∃ t', (emitLane state delta e lane).territories.get? id = some t' ∧ Drained t t' ∧
      t'.maxUnits = t.maxUnits := by
  unfold emitLane
  dsimp only
  split
  · exact ⟨t, ht, Drained.refl t, rfl⟩
  · rw [Record.get?_set]
    split
    · next hid =>
      subst hid
      have hsource : e.territories.getD lane.sourceId Territory.zero = t := by
        rw [Record.getD, ht, Option.getD_some]
      rw [hsource]
      exact ⟨_, rfl, emitLoop_drained _ _ _, emitLoop_maxUnits _ _ _⟩
    · exact ⟨t, ht, Drained.refl t, rfl⟩

/-- **No tower is emptied by its lanes**, however many start at it. -/
theorem emitLanes_drained (state : GameState) (m : LaneMarch) (lanes : LaneState) (delta : ℚ)
    {id : String} {t : Territory} (ht : m.territories.get? id = some t) :
    ∃ t', (emitLanes state m lanes delta).territories.get? id = some t' ∧ Drained t t' ∧
      t'.maxUnits = t.maxUnits := by
  refine foldl_preserves (P := fun e : LaneEmit => ∃ t', e.territories.get? id = some t' ∧
    Drained t t' ∧ t'.maxUnits = t.maxUnits) ?_ ⟨t, ht, Drained.refl t, rfl⟩
  intro e lane _ ⟨u, hu, hd, hmax⟩
  obtain ⟨u', hu', hd', hmax'⟩ := emitLane_drained state delta e lane hu
  exact ⟨u', hu', hd.trans hd', hmax'.trans hmax⟩

/-- **The lanes' half of a step keeps every garrison in its bounds.** -/
theorem AllHoused.stepLanes {state : GameState} {lanes : LaneState}
    (h : AllHoused state.territories) (ok : LanesOk state lanes) (accumulators : Accumulators)
    (delta : ℚ) : AllHoused (stepLanes state accumulators lanes delta).state.territories := by
  have hm := h.moveSoldiers lanes delta
  have hkeys := keys_of_map_eq (moveSoldiers_ground state lanes delta)
  have hsources : ∀ l ∈ lanes.lanes,
      l.sourceId ∈ (Go.moveSoldiers state lanes delta).territories.keys := by
    intro l hl
    rw [hkeys]
    exact (ok.ends l hl).source
  have hstand := emitLanes_standing state delta hsources
  intro id t' ht'
  have hid : id ∈ (Go.moveSoldiers state lanes delta).territories.keys := by
    rw [← keys_of_map_eq hstand]
    exact Record.mem_keys_of_get? ht'
  obtain ⟨t, ht⟩ := Record.exists_get?_of_mem_keys hid
  obtain ⟨u, hu, hd, hmax⟩ := emitLanes_drained state (Go.moveSoldiers state lanes delta) lanes delta ht
  have hsame : some t' = some u := ht'.symm.trans hu
  cases hsame
  exact (hm id t ht).drained hd hmax

end Draining

/-! ### The units of a side -/

/-- The units of a side, in its towers and on the road. -/
def laneUnits (territories : Record String Territory) (soldiers : List Soldier) (team : Team) : ℤ :=
  (territories.values.map (towerUnits team)).sum + inFlight soldiers team

theorem inFlight_append (a b : List Soldier) (team : Team) :
    inFlight (a ++ b) team = inFlight a team + inFlight b team := by
  unfold inFlight
  rw [List.filter_append, List.length_append]

theorem inFlight_cons (s : Soldier) (soldiers : List Soldier) (team : Team) :
    inFlight (s :: soldiers) team
      = (if s.owner = team then 1 else 0) + inFlight soldiers team := by
  unfold inFlight
  rw [List.filter_cons]
  by_cases h : s.owner = team
  · rw [if_pos h, if_pos (decide_eq_true h), List.length_cons, Nat.add_comm]
  · rw [if_neg h, if_neg (by simpa using h), Nat.zero_add]

theorem inFlight_nil (team : Team) : inFlight [] team = 0 := rfl

/-- An arrival is worth at most the soldier that arrives. -/
theorem towerUnits_meetTower {t : Territory} (h : 0 ≤ t.units) (soldier : Soldier) (team : Team) :
    towerUnits team (meetTower soldier t)
      ≤ towerUnits team t + if soldier.owner = team then 1 else 0 := by
  unfold towerUnits meetTower
  by_cases ho : t.owner = soldier.owner
  · rw [if_pos ho, ← ho]
    dsimp only
    split <;> omega
  rw [if_neg ho]
  split
  · dsimp only
    split <;> split <;> omega
  · dsimp only
    split <;> split <;> omega

theorem moveSoldier_units {delta : ℚ} {m : LaneMarch} (h : AllHoused m.territories)
    (soldier : Soldier) (team : Team) :
    laneUnits (moveSoldier delta m soldier).territories (moveSoldier delta m soldier).flying team
      ≤ laneUnits m.territories m.flying team + if soldier.owner = team then 1 else 0 := by
  unfold moveSoldier laneUnits
  dsimp only
  split
  · dsimp only
    rw [inFlight_append, inFlight_cons, inFlight_nil]
    split <;> omega
  · cases ht : m.territories.get? soldier.targetId with
    | none =>
      dsimp only
      split <;> omega
    | some t =>
      have hset := Record.sum_values_set (towerUnits team) (meetTower soldier t) ht
      have hmeet := towerUnits_meetTower (h _ t ht).nonneg soldier team
      dsimp only
      rw [hset]
      omega

theorem foldl_moveSoldier_units (delta : ℚ) (team : Team) : ∀ (soldiers : List Soldier)
    (m : LaneMarch), AllHoused m.territories →
      laneUnits (soldiers.foldl (moveSoldier delta) m).territories
          (soldiers.foldl (moveSoldier delta) m).flying team
        ≤ laneUnits m.territories m.flying team + inFlight soldiers team := by
  intro soldiers
  induction soldiers with
  | nil =>
    intro m _
    rw [inFlight_nil]
    exact le_of_eq (add_zero _).symm
  | cons s soldiers ih =>
    intro m h
    have hfirst := @moveSoldier_units delta m h s team
    have hrest := ih (moveSoldier delta m s) (h.moveSoldier s)
    rw [List.foldl_cons, inFlight_cons]
    push_cast
    omega

/-- **Arrivals make no units.** -/
theorem moveSoldiers_units {state : GameState} (h : AllHoused state.territories)
    (lanes : LaneState) (delta : ℚ) (team : Team) :
    laneUnits (moveSoldiers state lanes delta).territories
        (moveSoldiers state lanes delta).flying team
      ≤ laneUnits state.territories lanes.soldiers team := by
  have hfold := foldl_moveSoldier_units delta team lanes.soldiers
    ⟨state.territories, state.stats, []⟩ h
  have hstart : laneUnits state.territories [] team + inFlight lanes.soldiers team
      = laneUnits state.territories lanes.soldiers team := by
    unfold laneUnits
    rw [inFlight_nil]
    omega
  rw [← hstart]
  exact hfold

theorem emitOnce_units {lane : Lane} {w : LaneWait} (total : ℚ) (h : w.source.owner = lane.owner)
    (team : Team) :
    towerUnits team (emitOnce lane total w).source + inFlight (emitOnce lane total w).emitted team
      = towerUnits team w.source + inFlight w.emitted team := by
  unfold emitOnce towerUnits
  dsimp only
  split
  · dsimp only
    rw [inFlight_append, inFlight_cons, inFlight_nil, h]
    split <;> push_cast <;> omega
  · rfl

theorem emitLoop_units {lane : Lane} {w : LaneWait} (total : ℚ) (h : w.source.owner = lane.owner)
    (team : Team) :
    towerUnits team (emitLoop lane total w).source + inFlight (emitLoop lane total w).emitted team
      = towerUnits team w.source + inFlight w.emitted team := by
  have hloop : (emitLoop lane total w).source.owner = lane.owner ∧
      towerUnits team (emitLoop lane total w).source + inFlight (emitLoop lane total w).emitted team
        = towerUnits team w.source + inFlight w.emitted team := by
    refine whileLoop_preserves (P := fun v : LaneWait => v.source.owner = lane.owner ∧
      towerUnits team v.source + inFlight v.emitted team
        = towerUnits team w.source + inFlight w.emitted team) ?_ _ ⟨h, rfl⟩
    intro v _ ⟨ho, hv⟩
    have hs := congrArg Territory.owner (emitOnce_standing lane total v)
    change (emitOnce lane total v).source.owner = v.source.owner at hs
    exact ⟨hs.trans ho, (emitOnce_units total ho team).trans hv⟩
  exact hloop.2

section Counting

variable [MathLib]

theorem emitLane_units (state : GameState) (delta : ℚ) {e : LaneEmit} {lane : Lane}
    (h : lane.sourceId ∈ e.territories.keys) (team : Team) :
    laneUnits (emitLane state delta e lane).territories (emitLane state delta e lane).emitted team
      = laneUnits e.territories e.emitted team := by
  obtain ⟨t, ht⟩ := Record.exists_get?_of_mem_keys h
  have hsource : e.territories.getD lane.sourceId Territory.zero = t := by
    rw [Record.getD, ht, Option.getD_some]
  unfold emitLane laneUnits
  dsimp only
  rw [hsource]
  split
  · rfl
  · next ho =>
    have hloop := @emitLoop_units lane ⟨lane.nextEmitIn - delta, t, e.stats, e.emitted⟩
      (laneRouteSeconds state lane.routeIds) (not_not.mp ho) team
    have hset := Record.sum_values_set (towerUnits team)
      (emitLoop lane (laneRouteSeconds state lane.routeIds)
        ⟨lane.nextEmitIn - delta, t, e.stats, e.emitted⟩).source ht
    dsimp only at hloop ⊢
    rw [hset]
    omega

/-- **Emission moves units from the towers to the road.** -/
theorem emitLanes_units (state : GameState) {m : LaneMarch} {lanes : LaneState} (delta : ℚ)
    (h : ∀ l ∈ lanes.lanes, l.sourceId ∈ m.territories.keys) (team : Team) :
    laneUnits (emitLanes state m lanes delta).territories
        (emitLanes state m lanes delta).emitted team
      = laneUnits m.territories [] team := by
  have hfold : (emitLanes state m lanes delta).territories.keys = m.territories.keys ∧
      laneUnits (emitLanes state m lanes delta).territories
          (emitLanes state m lanes delta).emitted team
        = laneUnits m.territories [] team := by
    refine foldl_preserves (P := fun e : LaneEmit => e.territories.keys = m.territories.keys ∧
      laneUnits e.territories e.emitted team = laneUnits m.territories [] team) ?_ ⟨rfl, rfl⟩
    intro e lane hl ⟨hk, hu⟩
    have hmem : lane.sourceId ∈ e.territories.keys := by
      rw [hk]
      exact h lane hl
    exact ⟨(keys_of_map_eq (emitLane_standing state delta hmem)).trans hk,
      (emitLane_units state delta hmem team).trans hu⟩
  exact hfold.2

/-- **The lanes' half of a step makes no units.** -/
theorem stepLanes_units {state : GameState} {lanes : LaneState} (h : AllHoused state.territories)
    (ok : LanesOk state lanes) (accumulators : Accumulators) (delta : ℚ) (team : Team) :
    laneUnits (stepLanes state accumulators lanes delta).state.territories
        (stepLanes state accumulators lanes delta).lanes.soldiers team
      ≤ laneUnits state.territories lanes.soldiers team := by
  have hmove := moveSoldiers_units h lanes delta team
  have hkeys := keys_of_map_eq (moveSoldiers_ground state lanes delta)
  have hsources : ∀ l ∈ lanes.lanes,
      l.sourceId ∈ (moveSoldiers state lanes delta).territories.keys := by
    intro l hl
    rw [hkeys]
    exact (ok.ends l hl).source
  have hemit := emitLanes_units state delta hsources team
  unfold stepLanes
  dsimp only
  unfold laneUnits at *
  rw [inFlight_append]
  rw [inFlight_nil] at hemit
  push_cast at *
  omega

end Counting


/-! ### The soldiers of a step -/

/-- The soldier reaches its tower within the step. -/
def lands (delta : ℚ) (s : Soldier) : Bool := s.remaining - delta ≤ laneEpsilon

/-- A soldier that marches on. -/
def marched (delta : ℚ) (s : Soldier) : Soldier := { s with remaining := s.remaining - delta }

/-- A soldier meets the tower it was sent to. -/
def arriveSoldier (territories : Record String Territory) (s : Soldier) :
    Record String Territory :=
  match territories.get? s.targetId with
  | none => territories
  | some t => territories.set s.targetId (meetTower s t)

/-- The soldiers sent out so far, by either side. -/
def dispatchedUnits (stats : MatchStats) : ℤ :=
  stats.playerUnitsDispatched + stats.enemyUnitsDispatched

theorem countCapture_dispatched (stats : MatchStats) (s : Soldier) (t : Territory) :
    dispatchedUnits (countCapture stats s t) = dispatchedUnits stats := by
  unfold countCapture
  split
  · rfl
  · split <;> rfl

/-- **Every soldier has one turn**: those who land meet their towers, one after the other,
and the others march on. -/
theorem foldl_moveSoldier_split (delta : ℚ) : ∀ (soldiers : List Soldier) (m : LaneMarch),
    (soldiers.foldl (moveSoldier delta) m).territories
        = (soldiers.filter (lands delta)).foldl arriveSoldier m.territories ∧
      (soldiers.foldl (moveSoldier delta) m).flying
        = m.flying ++ (soldiers.filter fun s => !lands delta s).map (marched delta) ∧
      dispatchedUnits (soldiers.foldl (moveSoldier delta) m).stats = dispatchedUnits m.stats := by
  intro soldiers
  induction soldiers with
  | nil =>
    intro m
    exact ⟨rfl, (List.append_nil _).symm, rfl⟩
  | cons s soldiers ih =>
    intro m
    obtain ⟨hterr, hfly, hstats⟩ := ih (moveSoldier delta m s)
    rw [List.foldl_cons, hterr, hfly, hstats, List.filter_cons, List.filter_cons]
    by_cases hr : s.remaining - delta > laneEpsilon
    · have hl : lands delta s = false := decide_eq_false (not_le.mpr hr)
      rw [hl]
      unfold moveSoldier
      dsimp only
      rw [if_pos hr]
      exact ⟨rfl, List.append_assoc _ _ _, rfl⟩
    · have hl : lands delta s = true := decide_eq_true (not_lt.mp hr)
      rw [hl]
      unfold moveSoldier
      dsimp only
      rw [if_neg hr]
      refine ⟨?_, ?_, ?_⟩
      · rw [if_pos rfl, List.foldl_cons, arriveSoldier]
        cases m.territories.get? s.targetId <;> rfl
      · cases m.territories.get? s.targetId <;> rfl
      · cases m.territories.get? s.targetId with
        | none => rfl
        | some t => exact countCapture_dispatched m.stats s t

theorem moveSoldiers_split (state : GameState) (lanes : LaneState) (delta : ℚ) :
    (moveSoldiers state lanes delta).territories
        = (lanes.soldiers.filter (lands delta)).foldl arriveSoldier state.territories ∧
      (moveSoldiers state lanes delta).flying
        = (lanes.soldiers.filter fun s => !lands delta s).map (marched delta) ∧
      dispatchedUnits (moveSoldiers state lanes delta).stats = dispatchedUnits state.stats :=
  foldl_moveSoldier_split delta lanes.soldiers ⟨state.territories, state.stats, []⟩

theorem emitOnce_dispatched (lane : Lane) (total : ℚ) (w : LaneWait) :
    dispatchedUnits (emitOnce lane total w).stats - (emitOnce lane total w).emitted.length
      = dispatchedUnits w.stats - w.emitted.length := by
  unfold emitOnce dispatchedUnits addUnitsDispatched
  dsimp only
  split
  · dsimp only
    rw [List.length_append, List.length_singleton]
    split <;> push_cast <;> omega
  · rfl

section Emitted

variable [MathLib]

theorem emitLane_dispatched (state : GameState) (delta : ℚ) (e : LaneEmit) (lane : Lane) :
    dispatchedUnits (emitLane state delta e lane).stats
        - (emitLane state delta e lane).emitted.length
      = dispatchedUnits e.stats - e.emitted.length := by
  unfold emitLane
  dsimp only
  split
  · rfl
  · exact whileLoop_preserves (P := fun v : LaneWait =>
      dispatchedUnits v.stats - v.emitted.length = dispatchedUnits e.stats - e.emitted.length)
      (fun v _ h => (emitOnce_dispatched lane _ v).trans h) _ rfl

/-- **Every soldier that leaves is counted as sent out.** -/
theorem emitLanes_dispatched (state : GameState) (m : LaneMarch) (lanes : LaneState) (delta : ℚ) :
    dispatchedUnits (emitLanes state m lanes delta).stats
      = dispatchedUnits m.stats + (emitLanes state m lanes delta).emitted.length := by
  have hfold : dispatchedUnits (emitLanes state m lanes delta).stats
      - (emitLanes state m lanes delta).emitted.length = dispatchedUnits m.stats - (0 : ℤ) :=
    foldl_preserves (P := fun e : LaneEmit =>
      dispatchedUnits e.stats - e.emitted.length = dispatchedUnits m.stats - (0 : ℤ))
      (fun e l _ h => (emitLane_dispatched state delta e l).trans h) rfl
  omega

end Emitted

end CrownClash.Go
