import CrownClash.Go.LaneTowers
import CrownClash.Parity.LaneElimination

/-!
# What every lane battle keeps

`LaneInvariant` holds in every state of every run, whatever the two sides order and
however the clock moves: the lanes are kept apart and start at towers of their side,
and every garrison is in its bounds.  `LaneStepOk` says what one step may do: the
units of a side grow by at most what production made for it, no lane empties its
tower, and every soldier on the road either marches on or meets its tower.

To say that a soldier arrives once, the soldiers are numbered in the order in which
they are sent out.  `Muster` runs beside the battle and keeps two lists of numbers,
of those on the road and of those that have landed; together they are always the
numbers given out so far, each of them once.
-/

namespace CrownClash

open Lib

/-- What holds in every state of a lane battle. -/
structure LaneInvariant (state : GameState) (lanes : LaneState) : Prop where
  ends : ∀ l ∈ lanes.lanes, Go.LaneEndsOk state l
  lanes : Go.LanesKept state lanes
  housed : Go.AllHoused state.territories

namespace Go

variable [MathLib]

/-- The base simulation's half of a step. -/
def LaneBattle.base (b : LaneBattle) (delta : ℚ) : GameState :=
  (stepSimulation b.state b.accumulators delta).1

/-- What one step may do. -/
structure LaneStepOk (b : LaneBattle) (delta : ℚ) : Prop where
  units : ∀ team, laneUnits (b.after (.step delta)).state.territories
      (b.after (.step delta)).lanes.soldiers team
    ≤ laneUnits b.state.territories b.lanes.soldiers team
      + stepProduced b.state b.accumulators delta team
  emission : (b.base delta).status = .playing → ∀ id t,
    (moveSoldiers (b.base delta) b.lanes delta).territories.get? id = some t →
      ∃ t', (b.after (.step delta)).state.territories.get? id = some t' ∧
        (t'.units = t.units ∨ (1 ≤ t'.units ∧ t'.units < t.units))
  arrivals : (b.base delta).status = .playing →
    (moveSoldiers (b.base delta) b.lanes delta).territories
      = (b.lanes.soldiers.filter (lands delta)).foldl arriveSoldier (b.base delta).territories
  road : (b.base delta).status = .playing → ∃ emitted,
    (b.after (.step delta)).lanes.soldiers
      = (b.lanes.soldiers.filter fun s => !lands delta s).map (marched delta) ++ emitted

/-! ### The base step -/

theorem LaneBattleOk.base_towers {b : LaneBattle} (h : LaneBattleOk b)
    (hp : b.state.status = .playing) (delta : ℚ) :
    (b.base delta).territories = b.state.territories.map
      (generated (⟨startStep b.state delta, b.accumulators, []⟩ : Marching).close b.accumulators
        delta) := by
  have hkeys : (⟨startStep b.state delta, b.accumulators, []⟩ : Marching).close.territories.keys
      = territoryOrderForBattlefield (startStep b.state delta).battlefieldId := h.ok.ok.keys
  unfold LaneBattle.base
  rw [stepSimulation_noArmies h hp]
  exact tickGeneration_territories b.accumulators delta hkeys

omit [MathLib] in
theorem generateUnits_ground (t : Territory) (accumulator multiplier delta : ℚ) :
    standing (generateUnits t accumulator multiplier delta).1 = standing t := by
  unfold generateUnits
  dsimp only
  split
  · rfl
  · split <;> rfl

/-- **The base step changes garrisons only.** -/
theorem LaneBattleOk.base_standing {b : LaneBattle} (h : LaneBattleOk b) (delta : ℚ) :
    ((b.base delta).territories.map fun _ => standing)
      = b.state.territories.map fun _ => standing := by
  by_cases hp : b.state.status = .playing
  · rw [h.base_towers hp]
    refine Record.ext ?_
    change List.map _ (List.map _ _) = List.map _ _
    rw [List.map_map]
    refine List.map_congr_left fun e _ => ?_
    exact congrArg (Prod.mk e.1) (generateUnits_ground _ _ _ _)
  · unfold LaneBattle.base stepSimulation
    rw [if_pos hp]

theorem LaneBattleOk.base_housed {b : LaneBattle} (h : LaneBattleOk b)
    (hh : AllHoused b.state.territories) (delta : ℚ) : AllHoused (b.base delta).territories := by
  by_cases hp : b.state.status = .playing
  · rw [h.base_towers hp]
    intro id t ht
    rw [Record.get?_map] at ht
    obtain ⟨u, hu, rfl⟩ := Option.map_eq_some_iff.mp ht
    exact (hh id u hu).generateUnits _ _ _
  · unfold LaneBattle.base stepSimulation
    rw [if_pos hp]
    exact hh

theorem LaneBattleOk.base_kept {b : LaneBattle} (h : LaneBattleOk b)
    (hk : LanesKept b.state b.lanes) (delta : ℚ) : LanesKept (b.base delta) b.lanes := by
  have hstand := h.base_standing delta
  refine hk.thin (List.Sublist.refl _) rfl ?_ ?_
  · intro l hl
    rw [← hk.held l hl]
    have hget : ((b.base delta).territories.get? l.sourceId).map standing
        = (b.state.territories.get? l.sourceId).map standing := by
      rw [← Record.get?_map (fun _ => standing), hstand, Record.get?_map]
    obtain ⟨t, ht⟩ := Record.exists_get?_of_mem_keys (h.ok.ends l hl).source
    rw [ht, Option.map_some] at hget
    obtain ⟨u, hu, he⟩ := Option.map_eq_some_iff.mp hget
    unfold GameState.territory Record.getD
    rw [hu, ht]
    have howner := congrArg Territory.owner he
    exact howner
  · refine maxLanes_of_ground ?_
    rw [ground_of_standing, hstand, ← ground_of_standing]

/-- Production is all that a base step adds to a side. -/
theorem LaneBattleOk.base_units {b : LaneBattle} (h : LaneBattleOk b)
    (hh : AllHoused b.state.territories) (delta : ℚ) (team : Team) :
    laneUnits (b.base delta).territories b.lanes.soldiers team
      ≤ laneUnits b.state.territories b.lanes.soldiers team
        + stepProduced b.state b.accumulators delta team := by
  have hmanned : Manned b.state :=
    ⟨h.ok.ok.keys, fun id t ht => (hh id t ht).nonneg,
      fun a ha => by rw [h.armies] at ha; cases ha⟩
  have hstep : sideUnits (b.base delta) team
      ≤ sideUnits b.state team + stepProduced b.state b.accumulators delta team :=
    step_units hmanned b.accumulators delta team
  have hnone : ∀ s : GameState, s.armies = [] → sideUnits s team = garrisonUnits s team := by
    intro s hs
    unfold sideUnits marchingUnits
    rw [hs]
    exact add_zero _
  have harmies : (b.base delta).armies = [] := by
    by_cases hp : b.state.status = .playing
    · unfold LaneBattle.base
      rw [stepSimulation_noArmies h hp]
      rfl
    · unfold LaneBattle.base stepSimulation
      rw [if_pos hp]
      exact h.armies
  rw [hnone _ h.armies, hnone _ harmies] at hstep
  unfold laneUnits
  unfold garrisonUnits at hstep
  omega

/-! ### One event -/

/-- A step that ends the battle leaves the lanes alone. -/
theorem after_step_over {b : LaneBattle} {delta : ℚ} (h : (b.base delta).status ≠ .playing) :
    b.after (.step delta)
      = ⟨b.base delta, (stepSimulation b.state b.accumulators delta).2, b.lanes⟩ := by
  unfold LaneBattle.after stepLaneSimulation
  dsimp only
  exact if_pos h

/-- A step that does not end the battle goes on to the lanes. -/
theorem after_step_playing {b : LaneBattle} {delta : ℚ} (h : (b.base delta).status = .playing) :
    b.after (.step delta)
      = stepLanes (b.base delta) (stepSimulation b.state b.accumulators delta).2 b.lanes delta := by
  unfold LaneBattle.after stepLaneSimulation
  dsimp only
  exact if_neg (not_not.mpr h)

theorem LaneBattleOk.base_lanes {b : LaneBattle} (h : LaneBattleOk b) {delta : ℚ} (hδ : 0 ≤ delta) :
    LanesOk (b.base delta) b.lanes := h.ok.base b.accumulators hδ

/-- **Every event keeps the invariant.** -/
theorem LaneBattleOk.keeps {b : LaneBattle} (h : LaneBattleOk b)
    (hi : LaneInvariant b.state b.lanes) {e : LaneEvent} (he : e.Forward) :
    LaneInvariant (b.after e).state (b.after e).lanes := by
  have hends := (h.after he).ok.ends
  cases e with
  | openLane owner sourceId targetId =>
    exact ⟨hends, hi.lanes.open owner sourceId targetId, hi.housed⟩
  | cutLane owner sourceId targetId =>
    exact ⟨hends, hi.lanes.cut owner sourceId targetId, hi.housed⟩
  | step delta =>
    have hδ : 0 ≤ delta := he
    have hkept := h.base_kept hi.lanes delta
    have hhoused := h.base_housed hi.housed delta
    by_cases hp : (b.base delta).status = .playing
    · rw [after_step_playing hp] at hends ⊢
      exact ⟨hends, hkept.stepLanes (h.base_lanes hδ) _ delta,
        hhoused.stepLanes (h.base_lanes hδ) _ delta⟩
    · rw [after_step_over hp] at hends ⊢
      exact ⟨hends, hkept, hhoused⟩

/-- **What a step may do**, from a state of the invariant. -/
theorem LaneBattleOk.steps {b : LaneBattle} (h : LaneBattleOk b)
    (hi : LaneInvariant b.state b.lanes) {delta : ℚ} (hδ : 0 ≤ delta) : LaneStepOk b delta := by
  have hbase := h.base_units hi.housed delta
  have hhoused := h.base_housed hi.housed delta
  constructor
  · intro team
    by_cases hp : (b.base delta).status = .playing
    · rw [after_step_playing hp]
      exact (stepLanes_units hhoused (h.base_lanes hδ) _ delta team).trans (hbase team)
    · rw [after_step_over hp]
      exact hbase team
  · intro hp id t ht
    rw [after_step_playing hp]
    obtain ⟨t', ht', hd, -⟩ := emitLanes_drained (b.base delta)
      (moveSoldiers (b.base delta) b.lanes delta) b.lanes delta ht
    exact ⟨t', ht', hd⟩
  · intro _
    exact (moveSoldiers_split (b.base delta) b.lanes delta).1
  · intro hp
    rw [after_step_playing hp]
    refine ⟨(emitLanes (b.base delta) (moveSoldiers (b.base delta) b.lanes delta) b.lanes
      delta).emitted, ?_⟩
    rw [← (moveSoldiers_split (b.base delta) b.lanes delta).2.1]
    rfl

/-! ### The soldiers, numbered -/

/-- The register of the soldiers beside the battle: the numbers of those on the road, in the
order in which the battle lists them, the numbers of those that have landed, and the next
number. -/
structure Muster where
  battle : LaneBattle
  flying : List ℕ
  landed : List ℕ
  next : ℕ

/-- The battle goes on by itself; a step strikes off those who land and numbers those who leave. -/
def Muster.after (m : Muster) (e : LaneEvent) : Muster :=
  match e with
  | .step delta =>
    let base := m.battle.base delta
    if base.status ≠ .playing then { m with battle := m.battle.after e }
    else
      let numbered := m.flying.zip m.battle.lanes.soldiers
      let left := (emitLanes base (moveSoldiers base m.battle.lanes delta) m.battle.lanes
        delta).emitted.length
      { battle := m.battle.after e
        flying := (numbered.filter fun p => !lands delta p.2).map Prod.fst
          ++ List.range' m.next left
        landed := m.landed ++ (numbered.filter fun p => lands delta p.2).map Prod.fst
        next := m.next + left }
  | _ => { m with battle := m.battle.after e }

/-- Nobody is on the road before the battle. -/
def Muster.begin (state : GameState) : Muster := ⟨.begin state, [], [], 0⟩

/-- Every number given out is in one of the two lists, once; those on the road are the soldiers
of the battle, and as many were given out as soldiers were counted since the start. -/
structure MusterOk (start : GameState) (m : Muster) : Prop where
  named : m.flying.length = m.battle.lanes.soldiers.length
  once : (m.landed ++ m.flying).Perm (List.range m.next)
  counted : dispatchedUnits m.battle.state.stats = dispatchedUnits start.stats + m.next

/-- The register does not touch the battle. -/
theorem Muster.after_battle (m : Muster) (e : LaneEvent) :
    (m.after e).battle = m.battle.after e := by
  cases e with
  | openLane owner sourceId targetId => rfl
  | cutLane owner sourceId targetId => rfl
  | step delta =>
    unfold Muster.after
    dsimp only
    split <;> rfl

theorem foldl_muster_battle : ∀ (events : List LaneEvent) (m : Muster),
    (events.foldl Muster.after m).battle = events.foldl LaneBattle.after m.battle := by
  intro events
  induction events with
  | nil => intro m; rfl
  | cons e events ih =>
    intro m
    rw [List.foldl_cons, List.foldl_cons, ih, Muster.after_battle]

omit [MathLib] in
theorem musterOk_begin (start : GameState) : MusterOk start (.begin start) where
  named := rfl
  once := List.Perm.refl _
  counted := (add_zero _).symm

/-- The base simulation sends nobody out. -/
theorem LaneBattleOk.base_dispatched {b : LaneBattle} (h : LaneBattleOk b) (delta : ℚ) :
    dispatchedUnits (b.base delta).stats = dispatchedUnits b.state.stats := by
  unfold LaneBattle.base
  by_cases hp : b.state.status = .playing
  · rw [stepSimulation_noArmies h hp]
    rfl
  · unfold stepSimulation
    rw [if_pos hp]

omit [MathLib] in
/-- Striking off some of the numbers and giving out the next ones loses none and repeats none. -/
theorem once_step {α : Type} {landed flying : List ℕ} {soldiers : List α} {next : ℕ} (left : ℕ)
    (p : ℕ × α → Bool) (hlen : flying.length = soldiers.length)
    (h : (landed ++ flying).Perm (List.range next)) :
    ((landed ++ ((flying.zip soldiers).filter p).map Prod.fst)
        ++ (((flying.zip soldiers).filter fun q => !p q).map Prod.fst
          ++ List.range' next left)).Perm (List.range (next + left)) := by
  have hfst : (flying.zip soldiers).map Prod.fst = flying := List.map_fst_zip hlen.le
  have hsplit : (((flying.zip soldiers).filter p).map Prod.fst
      ++ ((flying.zip soldiers).filter fun q => !p q).map Prod.fst).Perm flying := by
    rw [← List.map_append]
    have hperm := (List.filter_append_perm p (flying.zip soldiers)).map Prod.fst
    rw [hfst] at hperm
    exact hperm
  have hrange : List.range (next + left) = List.range next ++ List.range' next left := by
    rw [List.range_eq_range', List.range_eq_range']
    have happend := @List.range'_append 0 next left 1
    rw [one_mul, zero_add] at happend
    exact happend.symm
  rw [hrange, List.append_assoc, ← List.append_assoc (List.map _ _) (List.map _ _),
    ← List.append_assoc]
  exact ((hsplit.append_left landed).trans h).append_right _

omit [MathLib] in
theorem length_filter_zip {α : Type} {flying : List ℕ} {soldiers : List α} (p : α → Bool)
    (hlen : flying.length = soldiers.length) :
    ((flying.zip soldiers).filter fun q => p q.2).length = (soldiers.filter p).length := by
  have hsnd : (flying.zip soldiers).map Prod.snd = soldiers := List.map_snd_zip hlen.ge
  conv_rhs => rw [← hsnd]
  rw [List.filter_map, List.length_map]
  rfl

/-- **Every event keeps the register.** -/
theorem MusterOk.after {start : GameState} {m : Muster} (h : MusterOk start m)
    (ok : LaneBattleOk m.battle) (e : LaneEvent) : MusterOk start (m.after e) := by
  cases e with
  | openLane owner sourceId targetId =>
    refine ⟨?_, h.once, h.counted⟩
    change m.flying.length
      = (Go.openLane m.battle.state m.battle.lanes owner sourceId targetId).soldiers.length
    rw [openLane_soldiers]
    exact h.named
  | cutLane owner sourceId targetId =>
    refine ⟨?_, h.once, h.counted⟩
    change m.flying.length
      = (Go.cutLane m.battle.lanes owner sourceId targetId).1.soldiers.length
    rw [cutLane_soldiers]
    exact h.named
  | step delta =>
    have hbase := ok.base_dispatched delta
    unfold Muster.after
    dsimp only
    by_cases hp : (m.battle.base delta).status = .playing
    · rw [if_neg (not_not.mpr hp), after_step_playing hp]
      obtain ⟨-, hfly, hstats⟩ := moveSoldiers_split (m.battle.base delta) m.battle.lanes delta
      have hemit := emitLanes_dispatched (m.battle.base delta)
        (moveSoldiers (m.battle.base delta) m.battle.lanes delta) m.battle.lanes delta
      refine ⟨?_, once_step _ (fun q => lands delta q.2) h.named h.once, ?_⟩
      · change _ = ((moveSoldiers (m.battle.base delta) m.battle.lanes delta).flying
          ++ (emitLanes (m.battle.base delta) (moveSoldiers (m.battle.base delta) m.battle.lanes
            delta) m.battle.lanes delta).emitted).length
        rw [hfly, List.length_append, List.length_append, List.length_map, List.length_map,
          List.length_range', length_filter_zip (fun s => !lands delta s) h.named]
      · change dispatchedUnits (emitLanes (m.battle.base delta) (moveSoldiers
          (m.battle.base delta) m.battle.lanes delta) m.battle.lanes delta).stats = _
        have hcounted := h.counted
        push_cast
        omega
    · rw [if_pos hp, after_step_over hp]
      exact ⟨h.named, h.once, hbase.trans h.counted⟩

/-! ### The start -/

omit [MathLib] in
/-- A battle that may begin meets the invariant if its garrisons are in their bounds. -/
theorem laneInvariant_start {state : GameState} (hh : AllHoused state.territories) :
    LaneInvariant state emptyLaneState :=
  ⟨fun _ hl => absurd hl List.not_mem_nil, lanesKept_empty state, hh⟩

omit [MathLib] in
/-- The garrisons of the nine levels are in their bounds. -/
theorem laneLevels_housed : ∀ level ∈ laneLevelDefs,
    ∀ e ∈ (laneStart level).territories.entries, 0 ≤ e.2.units ∧ e.2.units ≤ e.2.maxUnits ∧
      1 ≤ e.2.maxUnits := by
  decide +kernel

omit [MathLib] in
theorem laneStart_housed {level : LaneLevel} (h : level ∈ laneLevelDefs) :
    AllHoused (laneStart level).territories := by
  intro id t ht
  obtain ⟨hn, hf, hr⟩ := laneLevels_housed level h (id, t) (Record.get?_eq_some_iff.mp ht)
  exact ⟨hn, hf, hr⟩

end Go

namespace Parity

variable [MathLib]

/-- What holds of a run of a lane battle: of its states, of its steps, of the register of its
soldiers, which only looks on, and of the client, which goes through the same states. -/
structure LaneRunOk (state : GameState) (events : List LaneEvent) : Prop where
  states : Always Go.LaneBattle.after (fun b => LaneInvariant b.state b.lanes) (.begin state)
    events
  steps : EachStep Go.LaneBattle.after (fun b e => ∀ delta, e = .step delta →
    Go.LaneStepOk b delta) (.begin state) events
  soldiers : Always Go.Muster.after (Go.MusterOk state) (.begin state) events
  register : ∀ before, before <+: events →
    (before.foldl Go.Muster.after (.begin state)).battle
      = before.foldl Go.LaneBattle.after (.begin state)
  client : ∀ before, before <+: events →
    (before.foldl Ts.LaneStepResult.after (.begin state)).state
        = (before.foldl Go.LaneBattle.after (.begin state)).state ∧
      (before.foldl Ts.LaneStepResult.after (.begin state)).lanes
        = (before.foldl Go.LaneBattle.after (.begin state)).lanes

/-- **What every lane battle keeps.**  In every run from a battle whose garrisons are in their
bounds, by any orders of both sides and any steps of the clock: in every state the lanes are
kept apart, numbered apart, held and no more than their towers allow, and the garrisons are in
their bounds; every step adds to a side at most what production made for it and lets no lane
empty its tower; and every soldier sent out is on the road or has landed, once. -/
theorem lane_invariants {state : GameState} (h : LaneStartOk state)
    (hh : Go.AllHoused state.territories) {events : List LaneEvent}
    (he : ∀ e ∈ events, e.Forward) : LaneRunOk state events := by
  have hok : Go.LaneBattleOk (.begin state) := ⟨h.ok, h.armies⟩
  have hall : Always Go.LaneBattle.after
      (fun b => Go.LaneBattleOk b ∧ LaneInvariant b.state b.lanes) (.begin state) events :=
    always_of_preserves (E := LaneEvent.Forward)
      (fun b e hE hb => ⟨hb.1.after hE, hb.1.keeps hb.2 hE⟩) he
      ⟨hok, Go.laneInvariant_start hh⟩
  constructor
  · intro before hb
    exact (hall before hb).2
  · intro before e hb delta hstep
    subst hstep
    have hmem : LaneEvent.step delta ∈ events :=
      hb.subset (List.mem_append_right before List.mem_cons_self)
    have hreach := hall before ((List.prefix_append before [_]).trans hb)
    exact hreach.1.steps hreach.2 (he _ hmem)
  · have hmuster : Always Go.Muster.after
        (fun m => Go.LaneBattleOk m.battle ∧ Go.MusterOk state m) (.begin state) events := by
      refine always_of_preserves (E := LaneEvent.Forward) ?_ he ⟨hok, Go.musterOk_begin state⟩
      intro m e hE hm
      refine ⟨?_, hm.2.after hm.1 e⟩
      rw [Go.Muster.after_battle]
      exact hm.1.after hE
    intro before hb
    exact (hmuster before hb).2
  · intro before _
    exact Go.foldl_muster_battle before (.begin state)
  · intro before hb
    have htwin : LaneBattleTwin (before.foldl Ts.LaneStepResult.after (.begin state))
        (before.foldl Go.LaneBattle.after (.begin state)) :=
      foldl_lockstep (R := LaneBattleTwin)
        (fun t g e hmem ht => ht.after (he e (hb.subset hmem)))
        ⟨hok, rfl, rfl, fun _ _ => rfl⟩
    exact ⟨htwin.state, htwin.lanes⟩

omit [MathLib] in
theorem lane_invariants_rush :
    @LaneRunOk decimalHypot (Go.laneStart rushLevel) rushTheKeep :=
  @lane_invariants decimalHypot (Go.laneStart rushLevel)
    (Go.laneStart_startOk (b := crownCross) List.mem_cons_self rfl rfl)
    (Go.laneStart_housed (by decide +kernel)) rushTheKeep rushTheKeep_forward

end Parity

end CrownClash
