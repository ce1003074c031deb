import CrownClash.Go.Approach
import CrownClash.Parity.Routes
import CrownClash.Parity.Simulation
import CrownClash.Ts.OrderPreview

/-!
# The preview of an order and the battle

The preview takes the armies of an order in the order of their predicted arrival, the battle
takes them tick by tick, and in a tick in the order in which they were sent.  Both see the
same armies at the same times: what the battle has made of the target after `k` ticks is what
the armies make of it that were predicted to land by then (`OrderRun`).  The orders differ
within a tick only, which matters to a fortress alone.
-/

namespace CrownClash.Parity

open Lib

/-- `isShielded` -/
def isShielded (state : GameState) (id : String) : Bool :=
  state.shieldedUntilMs.getD id 0 > roundHalfUp (state.elapsedTimeSeconds * 1000)

variable [MathLib]

/-! ### What an order sends -/

theorem setArmyLeg_seconds (army : MarchingArmy) (source target : Territory) (leg : ℕ) :
    0 < (Ts.setArmyLeg army source target leg).speed := by
  have htwo : (0 : ℚ) < Ts.tacticalMinLegSeconds := by
    unfold Ts.tacticalMinLegSeconds
    norm_num
  exact one_div_pos.mpr (htwo.trans_le (le_max_left _ _))

theorem setArmyLeg_onWay {state : GameState} {army : MarchingArmy} {source : Territory}
    {targetId next : String} {behind : List String}
    (hids : army.routeIds = source.id :: next :: behind) (hnodup : army.routeIds.Nodup)
    (htowers : ∀ id ∈ army.routeIds, ∃ t, state.territories.get? id = some t ∧ t.id = id)
    (hok : Go.ArmyOk army) (hends : army.routeIds.getLast? = some targetId)
    (hown : ∀ id ∈ army.routeIds, id ≠ targetId → (state.territory id).owner = army.owner)
    (hhostile : (state.territory targetId).owner ≠ army.owner) :
    Go.OnWay state targetId (Ts.setArmyLeg army source (state.territory next) 0) ∧
      0 < Go.armyArrivalSeconds (Ts.setArmyLeg army source (state.territory next) 0) state := by
  have hnext : (state.territory next).id = next := by
    obtain ⟨t, ht, hid⟩ := htowers next
      (by rw [hids]; exact List.mem_cons_of_mem _ List.mem_cons_self)
    unfold GameState.territory Record.getD
    rw [ht]
    exact hid
  have hon : Go.OnRoute state.territories
      (Ts.setArmyLeg army source (state.territory next) 0) := by
    refine ⟨?_, hnodup, htowers, setArmyLeg_seconds _ _ _ _⟩
    show army.routeIds[0 + 1]? = some (state.territory next).id
    rw [hids, hnext]
    rfl
  refine ⟨⟨hon, ⟨hok.owned, hok.routed⟩, hends, hown, hhostile⟩, ?_⟩
  rw [hon.seconds]
  refine lt_of_lt_of_le ?_ (Go.arrivalSeconds_ge state _ _)
  refine div_pos ?_ hon.speed
  show (0 : ℚ) < 1 - 0
  norm_num

/-- What a successful dispatch says of its army and its source. -/
structure Sent (state : GameState) (source : Territory) (targetId : String) (owner : Team)
    (d : Ts.Dispatched) : Prop where
  way : Go.OnWay state targetId d.army
  owner : d.army.owner = owner
  units : 0 < d.army.units
  later : 0 < Go.armyArrivalSeconds d.army state
  other : source.id ≠ targetId
  source : ∃ units, d.sourceTerritory = { source with units := units }

theorem dispatchArmyOn_sent {roads : List (String × String)} {state : GameState}
    {source target : Territory} {owner : Team} {ratio multiplier : ℚ} {armyId : String}
    {d : Ts.Dispatched} (hrules : Go.usesTacticalRules state.gameplayRulesVersion = true)
    (hkeys : ∀ id t, state.territories.get? id = some t → t.id = id)
    (hs : state.territories.get? source.id = some source)
    (ht : state.territories.get? target.id = some target) (howner : owner ≠ .neutral)
    (hneutral : target.owner = .neutral)
    (h : Ts.dispatchArmyOn roads source target owner ratio armyId multiplier state = .ok d) :
    Sent state source target.id owner d := by
  unfold Ts.dispatchArmyOn at h
  split at h
  · cases h
  next hne =>
  split at h
  · cases h
  next ho =>
  cases hroute : Ts.findDispatchRouteOn roads state source.id target.id owner with
  | none =>
    rw [hroute] at h
    cases h
  | some route =>
    rw [hroute] at h
    dsimp only at h
    split at h
    · cases h
    next hunits =>
    rw [usesTacticalRules_eq, if_pos hrules] at h
    cases h
    have hsource : Go.Owned state owner source.id := ⟨source, hs, not_not.mp ho⟩
    obtain ⟨hopen, hnodup, -, -⟩ :=
      (findDispatchRouteOn_correct roads hrules hsource ht hne).route route hroute
    obtain ⟨next, behind, rfl, hmap⟩ := hopen.walk hne hsource ⟨target, ht⟩
    have htargetOwner : (state.territory target.id).owner = .neutral := by
      unfold GameState.territory Record.getD
      rw [ht]
      exact hneutral
    have hspeed : 0 < (if multiplier > 0 then multiplier else 1)
        * Ts.getTerritoryArmySpeedMultiplier source.type := by
      refine mul_pos ?_ ?_
      · split
        · next hpos => exact hpos
        · exact one_pos
      · rw [getTerritoryArmySpeedMultiplier_eq]
        cases source.type <;>
          norm_num [Go.territoryArmySpeedMultiplier, Go.stableArmySpeedMultiplier]
    have hown : ∀ id ∈ source.id :: next :: behind, id ≠ target.id →
        (state.territory id).owner = owner := by
      intro id hid hother
      obtain ⟨t, ht, hto⟩ := hopen.own hne hsource id hid hother
      unfold GameState.territory Record.getD
      rw [ht]
      exact hto
    have hhostile : (state.territory target.id).owner ≠ owner := by
      rw [htargetOwner]
      exact howner.symm
    generalize harmy : MarchingArmy.mk (source.id :: next :: behind) 0 _ _ _ _ _ _ _ _ _ _ _ _ _
      = army
    have hids : army.routeIds = source.id :: next :: behind := by rw [← harmy]
    have hsent : army.owner = owner ∧ 0 < army.units ∧ 0 < army.routeSpeedMultiplier := by
      rw [← harmy]
      exact ⟨rfl, not_le.mp hunits, hspeed⟩
    obtain ⟨harmyOwner, harmyUnits, harmySpeed⟩ := hsent
    have hway := setArmyLeg_onWay hids (by rwa [hids])
      (by rw [hids]; exact fun id hid => (hmap id hid).imp fun t ht => ⟨ht, hkeys id t ht⟩)
      ⟨by rwa [harmyOwner], fun _ => harmySpeed⟩ (by rw [hids]; exact hopen.path.last)
      (by rwa [hids, harmyOwner]) (by rwa [harmyOwner])
    exact ⟨hway.1, harmyOwner, harmyUnits, hway.2, hne, ⟨_, rfl⟩⟩


theorem dispatchArmyOn_id (roads : List (String × String)) (source target : Territory)
    (owner : Team) (ratio : ℚ) (armyId other : String) (multiplier : ℚ) (state : GameState) :
    Ts.dispatchArmyOn roads source target owner ratio other multiplier state
      = (Ts.dispatchArmyOn roads source target owner ratio armyId multiplier state).map
          fun d => { d with army := { d.army with id := other } } := by
  unfold Ts.dispatchArmyOn
  split
  · rfl
  split
  · rfl
  cases Ts.findDispatchRouteOn roads state source.id target.id owner with
  | none => rfl
  | some route =>
    dsimp only
    split
    · rfl
    cases Ts.usesTacticalRules state.gameplayRulesVersion with
    | true => rfl
    | false => rfl

/-- The time of arrival and the size: what the fight for the target depends on. -/
def force (state : GameState) (a : MarchingArmy) : ℚ × ℤ :=
  (Go.armyArrivalSeconds a state, a.units)

theorem armyArrivalSeconds_id (a : MarchingArmy) (id : String) (state : GameState) :
    Go.armyArrivalSeconds { a with id := id } state = Go.armyArrivalSeconds a state := by
  generalize hb : ({ a with id := id } : MarchingArmy) = b
  have hspeed : b.routeSpeedMultiplier = a.routeSpeedMultiplier := by rw [← hb]
  have hlegs := Go.remainingLegSeconds_congr hspeed state (Go.armyDestination a state)
    (a.routeIds.drop (a.routeLeg + 1)) (a.routeLeg + 1) (a.routeLeg + 1)
  rw [← hb] at hlegs ⊢
  exact congrArg ((1 - a.progress) / a.speed + ·) hlegs

/-- An order of the preview has the force of the army that is sent. -/
structure SameForce (state : GameState) (o : Ts.PreviewedOrder) (a : MarchingArmy) : Prop where
  force : force state o.army = force state a
  ok : Go.ArmyOk o.army

section Orders

variable {roads : List (String × String)} {state : GameState} {target : Territory} {owner : Team}
  {multiplier : ℚ} {armyIds : ℕ → String}

/-- What an order has sent so far, and what the preview says of the same sources. -/
structure OrderSent (state : GameState) (targetId : String) (owner : Team)
    (result : Ts.MultiDispatchResult) (orders : List Ts.PreviewedOrder) : Prop where
  orders : List.Forall₂ (SameForce state) orders result.armies
  armies : ∀ a ∈ result.armies, Go.OnWay state targetId a ∧ a.owner = owner ∧ 0 < a.units ∧
    0 < Go.armyArrivalSeconds a state
  sources : ∀ e ∈ result.updatedSources.entries, e.1 ≠ targetId ∧
    ∃ t units, state.territories.get? e.1 = some t ∧ e.2 = { t with units := units }

/-- **One source**: the preview has an order of it exactly if the order sends its army. -/
theorem OrderSent.next {result : Ts.MultiDispatchResult} {orders : List Ts.PreviewedOrder}
    (h : OrderSent state target.id owner result orders)
    (hrules : Go.usesTacticalRules state.gameplayRulesVersion = true)
    (hkeys : ∀ id t, state.territories.get? id = some t → t.id = id)
    (ht : state.territories.get? target.id = some target) (howner : owner ≠ .neutral)
    (hneutral : target.owner = .neutral) {source : Territory}
    (hs : state.territories.get? source.id = some source) :
    OrderSent state target.id owner
      (Ts.dispatchNextArmy roads target owner (1 / 2) multiplier armyIds state result source)
      (orders ++ Ts.previewedOrders roads state (some target) owner multiplier 1 source.id) := by
  have hpreview : Ts.previewedOrders roads state (some target) owner multiplier 1 source.id
      = (Ts.dispatchArmyOn roads source target owner (1 / 2) (armyIds result.armies.length)
          multiplier state).toOption.toList.map fun d =>
            (⟨{ d.army with id := "preview_" ++ source.id }, d.sourceTerritory⟩ :
              Ts.PreviewedOrder) := by
    unfold Ts.previewedOrders
    rw [hs]
    dsimp only
    rw [dispatchArmyOn_id roads source target owner (1 / 2) (armyIds result.armies.length)]
    cases Ts.dispatchArmyOn roads source target owner (1 / 2)
      (armyIds result.armies.length) multiplier state with
    | error e => rfl
    | ok d =>
      show [(⟨{ d.army with
        id := "preview_" ++ source.id
        units := ⌊(d.army.units : ℚ) * 1⌋ }, d.sourceTerritory⟩ : Ts.PreviewedOrder)] = _
      rw [mul_one, Int.floor_intCast]
      rfl
  rw [hpreview]
  unfold Ts.dispatchNextArmy
  split
  · next he =>
    have hnone : Ts.dispatchArmyOn roads source target owner (1 / 2)
        (armyIds result.armies.length) multiplier state
          = .error "Cannot dispatch to the same territory" := by
      unfold Ts.dispatchArmyOn
      rw [if_pos he]
    rw [hnone]
    show OrderSent state target.id owner result (orders ++ [])
    rw [List.append_nil]
    exact h
  · cases hd : Ts.dispatchArmyOn roads source target owner (1 / 2)
      (armyIds result.armies.length) multiplier state with
    | error e =>
      show OrderSent state target.id owner result (orders ++ [])
      rw [List.append_nil]
      exact h
    | ok d =>
      obtain ⟨hway, hdowner, hunits, hlater, hother, ⟨units, hsource⟩⟩ :=
        dispatchArmyOn_sent hrules hkeys hs ht howner hneutral hd
      dsimp only
      refine ⟨List.rel_append h.orders (.cons ⟨?_, hway.ok.owned, hway.ok.routed⟩ .nil), ?_, ?_⟩
      · exact Prod.ext (armyArrivalSeconds_id d.army _ state) rfl
      · intro a ha
        rcases List.mem_append.mp ha with ha | ha
        · exact h.armies a ha
        · rw [List.mem_singleton.mp ha]
          exact ⟨hway, hdowner, hunits, hlater⟩
      · intro e he
        have hentry := Record.get?_eq_some_iff.mpr he
        rw [Record.get?_set] at hentry
        split at hentry
        · next hkey =>
          rw [hkey, ← Option.some.inj hentry]
          exact ⟨hother, source, units, hs, hsource⟩
        · exact h.sources e (Record.get?_eq_some_iff.mp hentry)

/-- **The whole order.** -/
theorem orderSent (hrules : Go.usesTacticalRules state.gameplayRulesVersion = true)
    (hkeys : ∀ id t, state.territories.get? id = some t → t.id = id)
    (ht : state.territories.get? target.id = some target) (howner : owner ≠ .neutral)
    (hneutral : target.owner = .neutral) : ∀ {sources : List Territory}
      {result : Ts.MultiDispatchResult} {orders : List Ts.PreviewedOrder},
      (∀ s ∈ sources, state.territories.get? s.id = some s) →
      OrderSent state target.id owner result orders →
        OrderSent state target.id owner
          (sources.foldl (Ts.dispatchNextArmy roads target owner (1 / 2) multiplier armyIds state)
            result)
          (orders ++ (sources.map Territory.id).flatMap
            (Ts.previewedOrders roads state (some target) owner multiplier 1)) := by
  intro sources
  induction sources with
  | nil =>
    intro result orders _ h
    rw [List.map_nil, List.flatMap_nil, List.append_nil]
    exact h
  | cons source sources ih =>
    intro result orders hs h
    rw [List.map_cons, List.flatMap_cons, ← List.append_assoc]
    exact ih (fun s hmem => hs s (List.mem_cons_of_mem source hmem))
      (h.next hrules hkeys ht howner hneutral (hs source List.mem_cons_self))

omit [MathLib] in
theorem orderSent_start (state : GameState) (targetId : String) (owner : Team) [MathLib] :
    OrderSent state targetId owner ⟨[], [], .empty, 0⟩ [] :=
  ⟨.nil, fun _ ha => absurd ha List.not_mem_nil, fun _ he => absurd he List.not_mem_nil⟩

end Orders


/-! ### What the preview projects -/

omit [MathLib] in
theorem foldl_projectArrival (owner : Team) (arrivals : List Ts.PreviewedArrival) :
    ∀ target : Territory, arrivals.foldl (Ts.projectArrival owner) target
      = Go.attacks owner 1 target (arrivals.map fun a => a.order.army.units) := by
  induction arrivals with
  | nil => intro target; rfl
  | cons a arrivals ih =>
    intro target
    show arrivals.foldl (Ts.projectArrival owner) (Ts.projectArrival owner target a) = _
    rw [ih]
    show Go.attacks owner 1 (Ts.projectArrival owner target a) _ = Go.attacks owner 1
      (Go.afterCombat target a.order.army.units owner 1) _
    rw [← afterCombat_ts]
    rfl

omit [MathLib] in
/-- The comparison of the preview is that by time, as the list is in the order of its indices. -/
theorem sortBy_arrivesBefore {l : List Ts.PreviewedArrival}
    (h : l.Pairwise fun a b => a.index < b.index) :
    sortBy Ts.arrivesBefore l = sortBy (fun a b => decide (a.eta < b.eta)) l := by
  have hlt : Ts.arrivesBefore = fun a b : Ts.PreviewedArrival => decide (a.eta < b.eta) ||
      (decide (a.eta = b.eta) && decide (a.index < b.index)) := by
    funext a b
    unfold Ts.arrivesBefore
    by_cases heq : a.eta = b.eta
    · simp [heq]
    · simp [heq]
  rw [hlt]
  exact sortBy_index h

/-- **The projected target is what the armies of the order make of it**, by predicted arrival. -/
theorem projected_eq {roads : List (String × String)} {state : GameState} {target : Territory}
    {owner : Team} {multiplier : ℚ} {sources : List String} {armies : List MarchingArmy}
    (ht : state.territories.get? target.id = some target)
    (horders : List.Forall₂ (SameForce state)
      (sources.flatMap (Ts.previewedOrders roads state (some target) owner multiplier 1)) armies) :
    (Ts.previewOrderOn roads state sources target.id owner multiplier 1).projected
      = some (Go.attacks owner 1 target
          ((sortBy (fun a b => decide (Go.armyArrivalSeconds a state < Go.armyArrivalSeconds b state))
            armies).map MarchingArmy.units)) := by
  unfold Ts.previewOrderOn
  rw [ht]
  dsimp only
  generalize sources.flatMap (Ts.previewedOrders roads state (some target) owner multiplier 1)
    = orders at horders
  rw [Option.map_some, foldl_projectArrival]
  have hindex : ∀ (n : ℕ) (orders : List Ts.PreviewedOrder), ((orders.zipIdx n).map fun p =>
      (⟨p.1, p.2, Ts.armyArrivalSeconds p.1.army state⟩ : Ts.PreviewedArrival)).Pairwise
        fun a b => a.index < b.index := by
    intro n orders
    induction orders generalizing n with
    | nil => exact .nil
    | cons o orders ih =>
      rw [List.zipIdx_cons, List.map_cons, List.pairwise_cons]
      refine ⟨fun b hb => ?_, ih (n + 1)⟩
      obtain ⟨p, hp, rfl⟩ := List.mem_map.mp hb
      exact List.le_snd_of_mem_zipIdx hp
  have hforce : ∀ (n : ℕ) {orders : List Ts.PreviewedOrder} {armies : List MarchingArmy},
      List.Forall₂ (SameForce state) orders armies →
        ((orders.zipIdx n).map fun p =>
          (⟨p.1, p.2, Ts.armyArrivalSeconds p.1.army state⟩ : Ts.PreviewedArrival)).map
            (fun a => (a.eta, a.order.army.units)) = armies.map (force state) := by
    intro n orders armies h
    induction h generalizing n with
    | nil => rfl
    | cons ho _ ih =>
      rw [List.zipIdx_cons, List.map_cons, List.map_cons, List.map_cons, ih, ← ho.force]
      dsimp only
      rw [armyArrivalSeconds_eq state ho.ok]
      rfl
  have hunits := sortBy_map (fun a : Ts.PreviewedArrival => (a.eta, a.order.army.units))
    (fun a b => decide (a.1 < b.1)) ((orders.zipIdx).map fun p =>
      ⟨p.1, p.2, Ts.armyArrivalSeconds p.1.army state⟩)
  rw [hforce 0 horders, ← sortBy_map (force state) (fun a b => decide (a.1 < b.1))] at hunits
  have hsnd := congrArg (List.map Prod.snd) hunits
  rw [List.map_map, List.map_map] at hsnd
  rw [sortBy_arrivesBefore (hindex 0 orders)]
  exact congrArg (fun units => some (Go.attacks owner 1 target units)) hsnd


/-! ### One army in one tick -/

/-- What has become of an army of the order after a time: it is on its way, with the time left
that it had less what has passed. -/
structure Marched (state : GameState) (targetId : String) (time : ℚ) (a b : MarchingArmy) :
    Prop where
  way : Go.OnWay state targetId b
  owner : b.owner = a.owner
  units : b.units = a.units
  seconds : Go.armyArrivalSeconds b state = Go.armyArrivalSeconds a state - time

section Tick

variable {state : GameState} {targetId : String} {owner : Team}
  {territories : Record String Territory}

/-- **An army in a tick**: it lands if its time is up, and marches on otherwise. -/
theorem advanceArmy_marched {version : ℤ} (hrules : Go.usesTacticalRules version = true)
    (hboard : Go.Board state targetId territories) {time : ℚ} (delta : ℚ) {a b : MarchingArmy}
    (h : Marched state targetId time a b) :
    (Go.armyArrivalSeconds a state ≤ time + delta ∧
      (Ts.advanceArmy version territories delta b).2 = true ∧
      (Ts.advanceArmy version territories delta b).1.targetId = targetId ∧
      (Ts.advanceArmy version territories delta b).1.owner = a.owner ∧
      (Ts.advanceArmy version territories delta b).1.units = a.units) ∨
    (time + delta < Go.armyArrivalSeconds a state ∧
      (Ts.advanceArmy version territories delta b).2 = false ∧
      Marched state targetId (time + delta) a (Ts.advanceArmy version territories delta b).1) := by
  have hadvance : Ts.advanceRoutedArmy b territories delta
      = Go.advanceRoutedArmy b state.territories delta := by
    rw [← h.way.advance_board hboard]
    unfold Ts.advanceRoutedArmy Go.advanceRoutedArmy
    refine advanceLegs_eq territories _ b delta fun hne => h.way.ok.routed ?_
    intro hnil
    rw [hnil, List.drop_nil] at hne
    exact hne rfl
  have hforce := Go.advanceLegs_force state.territories (b.routeIds.drop (b.routeLeg + 2)) b delta
  have hlands := h.way.arrives delta
  rw [h.seconds] at hlands
  unfold Ts.advanceArmy
  rw [usesTacticalRules_eq, if_pos hrules, hadvance]
  dsimp only
  cases hr : (Go.advanceRoutedArmy b state.territories delta).2 with
  | true =>
    left
    rw [if_pos rfl, if_pos le_rfl]
    have hle := hlands.mp hr
    refine ⟨by linarith, rfl, h.way.place hr, ?_, ?_⟩
    · exact hforce.owner.trans h.owner
    · exact hforce.units.trans h.units
  | false =>
    right
    have hlt : ¬ Go.armyArrivalSeconds a state - time ≤ delta := by
      rw [← hlands, hr]
      exact Bool.false_ne_true
    have hprogress : (Go.advanceRoutedArmy b state.territories delta).1.progress < 1 :=
      Go.advanceLegs_onward _ _ _ _ hr
    obtain ⟨hway, hseconds⟩ := h.way.onward hr
    rw [if_neg Bool.false_ne_true, if_neg (not_le.mpr hprogress)]
    refine ⟨by linarith, rfl, hway, hforce.owner.trans h.owner, hforce.units.trans h.units, ?_⟩
    show Go.armyArrivalSeconds (Go.advanceRoutedArmy b state.territories delta).1 state = _
    rw [hseconds, h.seconds]
    ring

omit [MathLib] in
/-- **An arrival at the target**, which carries no shield. -/
theorem arriveArmy_target {c : Ts.StepClock} {m : Ts.Marching} {army : MarchingArmy}
    {t : Territory} (ht : m.territories.get? army.targetId = some t) (hid : t.id = army.targetId)
    (hshield : c.currentState.shieldedUntilMs.getD army.targetId 0 ≤ c.nowMs) :
    (Ts.arriveArmy c m army).territories
        = m.territories.set army.targetId (Go.afterCombat t army.units army.owner 1) ∧
      (Ts.arriveArmy c m army).remainingArmies = m.remainingArmies := by
  have hbonus : ¬ c.currentState.shieldedUntilMs.getD t.id 0 > c.nowMs := by
    rw [hid]
    exact not_lt.mpr hshield
  unfold Ts.arriveArmy
  rw [ht]
  dsimp only
  rw [if_neg hbonus, ← afterCombat_ts]
  split <;> exact ⟨rfl, rfl⟩

/-- The army loop of a tick, once it has seen the armies `seen` of the order, of which all that
landed before the tick have left `before` of the target. -/
structure TickOk (state : GameState) (targetId : String) (owner : Team) (time : ℚ)
    (before : Territory) (seen : List MarchingArmy) (m : Ts.Marching) : Prop where
  board : Go.Board state targetId m.territories
  armies : List.Forall₂ (Marched state targetId time)
    (seen.filter fun a => time < Go.armyArrivalSeconds a state) m.remainingArmies
  target : ∃ t, m.territories.get? targetId = some t ∧ Go.Ends owner t
    (Go.attacks owner 1 before
      ((seen.filter fun a => Go.armyArrivalSeconds a state ≤ time).map MarchingArmy.units))

theorem TickOk.moveArmy {c : Ts.StepClock} {m : Ts.Marching} {time delta : ℚ}
    {before : Territory} {seen : List MarchingArmy} {a b : MarchingArmy}
    (h : TickOk state targetId owner (time + delta) before seen m)
    (hrules : Go.usesTacticalRules c.currentState.gameplayRulesVersion = true)
    (hshield : c.currentState.shieldedUntilMs.getD targetId 0 ≤ c.nowMs)
    (hids : ∀ t, state.territories.get? targetId = some t → t.id = targetId)
    (htarget : ∃ t, state.territories.get? targetId = some t)
    (hunits : 0 < a.units) (howner : a.owner = owner) (hab : Marched state targetId time a b) :
    TickOk state targetId owner (time + delta) before (seen ++ [a]) (Ts.moveArmy c delta m b) := by
  obtain ⟨t, ht, hends⟩ := h.target
  unfold Ts.moveArmy
  rcases advanceArmy_marched hrules h.board delta hab with
    ⟨hle, hlands, hplace, hsame, hsize⟩ | ⟨hlt, hon, hmarched⟩
  · dsimp only
    rw [if_pos hlands]
    have hid : t.id = targetId := by
      obtain ⟨u, hu⟩ := htarget
      obtain ⟨u', hu', hsite, -⟩ := h.board targetId u hu
      rw [ht] at hu'
      cases hu'
      exact hsite.id.trans (hids u hu)
    have harrive := arriveArmy_target (by rwa [hplace]) (by rwa [hplace]) (by rwa [hplace])
    rw [hplace, hsame, hsize, howner] at harrive
    obtain ⟨hterritories, hremaining⟩ := harrive
    have hstay : ¬ time + delta < Go.armyArrivalSeconds a state := not_lt.mpr hle
    refine ⟨?_, ?_, ?_⟩
    · rw [hterritories]
      exact h.board.set ht ⟨rfl, rfl, rfl⟩ fun hne => absurd rfl hne
    · rw [hremaining, List.filter_append, List.filter_cons_of_neg (by simpa using hstay),
        List.filter_nil, List.append_nil]
      exact h.armies
    · rw [hterritories]
      refine ⟨_, Record.get?_set_self _ _ _, ?_⟩
      rw [List.filter_append, List.filter_cons_of_pos (by simpa using hle), List.filter_nil,
        List.map_append, Go.attacks, List.foldl_append]
      exact hends.attack hunits 1
  · dsimp only
    rw [hon, if_neg Bool.false_ne_true]
    have hnot : ¬ Go.armyArrivalSeconds a state ≤ time + delta := not_le.mpr hlt
    refine ⟨h.board, ?_, t, ht, ?_⟩
    · rw [List.filter_append, List.filter_cons_of_pos (by simpa using hlt), List.filter_nil]
      exact List.rel_append h.armies (.cons hmarched .nil)
    · rw [List.filter_append, List.filter_cons_of_neg (by simpa using hnot), List.filter_nil,
        List.append_nil]
      exact hends

/-- **The army loop of a tick.** -/
theorem TickOk.moveArmies (c : Ts.StepClock) {time delta : ℚ} {before : Territory}
    (hrules : Go.usesTacticalRules c.currentState.gameplayRulesVersion = true)
    (hshield : c.currentState.shieldedUntilMs.getD targetId 0 ≤ c.nowMs)
    (hids : ∀ t, state.territories.get? targetId = some t → t.id = targetId)
    (htarget : ∃ t, state.territories.get? targetId = some t) {left armies : List MarchingArmy}
    (hleft : List.Forall₂ (Marched state targetId time) left armies) :
    ∀ {seen : List MarchingArmy} {m : Ts.Marching},
      (∀ a ∈ left, 0 < a.units ∧ a.owner = owner) →
      TickOk state targetId owner (time + delta) before seen m →
        TickOk state targetId owner (time + delta) before (seen ++ left)
          (armies.foldl (Ts.moveArmy c delta) m) := by
  induction hleft with
  | nil =>
    intro seen m _ h
    rw [List.append_nil]
    exact h
  | @cons a b left armies hab _ ih =>
    intro seen m hforce h
    obtain ⟨hunits, howner⟩ := hforce a List.mem_cons_self
    rw [List.append_cons]
    exact ih (fun x hx => hforce x (List.mem_cons_of_mem a hx))
      (h.moveArmy hrules hshield hids htarget hunits howner hab)

end Tick


/-! ### The run -/

omit [MathLib] in
theorem tsGenerated_garrison (multipliers : Option (Record String ℚ))
    (accumulators : Accumulators) (delta : ℚ) (id : String) (t : Territory) :
    ∃ units, (tsGenerated multipliers accumulators delta id t).territory
        = { t with units := units } ∧ (t.owner = .neutral → units = t.units) := by
  unfold tsGenerated Ts.generateUnits
  by_cases hnone : t.owner = .neutral ∨ t.productionRate ≤ 0
  · rw [if_pos hnone]
    exact ⟨t.units, rfl, fun _ => rfl⟩
  · have howned : t.owner ≠ .neutral := fun ho => hnone (Or.inl ho)
    rw [if_neg hnone]
    split
    · exact ⟨t.units, rfl, fun _ => rfl⟩
    · dsimp only
      split
      · exact ⟨_, rfl, fun ho => absurd ho howned⟩
      · exact ⟨t.units, rfl, fun _ => rfl⟩

/-- **The battle after `k` ticks of an order**: the board is that of the order, the armies that
have not landed are where they should be, and the target is what the others have made of it,
tick by tick and in a tick in the order in which they were sent. -/
structure OrderRun (state : GameState) (target : Territory) (owner : Team) (delta : ℚ)
    (sent : List MarchingArmy) (k : ℕ) (s : GameState) : Prop where
  version : s.gameplayRulesVersion = state.gameplayRulesVersion
  shield : isShielded s target.id = false
  board : Go.Board state target.id s.territories
  armies : List.Forall₂ (Marched state target.id (k * delta))
    (sent.filter fun a => k * delta < Go.armyArrivalSeconds a state) s.armies
  target : ∃ t, s.territories.get? target.id = some t ∧ Go.Ends owner t
    (Go.attacks owner 1 target ((inWindows (fun a => Go.armyArrivalSeconds a state)
      (fun k : ℕ => (k : ℚ) * delta) sent k).map MarchingArmy.units))

omit [MathLib] in
theorem isShielded_later {s : GameState} {id : String} (h : isShielded s id = false)
    {elapsed : ℚ} (htime : s.elapsedTimeSeconds ≤ elapsed) :
    s.shieldedUntilMs.getD id 0 ≤ roundHalfUp (elapsed * 1000) := by
  have hnow := of_decide_eq_false h
  have hlater := roundHalfUp_mono (mul_le_mul_of_nonneg_right htime (by norm_num : (0 : ℚ) ≤ 1000))
  omega

omit [MathLib] in
theorem stepClock_later (s : GameState) {delta : ℚ} (hδ : 1 / 10 ^ 9 ≤ delta) :
    s.elapsedTimeSeconds ≤ (Ts.stepClock s delta).newElapsed := by
  unfold Ts.stepClock
  dsimp only
  split
  · have hround := (roundHalfUp_bounds ((s.elapsedTimeSeconds + delta) * 10 ^ 9)).2
    rw [le_div_iff₀ (by norm_num)]
    generalize roundHalfUp ((s.elapsedTimeSeconds + delta) * 10 ^ 9) = nanos at hround ⊢
    have hmore : (1 : ℚ) ≤ delta * 10 ^ 9 := by linarith
    linarith
  · linarith [show (0 : ℚ) ≤ 1 / 10 ^ 9 by norm_num]

section Run

variable {state : GameState} {target : Territory} {owner : Team} {delta : ℚ}
  {sent : List MarchingArmy}

omit [MathLib] in
theorem ticks_mono (hδ : 0 ≤ delta) : Monotone fun k : ℕ => (k : ℚ) * delta :=
  fun _ _ h => mul_le_mul_of_nonneg_right (Nat.cast_le.mpr h) hδ

/-- The armies of an order, as far as a run depends on them. -/
structure SentOk (state : GameState) (owner : Team) (sent : List MarchingArmy) : Prop where
  owner : ∀ a ∈ sent, a.owner = owner
  units : ∀ a ∈ sent, 0 < a.units
  later : ∀ a ∈ sent, 0 < Go.armyArrivalSeconds a state

theorem SentOk.first (h : SentOk state owner sent) : ∀ a ∈ sent,
    ((0 : ℕ) : ℚ) * delta < Go.armyArrivalSeconds a state := by
  intro a ha
  rw [Nat.cast_zero, zero_mul]
  exact h.later a ha

theorem SentOk.landed (h : SentOk state owner sent) (hδ : 0 ≤ delta) (k : ℕ) :
    ∀ u ∈ (inWindows (fun a => Go.armyArrivalSeconds a state) (fun k : ℕ => (k : ℚ) * delta)
      sent k).map MarchingArmy.units, 0 < u := by
  intro u hu
  obtain ⟨a, ha, rfl⟩ := List.mem_map.mp hu
  have hmem := (inWindows_perm (ticks_mono hδ) h.first k).subset ha
  exact h.units a (mem_sortBy.mp (List.mem_of_mem_filter hmem))

/-- **One tick.** -/
theorem OrderRun.step {k : ℕ} {s : GameState} (h : OrderRun state target owner delta sent k s)
    (hsent : SentOk state owner sent) (hδ : 1 / 10 ^ 9 ≤ delta)
    (hrules : Go.usesTacticalRules state.gameplayRulesVersion = true)
    (ht : state.territories.get? target.id = some target) (hneutral : target.owner = .neutral)
    (hplaying : s.status = .playing) (accumulators : Accumulators) :
    OrderRun state target owner delta sent (k + 1)
      (Ts.stepSimulation s accumulators delta).state := by
  have hpos : 0 ≤ delta := (show (0 : ℚ) ≤ 1 / 10 ^ 9 by norm_num).trans hδ
  have htime : ((k + 1 : ℕ) : ℚ) * delta = k * delta + delta := by
    push_cast
    ring
  have hnow := isShielded_later h.shield (stepClock_later s hδ)
  obtain ⟨t₀, ht₀, hends₀⟩ := h.target
  have hstart : TickOk state target.id owner (k * delta + delta)
      (Go.attacks owner 1 target ((inWindows (fun a => Go.armyArrivalSeconds a state)
        (fun k : ℕ => (k : ℚ) * delta) sent k).map MarchingArmy.units)) []
      (Ts.marchStart (Ts.stepClock s delta) accumulators) :=
    ⟨h.board, .nil, t₀, ht₀, hends₀⟩
  have hversion : Go.usesTacticalRules s.gameplayRulesVersion = true := by
    rw [h.version]
    exact hrules
  have hloop := TickOk.moveArmies (Ts.stepClock s delta) hversion hnow
    (fun u hu => by rw [ht] at hu; cases hu; rfl) ⟨target, ht⟩ h.armies
    (fun a ha => ⟨hsent.units a (List.mem_of_mem_filter ha),
      hsent.owner a (List.mem_of_mem_filter ha)⟩) hstart
  rw [List.nil_append, ← htime] at hloop
  obtain ⟨hboard, harmies, t, htm, hends⟩ := hloop
  have hleft : (sent.filter fun a => k * delta < Go.armyArrivalSeconds a state).filter
      (fun a => ((k + 1 : ℕ) : ℚ) * delta < Go.armyArrivalSeconds a state)
        = sent.filter fun a => ((k + 1 : ℕ) : ℚ) * delta < Go.armyArrivalSeconds a state := by
    rw [List.filter_filter]
    refine List.filter_congr fun a _ => ?_
    have himp : ((k + 1 : ℕ) : ℚ) * delta < Go.armyArrivalSeconds a state →
        (k : ℚ) * delta < Go.armyArrivalSeconds a state := by
      intro hlt
      linarith
    by_cases hlt : ((k + 1 : ℕ) : ℚ) * delta < Go.armyArrivalSeconds a state
    · rw [decide_eq_true hlt, decide_eq_true (himp hlt)]
      rfl
    · rw [decide_eq_false hlt]
      rfl
  have hlanding : (sent.filter fun a => k * delta < Go.armyArrivalSeconds a state).filter
      (fun a => Go.armyArrivalSeconds a state ≤ ((k + 1 : ℕ) : ℚ) * delta)
        = window (fun a => Go.armyArrivalSeconds a state) ((k : ℚ) * delta)
            (((k + 1 : ℕ) : ℚ) * delta) sent := by
    rw [List.filter_filter]
    unfold window
    refine List.filter_congr fun a _ => ?_
    rw [Bool.decide_and, Bool.and_comm]
  rw [hleft] at harmies
  rw [hlanding] at hends
  have hlanded : Go.Ends owner t
      (Go.attacks owner 1 target ((inWindows (fun a => Go.armyArrivalSeconds a state)
        (fun k : ℕ => (k : ℚ) * delta) sent (k + 1)).map MarchingArmy.units)) := by
    rw [inWindows, List.map_append]
    unfold Go.attacks at hends ⊢
    rw [List.foldl_append]
    exact hends
  rw [Ts.stepSimulation, if_neg (not_not.mpr hplaying)]
  unfold Ts.finishStep
  dsimp only
  refine ⟨h.version, decide_eq_false (not_lt.mpr hnow), ?_, harmies, ?_⟩
  · show Go.Board state target.id (Ts.tickUnitGeneration _ _ _ _).territories
    rw [tickUnitGeneration_territories]
    refine hboard.map fun id u => ?_
    obtain ⟨units, hunits, -⟩ := tsGenerated_garrison _ _ delta id u
    rw [hunits]
    exact ⟨⟨rfl, rfl, rfl⟩, rfl⟩
  · show ∃ t, (Ts.tickUnitGeneration _ _ _ _).territories.get? target.id = some t ∧ _
    rw [tickUnitGeneration_territories, Record.get?_map, htm]
    refine ⟨_, rfl, ?_⟩
    show Go.Ends owner (tsGenerated _ _ delta target.id t).territory _
    obtain ⟨units, hunits, hsame⟩ := tsGenerated_garrison _ _ delta target.id t
    rw [hunits]
    refine hlanded.produce (fun hne => ?_) rfl rfl fun ho => ?_
    · exact (Go.attacks_owner 1 _ target (hsent.landed hpos (k + 1)) hne).trans hneutral
    · rw [hsame ho]


/-- Any number of ticks; a battle that is over stays as it is. -/
theorem OrderRun.run (hsent : SentOk state owner sent) (hδ : 1 / 10 ^ 9 ≤ delta)
    (hrules : Go.usesTacticalRules state.gameplayRulesVersion = true)
    (ht : state.territories.get? target.id = some target) (hneutral : target.owner = .neutral) :
    ∀ (n : ℕ) {k : ℕ} {s : GameState} (accumulators : Accumulators),
      OrderRun state target owner delta sent k s →
        ∃ k, OrderRun state target owner delta sent k (Ts.runTicks delta n s accumulators).1 := by
  intro n
  induction n with
  | zero => intro k s accumulators h; exact ⟨k, h⟩
  | succ n ih =>
    intro k s accumulators h
    by_cases hplaying : s.status = .playing
    · exact ih _ (h.step hsent hδ hrules ht hneutral hplaying accumulators)
    · rw [Ts.runTicks, Ts.stepSimulation, if_pos hplaying]
      exact ih _ h

theorem OrderRun.landed {k : ℕ} {s : GameState} (h : OrderRun state target owner delta sent k s)
    (hnone : s.armies = []) : ∀ a ∈ sent, Go.armyArrivalSeconds a state ≤ k * delta := by
  have harmies := h.armies
  rw [hnone, List.forall₂_nil_right_iff, List.filter_eq_nil_iff] at harmies
  intro a ha
  have hnot := harmies a ha
  rw [decide_eq_true_eq] at hnot
  exact not_lt.mp hnot

end Run

section Order

variable {roads : List (String × String)} {state : GameState} {target : Territory} {owner : Team}
  {result : Ts.MultiDispatchResult} {orders : List Ts.PreviewedOrder}

theorem OrderSent.sentOk {targetId : String} (h : OrderSent state targetId owner result orders) :
    SentOk state owner result.armies :=
  ⟨fun a ha => (h.armies a ha).2.1, fun a ha => (h.armies a ha).2.2.1,
    fun a ha => (h.armies a ha).2.2.2⟩

/-- **The battle when the order is given.** -/
theorem OrderSent.start (h : OrderSent state target.id owner result orders) (delta : ℚ)
    (hquiet : state.armies = []) (hshield : isShielded state target.id = false)
    (ht : state.territories.get? target.id = some target) :
    OrderRun state target owner delta result.armies 0
      (Ts.withMultiDispatch state result owner) := by
  have hmap : Go.Board state target.id
        (Ts.withMultiDispatch state result owner).territories ∧
      (Ts.withMultiDispatch state result owner).territories.get? target.id = some target := by
    refine foldl_preserves (P := fun r => Go.Board state target.id r ∧
      r.get? target.id = some target) ?_ ⟨Go.board_refl state target.id, ht⟩
    rintro r e he ⟨hboard, htarget⟩
    obtain ⟨hother, t, units, ht, hunits⟩ := h.sources e he
    obtain ⟨t', ht', hplace, hsame⟩ := hboard e.1 t ht
    refine ⟨hboard.set ht' ?_ fun _ => ?_, ?_⟩
    · rw [hunits]
      exact ⟨hplace.id.symm, hplace.x.symm, hplace.y.symm⟩
    · rw [hunits]
      exact (hsame hother).symm
    · rw [Record.get?_set_ne (Ne.symm hother)]
      exact htarget
  refine ⟨rfl, hshield, hmap.1, ?_, target, hmap.2, Go.Ends.refl owner target⟩
  show List.Forall₂ _ _ (state.armies ++ result.armies)
  have hall : (result.armies.filter fun a => ((0 : ℕ) : ℚ) * delta
      < Go.armyArrivalSeconds a state) = result.armies := by
    rw [List.filter_eq_self]
    intro a ha
    exact decide_eq_true (h.sentOk.first a ha)
  rw [hall, hquiet, List.nil_append, List.forall₂_same]
  intro a ha
  exact ⟨(h.armies a ha).1, rfl, rfl, by rw [Nat.cast_zero, zero_mul, sub_zero]⟩

end Order

/-! ### The preview and the battle -/

/-- The tick in which an army lands. -/
def arrivalTick (delta : ℚ) (state : GameState) (a : MarchingArmy) : ℤ :=
  ⌈Ts.armyArrivalSeconds a state / delta⌉

/-- Of two armies of different size that land in the same tick, the one that was sent first is
predicted to land first, or together with the other one. -/
def TicksInOrder (delta : ℚ) (state : GameState) (sent : List MarchingArmy) : Prop :=
  sent.Pairwise fun a b => arrivalTick delta state a = arrivalTick delta state b →
    a.units ≠ b.units → Ts.armyArrivalSeconds a state ≤ Ts.armyArrivalSeconds b state


section Fate

variable {state : GameState} {target : Territory} {owner : Team} {delta : ℚ}
  {sent : List MarchingArmy}

theorem arrivalTick_window (hδ : 0 < delta) {a : MarchingArmy} (hok : Go.ArmyOk a) {k : ℕ}
    (hlow : (k : ℚ) * delta < Go.armyArrivalSeconds a state)
    (hhigh : Go.armyArrivalSeconds a state ≤ ((k + 1 : ℕ) : ℚ) * delta) :
    arrivalTick delta state a = k + 1 := by
  unfold arrivalTick
  rw [armyArrivalSeconds_eq state hok, Int.ceil_eq_iff]
  constructor
  · rw [lt_div_iff₀ hδ]
    push_cast
    linarith
  · rw [div_le_iff₀ hδ]
    push_cast at hhigh ⊢
    exact hhigh

/-- In a tick, armies that change places have the same size. -/
theorem TicksInOrder.ties (h : TicksInOrder delta state sent) (hδ : 0 < delta)
    (hok : ∀ a ∈ sent, Go.ArmyOk a) (k : ℕ) :
    (window (fun a => Go.armyArrivalSeconds a state) ((k : ℚ) * delta)
      (((k + 1 : ℕ) : ℚ) * delta) sent).Pairwise fun a b =>
        Go.armyArrivalSeconds b state < Go.armyArrivalSeconds a state → a.units = b.units := by
  unfold window
  refine (h.filter _).imp_of_mem ?_
  intro a b ha hb hab hlt
  obtain ⟨hamem, hawindow⟩ := List.mem_filter.mp ha
  obtain ⟨hbmem, hbwindow⟩ := List.mem_filter.mp hb
  rw [decide_eq_true_eq] at hawindow hbwindow
  by_contra hne
  have htick := (arrivalTick_window hδ (hok a hamem) hawindow.1 hawindow.2).trans
    (arrivalTick_window hδ (hok b hbmem) hbwindow.1 hbwindow.2).symm
  have hle := hab htick hne
  rw [armyArrivalSeconds_eq state (hok a hamem), armyArrivalSeconds_eq state (hok b hbmem)] at hle
  exact absurd hlt (not_lt.mpr hle)

omit [MathLib] in
theorem defenseFactor_plain (h : target.type ≠ .fortress) : Go.defenseFactor target 1 = 1 := by
  unfold Go.defenseFactor
  cases htype : target.type with
  | fortress => exact absurd htype h
  | barracks => exact mul_one 1
  | stable => exact mul_one 1

/-- **Tick by tick the target ends as by predicted arrival**, once all armies have landed. -/
theorem OrderRun.ends {k : ℕ} {s : GameState} (h : OrderRun state target owner delta sent k s)
    (hsent : SentOk state owner sent) (hok : ∀ a ∈ sent, Go.ArmyOk a) (hδ : 0 < delta)
    (hneutral : target.owner ≠ owner)
    (horder : target.type = .fortress → TicksInOrder delta state sent) (hnone : s.armies = []) :
    ∃ t, s.territories.get? target.id = some t ∧ Go.Ends owner t
      (Go.attacks owner 1 target
        ((sortBy (fun a b => decide (Go.armyArrivalSeconds a state < Go.armyArrivalSeconds b state))
          sent).map MarchingArmy.units)) := by
  obtain ⟨t, ht, hends⟩ := h.target
  refine ⟨t, ht, hends.trans ?_⟩
  have hall : ((sortBy (fun a b => decide (Go.armyArrivalSeconds a state
      < Go.armyArrivalSeconds b state)) sent).filter fun a =>
        Go.armyArrivalSeconds a state ≤ (k : ℚ) * delta)
      = sortBy (fun a b => decide (Go.armyArrivalSeconds a state
          < Go.armyArrivalSeconds b state)) sent := by
    rw [List.filter_eq_self]
    intro a ha
    exact decide_eq_true (h.landed hnone a (mem_sortBy.mp ha))
  have hmono := ticks_mono hδ.le
  by_cases hfortress : target.type = .fortress
  · have hmap := map_inWindows hmono hsent.first ((horder hfortress).ties hδ hok) k
    rw [hall] at hmap
    rw [hmap]
    exact Go.Ends.refl owner _
  · have hperm := inWindows_perm hmono hsent.first k
    rw [hall] at hperm
    exact Go.attacks_perm (defenseFactor_plain hfortress) hneutral (hsent.landed hδ.le k)
      (hperm.map MarchingArmy.units)

end Fate

/-- **The preview tells the truth on a quiet board**, on any roads and for any sites of the
towers.  Nobody is on the road, the target is neutral and carries no shield, and a list of
towers is sent to it.  When ticks of 0.02 seconds have brought all the armies there, the target
has the owner that was projected, and the garrison that was projected if it was not taken.  If
the target is a fortress, armies of different size that land in the same tick are to be
predicted in the order in which they were sent. -/
theorem preview_tells_truth (roads : List (String × String)) {state : GameState}
    (hrules : Ts.usesTacticalRules state.gameplayRulesVersion = true)
    (hkeys : ∀ id t, state.territories.get? id = some t → t.id = id)
    (hquiet : state.armies = []) {sources : List Territory}
    (hsources : ∀ s ∈ sources, state.territories.get? s.id = some s) {owner : Team}
    (howner : owner ≠ .neutral) {target : Territory}
    (htarget : state.territories.get? target.id = some target)
    (hneutral : target.owner = .neutral) (hshield : isShielded state target.id = false)
    (multiplier : ℚ) (armyIds : ℕ → String) (accumulators : Accumulators)
    (horder : target.type = .fortress → TicksInOrder (1 / 50) state
      (Ts.dispatchMultipleArmiesOn roads sources target owner (1 / 2) multiplier armyIds
        state).armies) (n : ℕ) :
    let sent := Ts.dispatchMultipleArmiesOn roads sources target owner (1 / 2) multiplier armyIds
      state
    let final := (Ts.runTicks (1 / 50) n (Ts.withMultiDispatch state sent owner) accumulators).1
    final.armies = [] → ∃ t p, final.territories.get? target.id = some t ∧
      (Ts.previewOrderOn roads state (sources.map Territory.id) target.id owner multiplier
        1).projected = some p ∧
      t.owner = p.owner ∧ (p.owner ≠ owner → t.units = p.units) := by
  intro sent final hlanded
  rw [usesTacticalRules_eq] at hrules
  have hother : target.owner ≠ owner := by
    rw [hneutral]
    exact howner.symm
  have horderSent : OrderSent state target.id owner sent ((sources.map Territory.id).flatMap
      (Ts.previewedOrders roads state (some target) owner multiplier 1)) :=
    orderSent hrules hkeys htarget howner hneutral hsources (orderSent_start state target.id owner)
  have hsent := horderSent.sentOk
  obtain ⟨k, hrun⟩ := OrderRun.run hsent (by norm_num) hrules htarget hneutral n accumulators
    (horderSent.start (1 / 50) hquiet hshield htarget)
  obtain ⟨t, ht, hends⟩ := hrun.ends hsent (fun a ha => (horderSent.armies a ha).1.ok) (by norm_num)
    hother horder hlanded
  exact ⟨t, _, ht, projected_eq htarget horderSent.orders, hends.owner,
    fun hne => (hends.held hne).2⟩


omit [MathLib] in
/-- A tower on the road between the two sides. -/
def towerAt (id : String) (x : ℚ) (owner : Team) (units : ℤ) (type : TerritoryType) :
    Territory :=
  ⟨id, id, x, 0, 30, owner, units, 65, 1, 1, type⟩

omit [MathLib] in
def keepTower : Territory := towerAt "keep" 0 .neutral 4 .fortress

omit [MathLib] in
def nearTower : Territory := towerAt "near" 281 .player 10 .barracks

omit [MathLib] in
def farTower : Territory := towerAt "far" (-282) .player 2 .barracks

omit [MathLib] in
/-- A neutral keep, two towers of the player's, a pixel further on one side than on the other,
and one of the enemy's. -/
def keepState : GameState where
  battlefieldId := "keep"
  territories :=
    ⟨[("near", nearTower), ("far", farTower), ("keep", keepTower),
      ("rival", towerAt "rival" 900 .enemy 10 .barracks)], by decide⟩
  armies := []
  status := .playing
  elapsedTimeSeconds := 0
  timeLimitSeconds := 90
  stats := .zero
  gameplayRulesVersion := 4
  productionReadyAtMs := .empty
  shieldedUntilMs := .empty
  playerAbilityUsed := false
  enemyAbilityUsed := false

omit [MathLib] in
def keepRoads : List (String × String) := [("near", "keep"), ("far", "keep"), ("keep", "rival")]

omit [MathLib] in
def keepArmy (n : ℕ) : String := "army_" ++ toString n

omit [MathLib] in
/-- The armies that the player sends from the towers to the keep. -/
def keepSent (state : GameState) (sources : List Territory) : Ts.MultiDispatchResult :=
  @Ts.dispatchMultipleArmiesOn decimalHypot keepRoads sources keepTower .player (1 / 2) 1 keepArmy
    state

omit [MathLib] in
/-- The battle 101 ticks later. -/
def keepFinal (state : GameState) (sources : List Territory) : GameState :=
  (@Ts.runTicks decimalHypot (1 / 50) 101
    (Ts.withMultiDispatch state (keepSent state sources) .player) .empty).1

omit [MathLib] in
/-- What the preview says of the keep. -/
def keepProjected (state : GameState) (sources : List Territory) : Option Territory :=
  (@Ts.previewOrderOn decimalHypot keepRoads state (sources.map Territory.id) keepTower.id .player
    1 1).projected

omit [MathLib] in
/-- The larger army is sent first, and arrives first. -/
theorem preview_tells_truth_keep : ∃ t p,
    (keepFinal keepState [nearTower, farTower]).territories.get? keepTower.id = some t ∧
      keepProjected keepState [nearTower, farTower] = some p ∧ t.owner = p.owner ∧
      (p.owner ≠ .player → t.units = p.units) := by
  have hkeys : ∀ id t, keepState.territories.get? id = some t → t.id = id := by
    intro id t ht
    have hmem := Record.get?_eq_some_iff.mp ht
    simp only [keepState, List.mem_cons, List.not_mem_nil, or_false, Prod.mk.injEq] at hmem
    rcases hmem with ⟨rfl, rfl⟩ | ⟨rfl, rfl⟩ | ⟨rfl, rfl⟩ | ⟨rfl, rfl⟩ <;> rfl
  have horder : @TicksInOrder decimalHypot (1 / 50) keepState
      (keepSent keepState [nearTower, farTower]).armies := by
    unfold TicksInOrder
    decide +kernel
  have hlanded : (keepFinal keepState [nearTower, farTower]).armies = [] := by decide +kernel
  unfold keepFinal keepProjected keepSent at *
  exact @preview_tells_truth decimalHypot keepRoads keepState (by decide) hkeys rfl
    [nearTower, farTower] (by decide) .player (by decide) keepTower rfl rfl (by decide +kernel) 1
    keepArmy .empty (fun _ => horder) 101 hlanded

omit [MathLib] in
/-- The smaller army is sent first and arrives in the same tick: the preview takes the keep, the
battle does not.  Nor does the preview know of a shield. -/
theorem preview_fails_keep :
    ((keepProjected keepState [farTower, nearTower]).map fun t => (t.owner, t.units))
        = some (.player, 1) ∧
      (keepFinal keepState [farTower, nearTower]).armies = [] ∧
      ((keepFinal keepState [farTower, nearTower]).territories.get? keepTower.id).map
          (fun t => (t.owner, t.units)) = some (.neutral, 0) ∧
    ((keepProjected { keepState with shieldedUntilMs := .set .empty "keep" 60000 }
        [nearTower]).map fun t => (t.owner, t.units)) = some (.neutral, 0) ∧
      (keepFinal { keepState with shieldedUntilMs := .set .empty "keep" 60000 }
        [nearTower]).armies = [] ∧
      ((keepFinal { keepState with shieldedUntilMs := .set .empty "keep" 60000 }
          [nearTower]).territories.get? keepTower.id).map (fun t => (t.owner, t.units))
        = some (.neutral, 2) := by
  decide +kernel

end CrownClash.Parity
