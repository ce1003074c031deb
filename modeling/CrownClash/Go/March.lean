import CrownClash.Go.BotMoves
import Mathlib.Data.List.Find
import Mathlib.Tactic.Linarith
import Mathlib.Tactic.FieldSimp
import Mathlib.Tactic.Ring

/-!
# Server: how long an army marches

An army stores the leg it is on and its progress there; the time to its arrival is a
sum over the legs behind.  `advanceLegs_spec` says that the two agree: an army arrives
when that time is up and not before, where it was going to stop, and until then the
time left is what was left, less what has passed.  `advanceLegs_add` says that it does
not matter how the time is cut into steps.  Of the towers a march only reads the sites
along its route, so neither result asks for the same map at every moment.
-/

namespace CrownClash.Go

open Lib

variable [MathLib]

/-- An army on a leg of its route: it heads for the waypoint the leg ends at, the route
visits no tower twice, and its towers are stored under their own ids. -/
structure OnRoute (territories : Record String Territory) (army : MarchingArmy) : Prop where
  target : army.routeIds[army.routeLeg + 1]? = some army.targetId
  nodup : army.routeIds.Nodup
  towers : ∀ id ∈ army.routeIds, ∃ t, territories.get? id = some t ∧ t.id = id
  speed : 0 < army.speed

/-! ### Legs -/

/-- The time a leg takes. -/
def legSeconds (multiplier : ℚ) (source target : Territory) : ℚ :=
  max 2 (hypot (target.x - source.x) (target.y - source.y) / (baseArmyTravelSpeed * multiplier))

theorem legSeconds_pos (multiplier : ℚ) (source target : Territory) :
    0 < legSeconds multiplier source target :=
  lt_of_lt_of_le two_pos (le_max_left _ _)

theorem setArmyLeg_speed (army : MarchingArmy) (source target : Territory) (leg : ℕ) :
    (setArmyLeg army source target leg).speed
      = 1 / legSeconds army.routeSpeedMultiplier source target := rfl

/-- The time for the legs behind a waypoint, which depends on the speed of the army alone. -/
theorem remainingLegSeconds_congr {a b : MarchingArmy}
    (h : a.routeSpeedMultiplier = b.routeSpeedMultiplier) (state : GameState)
    (destination : String) : ∀ (legs : List String) (i j : ℕ),
      remainingLegSeconds a state destination i legs
        = remainingLegSeconds b state destination j legs := by
  intro legs
  induction legs with
  | nil => intro i j; rfl
  | cons id legs ih =>
    intro i j
    cases legs with
    | nil => rfl
    | cons next legs =>
      rw [remainingLegSeconds, remainingLegSeconds, setArmyLeg_speed, setArmyLeg_speed, h,
        ih (i + 1) (j + 1)]

theorem remainingLegSeconds_nonneg (a : MarchingArmy) (state : GameState) (destination : String) :
    ∀ (legs : List String) (i : ℕ), 0 ≤ remainingLegSeconds a state destination i legs := by
  intro legs
  induction legs with
  | nil => intro i; exact le_rfl
  | cons id legs ih =>
    intro i
    cases legs with
    | nil => exact le_rfl
    | cons next legs =>
      rw [remainingLegSeconds]
      split
      · exact le_rfl
      · rw [setArmyLeg_speed, one_div_one_div]
        exact add_nonneg (legSeconds_pos _ _ _).le (ih (i + 1))

omit [MathLib] in
/-- Where an army that heads for the first of `legs` will stop. -/
def stopOf (state : GameState) (owner : Team) (legs : List String) (last : String) : String :=
  ((legs.find? fun id => (state.territory id).owner ≠ owner)).getD (legs.getLastD last)

/-- The time to the arrival of an army that heads for the first of `legs`. -/
def arrivalSeconds (state : GameState) (a : MarchingArmy) (legs : List String) : ℚ :=
  (1 - a.progress) / a.speed +
    remainingLegSeconds a state (stopOf state a.owner legs a.targetId) (a.routeLeg + 1) legs

omit [MathLib] in
theorem stopOf_cons_own {state : GameState} {owner : Team} {id next last : String}
    {legs : List String} (h : (state.territory id).owner = owner) :
    stopOf state owner (id :: next :: legs) last = stopOf state owner (next :: legs) last := by
  unfold stopOf
  rw [List.find?_cons_of_neg (by rw [h]; simp)]
  rfl

omit [MathLib] in
theorem stopOf_cons_hostile {state : GameState} {owner : Team} {id last : String}
    {legs : List String} (h : (state.territory id).owner ≠ owner) :
    stopOf state owner (id :: legs) last = id := by
  unfold stopOf
  rw [List.find?_cons_of_pos (by rw [decide_eq_true_eq]; exact h)]
  rfl

omit [MathLib] in
theorem stopOf_single (state : GameState) (owner : Team) (id last : String) :
    stopOf state owner [id] last = id := by
  by_cases h : (state.territory id).owner = owner
  · unfold stopOf
    rw [List.find?_cons_of_neg (by rw [h]; simp)]
    rfl
  · exact stopOf_cons_hostile h

omit [MathLib] in
theorem stopOf_mem (state : GameState) (owner : Team) (id last : String) (legs : List String) :
    stopOf state owner (id :: legs) last ∈ id :: legs := by
  unfold stopOf
  cases hf : (id :: legs).find? fun id => (state.territory id).owner ≠ owner with
  | none =>
    show (id :: legs).getLastD last ∈ id :: legs
    rw [List.getLastD_cons, List.getLastD_eq_getLast?]
    cases hl : legs.getLast? with
    | none => exact List.mem_cons_self
    | some k => exact List.mem_cons_of_mem _ (List.mem_of_getLast? hl)
  | some k => exact List.mem_of_find?_eq_some hf

/-- At an own waypoint with a leg behind it, the time left is that from the next leg on. -/
theorem arrivalSeconds_next {state : GameState} {a : MarchingArmy} {next : String}
    {legs : List String} (hnotin : a.targetId ∉ next :: legs)
    (hown : (state.territory a.targetId).owner = a.owner) :
    arrivalSeconds state a (a.targetId :: next :: legs) = (1 - a.progress) / a.speed +
      arrivalSeconds state
        (setArmyLeg a (state.territory a.targetId) (state.territory next) (a.routeLeg + 1))
        (next :: legs) := by
  have hstop : ∀ last, stopOf state a.owner (a.targetId :: next :: legs) a.targetId
      = stopOf state a.owner (next :: legs) last := by
    intro last
    rw [stopOf_cons_own hown]
    unfold stopOf
    rw [List.getLastD_cons, List.getLastD_cons]
  have hne : a.targetId ≠ stopOf state a.owner (next :: legs) a.targetId := by
    intro he
    exact hnotin (he ▸ stopOf_mem state a.owner next a.targetId legs)
  unfold arrivalSeconds
  rw [hstop (setArmyLeg a (state.territory a.targetId) (state.territory next)
    (a.routeLeg + 1)).targetId, remainingLegSeconds, if_neg]
  · show _ = _ + ((1 - 0) / _ + _)
    have hspeed : a.routeSpeedMultiplier = (setArmyLeg a (state.territory a.targetId)
      (state.territory next) (a.routeLeg + 1)).routeSpeedMultiplier := rfl
    rw [sub_zero]
    congr 2
    exact remainingLegSeconds_congr hspeed state _ _ _ _
  · intro he
    rw [← hstop a.targetId, hstop] at hne
    exact hne he


/-- At the last waypoint, and at one that is not the army's own, nothing is behind. -/
theorem arrivalSeconds_stop {state : GameState} {a : MarchingArmy} {legs : List String}
    (h : legs = [] ∨ (state.territory a.targetId).owner ≠ a.owner) :
    arrivalSeconds state a (a.targetId :: legs) = (1 - a.progress) / a.speed := by
  unfold arrivalSeconds
  cases legs with
  | nil => exact add_zero _
  | cons next legs =>
    have hhostile : (state.territory a.targetId).owner ≠ a.owner := by
      rcases h with h | h
      · cases h
      · exact h
    rw [stopOf_cons_hostile hhostile, remainingLegSeconds, if_pos rfl, add_zero]

/-! ### An army on its way -/

/-- The part of the towers that an army still heads for. -/
structure Heading (state : GameState) (a : MarchingArmy) (rest : List String) : Prop where
  nodup : (a.targetId :: rest).Nodup
  towers : ∀ id ∈ a.targetId :: rest, ∃ t, state.territories.get? id = some t ∧ t.id = id
  speed : 0 < a.speed

omit [MathLib] in
theorem Heading.waypoint {state : GameState} {a : MarchingArmy} {rest : List String}
    (h : Heading state a rest) :
    ∃ w, state.territories.get? a.targetId = some w ∧ state.territory a.targetId = w := by
  obtain ⟨w, hw, -⟩ := h.towers a.targetId List.mem_cons_self
  refine ⟨w, hw, ?_⟩
  unfold GameState.territory Record.getD
  rw [hw]
  rfl

theorem Heading.next {state : GameState} {a : MarchingArmy} {next : String} {rest : List String}
    (h : Heading state a (next :: rest)) :
    Heading state (setArmyLeg a (state.territory a.targetId) (state.territory next)
      (a.routeLeg + 1)) rest ∧
    (setArmyLeg a (state.territory a.targetId) (state.territory next) (a.routeLeg + 1)).targetId
      = next := by
  obtain ⟨t, ht, hid⟩ := h.towers next (List.mem_cons_of_mem _ List.mem_cons_self)
  have hnext : (setArmyLeg a (state.territory a.targetId) (state.territory next)
      (a.routeLeg + 1)).targetId = next := by
    show (state.territory next).id = next
    unfold GameState.territory Record.getD
    rw [ht]
    exact hid
  refine ⟨⟨?_, ?_, ?_⟩, hnext⟩
  · rw [hnext]
    exact h.nodup.of_cons
  · rw [hnext]
    exact fun id hid => h.towers id (List.mem_cons_of_mem _ hid)
  · rw [setArmyLeg_speed]
    exact one_div_pos.mpr (legSeconds_pos _ _ _)

/-- An army that does not reach its waypoint. -/
theorem advanceLegs_short {territories : Record String Territory} {a : MarchingArmy}
    {rest : List String} {t : ℚ} (ht : a.progress + a.speed * t < 1) :
    advanceLegs territories rest a t
      = ({ a with progress := a.progress + a.speed * t }, false) := by
  cases rest with
  | nil =>
    unfold advanceLegs
    exact if_pos ht
  | cons next rest =>
    unfold advanceLegs
    exact if_pos ht

/-- An army that reaches a waypoint behind which nothing is left for it. -/
theorem advanceLegs_stop {state : GameState} {a : MarchingArmy} {rest : List String} {t : ℚ}
    (h : Heading state a rest) (ht : ¬ a.progress + a.speed * t < 1)
    (hstop : rest = [] ∨ (state.territory a.targetId).owner ≠ a.owner) :
    advanceLegs state.territories rest a t = ({ a with progress := 1 }, true) := by
  obtain ⟨w, hw, hterritory⟩ := h.waypoint
  unfold advanceLegs
  dsimp only
  rw [if_neg ht, hw]
  cases rest with
  | nil => rfl
  | cons next rest =>
    dsimp only
    rcases hstop with hnil | ho
    · cases hnil
    · rw [hterritory] at ho
      exact if_pos ho

/-- An army that passes an own waypoint carries the time it has left onto the next leg. -/
theorem advanceLegs_pass {state : GameState} {a : MarchingArmy} {next : String}
    {rest : List String} {t : ℚ} (h : Heading state a (next :: rest))
    (ht : ¬ a.progress + a.speed * t < 1)
    (hown : (state.territory a.targetId).owner = a.owner) :
    advanceLegs state.territories (next :: rest) a t =
      advanceLegs state.territories rest
        (setArmyLeg a (state.territory a.targetId) (state.territory next) (a.routeLeg + 1))
        ((a.progress + a.speed * t - 1) / a.speed) := by
  obtain ⟨w, hw, hterritory⟩ := h.waypoint
  rw [hterritory] at hown ⊢
  rw [advanceLegs, if_neg ht]
  · exact if_neg (not_not.mpr hown)
  · exact hw

omit [MathLib] in
/-- What is left of the time behind the waypoint. -/
theorem carried_eq {a : MarchingArmy} {t : ℚ} (h : 0 < a.speed) :
    (a.progress + a.speed * t - 1) / a.speed = t - (1 - a.progress) / a.speed := by
  field_simp
  ring

/-- What marching for `t` makes of an army that heads for its target and then `rest`. -/
structure Marches (state : GameState) (a : MarchingArmy) (rest : List String) (t : ℚ) : Prop where
  arrives : (advanceLegs state.territories rest a t).2 = true
    ↔ arrivalSeconds state a (a.targetId :: rest) ≤ t
  place : (advanceLegs state.territories rest a t).2 = true →
    (advanceLegs state.territories rest a t).1.targetId
      = stopOf state a.owner (a.targetId :: rest) a.targetId
  onward : (advanceLegs state.territories rest a t).2 = false →
    ∃ passed left, rest = passed ++ left ∧
      Heading state (advanceLegs state.territories rest a t).1 left ∧
      (a.targetId :: rest).drop passed.length
        = (advanceLegs state.territories rest a t).1.targetId :: left ∧
      (advanceLegs state.territories rest a t).1.routeLeg = a.routeLeg + passed.length ∧
      (advanceLegs state.territories rest a t).1.routeIds = a.routeIds ∧
      (advanceLegs state.territories rest a t).1.owner = a.owner ∧
      arrivalSeconds state (advanceLegs state.territories rest a t).1
          ((advanceLegs state.territories rest a t).1.targetId :: left)
        = arrivalSeconds state a (a.targetId :: rest) - t

theorem arrivalSeconds_ge (state : GameState) (a : MarchingArmy) (legs : List String) :
    (1 - a.progress) / a.speed ≤ arrivalSeconds state a legs :=
  le_add_of_nonneg_right (remainingLegSeconds_nonneg a state _ legs _)

theorem Marches.short {state : GameState} {a : MarchingArmy} {rest : List String} {t : ℚ}
    (h : Heading state a rest) (ht : a.progress + a.speed * t < 1) :
    Marches state a rest t := by
  have hspeed := h.speed
  have hlater : t < arrivalSeconds state a (a.targetId :: rest) := by
    refine lt_of_lt_of_le ?_ (arrivalSeconds_ge state a _)
    rw [lt_div_iff₀ hspeed]
    linarith
  constructor
  · rw [advanceLegs_short ht]
    exact ⟨fun hf => (nomatch hf), fun hle => absurd hle (not_le.mpr hlater)⟩
  · rw [advanceLegs_short ht]
    exact fun hf => (nomatch hf)
  · rw [advanceLegs_short ht]
    intro _
    refine ⟨[], rest, rfl, ⟨h.nodup, h.towers, h.speed⟩, rfl, rfl, rfl, rfl, ?_⟩
    show (1 - (a.progress + a.speed * t)) / a.speed + _ = (1 - a.progress) / a.speed + _ - t
    have hleg : (1 - (a.progress + a.speed * t)) / a.speed = (1 - a.progress) / a.speed - t := by
      field_simp
      ring
    rw [hleg, sub_add_eq_add_sub]
    congr 2
    refine remainingLegSeconds_congr ?_ state _ _ _ _
    rfl

theorem Marches.stop {state : GameState} {a : MarchingArmy} {rest : List String} {t : ℚ}
    (h : Heading state a rest) (ht : ¬ a.progress + a.speed * t < 1)
    (hstop : rest = [] ∨ (state.territory a.targetId).owner ≠ a.owner) :
    Marches state a rest t := by
  have hspeed := h.speed
  constructor
  · rw [advanceLegs_stop h ht hstop, arrivalSeconds_stop hstop, div_le_iff₀ hspeed]
    exact ⟨fun _ => by linarith, fun _ => rfl⟩
  · rw [advanceLegs_stop h ht hstop]
    intro _
    rcases hstop with hnil | ho
    · rw [hnil]
      exact (stopOf_single state a.owner a.targetId a.targetId).symm
    · exact (stopOf_cons_hostile ho).symm
  · rw [advanceLegs_stop h ht hstop]
    exact fun hf => (nomatch hf)

/-- Passing an own waypoint keeps the account: what the next leg makes of the time that
is left is what the march makes of the whole of it. -/
theorem Marches.pass {state : GameState} {a : MarchingArmy} {next : String}
    {rest : List String} {t : ℚ} (h : Heading state a (next :: rest))
    (ht : ¬ a.progress + a.speed * t < 1)
    (hown : (state.territory a.targetId).owner = a.owner)
    (ih : Marches state
      (setArmyLeg a (state.territory a.targetId) (state.territory next) (a.routeLeg + 1)) rest
      ((a.progress + a.speed * t - 1) / a.speed)) :
    Marches state a (next :: rest) t := by
  obtain ⟨hheading, htarget⟩ := h.next
  have hseconds := arrivalSeconds_next (List.nodup_cons.mp h.nodup).1 hown
  have hstop : ∀ last, stopOf state a.owner (next :: rest) last
      = stopOf state a.owner (a.targetId :: next :: rest) a.targetId := by
    intro last
    rw [stopOf_cons_own hown]
    unfold stopOf
    rw [List.getLastD_cons, List.getLastD_cons]
  obtain ⟨harrives, hplace, honward⟩ := ih
  rw [htarget, carried_eq h.speed] at harrives hplace honward
  constructor
  · rw [advanceLegs_pass h ht hown, carried_eq h.speed, harrives, hseconds]
    constructor
    · intro hle
      linarith
    · intro hle
      linarith
  · rw [advanceLegs_pass h ht hown, carried_eq h.speed, ← hstop next]
    exact hplace
  · rw [advanceLegs_pass h ht hown, carried_eq h.speed]
    intro hf
    obtain ⟨passed, left, hrest, hleft, hdrop, hleg, hids, howner, harr⟩ := honward hf
    refine ⟨next :: passed, left, congrArg (next :: ·) hrest, hleft, hdrop, ?_, hids, howner, ?_⟩
    · rw [hleg]
      show a.routeLeg + 1 + passed.length = a.routeLeg + (passed.length + 1)
      omega
    · rw [harr, hseconds]
      ring

/-- **The march and its time.**  An army arrives exactly when the time to its arrival is
up, at the place where it was going to stop; until then it is on one of the legs of its
route, and the time left is what it was less what has passed. -/
theorem advanceLegs_spec {state : GameState} : ∀ (rest : List String) {a : MarchingArmy} {t : ℚ},
    Heading state a rest → Marches state a rest t := by
  intro rest
  induction rest with
  | nil =>
    intro a t h
    by_cases ht : a.progress + a.speed * t < 1
    · exact Marches.short h ht
    · exact Marches.stop h ht (Or.inl rfl)
  | cons next rest ih =>
    intro a t h
    by_cases ht : a.progress + a.speed * t < 1
    · exact Marches.short h ht
    by_cases hown : (state.territory a.targetId).owner = a.owner
    · exact Marches.pass h ht hown (ih h.next.1)
    · exact Marches.stop h ht (Or.inr hown)

/-! ### The sites along the route -/

/-- Two maps that agree on the sites of some towers, owners included. -/
def SameRoute (ids : List String) (s s' : GameState) : Prop :=
  ∀ id ∈ ids, (s'.territories.get? id).map Territory.site
    = (s.territories.get? id).map Territory.site

section Sites

variable {s s' : GameState}

omit [MathLib] in
theorem SameRoute.mono {ids ids' : List String} (h : SameRoute ids s s')
    (hsub : ∀ id ∈ ids', id ∈ ids) : SameRoute ids' s s' :=
  fun id hid => h id (hsub id hid)

omit [MathLib] in
theorem SameRoute.territory {ids : List String} (h : SameRoute ids s s') {id : String}
    (hid : id ∈ ids) : Territory.site (s'.territory id) = Territory.site (s.territory id) := by
  have hsite := h id hid
  unfold GameState.territory Record.getD
  cases ht : s.territories.get? id with
  | none =>
    rw [ht] at hsite
    rw [Option.map_eq_none_iff.mp hsite]
  | some t =>
    rw [ht] at hsite
    obtain ⟨t', ht', he⟩ := Option.map_eq_some_iff.mp hsite
    rw [ht']
    exact he

omit [MathLib] in
theorem SameRoute.owner {ids : List String} (h : SameRoute ids s s') {id : String}
    (hid : id ∈ ids) : (s'.territory id).owner = (s.territory id).owner :=
  congrArg (fun p => p.2.1) (h.territory hid)

omit [MathLib] in
theorem Heading.congr {a : MarchingArmy} {rest : List String} (h : Heading s a rest)
    (hsame : SameRoute (a.targetId :: rest) s s') : Heading s' a rest := by
  refine ⟨h.nodup, fun id hid => ?_, h.speed⟩
  obtain ⟨t, ht, he⟩ := h.towers id hid
  have hsite := hsame id hid
  rw [ht] at hsite
  obtain ⟨t', ht', hs⟩ := Option.map_eq_some_iff.mp hsite
  exact ⟨t', ht', (congrArg Prod.fst hs).trans he⟩

theorem setArmyLeg_congr (army : MarchingArmy) {a a' b b' : Territory} (leg : ℕ)
    (ha : Territory.site a' = Territory.site a) (hb : Territory.site b' = Territory.site b) :
    setArmyLeg army a' b' leg = setArmyLeg army a b leg := by
  have hax : a'.x = a.x := congrArg (fun p => p.2.2.1) ha
  have hay : a'.y = a.y := congrArg (fun p => p.2.2.2) ha
  have hbid : b'.id = b.id := congrArg Prod.fst hb
  have hbx : b'.x = b.x := congrArg (fun p => p.2.2.1) hb
  have hby : b'.y = b.y := congrArg (fun p => p.2.2.2) hb
  unfold setArmyLeg
  rw [hax, hay, hbid, hbx, hby]

theorem advanceLegs_congr : ∀ (rest : List String) {a : MarchingArmy} {t : ℚ},
    Heading s a rest → SameRoute (a.targetId :: rest) s s' →
      advanceLegs s'.territories rest a t = advanceLegs s.territories rest a t := by
  intro rest
  induction rest with
  | nil =>
    intro a t h hsame
    by_cases ht : a.progress + a.speed * t < 1
    · rw [advanceLegs_short ht, advanceLegs_short ht]
    · rw [advanceLegs_stop h ht (Or.inl rfl), advanceLegs_stop (h.congr hsame) ht (Or.inl rfl)]
  | cons next rest ih =>
    intro a t h hsame
    by_cases ht : a.progress + a.speed * t < 1
    · rw [advanceLegs_short ht, advanceLegs_short ht]
    have howner := hsame.owner List.mem_cons_self
    by_cases hown : (s.territory a.targetId).owner = a.owner
    · rw [advanceLegs_pass h ht hown, advanceLegs_pass (h.congr hsame) ht (howner.trans hown),
        setArmyLeg_congr a _ (hsame.territory List.mem_cons_self)
          (hsame.territory (List.mem_cons_of_mem _ List.mem_cons_self))]
      refine ih h.next.1 (hsame.mono fun id hid => ?_)
      rw [h.next.2] at hid
      exact List.mem_cons_of_mem _ hid
    · have hown' : (s'.territory a.targetId).owner ≠ a.owner := by
        rw [howner]
        exact hown
      rw [advanceLegs_stop h ht (Or.inr hown), advanceLegs_stop (h.congr hsame) ht (Or.inr hown')]

omit [MathLib] in
theorem stopOf_congr {legs : List String} (h : SameRoute legs s s') (owner : Team)
    (last : String) : stopOf s' owner legs last = stopOf s owner legs last := by
  have hfind : (legs.find? fun id => (s'.territory id).owner ≠ owner)
      = legs.find? fun id => (s.territory id).owner ≠ owner := by
    refine List.find?_congr fun id hid => ?_
    rw [h.owner hid]
  unfold stopOf
  rw [hfind]

theorem remainingLegSeconds_same (a : MarchingArmy) (destination : String) :
    ∀ (legs : List String) (i : ℕ), SameRoute legs s s' →
      remainingLegSeconds a s' destination i legs
        = remainingLegSeconds a s destination i legs := by
  intro legs
  induction legs with
  | nil => intro i _; rfl
  | cons id legs ih =>
    intro i h
    cases legs with
    | nil => rfl
    | cons next legs =>
      have hbehind := h.mono fun k (hk : k ∈ next :: legs) => List.mem_cons_of_mem id hk
      rw [remainingLegSeconds, remainingLegSeconds, ih (i + 1) hbehind,
        setArmyLeg_congr a i (h.territory List.mem_cons_self)
          (hbehind.territory List.mem_cons_self)]

theorem arrivalSeconds_same (a : MarchingArmy) {legs : List String} (h : SameRoute legs s s') :
    arrivalSeconds s' a legs = arrivalSeconds s a legs := by
  unfold arrivalSeconds
  rw [stopOf_congr h, remainingLegSeconds_same a _ legs _ h]

end Sites

/-! ### Cutting the time -/

omit [MathLib] in
theorem not_short_later {a : MarchingArmy} {d e : ℚ} (h : 0 < a.speed)
    (hd : ¬ a.progress + a.speed * d < 1) (he : 0 ≤ e) :
    ¬ a.progress + a.speed * (d + e) < 1 := by
  have hmore : 0 ≤ a.speed * e := mul_nonneg h.le he
  rw [mul_add]
  linarith

/-- Progress that was made is time that has passed. -/
theorem advanceLegs_progress (territories : Record String Territory) (rest : List String)
    (a : MarchingArmy) (d e : ℚ) :
    advanceLegs territories rest { a with progress := a.progress + a.speed * d } e
      = advanceLegs territories rest a (d + e) := by
  have hprogress : a.progress + a.speed * d + a.speed * e = a.progress + a.speed * (d + e) := by
    ring
  cases rest with
  | nil =>
    unfold advanceLegs
    dsimp only
    rw [hprogress]
  | cons next rest =>
    unfold advanceLegs
    dsimp only
    rw [hprogress]
    rfl

/-- **The march does not depend on the frame rate.**  Advancing an army for a time and,
if it has not arrived, for another, is advancing it once for both. -/
theorem advanceLegs_add {state : GameState} : ∀ (rest : List String) {a : MarchingArmy}
    {d e : ℚ}, Heading state a rest → 0 ≤ e →
      ((advanceLegs state.territories rest a d).2 = true →
        advanceLegs state.territories rest a (d + e)
          = advanceLegs state.territories rest a d) ∧
      ((advanceLegs state.territories rest a d).2 = false →
        ∃ passed left, rest = passed ++ left ∧
          (advanceLegs state.territories rest a d).1.routeLeg = a.routeLeg + passed.length ∧
          (advanceLegs state.territories rest a d).1.routeIds = a.routeIds ∧
          advanceLegs state.territories left (advanceLegs state.territories rest a d).1 e
            = advanceLegs state.territories rest a (d + e)) := by
  intro rest
  induction rest with
  | nil =>
    intro a d e h he
    by_cases hd : a.progress + a.speed * d < 1
    · rw [advanceLegs_short hd]
      refine ⟨fun hf => (nomatch hf), fun _ => ⟨[], [], rfl, rfl, rfl, ?_⟩⟩
      exact advanceLegs_progress state.territories [] a d e
    · have hlater := not_short_later h.speed hd he
      rw [advanceLegs_stop h hd (Or.inl rfl), advanceLegs_stop h hlater (Or.inl rfl)]
      exact ⟨fun _ => rfl, fun hf => (nomatch hf)⟩
  | cons next rest ih =>
    intro a d e h he
    by_cases hd : a.progress + a.speed * d < 1
    · rw [advanceLegs_short hd]
      refine ⟨fun hf => (nomatch hf), fun _ => ⟨[], next :: rest, rfl, rfl, rfl, ?_⟩⟩
      exact advanceLegs_progress state.territories (next :: rest) a d e
    have hlater := not_short_later h.speed hd he
    by_cases hown : (state.territory a.targetId).owner = a.owner
    · have hcarry : (a.progress + a.speed * (d + e) - 1) / a.speed
          = (a.progress + a.speed * d - 1) / a.speed + e := by
        rw [carried_eq h.speed, carried_eq h.speed]
        ring
      rw [advanceLegs_pass h hd hown, advanceLegs_pass h hlater hown, hcarry]
      obtain ⟨harrived, honward⟩ := ih h.next.1 he
      refine ⟨harrived, fun hf => ?_⟩
      obtain ⟨passed, left, hrest, hleg, hids, hadd⟩ := honward hf
      refine ⟨next :: passed, left, congrArg (next :: ·) hrest, ?_, hids, hadd⟩
      rw [hleg]
      show a.routeLeg + 1 + passed.length = a.routeLeg + (passed.length + 1)
      omega
    · rw [advanceLegs_stop h hd (Or.inr hown), advanceLegs_stop h hlater (Or.inr hown)]
      exact ⟨fun _ => rfl, fun hf => (nomatch hf)⟩

/-! ### Armies on a route -/

section Route

variable {state : GameState} {a : MarchingArmy}

omit [MathLib] in
/-- The waypoint the army heads for is the first of those ahead. -/
theorem OnRoute.ahead (h : OnRoute state.territories a) :
    a.routeIds.drop (a.routeLeg + 1) = a.targetId :: a.routeIds.drop (a.routeLeg + 2) := by
  obtain ⟨hlt, hget⟩ := List.getElem?_eq_some_iff.mp h.target
  rw [List.drop_eq_getElem_cons hlt, hget]

omit [MathLib] in
theorem OnRoute.ahead_mem (h : OnRoute state.territories a) :
    ∀ id ∈ a.targetId :: a.routeIds.drop (a.routeLeg + 2), id ∈ a.routeIds := by
  intro id hid
  rw [← h.ahead] at hid
  exact List.mem_of_mem_drop hid

omit [MathLib] in
theorem OnRoute.heading (h : OnRoute state.territories a) :
    Heading state a (a.routeIds.drop (a.routeLeg + 2)) := by
  refine ⟨?_, fun id hid => h.towers id (h.ahead_mem id hid), h.speed⟩
  rw [← h.ahead]
  exact h.nodup.sublist (List.drop_sublist _ _)

omit [MathLib] in
/-- Where the army is said to be going is where it stops. -/
theorem OnRoute.destination (h : OnRoute state.territories a) :
    armyDestination a state
      = stopOf state a.owner (a.targetId :: a.routeIds.drop (a.routeLeg + 2)) a.targetId := by
  have hne : a.routeIds.drop (a.routeLeg + 1) ≠ [] := by
    rw [h.ahead]
    exact List.cons_ne_nil _ _
  have hlast : (a.routeIds.drop (a.routeLeg + 1)).getLastD a.targetId
      = a.routeIds.getLastD a.targetId := by
    rw [List.getLastD_eq_getLast?, List.getLastD_eq_getLast?, List.getLast?_drop, if_neg]
    intro hle
    exact hne (List.drop_eq_nil_of_le hle)
  rw [← h.ahead]
  unfold armyDestination stopOf
  rw [hlast]
  cases (a.routeIds.drop (a.routeLeg + 1)).find? fun id => (state.territory id).owner ≠ a.owner with
  | none => rfl
  | some id => rfl

theorem OnRoute.seconds (h : OnRoute state.territories a) :
    armyArrivalSeconds a state
      = arrivalSeconds state a (a.targetId :: a.routeIds.drop (a.routeLeg + 2)) := by
  unfold armyArrivalSeconds arrivalSeconds
  rw [h.destination, h.ahead]

omit [MathLib] in
/-- What is ahead of an army that has passed some of what was ahead of it. -/
theorem drop_ahead {a b : MarchingArmy} {passed left : List String}
    (hrest : a.routeIds.drop (a.routeLeg + 2) = passed ++ left) (hids : b.routeIds = a.routeIds)
    (hleg : b.routeLeg = a.routeLeg + passed.length) :
    b.routeIds.drop (b.routeLeg + 2) = left := by
  rw [hids, hleg, show a.routeLeg + passed.length + 2 = a.routeLeg + 2 + passed.length by omega,
    ← List.drop_drop, hrest, List.drop_left]

omit [MathLib] in
theorem OnRoute.congr {s' : GameState} (h : OnRoute state.territories a)
    (hsame : SameRoute a.routeIds state s') : OnRoute s'.territories a := by
  refine ⟨h.target, h.nodup, fun id hid => ?_, h.speed⟩
  obtain ⟨t, ht, he⟩ := h.towers id hid
  have hsite := hsame id hid
  rw [ht] at hsite
  obtain ⟨t', ht', hs⟩ := Option.map_eq_some_iff.mp hsite
  exact ⟨t', ht', (congrArg Prod.fst hs).trans he⟩

/-- An army that marches on is on its route. -/
theorem OnRoute.advance (h : OnRoute state.territories a) {t : ℚ}
    (hon : (advanceRoutedArmy a state.territories t).2 = false) :
    OnRoute state.territories (advanceRoutedArmy a state.territories t).1 := by
  obtain ⟨passed, left, hrest, hleft, hdrop, hleg, hids, -, -⟩ :=
    (advanceLegs_spec _ h.heading).onward hon
  unfold advanceRoutedArmy
  refine ⟨?_, ?_, ?_, hleft.speed⟩
  · rw [hids, hleg]
    have hhead : ((a.targetId :: a.routeIds.drop (a.routeLeg + 2)).drop passed.length)[0]?
        = some (advanceLegs state.territories (a.routeIds.drop (a.routeLeg + 2)) a t).1.targetId := by
      rw [hdrop]
      rfl
    rw [← h.ahead, List.getElem?_drop, List.getElem?_drop] at hhead
    rw [← hhead]
    congr 1
    omega
  · rw [hids]
    exact h.nodup
  · rw [hids]
    exact h.towers

/-- The time left is what it was, less what has passed. -/
theorem OnRoute.advance_seconds (h : OnRoute state.territories a) {t : ℚ}
    (hon : (advanceRoutedArmy a state.territories t).2 = false) :
    armyArrivalSeconds (advanceRoutedArmy a state.territories t).1 state
      = armyArrivalSeconds a state - t := by
  obtain ⟨passed, left, hrest, -, -, hleg, hids, -, hseconds⟩ :=
    (advanceLegs_spec _ h.heading).onward hon
  have hahead : (advanceRoutedArmy a state.territories t).1.routeIds.drop
      ((advanceRoutedArmy a state.territories t).1.routeLeg + 2) = left :=
    drop_ahead hrest hids hleg
  rw [(h.advance hon).seconds, hahead, h.seconds]
  exact hseconds

end Route

omit [MathLib] in
/-- An open path has a first step, and all its towers are on the map. -/
theorem OpenPath.walk {roads : List (String × String)} {state : GameState} {owner : Team}
    {sourceId targetId : String} {route : List String}
    (h : OpenPath roads state owner sourceId targetId route) (hne : sourceId ≠ targetId)
    (hsource : Owned state owner sourceId)
    (htarget : ∃ t, state.territories.get? targetId = some t) :
    ∃ next behind, route = sourceId :: next :: behind ∧
      ∀ id ∈ route, ∃ t, state.territories.get? id = some t := by
  obtain ⟨u, q, hq, -, rfl⟩ := (openPath_iff hne).mp h
  obtain ⟨hpath, hown⟩ := pathTo_ownRoad.mp hq
  have hhead := hpath.head
  cases q with
  | nil => cases hhead
  | cons first behind =>
    cases hhead
    have hmap : ∀ id ∈ sourceId :: behind ++ [targetId],
        ∃ t, state.territories.get? id = some t := by
      intro id hid
      rcases List.mem_append.mp hid with hid | hid
      · rcases List.mem_cons.mp hid with rfl | hid
        · exact hsource.imp fun t ht => ht.1
        · exact (hown id hid).imp fun t ht => ht.1
      · rw [List.mem_singleton.mp hid]
        exact htarget
    cases behind with
    | nil => exact ⟨targetId, [], rfl, hmap⟩
    | cons next behind => exact ⟨next, behind ++ [targetId], rfl, hmap⟩

/-- **A dispatch sends an army out on a route.**  The towers are stored under their own
ids, before and after. -/
theorem dispatchArmyWithRatio_onRoute {state state' : GameState} {sourceId targetId : String}
    {owner : Team} {multiplier : ℚ} {id : String} {ratio : ℚ}
    (hrules : usesTacticalRules state.gameplayRulesVersion = true)
    (hkeys : ∀ id t, state.territories.get? id = some t → t.id = id)
    (h : dispatchArmyWithRatio state sourceId targetId owner multiplier id ratio = .ok state') :
    ∃ army, state'.armies = state.armies ++ [army] ∧ OnRoute state'.territories army := by
  unfold dispatchArmyWithRatio at h
  cases hs : state.territories.get? sourceId with
  | none => simp [hs] at h
  | some source =>
    cases ht : state.territories.get? targetId with
    | none => simp [hs, ht] at h
    | some target =>
      simp only [hs, ht] at h
      split at h
      · cases h
      · next hguard =>
        obtain ⟨hne, ho⟩ := not_or.mp hguard
        split at h
        · cases h
        · next route hroute =>
          split at h
          · cases h
          · cases h
            refine ⟨_, rfl, ?_⟩
            rw [findDispatchRoute_on] at hroute
            have hsource : Owned state owner sourceId := ⟨source, hs, not_not.mp ho⟩
            obtain ⟨hopen, hnodup, -, -⟩ :=
              (findDispatchRouteOn_correct _ hrules hsource ht hne).route route hroute
            obtain ⟨next, behind, rfl, hmap⟩ := hopen.walk hne hsource ⟨target, ht⟩
            have htowers : ∀ id ∈ sourceId :: next :: behind, ∃ t,
                (state.territories.set sourceId { source with
                  units := source.units - calculateDispatchUnitsWithRatio source.units ratio }).get?
                    id = some t ∧ t.id = id := by
              intro id hid
              rw [Record.get?_set]
              split
              · next he =>
                refine ⟨_, rfl, ?_⟩
                rw [he]
                exact hkeys sourceId source hs
              · obtain ⟨t, ht⟩ := hmap id hid
                exact ⟨t, ht, hkeys id t ht⟩
            refine ⟨?_, hnodup, htowers, one_div_pos.mpr (legSeconds_pos _ _ _)⟩
            obtain ⟨t, ht, hid⟩ := htowers next (List.mem_cons_of_mem _ List.mem_cons_self)
            show some next = some (Record.getD _ next Territory.zero).id
            unfold Record.getD
            rw [ht]
            exact congrArg some hid.symm

/-! ### The armies of a battle -/

/-- Every army of the battle is on its route. -/
def ArmiesRouted (state : GameState) : Prop := ∀ a ∈ state.armies, OnRoute state.territories a

omit [MathLib] in
/-- A route asks of the map that its towers are there, under their own ids. -/
theorem OnRoute.mapped {territories territories' : Record String Territory} {a : MarchingArmy}
    (h : OnRoute territories a) (hkeys : territories'.keys = territories.keys)
    (hids : ∀ id t, territories'.get? id = some t → t.id = id) : OnRoute territories' a := by
  refine ⟨h.target, h.nodup, fun id hid => ?_, h.speed⟩
  obtain ⟨t, ht, -⟩ := h.towers id hid
  obtain ⟨t', ht'⟩ := Record.exists_get?_of_mem_keys (hkeys ▸ Record.mem_keys_of_get? ht)
  exact ⟨t', ht', hids id t' ht'⟩

theorem ArmiesRouted.dispatch {state state' : GameState} {sourceId targetId : String} {owner : Team}
    {multiplier : ℚ} {id : String} {ratio : ℚ} (h : ArmiesRouted state) (hok : BattleOk state)
    (hrules : usesTacticalRules state.gameplayRulesVersion = true) (ho : owner ≠ .neutral)
    (hd : dispatchArmyWithRatio state sourceId targetId owner multiplier id ratio = .ok state') :
    ArmiesRouted state' := by
  have hok' := dispatchArmyWithRatio_battleOk hok ho hd
  obtain ⟨army, harmies, harmy⟩ := dispatchArmyWithRatio_onRoute hrules hok.ids hd
  have hkeys : state'.territories.keys = state.territories.keys := by
    rw [hok'.keys, hok.keys, (dispatchArmy_sameMap ho hd).1.battlefieldId]
  intro a ha
  rw [harmies] at ha
  rcases List.mem_append.mp ha with ha | ha
  · exact (h a ha).mapped hkeys hok'.ids
  · rw [List.mem_singleton.mp ha]
    exact harmy

theorem ArmiesRouted.ability {state state' : GameState} {team : Team} (hteam : team ≠ .neutral)
    {commander : Option CommanderId} {sourceId targetId : String} {multiplier : ℚ}
    {armyId : String} (h : ArmiesRouted state) (hok : BattleOk state) (hunits : UnitsOk state)
    (hrules : usesTacticalRules state.gameplayRulesVersion = true)
    (ha : applyTeamAbility state team commander sourceId targetId multiplier armyId
      = some state') : ArmiesRouted state' := by
  obtain ⟨hok', -, -, hmap, -⟩ := applyTeamAbility_ok hteam ha hok hunits
  have hkeys : state'.territories.keys = state.territories.keys := by
    rw [hok'.keys, hok.keys, hmap.battlefieldId]
  have hsame : state'.armies = state.armies → ArmiesRouted state' := by
    intro harmies a hmem
    rw [harmies] at hmem
    exact (h a hmem).mapped hkeys hok'.ids
  obtain ⟨source, hs, -, ⟨untilMs, he⟩ | he | ⟨-, sent, hd, he⟩⟩ := applyTeamAbility_cases ha
  · refine hsame ?_
    obtain ⟨p, e, hmark⟩ := markAbilityUsed_eq
      { state with shieldedUntilMs := state.shieldedUntilMs.set sourceId untilMs } team
    rw [he, hmark]
  · refine hsame ?_
    obtain ⟨p, e, hmark⟩ := markAbilityUsed_eq
      { state with
        territories := state.territories.set sourceId
          { source with units := source.units + abilitySupplyUnits } } team
    rw [he, hmark]
  · -- a charge changes the number of the army that was just sent
    have hsent := h.dispatch hok hrules hteam hd
    have hboost : ∀ a ∈ (boostLastArmy sent team).armies, OnRoute sent.territories a := by
      unfold boostLastArmy
      cases hlast : sent.armies.getLast? with
      | none => exact hsent
      | some last =>
        intro a hmem
        rcases List.mem_append.mp hmem with hmem | hmem
        · exact hsent a (List.mem_of_mem_dropLast hmem)
        · have hon := hsent last (List.mem_of_getLast? hlast)
          rw [List.mem_singleton.mp hmem]
          exact ⟨hon.target, hon.nodup, hon.towers, hon.speed⟩
    obtain ⟨p, e, hmark⟩ := markAbilityUsed_eq (boostLastArmy sent team) team
    obtain ⟨armies, stats, hboosted, -⟩ := boostLastArmy_eq sent team
    have hkeys' : state'.territories.keys = sent.territories.keys := by
      rw [he, hmark, hboosted]
    intro a hmem
    refine (hboost a ?_).mapped hkeys' hok'.ids
    rw [he, hmark] at hmem
    exact hmem

theorem OnRoute.advanceArmy {state : GameState} {a : MarchingArmy} {delta : ℚ}
    (h : OnRoute state.territories a)
    (hrules : usesTacticalRules state.gameplayRulesVersion = true)
    (hon : (advanceArmy state delta a).2 = false) :
    OnRoute state.territories (advanceArmy state delta a).1 := by
  unfold Go.advanceArmy at hon ⊢
  rw [if_pos hrules] at hon ⊢
  dsimp only at hon ⊢
  cases hr : (advanceRoutedArmy a state.territories delta).2 with
  | true =>
    rw [hr, if_pos rfl, if_pos le_rfl] at hon
    cases hon
  | false =>
    have hroute := h.advance hr
    rw [if_neg Bool.false_ne_true]
    split
    · exact hroute
    · exact ⟨hroute.target, hroute.nodup, hroute.towers, hroute.speed⟩

/-- One army of the loop: the map keeps its towers, and who marches on is on its route. -/
theorem moveArmy_routed {start : GameState} {m : Marching} {delta : ℚ} {army : MarchingArmy}
    (hstart : BattleOk start) (hrules : usesTacticalRules start.gameplayRulesVersion = true)
    (ha : OnRoute start.territories army) (hm : MarchingOk start m)
    (hids : AllTowers (fun id t => t.id = id) m.state)
    (hroutes : ∀ a ∈ m.remaining, OnRoute start.territories a) :
    ∀ a ∈ (moveArmy delta m army).remaining, OnRoute start.territories a := by
  have hon : OnRoute m.state.territories army := ha.mapped hm.frame.keys hids
  unfold moveArmy
  dsimp only
  split
  · exact hroutes
  · next hmoving =>
    intro a hmem
    rcases List.mem_append.mp hmem with hmem | hmem
    · exact hroutes a hmem
    · rw [List.mem_singleton.mp hmem]
      have hmoved := hon.advanceArmy (by rw [hm.frame.version]; exact hrules)
        (Bool.eq_false_iff.mpr hmoving)
      exact hmoved.mapped hm.frame.keys.symm hstart.ids

/-- **A step leaves every army on its route.** -/
theorem ArmiesRouted.step {state : GameState} {accumulators : Accumulators} {delta : ℚ}
    (h : ArmiesRouted state) (hok : BattleOk state) (hδ : 0 ≤ delta)
    (hrules : usesTacticalRules state.gameplayRulesVersion = true) :
    ArmiesRouted (stepSimulation state accumulators delta).1 := by
  by_cases hp : state.status = .playing
  · have hok' : BattleOk (stepSimulation state accumulators delta).1 := stepSimulation_ok hok hδ
    have hkeys : (stepSimulation state accumulators delta).1.territories.keys
        = state.territories.keys := by
      rw [hok'.keys, (stepSimulation_clock hok hp accumulators hδ).1, hok.keys]
    have hstart := startStep_ok hok hδ
    have hloop : MarchingOk (startStep state delta)
          (moveArmies (startStep state delta) accumulators delta) ∧
        AllTowers (fun id t => t.id = id)
          (moveArmies (startStep state delta) accumulators delta).state ∧
        ∀ a ∈ (moveArmies (startStep state delta) accumulators delta).remaining,
          OnRoute (startStep state delta).territories a := by
      refine foldl_preserves (P := fun m : Marching => MarchingOk (startStep state delta) m ∧
        AllTowers (fun id t => t.id = id) m.state ∧
        ∀ a ∈ m.remaining, OnRoute (startStep state delta).territories a) ?_ ?_
      · intro m army hmem hm
        obtain ⟨hmarch, hids, hroutes⟩ := hm
        refine ⟨moveArmy_ok delta hmarch (hok.armies army hmem), ?_,
          moveArmy_routed hstart hrules (h army hmem) hmarch hids hroutes⟩
        unfold moveArmy
        dsimp only
        split
        · exact towerRule_id.arriveArmy _ hids
        · exact hids
      · exact ⟨⟨SameFrame.refl _, hstart.ready, fun a ha => absurd ha List.not_mem_nil⟩,
          hstart.ids, fun a ha => absurd ha List.not_mem_nil⟩
    intro a ha
    unfold stepSimulation at ha
    rw [if_neg (not_not.mpr hp)] at ha
    exact (hloop.2.2 a ha).mapped hkeys hok'.ids
  · unfold stepSimulation
    rw [if_pos hp]
    exact h

end CrownClash.Go
