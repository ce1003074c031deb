import CrownClash.Ts.Pvp

/-!
# Client: the names of the armies do not matter

Every army has an `id`, which the screen uses to tell armies apart: a live battle
draws it from the clock and a random number, a replay counts.  `renameArmies` gives
the armies of a state other names, and every rule of the battle commutes with it: the
step of the simulation, the dispatch, the abilities, and the decisions of the bot.
So two battles that differ in names alone stay so (`unnamed`).
-/

namespace CrownClash.Ts

open Lib

section Renaming

variable (f : String → String)

def renameArmy (army : MarchingArmy) : MarchingArmy := { army with id := f army.id }

def renameArmies (state : GameState) : GameState :=
  { state with armies := state.armies.map (renameArmy f) }

def renameMarching (m : Marching) : Marching :=
  { m with remainingArmies := m.remainingArmies.map (renameArmy f) }

def renameClock (c : StepClock) : StepClock := { c with currentState := renameArmies f c.currentState }

def renameStep (r : StepResult) : StepResult := { r with state := renameArmies f r.state }

variable {f}

@[simp] theorem renameArmies_territories (state : GameState) :
    (renameArmies f state).territories = state.territories := rfl

@[simp] theorem renameArmies_status (state : GameState) :
    (renameArmies f state).status = state.status := rfl

/-! ### A step -/

theorem arriveArmy_rename (c : StepClock) (m : Marching) (army : MarchingArmy) :
    arriveArmy (renameClock f c) (renameMarching f m) (renameArmy f army)
      = renameMarching f (arriveArmy c m army) := by
  have hget : (renameMarching f m).territories.get? (renameArmy f army).targetId
      = m.territories.get? army.targetId := rfl
  unfold arriveArmy
  rw [hget]
  cases m.territories.get? army.targetId with
  | none => rfl
  | some target =>
    dsimp only
    rw [apply_ite (renameMarching f)]
    rfl

theorem nextStatus_rename (territories : Record String Territory) (armies : List MarchingArmy)
    (elapsed limit : ℚ) :
    nextStatus territories (armies.map (renameArmy f)) elapsed limit
      = nextStatus territories armies elapsed limit := by
  have hany : ∀ team, hasArmy (armies.map (renameArmy f)) team = hasArmy armies team := by
    intro team
    unfold hasArmy
    rw [List.any_map]
    rfl
  unfold nextStatus
  rw [hany, hany]

section March

variable [MathLib]

theorem advanceLegs_rename (territories : Record String Territory) : ∀ (rest : List String)
    (army : MarchingArmy) (remaining : ℚ),
    advanceLegs territories rest (renameArmy f army) remaining
      = (advanceLegs territories rest army remaining).map (renameArmy f) id := by
  intro rest
  induction rest with
  | nil =>
    intro army remaining
    rw [advanceLegs.eq_def _ _ (renameArmy f army), advanceLegs.eq_def _ _ army]
    dsimp only
    rw [apply_ite (Prod.map (renameArmy f) id)]
    rfl
  | cons next rest ih =>
    intro army remaining
    have hget : (renameArmy f army).targetId = army.targetId := rfl
    rw [advanceLegs.eq_def _ _ (renameArmy f army), advanceLegs.eq_def _ _ army]
    dsimp only
    rw [hget, apply_ite (Prod.map (renameArmy f) id)]
    refine if_congr Iff.rfl rfl ?_
    cases territories.get? army.targetId with
    | none => rfl
    | some waypoint =>
      dsimp only
      rw [apply_ite (Prod.map (renameArmy f) id), ← ih]
      rfl

theorem advanceArmy_rename (version : ℤ) (territories : Record String Territory) (delta : ℚ)
    (army : MarchingArmy) :
    advanceArmy version territories delta (renameArmy f army)
      = (advanceArmy version territories delta army).map (renameArmy f) id := by
  have hlegs : advanceRoutedArmy (renameArmy f army) territories delta
      = (advanceRoutedArmy army territories delta).map (renameArmy f) id :=
    advanceLegs_rename territories _ army delta
  unfold advanceArmy
  rw [hlegs]
  dsimp only
  rw [apply_ite (Prod.map (renameArmy f) id), apply_ite (Prod.map (renameArmy f) id),
    apply_ite (Prod.map (renameArmy f) id)]
  rfl

theorem moveArmy_rename (c : StepClock) (delta : ℚ) (m : Marching) (army : MarchingArmy) :
    moveArmy (renameClock f c) delta (renameMarching f m) (renameArmy f army)
      = renameMarching f (moveArmy c delta m army) := by
  have hadvance := advanceArmy_rename (f := f) c.currentState.gameplayRulesVersion m.territories
    delta army
  have hclock : (renameClock f c).currentState.gameplayRulesVersion
      = c.currentState.gameplayRulesVersion := rfl
  have hterr : (renameMarching f m).territories = m.territories := rfl
  unfold moveArmy
  rw [hclock, hterr, hadvance]
  generalize advanceArmy c.currentState.gameplayRulesVersion m.territories delta army = r
  dsimp only [Prod.map, id]
  by_cases ha : r.2 = true
  · rw [if_pos ha, if_pos ha, arriveArmy_rename]
  · rw [if_neg ha, if_neg ha]
    unfold renameMarching
    dsimp only
    rw [List.map_append, List.map_singleton]

/-- **A step does not read the names.** -/
theorem stepSimulation_rename (state : GameState) (accumulators : Accumulators) (delta : ℚ) :
    stepSimulation (renameArmies f state) accumulators delta
      = renameStep f (stepSimulation state accumulators delta) := by
  have hmarch : (renameArmies f state).armies.foldl
      (moveArmy (stepClock (renameArmies f state) delta) delta)
        (marchStart (stepClock (renameArmies f state) delta) accumulators)
      = renameMarching f (state.armies.foldl (moveArmy (stepClock state delta) delta)
          (marchStart (stepClock state delta) accumulators)) := by
    have hfold : ∀ (armies : List MarchingArmy) (m : Marching),
        (armies.map (renameArmy f)).foldl
          (moveArmy (renameClock f (stepClock state delta)) delta) (renameMarching f m)
        = renameMarching f (armies.foldl (moveArmy (stepClock state delta) delta) m) := by
      intro armies
      induction armies with
      | nil => intro m; rfl
      | cons army armies ih =>
        intro m
        rw [List.map_cons, List.foldl_cons, List.foldl_cons, moveArmy_rename, ih]
    exact hfold state.armies (marchStart (stepClock state delta) accumulators)
  unfold stepSimulation
  rw [renameArmies_status]
  by_cases hp : state.status ≠ .playing
  · rw [if_pos hp, if_pos hp]
    rfl
  · rw [if_neg hp, if_neg hp]
    dsimp only
    rw [hmarch]
    generalize state.armies.foldl (moveArmy (stepClock state delta) delta)
      (marchStart (stepClock state delta) accumulators) = m
    unfold finishStep renameStep
    dsimp only [renameMarching]
    rw [nextStatus_rename]
    rfl

/-! ### Dispatches and abilities -/

/-- A dispatch under another name. -/
def renameDispatched (f : String → String) (d : Dispatched) : Dispatched :=
  { d with army := renameArmy f d.army }

/-- **A route does not read the armies.** -/
theorem findDispatchRoute_rename (state : GameState) (sourceId targetId : String) (owner : Team) :
    findDispatchRoute (renameArmies f state) sourceId targetId owner
      = findDispatchRoute state sourceId targetId owner := by
  have hloop : ∀ (fuel : ℕ) (queue : List PathEntry) (best : Record String PathEntry),
      friendlyPathsLoop (renameArmies f state) owner fuel queue best
        = friendlyPathsLoop state owner fuel queue best := by
    intro fuel
    induction fuel with
    | zero => intro queue best; rfl
    | succ fuel ih =>
      intro queue best
      rw [friendlyPathsLoop, friendlyPathsLoop]
      cases sortBy (fun a b => decide (comparePathEntry a b < 0)) queue with
      | nil => rfl
      | cons next rest =>
        dsimp only
        rw [ih, ih]
        rfl
  have hpaths : friendlyPaths (renameArmies f state) sourceId owner
      = friendlyPaths state sourceId owner := hloop _ _ _
  unfold findDispatchRoute
  rw [hpaths]
  rfl

theorem dispatchArmy_renameArmies (source target : Territory) (owner : Team) (ratio : ℚ)
    (armyId : String) (multiplier : ℚ) (state : GameState) :
    dispatchArmy source target owner ratio armyId multiplier (some (renameArmies f state))
      = dispatchArmy source target owner ratio armyId multiplier (some state) := by
  unfold dispatchArmy
  dsimp only
  rw [findDispatchRoute_rename]
  rfl

/-- The name of the new army is only written down. -/
theorem dispatchArmy_name (source target : Territory) (owner : Team) (ratio : ℚ)
    (armyId : String) (multiplier : ℚ) (state : GameState) :
    dispatchArmy source target owner ratio (f armyId) multiplier (some state)
      = (dispatchArmy source target owner ratio armyId multiplier (some state)).map
          (renameDispatched f) := by
  unfold dispatchArmy
  dsimp only
  split
  · rfl
  split
  · rfl
  cases findDispatchRoute state source.id target.id owner with
  | none => rfl
  | some route =>
    dsimp only
    split
    · rfl
    · refine congrArg Except.ok ?_
      unfold renameDispatched
      dsimp only
      rw [apply_ite (renameArmy f)]
      rfl

/-- **A dispatch from a state does not read the names.** -/
theorem dispatchFromState_rename (state : GameState) (sourceId targetId : String) (owner : Team)
    (multiplier : ℚ) (armyId : String) :
    dispatchFromState (renameArmies f state) sourceId targetId owner multiplier (f armyId)
      = (dispatchFromState state sourceId targetId owner multiplier armyId).map
          (renameArmies f) := by
  unfold dispatchFromState
  rw [renameArmies_territories]
  cases lookup state.territories sourceId with
  | missing => rfl
  | inherited => cases lookup state.territories targetId <;> rfl
  | own source =>
    cases lookup state.territories targetId with
    | missing => rfl
    | inherited => rfl
    | own target =>
      dsimp only
      rw [dispatchArmy_renameArmies, dispatchArmy_name]
      cases dispatchArmy source target owner 0.5 armyId multiplier (some state) with
      | error e => rfl
      | ok d =>
        refine congrArg Except.ok ?_
        unfold renameArmies
        dsimp only
        rw [List.map_append, List.map_singleton]
        rfl

/-- **An ability does not read the names.** -/
theorem applyTeamAbility_rename (state : GameState) (team : Team) (commander : Option CommanderId)
    (sourceId targetId : String) (multiplier : ℚ) (armyId : String) :
    applyTeamAbility (renameArmies f state) team commander sourceId targetId multiplier (f armyId)
      = (applyTeamAbility state team commander sourceId targetId multiplier armyId).map
          (renameArmies f) := by
  have hflag : ∀ s, withUsedFlag (renameArmies f s) team = renameArmies f (withUsedFlag s team) := by
    intro s
    unfold withUsedFlag
    rw [apply_ite (renameArmies f)]
    rfl
  have hused : abilityUsed (renameArmies f state) team = abilityUsed state team := rfl
  cases commander with
  | none => rfl
  | some commander =>
    unfold applyTeamAbility
    rw [hused]
    dsimp only
    by_cases hready : hasCommanderAbilities state.gameplayRulesVersion = false ∨
        state.status ≠ .playing
    · rw [if_pos hready]
      exact if_pos hready
    rw [if_neg hready]
    refine (if_neg hready).trans ?_
    by_cases hunused : abilityUsed state team = true ∨
        state.elapsedTimeSeconds + 1 / 10 ^ 9 < unlockSeconds
    · rw [if_pos hunused]
      exact if_pos hunused
    rw [if_neg hunused]
    refine (if_neg hunused).trans ?_
    rw [renameArmies_territories]
    cases lookup state.territories sourceId with
    | missing => rfl
    | inherited => rfl
    | own source =>
      dsimp only
      by_cases ho : source.owner ≠ team
      · rw [if_pos ho, if_pos ho]
        rfl
      rw [if_neg ho, if_neg ho]
      cases commanderAbility commander with
      | royalShield =>
        dsimp only
        by_cases ht : targetId ≠ sourceId
        · rw [if_pos ht, if_pos ht]
          rfl
        · rw [if_neg ht, if_neg ht]
          rw [Option.map_some, ← hflag]
          rfl
      | supplyDrop =>
        dsimp only
        by_cases ht : targetId ≠ sourceId
        · rw [if_pos ht, if_pos ht]
          rfl
        · rw [if_neg ht, if_neg ht]
          rw [Option.map_some, ← hflag]
          rfl
      | vanguardCharge =>
        dsimp only
        cases lookup state.territories targetId with
        | missing => rfl
        | inherited => rfl
        | own target =>
          dsimp only
          by_cases ht : targetId = sourceId
          · rw [if_pos ht, if_pos ht]
            rfl
          rw [if_neg ht, if_neg ht, dispatchArmy_renameArmies, dispatchArmy_name]
          cases dispatchArmy source target team 0.5 armyId (multiplier * chargeSpeedMultiplier)
              (some state) with
          | error e => rfl
          | ok d =>
            refine congrArg some ?_
            rw [← hflag]
            refine congrArg (withUsedFlag · team) ?_
            unfold renameArmies
            dsimp only
            rw [List.map_append, List.map_singleton]
            rfl

/-! ### The bot -/

/-- An incoming army under another name. -/
def renameIncoming (f : String → String) (a : Incoming) : Incoming :=
  { a with army := renameArmy f a.army }

omit [MathLib] in
theorem armyDestination_rename (army : MarchingArmy) (state : GameState) :
    armyDestination (renameArmy f army) (renameArmies f state) = armyDestination army state := rfl

theorem armyArrivalSeconds_rename (g : String → String) (army : MarchingArmy) (state : GameState) :
    armyArrivalSeconds (renameArmy g army) (renameArmies f state)
      = armyArrivalSeconds army state := by
  have hlegs : ∀ (legs : List String) (i : ℕ) (destination : String),
      remainingLegSeconds (renameArmy g army) (renameArmies f state) destination i legs
        = remainingLegSeconds army state destination i legs := by
    intro legs
    induction legs with
    | nil => intro i destination; rfl
    | cons id legs ih =>
      intro i destination
      cases legs with
      | nil => rfl
      | cons next legs =>
        rw [remainingLegSeconds, remainingLegSeconds, ih]
        rfl
  unfold armyArrivalSeconds
  rw [← hlegs]
  rfl

theorem tacticalIncoming_rename (state : GameState) (id : String) :
    tacticalIncoming (renameArmies f state) id
      = (tacticalIncoming state id).map (renameIncoming f) := by
  have hlist : ∀ (armies : List MarchingArmy) (k : ℕ),
      (((armies.map (renameArmy f)).filter fun a =>
          armyDestination a (renameArmies f state) = id).zipIdx k).map
        (fun e => (⟨e.1, e.2, armyArrivalSeconds e.1 (renameArmies f state)⟩ : Incoming))
      = (((armies.filter fun a => armyDestination a state = id).zipIdx k).map
          fun e => (⟨e.1, e.2, armyArrivalSeconds e.1 state⟩ : Incoming)).map
            (renameIncoming f) := by
    intro armies
    induction armies with
    | nil => intro k; rfl
    | cons army armies ih =>
      intro k
      rw [List.map_cons]
      rw [List.filter_cons, List.filter_cons, armyDestination_rename]
      by_cases hd : armyDestination army state = id
      · rw [if_pos (decide_eq_true hd), if_pos (decide_eq_true hd), List.zipIdx_cons,
          List.zipIdx_cons, List.map_cons, List.map_cons, List.map_cons, ih,
          armyArrivalSeconds_rename]
        rfl
      · rw [if_neg (Bool.eq_false_iff.mp (decide_eq_false hd)),
          if_neg (Bool.eq_false_iff.mp (decide_eq_false hd)), ih]
  unfold tacticalIncoming
  refine Eq.trans ?_ (sortBy_map (renameIncoming f)
    (fun a b => a.eta < b.eta || (a.eta == b.eta && a.index < b.index)) _).symm
  rw [← hlist]
  rfl

theorem hostileIncoming_rename (state : GameState) (id : String) (team : Team) :
    hostileIncoming (renameArmies f state) id team
      = (hostileIncoming state id team).map (renameIncoming f) := by
  unfold hostileIncoming
  rw [tacticalIncoming_rename, List.filter_map]
  rfl

theorem tacticalForecast_rename (state : GameState) (t : Territory) (seconds : ℚ) (units : ℤ)
    (defense : ℚ) :
    tacticalForecast (renameArmies f state) t seconds units defense
      = tacticalForecast state t seconds units defense := by
  unfold tacticalForecast
  rw [tacticalIncoming_rename, List.foldl_map]
  rfl

theorem candidates_rename (state : GameState) (target : Territory) (team : Team)
    (multiplier : ℚ) :
    candidates (renameArmies f state) target team multiplier
      = candidates state target team multiplier := by
  have hcandidate : candidate (renameArmies f state) target team multiplier
      = candidate state target team multiplier := by
    funext source
    unfold candidate
    rw [dispatchArmy_renameArmies]
    cases dispatchArmy source target team 0.5 "candidate" multiplier (some state) with
    | error e => rfl
    | ok d =>
      have heta : armyArrivalSeconds d.army (renameArmies f state)
          = armyArrivalSeconds d.army state := armyArrivalSeconds_rename id d.army state
      dsimp only
      rw [heta, hostileIncoming_rename, List.getLast?_map]
      cases (hostileIncoming state source.id team).getLast? with
      | none => rfl
      | some last =>
        dsimp only [Option.map_some]
        rw [tacticalForecast_rename]
        rfl
  unfold candidates
  rw [hcandidate]
  rfl

theorem rescueMoves_rename (state : GameState) (team : Team) (multiplier : ℚ) :
    rescueMoves (renameArmies f state) team multiplier = rescueMoves state team multiplier := by
  have hloop : ∀ (target : Territory) (horizon : ℚ) (cs : List Candidate) (units : ℤ)
      (moves : List AiMove),
      rescueLoop (renameArmies f state) target team horizon cs units moves
        = rescueLoop state target team horizon cs units moves := by
    intro target horizon cs
    induction cs with
    | nil => intro units moves; rfl
    | cons c cs ih =>
      intro units moves
      rw [rescueLoop, rescueLoop, tacticalForecast_rename, ih]
  funext target
  unfold rescueMoves
  rw [hostileIncoming_rename, candidates_rename]
  dsimp only
  rw [List.head?_map, List.getLast?_map]
  cases (hostileIncoming state target.id team).head? with
  | none => rfl
  | some first =>
    cases (hostileIncoming state target.id team).getLast? with
    | none => rfl
    | some last =>
      dsimp only [Option.map_some]
      rw [tacticalForecast_rename, hloop]
      rfl

theorem captureMoves_rename (state : GameState) (team : Team) (multiplier : ℚ) :
    captureMoves (renameArmies f state) team multiplier = captureMoves state team multiplier := by
  funext target
  unfold captureMoves
  rw [candidates_rename]
  dsimp only
  cases (candidates state target team multiplier).getLast? with
  | none => rfl
  | some last =>
    dsimp only
    rw [tacticalForecast_rename]

theorem supplyMove_rename (state : GameState) (team : Team) (multiplier : ℚ) :
    supplyMove (renameArmies f state) team multiplier = supplyMove state team multiplier := by
  funext target
  have hcommitted : (((tacticalIncoming (renameArmies f state) target.id).filter
      fun a => a.army.owner = team).map fun a => a.army.units)
        = ((tacticalIncoming state target.id).filter fun a => a.army.owner = team).map
            fun a => a.army.units := by
    rw [tacticalIncoming_rename, List.filter_map, List.map_map]
    rfl
  unfold supplyMove
  rw [hcommitted, candidates_rename]
  rfl

/-- **The tactical policy does not read the names.** -/
theorem evaluateTacticalMoves_rename (state : GameState) (team : Team) (multiplier : ℚ) :
    evaluateTacticalMoves (renameArmies f state) team multiplier
      = evaluateTacticalMoves state team multiplier := by
  unfold evaluateTacticalMoves
  rw [rescueMoves_rename, captureMoves_rename, supplyMove_rename]
  rfl

theorem threatenedTowers_rename (state : GameState) (team : Team) :
    threatenedTowers (renameArmies f state) team = threatenedTowers state team := by
  have htower : threatenedTower (renameArmies f state) team = threatenedTower state team := by
    funext tower
    unfold threatenedTower
    rw [hostileIncoming_rename]
    dsimp only
    rw [List.head?_map, List.getLast?_map]
    cases (hostileIncoming state tower.id team).head? with
    | none => rfl
    | some first =>
      cases (hostileIncoming state tower.id team).getLast? with
      | none => rfl
      | some last =>
        dsimp only [Option.map_some]
        rw [tacticalForecast_rename]
        rfl
  unfold threatenedTowers
  rw [htower]
  rfl

/-- **Neither does the choice of an ability.** -/
theorem chooseBotAbility_rename (state : GameState) (team : Team) (commander : Option CommanderId)
    (moves : List AiMove) :
    chooseBotAbility (renameArmies f state) team commander moves
      = chooseBotAbility state team commander moves := by
  have hsaved : savedTowers (renameArmies f state) team = savedTowers state team := by
    unfold savedTowers
    dsimp only
    rw [threatenedTowers_rename]
    simp only [tacticalForecast_rename]
  have hrescued : rescuedTowers (renameArmies f state) team = rescuedTowers state team := by
    unfold rescuedTowers
    rw [threatenedTowers_rename]
    simp only [tacticalForecast_rename]
  unfold chooseBotAbility
  rw [hsaved, hrescued]
  rfl

end March

end Renaming

/-! ### Without names -/

/-- The state with the names of its armies wiped out. -/
def unnamed (state : GameState) : GameState := renameArmies (fun _ => "") state

end CrownClash.Ts
