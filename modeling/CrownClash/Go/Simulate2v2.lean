import CrownClash.Go.Invariant
import CrownClash.Lib.While
import CrownClash.TwoVTwo

/-!
# Server: the replay of a 2v2 match

`simulate2v2.go`.  The log is sorted and checked first (`canonicalizeActions`),
then the match is set up, and then the actions are played one after the other,
each after the ticks before it.  Every refusal ends the replay with its code.
-/

namespace CrownClash.Go

open Lib

def teamIdForSlot (slot : ℤ) : TeamId := if slot < 2 then .a else .b

def simulationOwnerForSlot (slot : ℤ) : Team :=
  if teamIdForSlot slot = .a then .player else .enemy

def twoVTwoSlotCount : ℤ := 4

def twoVTwoDefaultMaxActions : ℕ := 480

/-! ### The start -/

/-- The checks of one spawn assignment, after the slots and territories before it. -/
def checkSpawn (territories : Record String Territory) (seenSlots : List ℤ)
    (seenTerritories : List String) (assignment : TwoVTwoSpawnAssignment) :
    Except TwoVTwoErrorCode Unit :=
  if assignment.slot < 0 ∨ assignment.slot ≥ twoVTwoSlotCount then .error .spawnSlot
  else if assignment.slot ∈ seenSlots ∨ assignment.territoryId ∈ seenTerritories then
    .error .spawnAssignments
  else
    match territories.get? assignment.territoryId with
    | none => .error .spawnNotFound
    | some territory =>
      if territory.owner ≠ simulationOwnerForSlot assignment.slot then .error .spawnOwner
      else .ok ()

def checkSpawns (territories : Record String Territory) :
    List ℤ → List String → List TwoVTwoSpawnAssignment → Except TwoVTwoErrorCode Unit
  | _, _, [] => .ok ()
  | seenSlots, seenTerritories, assignment :: rest => do
    checkSpawn territories seenSlots seenTerritories assignment
    checkSpawns territories (assignment.slot :: seenSlots)
      (assignment.territoryId :: seenTerritories) rest

/-- The modifiers of a slot, put on the territory it spawns on. -/
def applySpawn (modifiersBySlot : ℤ → PlayerUpgradeModifiers)
    (territories : Record String Territory) (assignment : TwoVTwoSpawnAssignment) :
    Record String Territory :=
  let spawn := territories.getD assignment.territoryId Territory.zero
  let modifiers := modifiersBySlot assignment.slot
  territories.set assignment.territoryId
    { spawn with
      units := modifiers.startingUnits
      productionRate := spawn.productionRate * modifiers.productionRateMultiplier }

def createInitial2v2GameState (territories : Record String Territory)
    (spawnAssignments : List TwoVTwoSpawnAssignment)
    (modifiersBySlot : ℤ → PlayerUpgradeModifiers) (timeLimitSeconds : ℚ)
    (battlefieldId : String) : Except TwoVTwoErrorCode GameState := do
  if (spawnAssignments.length : ℤ) ≠ twoVTwoSlotCount then throw .spawnAssignments
  checkSpawns territories [] [] spawnAssignments
  pure
    { battlefieldId := battlefieldId
      territories := spawnAssignments.foldl (applySpawn modifiersBySlot) territories
      armies := []
      status := .playing
      elapsedTimeSeconds := 0
      timeLimitSeconds := if timeLimitSeconds ≤ 0 then pvpTimeLimitSeconds else timeLimitSeconds
      stats := .zero
      gameplayRulesVersion := currentGameplayRulesVersion
      productionReadyAtMs := .empty
      shieldedUntilMs := .empty
      playerAbilityUsed := false
      enemyAbilityUsed := false }

/-! ### The canonical log -/

/-- The canonical order: tick, then server sequence, then slot and client sequence. -/
def canonicalBefore (left right : CanonicalTwoVTwoAction) : Bool :=
  if left.tick ≠ right.tick then left.tick < right.tick
  else if left.serverSeq ≠ right.serverSeq then left.serverSeq < right.serverSeq
  else if left.slot ≠ right.slot then left.slot < right.slot
  else left.clientSeq < right.clientSeq

def checkAction (c : LogCheck) (action : CanonicalTwoVTwoAction) : Except TwoVTwoErrorCode Unit :=
  if action.schemaVersion ≠ matchSchemaVersion2 then .error .invalidSchemaVersion
  else if action.tick < 0 then .error .invalidTick
  else if action.serverSeq < 0 ∨ action.serverSeq ∈ c.seenServerSequences then
    .error .invalidServerSequence
  else if action.slot < 0 ∨ action.slot ≥ twoVTwoSlotCount then .error .invalidSlot
  else if action.clientSeq ≠ c.nextClientSequence action.slot then .error .invalidClientSequence
  else if action.sourceId = "" then .error .invalidSource
  else if action.targetId = "" then .error .invalidTarget
  else .ok ()

def checkActions : LogCheck → List CanonicalTwoVTwoAction → Except TwoVTwoErrorCode Unit
  | _, [] => .ok ()
  | c, action :: rest => do
    checkAction c action
    checkActions (c.add action) rest

def canonicalizeActions (actions : List CanonicalTwoVTwoAction) (maxActions : ℕ) :
    Except TwoVTwoErrorCode (List CanonicalTwoVTwoAction) := do
  if actions.length > maxActions then throw .tooManyActions
  let canonical := sortBy canonicalBefore actions
  checkActions .start canonical
  return canonical

/-! ### The replay -/

structure Replay2v2 where
  state : GameState
  accumulators : Accumulators
  currentTick : ℤ
  actionsProcessed : ℕ

def Replay2v2.playing (r : Replay2v2) : Bool := r.state.status = .playing

def twoVTwoArmyId (action : CanonicalTwoVTwoAction) : String :=
  "2v2_" ++ toString action.tick ++ "_" ++ toString action.serverSeq ++ "_"
    ++ toString action.slot ++ "_" ++ toString action.clientSeq

def maximumTick (state : GameState) : ℤ :=
  ⌊state.timeLimitSeconds / pvpSimulationTick + 1 / 10 ^ 9⌋

section Replay

variable [MathLib]

def Replay2v2.step (r : Replay2v2) (delta : ℚ) : Replay2v2 :=
  let p := stepSimulation r.state r.accumulators delta
  { r with state := p.1, accumulators := p.2 }

/-- One round of the clock loop. -/
def Replay2v2.tick (r : Replay2v2) : Replay2v2 :=
  { r.step pvpSimulationTick with currentTick := r.currentTick + 1 }

def stepUntil (targetTick : ℤ) (r : Replay2v2) : Replay2v2 :=
  whileLoop (fun r => r.playing && r.currentTick < targetTick) Replay2v2.tick
    (targetTick - r.currentTick).toNat r

/-- One action of the log in the state it arrives in. -/
def applyAction (modifiersBySlot : ℤ → PlayerUpgradeModifiers) (r : Replay2v2)
    (action : CanonicalTwoVTwoAction) : Except TwoVTwoErrorCode Replay2v2 :=
  match r.state.territories.get? action.sourceId, r.state.territories.get? action.targetId with
  | none, _ => .error .invalidSource
  | some _, none => .error .invalidTarget
  | some source, some _ =>
    let owner := simulationOwnerForSlot action.slot
    if source.owner ≠ owner then .error .slotNotPermitted
    else
      match dispatchArmy r.state action.sourceId action.targetId owner
        (modifiersBySlot action.slot).armySpeedMultiplier (twoVTwoArmyId action) with
      | .error .invalidSource => .error .invalidSource
      | .error .invalidTarget => .error .invalidTarget
      | .error .invalidDispatch => .error .invalidDispatch
      | .ok state => .ok { r with state := state, actionsProcessed := r.actionsProcessed + 1 }

def runActions (modifiersBySlot : ℤ → PlayerUpgradeModifiers) (maxTick : ℤ) :
    List CanonicalTwoVTwoAction → Replay2v2 → Except TwoVTwoErrorCode Replay2v2
  | [], r => .ok r
  | action :: rest, r =>
    if action.tick > maxTick then .error .invalidTick
    else
      let r := stepUntil action.tick r
      if !r.playing then .error .actionAfterBattleEnd
      else do
        let r ← applyAction modifiersBySlot r action
        runActions modifiersBySlot maxTick rest r

/-- The clock to the last tick, and the rest of the time when the match still runs. -/
def finish2v2 (maxTick : ℤ) (r : Replay2v2) : Replay2v2 :=
  let r := stepUntil maxTick r
  if r.playing then r.step (max 0 (r.state.timeLimitSeconds - r.state.elapsedTimeSeconds)) else r

/-- The state a replay starts from, with the rules it was recorded under. -/
def initialState2v2 (o : TwoVTwoSimulationOptions) : Except TwoVTwoErrorCode GameState := do
  let state ← createInitial2v2GameState o.territories o.spawnAssignments o.modifiersBySlot
    o.timeLimitSeconds o.battlefieldId
  if o.gameplayRulesVersion = 0 then return state
  else if o.gameplayRulesVersion ≠ 1 ∧ o.gameplayRulesVersion ≠ 2 then
    throw .unsupportedGameplayRulesVersion
  else
    return { state with
      gameplayRulesVersion := if o.gameplayRulesVersion = 1 then 0 else o.gameplayRulesVersion }

def simulate2v2Battle (o : TwoVTwoSimulationOptions) :
    Except TwoVTwoErrorCode TwoVTwoSimulationResult := do
  let canonicalActions ← canonicalizeActions o.actions twoVTwoDefaultMaxActions
  let state ← initialState2v2 o
  let r ← runActions o.modifiersBySlot (maximumTick state) canonicalActions ⟨state, .empty, 0, 0⟩
  let r := finish2v2 (maximumTick state) r
  return ⟨canonicalActions, r.state, r.actionsProcessed⟩

end Replay

/-! ### The battle starts well formed -/

theorem templates_keys : ∀ b ∈ battlefields,
    b.templates.keys = territoryOrderForBattlefield b.id := by
  decide

theorem templates_id (b : BattlefieldDefinition) {id : String} {t : Territory}
    (h : b.templates.get? id = some t) : t.id = id := by
  obtain ⟨u, -, he⟩ := List.mem_map.mp (Record.get?_eq_some_iff.mp h)
  cases he
  rfl

/-- The spawns that pass are towers of the map. -/
theorem checkSpawns_mem {territories : Record String Territory} :
    ∀ {assignments : List TwoVTwoSpawnAssignment} {seenSlots : List ℤ}
      {seenTerritories : List String},
      checkSpawns territories seenSlots seenTerritories assignments = .ok () →
        ∀ a ∈ assignments, a.territoryId ∈ territories.keys := by
  intro assignments
  induction assignments with
  | nil => intro _ _ _ a ha; exact absurd ha List.not_mem_nil
  | cons assignment rest ih =>
    intro seenSlots seenTerritories h a ha
    unfold checkSpawns at h
    cases hc : checkSpawn territories seenSlots seenTerritories assignment with
    | error e => rw [hc] at h; cases h
    | ok u =>
      rw [hc] at h
      rcases List.mem_cons.mp ha with rfl | ha
      · unfold checkSpawn at hc
        split at hc
        · cases hc
        split at hc
        · cases hc
        cases hg : territories.get? a.territoryId with
        | none => rw [hg] at hc; cases hc
        | some t => exact Record.mem_keys_of_get? hg
      · exact ih h a ha

theorem applySpawn_ok (modifiersBySlot : ℤ → PlayerUpgradeModifiers)
    {territories : Record String Territory}
    (hids : ∀ id t, territories.get? id = some t → t.id = id)
    {assignment : TwoVTwoSpawnAssignment} (ha : assignment.territoryId ∈ territories.keys) :
    (applySpawn modifiersBySlot territories assignment).keys = territories.keys ∧
      ∀ id t, (applySpawn modifiersBySlot territories assignment).get? id = some t → t.id = id := by
  refine ⟨Record.keys_set_of_mem _ ha, fun id t ht => ?_⟩
  unfold applySpawn at ht
  dsimp only at ht
  rw [Record.get?_set] at ht
  split at ht
  · next he =>
    obtain ⟨u, hu⟩ := Record.exists_get?_of_mem_keys ha
    cases ht
    dsimp only
    rw [Record.getD, hu, Option.getD_some, he]
    exact hids _ u hu
  · exact hids id t ht

theorem foldl_applySpawn_ok (modifiersBySlot : ℤ → PlayerUpgradeModifiers) :
    ∀ (assignments : List TwoVTwoSpawnAssignment) {territories : Record String Territory},
      (∀ id t, territories.get? id = some t → t.id = id) →
        (∀ a ∈ assignments, a.territoryId ∈ territories.keys) →
          (assignments.foldl (applySpawn modifiersBySlot) territories).keys = territories.keys ∧
          ∀ id t, (assignments.foldl (applySpawn modifiersBySlot) territories).get? id = some t →
            t.id = id := by
  intro assignments
  induction assignments with
  | nil => intro territories hids _; exact ⟨rfl, hids⟩
  | cons a rest ih =>
    intro territories hids hmem
    obtain ⟨hk, hi⟩ := applySpawn_ok modifiersBySlot hids (hmem a List.mem_cons_self)
    obtain ⟨hk', hi'⟩ := ih hi fun b hb => by
      rw [hk]
      exact hmem b (List.mem_cons_of_mem a hb)
    exact ⟨hk'.trans hk, hi'⟩

/-- **A replay on the territories of a shipped map starts well formed**, and
without tactical rules. -/
theorem initialState2v2_ok {o : TwoVTwoSimulationOptions} {b : BattlefieldDefinition}
    (hb : b ∈ battlefields) (ht : o.territories = b.templates) (hm : o.battlefieldId = b.id)
    {state : GameState} (h : initialState2v2 o = .ok state) :
    BattleOk state ∧ usesTacticalRules state.gameplayRulesVersion = false := by
  unfold initialState2v2 createInitial2v2GameState at h
  by_cases hl : (o.spawnAssignments.length : ℤ) ≠ twoVTwoSlotCount
  · rw [if_pos hl] at h
    cases h
  rw [if_neg hl] at h
  cases hc : checkSpawns o.territories [] [] o.spawnAssignments with
  | error e => rw [hc] at h; cases h
  | ok u =>
    rw [hc] at h
    have hids : ∀ id t, o.territories.get? id = some t → t.id = id := by
      rw [ht]
      exact fun id t => templates_id b
    obtain ⟨hk, hi⟩ := foldl_applySpawn_ok o.modifiersBySlot o.spawnAssignments hids
      (checkSpawns_mem hc)
    have hkeys : (o.spawnAssignments.foldl (applySpawn o.modifiersBySlot) o.territories).keys
        = territoryOrderForBattlefield o.battlefieldId := by
      rw [hk, ht, hm]
      exact templates_keys b hb
    have hok : ∀ state : GameState, state.battlefieldId = o.battlefieldId →
        state.territories = o.spawnAssignments.foldl (applySpawn o.modifiersBySlot)
          o.territories → state.armies = [] → state.productionReadyAtMs = .empty →
            state.elapsedTimeSeconds = 0 → BattleOk state := by
      intro s h1 h2 h3 h4 h5
      refine ⟨⟨b, hb, by rw [h1, hm]⟩, by rw [h1, h2, hkeys], ?_, fun _ => h4, h5.ge, ?_⟩
      · unfold AllTowers
        rw [h2]
        exact hi
      · intro a ha
        rw [h3] at ha
        exact absurd ha List.not_mem_nil
    dsimp only [bind, Except.bind, pure, Except.pure] at h
    split at h
    · cases h
      exact ⟨hok _ rfl rfl rfl rfl rfl, rfl⟩
    · split at h
      · cases h
      · next hv =>
        cases h
        refine ⟨hok _ rfl rfl rfl rfl rfl, ?_⟩
        rw [not_and_or, not_not, not_not] at hv
        rcases hv with hv | hv <;> (dsimp only; rw [hv]; rfl)

end CrownClash.Go
