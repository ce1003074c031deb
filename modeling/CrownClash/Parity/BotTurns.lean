import CrownClash.Parity.BotBattle
import CrownClash.Ts.ArmyNames

/-!
# The turn of the bot

The client's policy tries a source out by dispatching from it, so that its moves can be
sent in the state that it saw, whatever the garrisons and the speeds of the match are
(`tsMoves_ok`).  They are then sent one after the other, and stay legal for the reasons
given for the server's.  `botTurn` is what a turn makes of a battle without names, with a
refused move skipped; a replay, which throws at one, never does, and takes that turn
(`executeAiAction_turn`).
-/

namespace CrownClash.Parity

open Lib

variable [MathLib]

/-! ### The client's moves -/

/-- A dispatch that was tried out with success is a legal move. -/
theorem moveOk_of_dispatch {state : GameState} (h : Go.BattleOk state) {source target : Territory}
    (hs : state.territories.get? source.id = some source)
    (ht : state.territories.get? target.id = some target) {team : Team} {ratio multiplier : ℚ}
    {armyId : String} {d : Ts.Dispatched}
    (hd : Ts.dispatchArmy source target team ratio armyId multiplier (some state) = .ok d) :
    Go.MoveOk state team ⟨source.id, target.id⟩ := by
  unfold Ts.dispatchArmy at hd
  dsimp only at hd
  split at hd
  · cases hd
  next hne =>
  split at hd
  · cases hd
  next ho =>
  rw [findDispatchRoute_eq h.known] at hd
  cases hroute : Go.findDispatchRoute state source.id target.id team with
  | none =>
    rw [hroute] at hd
    cases hd
  | some route =>
    rw [hroute] at hd
    dsimp only at hd
    split at hd
    · cases hd
    next hunits =>
    refine ⟨⟨source, hs, not_not.mp ho, ?_⟩, ⟨target, ht⟩, hne, route, hroute⟩
    unfold Ts.calculateDispatchUnits at hunits
    split at hunits
    · exact absurd (le_refl 0) hunits
    · omega

theorem candidate_sent {state : GameState} {target source : Territory} {team : Team}
    {multiplier : ℚ} {c : Ts.Candidate}
    (hc : Ts.candidate state target team multiplier source = some c) :
    c.source = source ∧ ∃ d, Ts.dispatchArmy source target team 0.5 "candidate" multiplier
      (some state) = .ok d := by
  unfold Ts.candidate at hc
  cases hd : Ts.dispatchArmy source target team 0.5 "candidate" multiplier (some state) with
  | error e =>
    rw [hd] at hc
    cases hc
  | ok d =>
    rw [hd] at hc
    dsimp only at hc
    refine ⟨?_, d, rfl⟩
    split at hc
    · split at hc
      · cases hc
      · cases hc
        rfl
    · cases hc
      rfl

omit [MathLib] in
/-- The towers of a state are stored under their ids. -/
theorem get?_of_mem_sortedTowers {state : GameState} (h : Go.BattleOk state) {t : Territory}
    (ht : t ∈ Ts.sortedTowers state) : state.territories.get? t.id = some t := by
  obtain ⟨id, hid⟩ := Record.mem_values.mp (mem_sortBy.mp ht)
  rw [h.ids id t hid]
  exact hid

omit [MathLib] in
theorem nodup_sortedTowers {state : GameState} (h : Go.BattleOk state) :
    ((Ts.sortedTowers state).map Territory.id).Nodup := by
  rw [sortedTowers_eq h, List.map_map]
  have hids : (Go.sortedIds state).map (Territory.id ∘ state.territory) = Go.sortedIds state := by
    refine (List.map_congr_left fun id hid => ?_).trans (List.map_id _)
    exact (Go.territory_of_mem h hid).1
  rw [hids]
  exact (perm_sortBy _ _).nodup_iff.mpr state.territories.nodup

theorem mem_candidates {state : GameState} {target : Territory} {team : Team} {multiplier : ℚ}
    {c : Ts.Candidate} (hc : c ∈ Ts.candidates state target team multiplier) :
    c.source ∈ Ts.sortedTowers state ∧ ∃ d, Ts.dispatchArmy c.source target team 0.5 "candidate"
      multiplier (some state) = .ok d := by
  obtain ⟨source, hsource, hcand⟩ := List.mem_filterMap.mp (mem_sortBy.mp hc)
  obtain ⟨he, hsent⟩ := candidate_sent hcand
  rw [he]
  exact ⟨List.mem_of_mem_filter hsource, hsent⟩

theorem nodup_candidates {state : GameState} (h : Go.BattleOk state) (target : Territory)
    (team : Team) (multiplier : ℚ) :
    ((Ts.candidates state target team multiplier).map fun c => c.source.id).Nodup := by
  have hsub : ∀ towers : List Territory,
      List.Sublist ((towers.filterMap (Ts.candidate state target team multiplier)).map
        fun c => c.source.id) (towers.map Territory.id) := by
    intro towers
    induction towers with
    | nil => exact List.Sublist.refl _
    | cons t towers ih =>
      rw [List.filterMap_cons]
      cases hc : Ts.candidate state target team multiplier t with
      | none => exact ih.cons t.id
      | some c =>
        dsimp only
        rw [List.map_cons, List.map_cons, (candidate_sent hc).1]
        exact ih.cons_cons t.id
  unfold Ts.candidates
  refine ((perm_sortBy _ _).map _).nodup_iff.mpr ((hsub _).nodup ?_)
  exact (List.filter_sublist.map Territory.id).nodup (nodup_sortedTowers h)

/-- Some of the candidates for a tower, all sent to it. -/
theorem movesOk_of_candidates {state : GameState} (h : Go.BattleOk state) {team : Team}
    {multiplier : ℚ} {target : Territory} (ht : target ∈ Ts.sortedTowers state)
    {cs : List Ts.Candidate} (hcs : cs.Sublist (Ts.candidates state target team multiplier)) :
    Go.MovesOk state team ((cs.map fun c => (⟨c.source.id, target.id⟩ : Ts.AiMove)).map moveOf) := by
  rw [List.map_map]
  refine ⟨?_, fun move hmove => ?_⟩
  · rw [List.map_map]
    exact (hcs.map fun c => c.source.id).nodup (nodup_candidates h target team multiplier)
  · obtain ⟨c, hc, rfl⟩ := List.mem_map.mp hmove
    obtain ⟨hsource, d, hd⟩ := mem_candidates (hcs.subset hc)
    exact moveOk_of_dispatch h (get?_of_mem_sortedTowers h hsource)
      (get?_of_mem_sortedTowers h ht) hd

theorem tsRescueLoop_some {state : GameState} {target : Territory} {team : Team} {horizon : ℚ} :
    ∀ {cs : List Ts.Candidate} {units : ℤ} {moves result : List Ts.AiMove},
      Ts.rescueLoop state target team horizon cs units moves = some result →
        ∃ k, result = moves ++ (cs.take k).map fun c => ⟨c.source.id, target.id⟩ := by
  intro cs
  induction cs with
  | nil => intro units moves result h; cases h
  | cons c cs ih =>
    intro units moves result h
    rw [Ts.rescueLoop] at h
    split at h
    · cases h
      exact ⟨1, rfl⟩
    · obtain ⟨k, hk⟩ := ih h
      refine ⟨k + 1, ?_⟩
      rw [hk, List.append_assoc]
      rfl

omit [MathLib] in
theorem tsCaptureLoop_some {target : Territory} {team : Team} :
    ∀ {cs : List Ts.Candidate} {remaining : Territory} {moves : List Ts.AiMove}
      {result : ℤ × List Ts.AiMove}, Ts.captureLoop target team cs remaining moves = some result →
        ∃ k, result.2 = moves ++ (cs.take k).map fun c => ⟨c.source.id, target.id⟩ := by
  intro cs
  induction cs with
  | nil => intro remaining moves result h; cases h
  | cons c cs ih =>
    intro remaining moves result h
    rw [Ts.captureLoop] at h
    dsimp only at h
    split at h
    · cases h
      exact ⟨1, rfl⟩
    · obtain ⟨k, hk⟩ := ih h
      refine ⟨k + 1, ?_⟩
      rw [hk, List.append_assoc]
      rfl

theorem tsRescueMoves_ok {state : GameState} (h : Go.BattleOk state) {team : Team} {multiplier : ℚ}
    {target : Territory} (ht : target ∈ Ts.sortedTowers state) {moves : List Ts.AiMove}
    (hm : Ts.rescueMoves state team multiplier target = some moves) :
    Go.MovesOk state team (moves.map moveOf) := by
  unfold Ts.rescueMoves at hm
  dsimp only at hm
  split at hm
  · split at hm
    · cases hm
    · obtain ⟨k, rfl⟩ := tsRescueLoop_some hm
      exact movesOk_of_candidates h ht ((List.take_sublist _ _).trans List.filter_sublist)
  · cases hm

theorem tsCaptureMoves_ok {state : GameState} (h : Go.BattleOk state) {team : Team}
    {multiplier : ℚ} {target : Territory} (ht : target ∈ Ts.sortedTowers state)
    {attack : ℤ × List Ts.AiMove}
    (hm : Ts.captureMoves state team multiplier target = some attack) :
    Go.MovesOk state team (attack.2.map moveOf) := by
  unfold Ts.captureMoves at hm
  dsimp only at hm
  split at hm
  · cases hm
  · split at hm
    · cases hm
    · obtain ⟨k, hk⟩ := tsCaptureLoop_some hm
      rw [hk]
      exact movesOk_of_candidates h ht (List.take_sublist _ _)

theorem tsSupplyMove_ok {state : GameState} (h : Go.BattleOk state) {team : Team} {multiplier : ℚ}
    {target : Territory} (ht : target ∈ Ts.sortedTowers state) {moves : List Ts.AiMove}
    (hm : Ts.supplyMove state team multiplier target = some moves) :
    Go.MovesOk state team (moves.map moveOf) := by
  unfold Ts.supplyMove at hm
  dsimp only at hm
  split at hm
  · cases hm
  · obtain ⟨c, hc, rfl⟩ := Option.map_eq_some_iff.mp hm
    have hsub : [c].Sublist (Ts.candidates state target team multiplier) :=
      List.singleton_sublist.mpr (List.mem_of_find?_eq_some hc)
    exact movesOk_of_candidates h ht hsub

/-- **The client's policy plays legal moves** from different towers, for every speed. -/
theorem tsMoves_ok {state : GameState} (h : Go.BattleOk state) (team : Team) (multiplier : ℚ) :
    Go.MovesOk state team ((Ts.evaluateTacticalMoves state team multiplier).map moveOf) := by
  have hnone : Go.MovesOk state team (([] : List Ts.AiMove).map moveOf) :=
    ⟨List.nodup_nil, fun _ hm => absurd hm List.not_mem_nil⟩
  unfold Ts.evaluateTacticalMoves
  split
  · exact hnone
  dsimp only
  split
  · next moves hm =>
    obtain ⟨target, ht, hm⟩ := List.exists_of_findSome?_eq_some hm
    exact tsRescueMoves_ok h (List.mem_of_mem_filter ht) hm
  have hbest : ∀ best : ℤ × List Ts.AiMove,
      ((Ts.sortedTowers state).filter fun t => t.owner ≠ team).foldl (fun best target =>
        Ts.keepBest best (Ts.captureMoves state team multiplier target)) none = some best →
          Go.MovesOk state team (best.2.map moveOf) := by
    refine foldl_preserves (P := fun b : Option (ℤ × List Ts.AiMove) =>
      ∀ best, b = some best → Go.MovesOk state team (best.2.map moveOf)) ?_ (fun _ hb => by cases hb)
    intro b target ht ih best hb
    have ht' := List.mem_of_mem_filter ht
    unfold Ts.keepBest at hb
    split at hb
    · exact ih best hb
    · next hc =>
      cases hb
      exact tsCaptureMoves_ok h ht' hc
    · next hc =>
      split at hb
      · cases hb
        exact tsCaptureMoves_ok h ht' hc
      · exact ih best hb
  split
  · next heq => exact hbest _ heq
  · cases hs : (((Ts.sortedTowers state).filter fun t => t.owner = team).filter
        fun t => Ts.frontier state team t).findSome? (Ts.supplyMove state team multiplier) with
    | none => exact hnone
    | some moves =>
      obtain ⟨target, ht, hm⟩ := List.exists_of_findSome?_eq_some hs
      exact tsSupplyMove_ok h (List.mem_of_mem_filter (List.mem_of_mem_filter ht)) hm


/-! ### A turn -/

omit [MathLib] in
/-- Where a battle stands, whatever its armies are called. -/
theorem battleOk_unnamed {state : GameState} (h : Go.BattleOk state) :
    Go.BattleOk (Ts.unnamed state) := by
  refine ⟨h.known, h.keys, h.ids, h.ready, h.elapsed, fun a ha => ?_⟩
  obtain ⟨b, hb, rfl⟩ := List.mem_map.mp ha
  exact ⟨(h.armies b hb).owned, (h.armies b hb).routed⟩

theorem dispatchFromState_unnamed (state : GameState) (sourceId targetId : String) (owner : Team)
    (multiplier : ℚ) (armyId : String) :
    Ts.dispatchFromState (Ts.unnamed state) sourceId targetId owner multiplier ""
      = (Ts.dispatchFromState state sourceId targetId owner multiplier armyId).map Ts.unnamed :=
  Ts.dispatchFromState_rename (f := fun _ => "") state sourceId targetId owner multiplier armyId

theorem applyTeamAbility_unnamed (state : GameState) (team : Team)
    (commander : Option CommanderId) (sourceId targetId : String) (multiplier : ℚ)
    (armyId : String) :
    Ts.applyTeamAbility (Ts.unnamed state) team commander sourceId targetId multiplier ""
      = (Ts.applyTeamAbility state team commander sourceId targetId multiplier armyId).map
          Ts.unnamed :=
  Ts.applyTeamAbility_rename (f := fun _ => "") state team commander sourceId targetId multiplier
    armyId

/-- A move of the bot; one that is refused changes nothing. -/
def sendMove (o : Ts.PvpSimulationOptions) (state : GameState) (move : Ts.AiMove) : GameState :=
  match Ts.dispatchFromState state move.fromId move.toId .enemy
    o.enemyModifiers.armySpeedMultiplier "" with
  | .error _ => state
  | .ok state => state

/-- The ability of the bot: the state and the moves that are left. -/
def spendChoice (o : Ts.PvpSimulationOptions) (state : GameState) (moves : List Ts.AiMove) :
    GameState × List Ts.AiMove :=
  match Ts.chooseBotAbility state .enemy (Ts.botCommander o.botDifficulty) moves with
  | none => (state, moves)
  | some choice =>
    match Ts.applyTeamAbility state .enemy (Ts.botCommander o.botDifficulty) choice.sourceId
      choice.targetId o.enemyModifiers.armySpeedMultiplier "" with
    | none => (state, moves)
    | some state => (state, choice.moves)

/-- What a turn of the bot makes of a battle without names. -/
def botTurn (o : Ts.PvpSimulationOptions) (state : GameState) : GameState :=
  if Ts.usesTacticalRules state.gameplayRulesVersion then
    let moves := Ts.evaluateTacticalMoves state .enemy o.enemyModifiers.armySpeedMultiplier
    let p := spendChoice o state moves
    p.2.foldl (sendMove o) p.1
  else
    match Ts.evaluateAiMove state.territories .enemy 8 with
    | none => state
    | some move => sendMove o state move

/-- What is done between two steps moves no clock of the replay. -/
structure Acted (r r' : Ts.Replay) : Prop where
  ok : Go.BattleOk r'.state
  clock : Go.SameClock r.state r'.state
  rest : r' = { r with state := r'.state, aiActionIndex := r'.aiActionIndex }

omit [MathLib] in
theorem Acted.trans {r r' r'' : Ts.Replay} (h : Acted r r') (h' : Acted r' r'') : Acted r r'' := by
  refine ⟨h'.ok, ⟨h'.clock.battlefieldId.trans h.clock.battlefieldId,
    h'.clock.version.trans h.clock.version, h'.clock.timeLimit.trans h.clock.timeLimit,
    h'.clock.status.trans h.clock.status, h'.clock.elapsed.trans h.clock.elapsed⟩, ?_⟩
  have hr := h.rest
  have hr' := h'.rest
  rw [hr] at hr'
  exact hr'

omit [MathLib] in
theorem Acted.refl {r : Ts.Replay} (h : Go.BattleOk r.state) : Acted r r :=
  ⟨h, ⟨rfl, rfl, rfl, rfl, rfl⟩, rfl⟩

/-- **A legal move is sent**, and it is what the bot makes of the battle without names. -/
theorem botDispatch_sent {o : Ts.PvpSimulationOptions} {r : Ts.Replay} (h : Go.BattleOk r.state)
    {move : Ts.AiMove} (hm : Go.MoveOk r.state .enemy (moveOf move)) :
    ∃ r', Ts.botDispatch o r move = .ok r' ∧
      Ts.unnamed r'.state = sendMove o (Ts.unnamed r.state) move ∧ Acted r r' ∧
      Go.dispatchArmy r.state move.fromId move.toId .enemy o.enemyModifiers.armySpeedMultiplier
        (Ts.aiArmyId r.aiActionIndex) = .ok r'.state := by
  obtain ⟨state, hgo⟩ := hm.dispatch o.enemyModifiers.armySpeedMultiplier
    (Ts.aiArmyId r.aiActionIndex)
  have hd : Go.dispatchArmy r.state move.fromId move.toId .enemy
      o.enemyModifiers.armySpeedMultiplier (Ts.aiArmyId r.aiActionIndex) = .ok state := hgo
  have hts := dispatchFromState_eq h Go.enemy_ne_neutral move.fromId move.toId
    o.enemyModifiers.armySpeedMultiplier (Ts.aiArmyId r.aiActionIndex)
  have hname := dispatchFromState_unnamed r.state move.fromId move.toId .enemy
    o.enemyModifiers.armySpeedMultiplier (Ts.aiArmyId r.aiActionIndex)
  rw [hd] at hts
  cases hf : Ts.dispatchFromState r.state move.fromId move.toId .enemy
      o.enemyModifiers.armySpeedMultiplier (Ts.aiArmyId r.aiActionIndex) with
  | error e =>
    rw [hf] at hts
    cases hts
  | ok s =>
    rw [hf] at hts hname
    cases Option.some.inj hts
    refine ⟨{ r with state := state, aiActionIndex := r.aiActionIndex + 1 }, ?_, ?_, ?_, hd⟩
    · unfold Ts.botDispatch
      rw [hf]
    · unfold sendMove
      rw [hname]
      rfl
    · exact ⟨Go.dispatchArmyWithRatio_battleOk h Go.enemy_ne_neutral hd,
        Go.dispatchArmy_sameClock Go.enemy_ne_neutral hd, rfl⟩

/-- **Legal moves from different towers are all sent.** -/
theorem foldlM_botDispatch_sent {o : Ts.PvpSimulationOptions} : ∀ {moves : List Ts.AiMove}
    {r : Ts.Replay}, Go.BattleOk r.state → Go.MovesOk r.state .enemy (moves.map moveOf) →
      ∃ r', moves.foldlM (Ts.botDispatch o) r = .ok r' ∧
        Ts.unnamed r'.state = moves.foldl (sendMove o) (Ts.unnamed r.state) ∧ Acted r r' := by
  intro moves
  induction moves with
  | nil => intro r h _; exact ⟨r, rfl, rfl, Acted.refl h⟩
  | cons move moves ih =>
    intro r h hm
    rw [List.map_cons] at hm
    obtain ⟨r1, he, hname, hacted, hd⟩ := botDispatch_sent h (hm.legal _ List.mem_cons_self)
    obtain ⟨hmap, hrest⟩ := Go.dispatchArmy_sameMap Go.enemy_ne_neutral hd
    have htail := hm.tail hmap fun id hne => (congrArg Territory.units (hrest id hne)).ge
    obtain ⟨r', hok, hname', hacted'⟩ := ih hacted.ok htail
    refine ⟨r', ?_, ?_, hacted.trans hacted'⟩
    · rw [List.foldlM_cons, he]
      exact hok
    · rw [hname', hname, List.foldl_cons]

/-- The ability, and the moves that are legal after it. -/
theorem spendAbility_sent {o : Ts.PvpSimulationOptions} {r : Ts.Replay} (h : Go.BattleOk r.state)
    {moves : List Ts.AiMove} (hm : Go.MovesOk r.state .enemy (moves.map moveOf)) :
    Ts.unnamed (Ts.spendAbility o r moves).1.state
        = (spendChoice o (Ts.unnamed r.state) moves).1 ∧
      (Ts.spendAbility o r moves).2 = (spendChoice o (Ts.unnamed r.state) moves).2 ∧
      Go.MovesOk (Ts.spendAbility o r moves).1.state .enemy
        ((Ts.spendAbility o r moves).2.map moveOf) ∧ Acted r (Ts.spendAbility o r moves).1 := by
  have hchoose : Ts.chooseBotAbility (Ts.unnamed r.state) .enemy (Ts.botCommander o.botDifficulty)
      moves = Ts.chooseBotAbility r.state .enemy (Ts.botCommander o.botDifficulty) moves :=
    Ts.chooseBotAbility_rename r.state .enemy _ moves
  unfold Ts.spendAbility spendChoice
  dsimp only
  rw [hchoose]
  cases hc : Ts.chooseBotAbility r.state .enemy (Ts.botCommander o.botDifficulty) moves with
  | none => exact ⟨rfl, rfl, hm, Acted.refl h⟩
  | some choice =>
    dsimp only
    rw [applyTeamAbility_unnamed _ _ _ _ _ _ (Ts.aiArmyId r.aiActionIndex)]
    cases ha : Ts.applyTeamAbility r.state .enemy (Ts.botCommander o.botDifficulty)
        choice.sourceId choice.targetId o.enemyModifiers.armySpeedMultiplier
          (Ts.aiArmyId r.aiActionIndex) with
    | none => exact ⟨rfl, rfl, hm, Acted.refl h⟩
    | some state =>
      rw [applyTeamAbility_eq h] at ha
      have hgo : Go.chooseBotAbility r.state .enemy (Ts.botCommander o.botDifficulty)
          (moves.map moveOf) = some (choiceOf choice) := by
        rw [← chooseBotAbility_eq h, hc]
        rfl
      obtain ⟨hok, hclock, -, -⟩ := Go.applyTeamAbility_keeps Go.enemy_ne_neutral ha h
      exact ⟨rfl, rfl, hm.afterAbility Go.enemy_ne_neutral hgo ha h, ⟨hok, hclock, rfl⟩⟩

/-- **The bot never throws, and its turn is that of the battle without names.** -/
theorem executeAiAction_turn {o : Ts.PvpSimulationOptions} {r : Ts.Replay}
    (h : Go.BattleOk r.state) (hp : r.playing = true) :
    ∃ r', Ts.executeAiAction o r = .ok r' ∧
      Ts.unnamed r'.state = botTurn o (Ts.unnamed r.state) ∧ Acted r r' := by
  unfold Ts.executeAiAction botTurn
  rw [hp, Bool.not_true, if_neg Bool.false_ne_true]
  have hversion : (Ts.unnamed r.state).gameplayRulesVersion = r.state.gameplayRulesVersion := rfl
  have hterr : (Ts.unnamed r.state).territories = r.state.territories := rfl
  rw [hversion, hterr]
  by_cases hv : Ts.usesTacticalRules r.state.gameplayRulesVersion = true
  · rw [if_pos hv, if_pos hv]
    have hmoves : Ts.evaluateTacticalMoves (Ts.unnamed r.state) .enemy
        o.enemyModifiers.armySpeedMultiplier
          = Ts.evaluateTacticalMoves r.state .enemy o.enemyModifiers.armySpeedMultiplier :=
      Ts.evaluateTacticalMoves_rename r.state .enemy _
    rw [hmoves]
    obtain ⟨hstate, hleft, hok, hacted⟩ := spendAbility_sent (o := o) h
      (tsMoves_ok h .enemy o.enemyModifiers.armySpeedMultiplier)
    dsimp only
    obtain ⟨r', hr', hname, hacted'⟩ := foldlM_botDispatch_sent hacted.ok hok
    refine ⟨r', hr', ?_, hacted.trans hacted'⟩
    rw [hname, hstate, hleft]
  · rw [if_neg hv, if_neg hv]
    cases hm : Ts.evaluateAiMove r.state.territories .enemy 8 with
    | none => exact ⟨r, rfl, rfl, Acted.refl h⟩
    | some move =>
      have hgo : Go.evaluateAIMove r.state = some (move.fromId, move.toId) := by
        rw [← evaluateAiMove_eq h, hm]
        rfl
      have hlegal : Go.MoveOk r.state .enemy (moveOf move) :=
        Go.evaluateAIMove_ok h (Bool.eq_false_iff.mpr hv) hgo
      obtain ⟨r', hr', hname, hacted, -⟩ := botDispatch_sent (o := o) h hlegal
      exact ⟨r', hr', hname, hacted⟩

end CrownClash.Parity
