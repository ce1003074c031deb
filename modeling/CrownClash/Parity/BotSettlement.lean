import CrownClash.Parity.Progression
import CrownClash.Parity.SavedBattle
import CrownClash.Store.Settled
import CrownClash.Store.TicketsRun

/-!
# An honest battle is settled as it was shown

A player gets a ticket from the store, plays the battle that it names, in one session or in
several, and sends the record.  The store replays the record with the modifiers of the ticket,
or for an ordinary bot match with those of the career, and comes to the status and the
statistics that the player has seen; what it pays is what the economy of the client pays for
them, and asking again changes nothing, however much later.  An attack and a practice are also
held against the clock: the battle that was played is never too early.

What else happens to the store is arbitrary, but for `Store.Ordinary`: it settles no ticket and
no bot match.
-/

namespace CrownClash.Parity

open Lib
open Go (PlayerCareer)
open Store (RealmServer RealmEvent RealmWorld)
open Ts (BattleSession readBattle)

/-- What a scene shows of a battle that is over. -/
def sceneSummary (scene : Ts.BotScene) : PvpBattleSummary where
  status := scene.gameState.status
  stats := scene.gameState.stats
  durationSeconds := ⌊scene.gameState.elapsedTimeSeconds⌋
  actionsProcessed := scene.matchActions.length

theorem ReplayedAs.summary {scene : Ts.BotScene} {final : GameState} {summary : PvpBattleSummary}
    (h : ReplayedAs scene final summary) : summary = sceneSummary scene := by
  obtain ⟨status, stats, durationSeconds, actionsProcessed⟩ := summary
  obtain ⟨-, hstatus, hstats, hduration, hprocessed⟩ := h
  cases hstatus
  cases hstats
  cases hduration
  cases hprocessed
  rfl

variable [MathLib]

/-- A battle that was launched with options, played to its end in whatever sessions, with the
frames of all of them. -/
def Fought (o : Ts.PvpSimulationOptions) (matchId : String) (deltas : List ℚ)
    (scene : Ts.BotScene) : Prop :=
  ∃ fresh armyIdGenerator slot events, Ts.BotScene.create o = .ok fresh ∧
    readBattle slot matchId = none ∧ sessionFrames events = deltas ∧
    (BattleSession.play o armyIdGenerator matchId fresh ⟨fresh, slot⟩ events).scene = scene ∧
    scene.gameState.status ≠ .playing

/-- **The server replays what was shown.** -/
theorem Fought.replayed {m : Go.BotMatch} {b : BattlefieldDefinition} (hb : b ∈ battlefields)
    (hmode : b.mode = .oneVOne) (hm : m.battlefieldId = b.id) (hp : Go.ModifiersOk m.player)
    (he : Go.ModifiersOk m.enemy) {matchId : String} {deltas : List ℚ} {scene : Ts.BotScene}
    (h : Fought (optionsOf m) matchId deltas scene) :
    ∃ final, Store.replayBattle scene.matchActions m = .ok (final, sceneSummary scene) ∧
      final.elapsedTimeSeconds ≤ clockBound deltas := by
  obtain ⟨fresh, armyIdGenerator, slot, events, hfresh, hslot, rfl, rfl, hover⟩ := h
  obtain ⟨state, hstate, hok⟩ := sessions_ok hfresh armyIdGenerator hslot events
  obtain ⟨r, k, n, hlog⟩ := hok.scene.ok.logged
  obtain ⟨final, summary, hreplay, hsame⟩ := hlog.reproduced hstate hover
  have hagrees := simulatePvpBattle_agrees hb hmode hm hp he
    (BattleSession.play (optionsOf m) armyIdGenerator matchId fresh ⟨fresh, slot⟩
      events).scene.matchActions
  rw [hreplay] at hagrees
  refine ⟨final, ?_, ?_⟩
  · unfold Store.replayBattle
    cases hserver : Go.simulateBotBattleWithCommander _ m with
    | error e =>
      rw [hserver] at hagrees
      cases hagrees
    | ok p =>
      rw [hserver] at hagrees
      cases hagrees
      rw [hsame.summary]
  · have hclock := congrArg GameState.elapsedTimeSeconds hsame.state
    have helapsed : final.elapsedTimeSeconds = _ := hclock
    rw [helapsed]
    exact hok.scene.elapsed_le

omit [MathLib] in
/-- A battle takes no longer than its frames, so it is not too early. -/
theorem not_too_early {final : GameState} {deltas : List ℚ} {createdAt now : ℤ}
    (helapsed : final.elapsedTimeSeconds ≤ clockBound deltas)
    (hclock : clockBound deltas * 1000 ≤ (now - createdAt : ℤ)) :
    ⌈final.elapsedTimeSeconds * 1000⌉ ≤ now - createdAt := by
  refine Int.ceil_le.mpr ?_
  linarith

/-! ### A battle that is waited out -/

section Waiting

variable {o : Ts.PvpSimulationOptions} (armyIdGenerator : ℕ → String)

theorem play_inputs (matchId : String) (fresh : Ts.BotScene) (slot : Ts.BattleSlot) :
    ∀ (inputs : List Ts.BotScene.Input) (scene : Ts.BotScene),
      BattleSession.play o armyIdGenerator matchId fresh ⟨scene, slot⟩ (inputs.map .input)
        = ⟨playInputs armyIdGenerator o inputs scene, slot⟩ := by
  intro inputs
  induction inputs with
  | nil => intro scene; rfl
  | cons i inputs ih =>
    intro scene
    unfold BattleSession.play playInputs at ih ⊢
    rw [List.map_cons, List.foldl_cons, List.foldl_cons]
    unfold BattleSession.step
    dsimp only
    split
    · exact ih _
    · exact ih _

theorem fought_inputs {fresh : Ts.BotScene} (h : Ts.BotScene.create o = .ok fresh)
    (matchId : String) {inputs : List Ts.BotScene.Input}
    (hlimit : Ts.pvpTimeLimitSeconds ≤ (frames inputs).sum) :
    Fought o matchId (frames inputs) (playInputs armyIdGenerator o inputs fresh) := by
  refine ⟨fresh, armyIdGenerator, none, inputs.map .input, h, rfl, ?_, ?_,
    scene_over armyIdGenerator h hlimit⟩
  · unfold sessionFrames
    rw [List.filterMap_map]
    rfl
  · rw [play_inputs]

theorem update_record {start : Ts.Replay} {scene : Ts.BotScene} (h : SceneOk o start scene)
    (delta : ℚ) (paused : Bool) :
    (scene.update o armyIdGenerator delta paused).matchActions = scene.matchActions := by
  unfold Ts.BotScene.update
  split
  · rfl
  unfold Ts.BotScene.stepBotMatch
  split
  · rfl
  dsimp only
  generalize Ts.consumeSimulationTicks _ _ = budget
  have htick : ∀ s : Ts.BotScene, decide (s.gameState.status = .playing) = true →
      SceneOk o start s ∧ s.matchActions = scene.matchActions →
        SceneOk o start (s.tick o armyIdGenerator) ∧
          (s.tick o armyIdGenerator).matchActions = scene.matchActions := by
    intro s hp hs
    have hplaying := of_decide_eq_true hp
    obtain ⟨-, hsame⟩ := scene_tick (o := o) armyIdGenerator (hs.1.logged.running hplaying).1
    exact ⟨tick_ok armyIdGenerator hs.1 hplaying, hsame.matchActions.trans hs.2⟩
  have hbegun : SceneOk o start { scene with botStepRemainder := budget.remainderSeconds } :=
    ⟨h.logged, h.selected⟩
  have hticked := whileLoop_preserves htick (min budget.ticks 20).toNat ⟨hbegun, rfl⟩
  split
  · exact hticked.2
  · exact hticked.2

theorem wait_record {start : Ts.Replay} (delta : ℚ) (paused : Bool) : ∀ (n : ℕ)
    {scene : Ts.BotScene}, SceneOk o start scene →
      (playInputs armyIdGenerator o (List.replicate n (.update delta paused)) scene).matchActions
        = scene.matchActions := by
  intro n
  induction n with
  | zero => intro scene _; rfl
  | succ n ih =>
    intro scene h
    unfold playInputs at ih ⊢
    rw [List.replicate_succ, List.foldl_cons]
    split
    · next hp =>
      rw [ih (h.input armyIdGenerator hp (.update delta paused))]
      exact update_record armyIdGenerator h delta paused
    · exact ih h

def firstDrag : List Ts.BotScene.Input :=
  [.pointerDownOn "p_base", .pointerMove [] (some "n_bot_left"), .pointerUp]

/-- One drag at once, and then a minute and a half. -/
def dragAndWait : List Ts.BotScene.Input := firstDrag ++ longWait

omit [MathLib] in
theorem frames_dragAndWait : frames dragAndWait = frames longWait := rfl

omit [MathLib] in
theorem clockBound_dragAndWait : clockBound (frames dragAndWait) ≤ 91 := by
  have hlength : (frames longWait).length ≤ 360 := by
    unfold frames longWait
    exact (List.length_filterMap_le _ _).trans (List.length_replicate).le
  have hcount : ((frames longWait).length : ℚ) ≤ 360 := by exact_mod_cast hlength
  unfold clockBound
  rw [frames_dragAndWait, frames_longWait]
  norm_num [Ts.pvpTimeLimitSeconds, Ts.clockTolerance]
  linarith

/-- A battle in which the drag sends an army is fought by it. -/
theorem fought_dragAndWait (matchId : String)
    (hdrag : ((Ts.BotScene.create o).toOption.map fun fresh =>
      (playInputs armyIdGenerator o firstDrag fresh).matchActions.length) = some 1) :
    ∃ scene, Fought o matchId (frames dragAndWait) scene ∧ scene.matchActions ≠ [] := by
  cases h : Ts.BotScene.create o with
  | error e =>
    rw [h] at hdrag
    cases hdrag
  | ok fresh =>
    rw [h] at hdrag
    refine ⟨_, fought_inputs armyIdGenerator h matchId ?_, fun hnone => ?_⟩
    · rw [frames_dragAndWait, frames_longWait]
    · obtain ⟨state, -, hok⟩ := create_ok h
      have hdragged := playInputs_ok armyIdGenerator firstDrag hok
      have hsplit : playInputs armyIdGenerator o dragAndWait fresh
          = playInputs armyIdGenerator o longWait
            (playInputs armyIdGenerator o firstDrag fresh) := by
        unfold playInputs dragAndWait
        rw [List.foldl_append]
      have hlength : (playInputs armyIdGenerator o firstDrag fresh).matchActions.length = 1 :=
        Option.some.inj hdrag
      rw [hsplit] at hnone
      unfold longWait at hnone
      rw [wait_record armyIdGenerator 250 false 360 hdragged] at hnone
      rw [hnone] at hlength
      cases hlength

end Waiting

/-! ### Attacks and practices -/

/-- **An attack on another realm is settled as it was shown.**  In every run of the store: an
active ticket that was fought, with at least one order and before it runs out, is settled with
the status and the statistics of the scene and with the reward it is eligible for, and from
then on with nothing else, in every later state.  The wall clock has to be past the frames of
all sessions. -/
theorem realm_attack_settled {server : RealmServer} {began : ℤ} {before : List RealmEvent}
    (hordinary : EachStep (RealmWorld.step server) Store.Ordinary (.start began) before)
    {s : RealmWorld} (hs : before.foldl (RealmWorld.step server) (.start began) = s)
    {row : Store.RealmTicketRow} (hrow : row ∈ s.store.realmTickets)
    (hactive : row.state = .active) {career : PlayerCareer}
    (hcareer : s.store.career? row.playerId = some career) {launched : PlayerCareer}
    {deltas : List ℚ} {scene : Ts.BotScene}
    (hfought : Fought (Ts.realmLaunch row.document launched) row.id deltas scene)
    (hacted : scene.matchActions ≠ []) {now : ℤ} (hexpires : now < row.document.expiresAt)
    (hclock : clockBound deltas * 1000 ≤ (now - row.document.createdAt : ℤ))
    {eligible : Bool}
    (heligible : eligible = (s.store.realmEligibility row.playerId row.document.defenderId
      row.document.source (server.env now) && row.document.rewardEligible))
    {settlement : Store.MatchSettlement}
    (hsettlement : settlement = Store.ticketSettlement career row.document (sceneSummary scene)
      row.id now eligible) :
    settlement.status = scene.gameState.status ∧ settlement.stats = scene.gameState.stats ∧
      ∃ db, s.store.settleRealmAttack row.playerId row.id scene.matchActions (server.env now)
          = .ok (⟨row.document, settlement, eligible⟩, db) ∧
        db.career? row.playerId = some settlement.newCareer ∧
        (∀ actions env, db.settleRealmAttack row.playerId row.id actions env
          = .ok (⟨row.document, settlement, eligible⟩, db)) ∧
        (s.now ≤ now → Store.RealmWorld.Lasts server ⟨{ s.store with toDatabase := db }, now⟩
          fun later => ∀ actions env, later.settleRealmAttack row.playerId row.id actions env
            = .ok (⟨row.document, settlement, eligible⟩, later.toDatabase)) := by
  have hissued : Store.Issued s.store := by
    rw [← hs]
    exact Store.run_issued hordinary
  have hok : s.Ok server := by
    rw [← hs]
    have hstart : (RealmWorld.start began).Ok server := Store.realmOk_start server began
    exact (Store.RealmWorld.Ok.run before hstart).1
  have hticket := hok.realmTicket? hrow
  have hfair := (hissued.tickets row hrow).fair
  have hnew := hissued.ticket_unsettled hrow hactive fun other hother hid =>
    hok.unique hother hrow hid
  obtain ⟨final, hreplay, helapsed⟩ := Fought.replayed (b := crownCross)
    (m :=
      { player := row.document.playerModifiers
        enemy := row.document.enemyModifiers
        battlefieldId := row.document.battlefieldId
        rulesVersion := row.document.gameplayRulesVersion
        difficulty := .normal
        commander := none })
    List.mem_cons_self rfl hfair.battlefield hfair.player hfair.enemy hfought
  have hprocessed : (sceneSummary scene).actionsProcessed ≠ 0 :=
    fun hnone => hacted (List.length_eq_zero_iff.mp hnone)
  have htime : ⌈final.elapsedTimeSeconds * 1000⌉
      ≤ (server.env now).nowMillis - row.document.createdAt := not_too_early helapsed hclock
  obtain ⟨db, closed, hdb, hcareer', hclosed, hstate, hresult⟩ := Store.settleRealmAttack_pays
    hcareer hticket ((hissued.tickets row hrow).fresh hactive) hactive hexpires hacted hreplay
    hprocessed htime hnew heligible hsettlement
  refine ⟨?_, ?_, db, hdb, hcareer', Store.settleRealmAttack_again hcareer' hclosed hresult,
    fun hnow => ?_⟩
  · rw [hsettlement]
    rfl
  · rw [hsettlement]
    rfl
  · have hbefore : (⟨s.store, now⟩ : RealmWorld).Ok server := hok.later hnow
    have hafter := hbefore.step ⟨0, .settleRealmAttack row.playerId row.id scene.matchActions⟩
    rw [Store.step_settleRealmAttack hdb] at hafter
    refine Store.attack_lasts hafter hcareer' hclosed ?_ hresult
    rw [hstate]
    decide


def armyNames (n : ℕ) : String := "army_" ++ toString n

/-- A player who has done the tutorial. -/
def trainedPlayer : Store.PlayerRow := { Store.createDefaultCareer with tutorialCompleted := true }

def twoPlayers : Store.Database :=
  { Store.emptyStore with
    players := fun u => if u = "anna" ∨ u = "berta" then some trainedPlayer else none }

def annasCareer : PlayerCareer := Store.careerFromRow "anna" trainedPlayer

def quietServer : RealmServer := ⟨Store.fixedZone, fun _ => "day", false, false, 4⟩

/-- Anna attacks a player who has challenged her. -/
def attackEvents : List RealmEvent :=
  [⟨0, .elsewhere twoPlayers [] [⟨"token", "berta", 1000000, none⟩] (fun _ => false)⟩,
    ⟨0, .startRealmAttack "anna" ⟨[], "friend", "token", "", "", ""⟩ (fun _ => "") "1"⟩]

def attackWorld : RealmWorld :=
  attackEvents.foldl (@RealmWorld.step decimalHypot quietServer) (.start 0)

omit [MathLib] in
theorem ordinary_twoPlayers (challenges : List Store.RealmChallengeRow) :
    Store.Ordinary (.start 0) ⟨0, .elsewhere twoPlayers [] challenges (fun _ => false)⟩ :=
  .of_players (fun _ h => by cases h) rfl

def annasAttack : Store.RealmTicketRow :=
  ⟨"realm_1", "anna", "berta", .friend,
    ⟨0, "realm_1", .friend, "crown_cross", 2, "berta", ⟨20, 1, 1⟩, ⟨20, 1, 1⟩, 0, 900000, true⟩,
    .active, false, none, none⟩

omit [MathLib] in
/-- The attack is fought and settled a hundred seconds after it began. -/
theorem realm_attack_settled_anna : ∃ (scene : Ts.BotScene) (settlement : Store.MatchSettlement)
    (eligible : Bool) (db : Store.Database),
    @Store.Database.settleRealmAttack decimalHypot attackWorld.store.toDatabase "anna" "realm_1"
        scene.matchActions (quietServer.env 100000)
      = .ok (⟨annasAttack.document, settlement, eligible⟩, db) ∧
    settlement.status = scene.gameState.status := by
  obtain ⟨scene, hfought, hacted⟩ := @fought_dragAndWait decimalHypot
    (Ts.realmLaunch annasAttack.document annasCareer) armyNames "realm_1" (by decide +kernel)
  have hrow : annasAttack ∈ attackWorld.store.realmTickets := by decide +kernel
  have hclock : clockBound (frames dragAndWait) * 1000
      ≤ ((100000 - annasAttack.document.createdAt : ℤ) : ℚ) := by
    have hcast : ((100000 - annasAttack.document.createdAt : ℤ) : ℚ) = 100000 := by
      norm_num [annasAttack]
    rw [hcast]
    linarith [clockBound_dragAndWait]
  have hordinary : EachStep (@RealmWorld.step decimalHypot quietServer) Store.Ordinary (.start 0)
      attackEvents :=
    eachStep_cons.mpr ⟨ordinary_twoPlayers _, eachStep_cons.mpr ⟨trivial, eachStep_nil⟩⟩
  obtain ⟨hstatus, -, db, hdb, -⟩ := @realm_attack_settled decimalHypot quietServer 0 attackEvents
    hordinary attackWorld rfl annasAttack hrow rfl annasCareer rfl annasCareer _ scene hfought
    hacted 100000 (by decide) hclock _ rfl _ rfl
  exact ⟨scene, _, _, db, hdb, hstatus⟩

/-- **A practice of the pilot is settled as it was shown**, with the casual reward, in the same
way. -/
theorem practice_settled {server : RealmServer} {began : ℤ} {before : List RealmEvent}
    (hordinary : EachStep (RealmWorld.step server) Store.Ordinary (.start began) before)
    {s : RealmWorld} (hs : before.foldl (RealmWorld.step server) (.start began) = s)
    {row : Store.BotMatchRow} (hrow : row ∈ s.store.botMatches) {pilot : Store.PilotPractice}
    (hpilot : row.pilot = some pilot) (hopen : row.settled = false) {career : PlayerCareer}
    (hcareer : s.store.career? row.playerId = some career) {launched : PlayerCareer}
    {deltas : List ℚ} {scene : Ts.BotScene}
    (hfought : Fought (Ts.botLaunch row launched) row.matchId deltas scene)
    (hacted : scene.matchActions ≠ []) {now : ℤ} (hexpires : now < pilot.expiresAt)
    (hclock : clockBound deltas * 1000 ≤ (now - pilot.createdAt : ℤ))
    {settlement : Store.MatchSettlement}
    (hsettlement : settlement = Store.pilotSettlement career pilot (sceneSummary scene)
      row.matchId now) :
    settlement.status = scene.gameState.status ∧ settlement.stats = scene.gameState.stats ∧
      ∃ db, s.store.settleMatchVerified row.playerId row.matchId scene.matchActions
          (server.env now) = .ok (settlement, db) ∧
        db.career? row.playerId = some settlement.newCareer ∧
        (∀ actions env, db.settleMatchVerified row.playerId row.matchId actions env
          = .ok (settlement, db)) ∧
        Store.RealmWorld.Lasts server ⟨{ s.store with toDatabase := db }, now⟩ fun later =>
          ∀ actions env, later.settleMatchVerified row.playerId row.matchId actions env
            = .ok (settlement, later.toDatabase) := by
  have hissued : Store.Issued s.store := by
    rw [← hs]
    exact Store.run_issued hordinary
  have hfair := (hissued.bots row hrow).fair pilot hpilot
  have hlaunch : Ts.botLaunch row launched = optionsOf
      { player := pilot.modifiers
        enemy := Go.defaultModifiers
        battlefieldId := pilot.battlefieldId
        rulesVersion := pilot.gameplayRulesVersion
        difficulty := pilot.botDifficulty
        commander := none } := by
    unfold Ts.botLaunch Store.BotMatchRow.ticket
    rw [hpilot]
    rfl
  rw [hlaunch] at hfought
  obtain ⟨final, hreplay, helapsed⟩ := Fought.replayed (b := crownCross) List.mem_cons_self rfl
    hfair.battlefield hfair.modifiers Go.modifiersOk_default hfought
  have hprocessed : (sceneSummary scene).actionsProcessed ≠ 0 :=
    fun hnone => hacted (List.length_eq_zero_iff.mp hnone)
  have htime : ⌈final.elapsedTimeSeconds * 1000⌉
      ≤ (server.env now).nowMillis - pilot.createdAt := not_too_early helapsed hclock
  obtain ⟨db, closed, hdb, hcareer', hclosed, hplayer, hstored⟩ := Store.settlePractice_pays
    hfair.named hcareer (hissued.botMatch? hrow) rfl hpilot hopen hexpires hacted hreplay
    hprocessed htime (hissued.match_unsettled hrow hopen) hsettlement
  refine ⟨?_, ?_, db, hdb, hcareer',
    Store.settlePractice_again hfair.named hcareer' hclosed hplayer hstored, ?_⟩
  · rw [hsettlement]
    rfl
  · rw [hsettlement]
    rfl
  · have hcarries := @Store.step_carries server _ ⟨s.store, now⟩
      ⟨0, .settleMatchVerified row.playerId row.matchId scene.matchActions⟩ trivial
    rw [Store.step_settleMatchVerified hdb] at hcarries
    obtain ⟨hmem, hid⟩ := Store.botMatch?_mem hclosed
    rw [← hid, ← hplayer]
    refine @Store.practice_lasts _ server ⟨{ s.store with toDatabase := db }, now⟩
      (hcarries.issued hissued) closed hmem ?_ settlement.newCareer ?_ settlement ?_
    · rw [hid]
      exact hfair.named
    · rw [hplayer]
      exact hcareer'
    · rw [hid]
      exact hstored

def pilotServer : RealmServer := { quietServer with pilotEnabled := true }

def practiceEvents : List RealmEvent :=
  [⟨0, .elsewhere twoPlayers [] [] (fun _ => false)⟩,
    ⟨0, .createPilotPractice "anna" "hard" [] "1"⟩]

def practiceWorld : RealmWorld :=
  practiceEvents.foldl (@RealmWorld.step decimalHypot pilotServer) (.start 0)

def annasPilot : Store.PilotPractice :=
  ⟨0, 0, 900000, ⟨20, 1, 1⟩, "crown_cross", 2, .hard⟩

def annasPractice : Store.BotMatchRow :=
  ⟨"practice_1", "anna", "crown_cross", 2, .hard, none, false, some annasPilot⟩

omit [MathLib] in
/-- The practice is fought and settled a hundred seconds after it began. -/
theorem practice_settled_anna : ∃ (scene : Ts.BotScene) (settlement : Store.MatchSettlement)
    (db : Store.Database),
    @Store.Database.settleMatchVerified decimalHypot practiceWorld.store.toDatabase "anna"
        "practice_1" scene.matchActions (pilotServer.env 100000) = .ok (settlement, db) ∧
      settlement.status = scene.gameState.status := by
  obtain ⟨scene, hfought, hacted⟩ := @fought_dragAndWait decimalHypot
    (Ts.botLaunch annasPractice annasCareer) armyNames "practice_1" (by decide +kernel)
  have hrow : annasPractice ∈ practiceWorld.store.botMatches := by decide +kernel
  have hclock : clockBound (frames dragAndWait) * 1000
      ≤ ((100000 - annasPilot.createdAt : ℤ) : ℚ) := by
    have hcast : ((100000 - annasPilot.createdAt : ℤ) : ℚ) = 100000 := by norm_num [annasPilot]
    rw [hcast]
    linarith [clockBound_dragAndWait]
  have hordinary : EachStep (@RealmWorld.step decimalHypot pilotServer) Store.Ordinary (.start 0)
      practiceEvents :=
    eachStep_cons.mpr ⟨ordinary_twoPlayers _, eachStep_cons.mpr ⟨trivial, eachStep_nil⟩⟩
  obtain ⟨hstatus, -, db, hdb, -⟩ := @practice_settled decimalHypot pilotServer 0 practiceEvents
    hordinary practiceWorld rfl annasPractice hrow annasPilot rfl rfl annasCareer rfl annasCareer _
    scene hfought hacted 100000 (by decide) hclock _ rfl
  exact ⟨scene, _, db, hdb, hstatus⟩

/-! ### Ordinary bot matches -/

omit [MathLib] in
theorem startBotMatch_issues {server : RealmServer} {db db' : Store.RealmStore}
    {u difficulty : String} {supported : List ℤ} {draw : Store.Draw} {now : ℤ}
    {row : Store.BotMatchRow} (hpilot : server.pilotEnabled = false)
    (h : db.startBotMatch server u difficulty supported draw now = (.ok row, db')) :
    Store.Carries db db' ∧ row ∈ db'.botMatches ∧
      ∃ selected level, row = Store.botMatchRow server u selected level supported draw := by
  unfold Store.RealmStore.startBotMatch at h
  split at h
  · cases h
  dsimp only at h
  split at h
  · cases h
  split at h
  · cases h
  split at h
  · cases h
  next hcreate =>
  cases h
  simp only [Store.RealmStore.createBotMatchWithDifficulty, bind, Except.bind, pure, Except.pure,
    throw, throwThe, MonadExceptOf.throw, hpilot] at hcreate
  split at hcreate
  · cases hcreate
  next level _ =>
  rw [if_neg Bool.false_ne_true] at hcreate
  split at hcreate
  · cases hcreate
  next career _ =>
  split at hcreate
  · cases hcreate
  next hfree =>
  cases hcreate
  refine ⟨?_, List.mem_append_right _ List.mem_cons_self, career.selectedCommanderId, level, rfl⟩
  refine .botMatch _ ⟨⟨draw.suffix, Or.inl rfl⟩, fun pilot hnone => by cases hnone⟩
    (fun other hother hid => hfree ⟨other, hother, hid⟩) rfl rfl (.of_players (fun v hv => ?_) rfl)
  exact Store.insertPlayer_players _ _ _ v (Store.insertPlayer_players _ _ _ v hv)

omit [MathLib] in
/-- Every map that is drawn is one for one against one. -/
theorem drawn_map (first : ℕ) : ∃ b ∈ battlefields, b.mode = .oneVOne ∧
    Go.battlefieldIds.getD (first % Go.battlefieldIds.length) "" = b.id := by
  have hmaps : ∀ i < Go.battlefieldIds.length, ∃ b ∈ battlefields, b.mode = .oneVOne ∧
      Go.battlefieldIds.getD i "" = b.id := by decide
  exact hmaps _ (Nat.mod_lt _ (by decide))

omit [MathLib] in
theorem isPilotPractice_bot (suffix : String) : Store.isPilotPractice ("bot_" ++ suffix) = false := by
  show ("bot_" ++ suffix).startsWith "practice_" = false
  simp

/-- **A bot match is settled as it was shown.**  Whatever the store does between the start of
the match and its end, if the match is still open and the career that is stored still gives the
modifiers that the match was launched with, the store pays for the status and the statistics of
the scene what the client itself would pay, stores that career, and answers the same to the
player who asks again, in every later state. -/
theorem bot_match_settled {server : RealmServer} (hpilot : server.pilotEnabled = false)
    {began : ℤ} {before : List RealmEvent}
    (hbefore : EachStep (RealmWorld.step server) Store.Ordinary (.start began) before)
    {s : RealmWorld} (hs : before.foldl (RealmWorld.step server) (.start began) = s) {u difficulty : String}
    {supported : List ℤ} {draw : Store.Draw} {row : Store.BotMatchRow} {db : Store.RealmStore}
    (hstart : s.store.startBotMatch server u difficulty supported draw s.now = (.ok row, db))
    {after : List RealmEvent}
    (hafter : EachStep (RealmWorld.step server) Store.Ordinary ⟨db, s.now⟩ after)
    {t : RealmWorld} (ht : after.foldl (RealmWorld.step server) ⟨db, s.now⟩ = t)
    (hopen : row ∈ t.store.botMatches) {career : PlayerCareer}
    (hcareer : t.store.career? u = some career) {launched : PlayerCareer}
    (hlaunched : Ts.getPlayerUpgradeModifiers launched = Ts.getPlayerUpgradeModifiers career)
    {deltas : List ℚ} {scene : Ts.BotScene}
    (hfought : Fought (Ts.botLaunch row launched) row.matchId deltas scene) {now : ℤ}
    {settlement : Store.MatchSettlement}
    (hsettlement : settlement = Ts.settleMatch career scene.gameState.status
      scene.gameState.stats row.matchId now) :
    ∃ db', t.store.settleMatchVerified u row.matchId scene.matchActions (server.env now)
        = .ok (settlement, db') ∧
      db'.career? u = some settlement.newCareer ∧
      (∀ actions later, db'.settleMatchVerified u row.matchId actions (server.env later)
        = .ok (settlement, db')) ∧
      Store.RealmWorld.Lasts server ⟨{ t.store with toDatabase := db' }, now⟩ fun store =>
        ∀ actions later, store.settleMatchVerified u row.matchId actions (server.env later)
          = .ok (settlement, store.toDatabase) := by
  obtain ⟨hcarries, hrow, selected, level, hissue⟩ := startBotMatch_issues hpilot hstart
  have hstarted : Store.Issued s.store := by
    rw [← hs]
    exact Store.run_issued hbefore
  have hkept : Store.Carries db t.store := by
    rw [← ht]
    exact Store.run_carries after ⟨db, s.now⟩ hafter
  have hissued := hkept.issued (hcarries.issued hstarted)
  have hfound := hissued.botMatch? hopen
  have hunsettled : row.settled = false := by rw [hissue]; rfl
  have hnamed : Store.isPilotPractice row.matchId = false := by
    rw [hissue]
    exact isPilotPractice_bot draw.suffix
  have hplayer : row.playerId = u := by rw [hissue]; rfl
  have hlaunch : Ts.botLaunch row launched = optionsOf
      { player := Go.upgradeModifiers career
        enemy := Go.defaultModifiers
        battlefieldId := row.battlefieldId
        rulesVersion := row.gameplayRulesVersion
        difficulty := row.botDifficulty
        commander := row.commander } := by
    rw [← upgradeModifiers_eq, ← hlaunched, hissue]
    rfl
  rw [hlaunch] at hfought
  obtain ⟨b, hb, hmode, hmap⟩ := drawn_map draw.first
  have hbattlefield : row.battlefieldId = b.id := by
    rw [hissue]
    exact hmap
  obtain ⟨final, hreplay, -⟩ := Fought.replayed hb hmode hbattlefield
    (Go.upgradeModifiers_ok career) Go.modifiersOk_default hfought
  have hpaid : settlement = Store.settleMatch career (sceneSummary scene).status
      (sceneSummary scene).stats row.matchId (server.env now).nowMillis := by
    rw [hsettlement]
    exact settleMatch_eq career _ _ _ _
  obtain ⟨db', hsettled, hcareer', hpays, hstored⟩ := Store.settleBotMatch_pays hnamed hpilot
    hcareer hfound hplayer hreplay (hissued.match_unsettled hopen hunsettled) hpaid
  refine ⟨db', hsettled, hcareer', fun actions later => ?_, fun later hlater actions time => ?_⟩
  · exact Store.settleBotMatch_again hnamed hpays hstored actions hpilot
  · exact Store.botMatch_lasts (hissued.bots row hopen).named hnamed hpays hstored later hlater
      actions _ hpilot


/-- Anna starts a match against the bot on the second map. -/
def botWorld : RealmWorld :=
  [(⟨0, .elsewhere twoPlayers [] [] (fun _ => false)⟩ : RealmEvent)].foldl
    (@RealmWorld.step decimalHypot quietServer) (.start 0)

def annasBotMatch : Store.BotMatchRow :=
  ⟨"bot_1", "anna", "twin_passes", 4, .hard, some .crownGuard, false, none⟩

omit [MathLib] in
/-- The match is waited out and settled. -/
theorem bot_match_settled_anna : ∃ (scene : Ts.BotScene) (settlement : Store.MatchSettlement)
    (db db' : Store.Database),
    @Store.Database.settleMatchVerified decimalHypot db "anna" "bot_1" scene.matchActions
        (quietServer.env 100000) = .ok (settlement, db') ∧
      settlement.status = scene.gameState.status := by
  cases hfresh : Ts.BotScene.create (Ts.botLaunch annasBotMatch annasCareer) with
  | error e =>
    have hmade : (Ts.BotScene.create
      (Ts.botLaunch annasBotMatch annasCareer)).toOption.isSome = true := by decide +kernel
    rw [hfresh] at hmade
    cases hmade
  | ok fresh =>
    obtain ⟨scene, hfought⟩ : ∃ scene, @Fought decimalHypot
        (Ts.botLaunch annasBotMatch annasCareer) "bot_1" (frames longWait) scene :=
      ⟨_, @fought_inputs decimalHypot _ armyNames fresh hfresh "bot_1" longWait
        frames_longWait.ge⟩
    obtain ⟨db', hdb', -⟩ := @bot_match_settled decimalHypot quietServer rfl 0
      [⟨0, .elsewhere twoPlayers [] [] (fun _ => false)⟩]
      (eachStep_cons.mpr ⟨ordinary_twoPlayers [], eachStep_nil⟩) botWorld rfl "anna" "hard" [3, 4]
      ⟨1, "1"⟩ annasBotMatch _ rfl [⟨1000, .realmHome "berta"⟩]
      (eachStep_cons.mpr ⟨trivial, eachStep_nil⟩) _ rfl (by decide +kernel) annasCareer rfl
      annasCareer rfl _ scene hfought 100000 _ rfl
    exact ⟨scene, _, _, db', hdb', rfl⟩

end CrownClash.Parity
