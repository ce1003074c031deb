import CrownClash.Store.Answers
import CrownClash.Store.TicketsRun

/-!
# Store: a battle that is settled

When the checks of a settlement pass, the battle is paid as its replay ends and the career that
was paid is the one that is stored: for an attack on a ticket (`settleRealmAttack_pays`), for a
practice (`settlePractice_pays`) and for another bot match (`settleBotMatch_pays`).  Where the
settlement is stored, whoever asks for it again is told the same and changes nothing
(`settleRealmAttack_again`, `settlePractice_again`, `settleBotMatch_again`), and it stays stored
in every run (`attack_lasts`, `practice_lasts`, `botMatch_lasts`).
-/

namespace CrownClash.Store

open Lib
open Go (PlayerCareer upgradeModifiers defaultModifiers)

theorem realmCareerForUpdate_of {db : Database} {u : String} {career : PlayerCareer}
    (h : db.career? u = some career) : db.realmCareerForUpdate u = .ok career := by
  unfold Database.realmCareerForUpdate
  rw [h]

theorem getCareerForUpdate_of {db : Database} {u : String} {career : PlayerCareer}
    (h : db.career? u = some career) : db.getCareerForUpdate u = .ok career := by
  unfold Database.getCareerForUpdate
  rw [h]

/-- A settlement that is stored is found. -/
theorem findStored_storeSettlement {db : Database} {userId matchId : String}
    {settlement : MatchSettlement} (hid : settlement.matchId = matchId)
    (hnew : db.findStoredSettlement matchId = none) :
    (db.storeSettlement userId settlement).findStoredSettlement matchId = some settlement := by
  have hfree : ¬ Holds MatchSettlementRow.matchId db.matchSettlements settlement.matchId := by
    rw [hid]
    exact findStored_none hnew
  unfold Database.storeSettlement Database.findStoredSettlement
  unfold Database.findStoredSettlement at hnew
  dsimp only
  rw [insertNew_of_new hfree, List.find?_append, Option.map_eq_none_iff.mp hnew, Option.none_or]
  simp [hid]

/-- A ticket that is closed is found with its result. -/
theorem realmTicket?_close {db : Database} {userId id : String} {row : RealmTicketRow}
    (h : db.realmTicket? userId id = .ok row) (u : String) {result : RealmResult}
    (hid : result.settlement.matchId = id) (state : RealmTicketState) :
    ∃ closed, (db.closeRealmTicket u result state).realmTicket? userId id = .ok closed ∧
      closed.state = state ∧ closed.result = some result := by
  unfold Database.realmTicket? at h
  cases hfind : db.realmTickets.find? fun row => row.id = id with
  | none =>
    rw [hfind] at h
    cases h
  | some found =>
    rw [hfind] at h
    dsimp only at h
    split at h
    · cases h
    next hplayer =>
    cases h
    have hfound : row.id = id := by simpa using List.find?_some hfind
    obtain ⟨closed, hstate, hresult, hplayer', hclosed⟩ : ∃ closed : RealmTicketRow,
        closed.state = state ∧ closed.result = some result ∧ closed.playerId = row.playerId ∧
          (db.closeRealmTicket u result state).realmTickets.find? (fun r => r.id = id)
            = some closed := by
      refine ⟨{ row with
        state := state
        result := some result
        rewarded := result.rewarded
        settledAt := some result.settlement.newCareer.lastMatchTimestamp }, rfl, rfl, rfl, ?_⟩
      unfold Database.closeRealmTicket
      dsimp only
      rw [List.find?_map]
      have hsame : (fun r : RealmTicketRow => decide (r.id = id)) ∘
          (fun r => if r.id = result.settlement.matchId then
            { r with
              state := state
              result := some result
              rewarded := result.rewarded
              settledAt := some result.settlement.newCareer.lastMatchTimestamp }
            else r) = fun r => decide (r.id = id) := by
        funext r
        dsimp only [Function.comp]
        split <;> rfl
      rw [hsame, hfind, Option.map_some, hid, if_pos hfound]
    refine ⟨closed, ?_, hstate, hresult⟩
    unfold Database.realmTicket?
    rw [hclosed]
    dsimp only
    rw [hplayer', if_neg hplayer]

variable [MathLib]

/-! ### Attacks -/

/-- A ticket that has its result answers with it. -/
theorem settleRealmAttack_again {db : Database} {userId id : String} {career : PlayerCareer}
    {row : RealmTicketRow} {result : RealmResult} (hcareer : db.career? userId = some career)
    (hrow : db.realmTicket? userId id = .ok row) (hresult : row.result = some result)
    (actions : List PvpAction) (env : Env) :
    db.settleRealmAttack userId id actions env = .ok (result, db) := by
  have hdecided : decideRealm db userId id actions env = .ok (.answer result) := by
    simp only [decideRealm, bind, Except.bind, pure, Except.pure, realmCareerForUpdate_of hcareer,
      hrow, hresult]
  unfold Database.settleRealmAttack
  rw [hdecided]
  rfl

/-- **An attack is settled as its replay ends**, and its ticket keeps the result. -/
theorem settleRealmAttack_pays {db : Database} {userId id : String} {row : RealmTicketRow}
    {career : PlayerCareer} {actions : List PvpAction} {env : Env} {final : GameState}
    {summary : PvpBattleSummary} (hcareer : db.career? userId = some career)
    (hrow : db.realmTicket? userId id = .ok row) (hresult : row.result = none)
    (hactive : row.state = .active) (hexpires : env.nowMillis < row.document.expiresAt)
    (hacted : actions ≠ [])
    (hreplay : replayBattle actions
      { player := row.document.playerModifiers
        enemy := row.document.enemyModifiers
        battlefieldId := row.document.battlefieldId
        rulesVersion := row.document.gameplayRulesVersion
        difficulty := .normal
        commander := none } = .ok (final, summary))
    (hprocessed : summary.actionsProcessed ≠ 0)
    (htime : ⌈final.elapsedTimeSeconds * 1000⌉ ≤ env.nowMillis - row.document.createdAt)
    (hnew : db.findStoredSettlement id = none) {eligible : Bool}
    (heligible : eligible = (db.realmEligibility userId row.document.defenderId
      row.document.source env && row.document.rewardEligible)) {settlement : MatchSettlement}
    (hsettlement : settlement = ticketSettlement career row.document summary id env.nowMillis
      eligible) :
    ∃ db' closed, db.settleRealmAttack userId id actions env
        = .ok (⟨row.document, settlement, eligible⟩, db') ∧
      db'.career? userId = some settlement.newCareer ∧ db'.realmTicket? userId id = .ok closed ∧
      closed.state = .settled ∧ closed.result = some ⟨row.document, settlement, eligible⟩ := by
  have hdecided : decideRealm db userId id actions env
      = .ok (.pay ⟨row.document, settlement, eligible⟩ (settlementPayment settlement)) := by
    rw [hsettlement, heligible]
    simp only [decideRealm, bind, Except.bind, pure, Except.pure, realmCareerForUpdate_of hcareer,
      hrow, hresult, hactive, hreplay, hnew]
    rw [if_neg (not_not.mpr rfl), if_neg (not_le.mpr hexpires), if_neg hacted, if_neg hprocessed,
      if_neg (not_lt.mpr htime)]
    rfl
  have hid : settlement.matchId = id := by
    rw [hsettlement]
    exact (ticketSettlement_id career row.document summary id env.nowMillis eligible).1
  have hpays : PaysTo db userId (settlementPayment settlement) := by
    rw [hsettlement]
    obtain ⟨treasury, matchId, source⟩ := row.document
    cases source <;> cases eligible <;> exact .settle hcareer rfl rfl rfl
  obtain ⟨closed, hclosed, hstate, hstored⟩ :=
    @realmTicket?_close (db.pay (settlementPayment settlement)) userId id row hrow userId
      ⟨row.document, settlement, eligible⟩ hid .settled
  unfold Database.settleRealmAttack
  rw [hdecided]
  refine ⟨_, closed, rfl, ?_⟩
  -- The progress of the day is written besides, and read by none of it.
  dsimp only
  split
  · exact ⟨hpays.career?, hclosed, hstate, hstored⟩
  · exact ⟨hpays.career?, hclosed, hstate, hstored⟩

/-! ### Bot matches -/

omit [MathLib] in
/-- A bot match stays that of its player when it is closed. -/
theorem botMatch?_settled {db : Database} {userId matchId : String} {row : BotMatchRow}
    (h : db.botMatch? matchId = some row) (settlement : MatchSettlement) (env : Env) :
    ∃ closed, (((db.storeSettlement userId settlement).closeBotMatch matchId).advanceDaily userId
        settlement env).botMatch? matchId = some closed ∧ closed.playerId = row.playerId :=
  @botMatch?_close (db.storeSettlement userId settlement) matchId matchId row h

theorem settlePractice_again {db : Database} {userId matchId : String} {career : PlayerCareer}
    {row : BotMatchRow} {settlement : MatchSettlement} (hnamed : isPilotPractice matchId = true)
    (hcareer : db.career? userId = some career) (hrow : db.botMatch? matchId = some row)
    (hplayer : row.playerId = userId)
    (hstored : db.findStoredSettlement matchId = some settlement) (actions : List PvpAction)
    (env : Env) : db.settleMatchVerified userId matchId actions env = .ok (settlement, db) := by
  have hdecided : decideVerified db userId matchId actions env = .ok (.answer settlement) := by
    unfold decideVerified
    rw [if_pos hnamed]
    simp only [decidePilot, bind, Except.bind, pure, Except.pure, realmCareerForUpdate_of hcareer,
      hrow, hstored]
    rw [if_neg (not_not.mpr hplayer)]
  unfold Database.settleMatchVerified
  rw [hdecided]
  rfl

/-- **A practice is settled as its replay ends**, and the settlement is stored. -/
theorem settlePractice_pays {db : Database} {userId matchId : String} {row : BotMatchRow}
    {pilot : PilotPractice} {career : PlayerCareer} {actions : List PvpAction} {env : Env}
    {final : GameState} {summary : PvpBattleSummary} (hnamed : isPilotPractice matchId = true)
    (hcareer : db.career? userId = some career) (hrow : db.botMatch? matchId = some row)
    (hplayer : row.playerId = userId) (hpilot : row.pilot = some pilot)
    (hopen : row.settled = false) (hexpires : env.nowMillis < pilot.expiresAt)
    (hacted : actions ≠ [])
    (hreplay : replayBattle actions
      { player := pilot.modifiers
        enemy := defaultModifiers
        battlefieldId := pilot.battlefieldId
        rulesVersion := pilot.gameplayRulesVersion
        difficulty := pilot.botDifficulty
        commander := none } = .ok (final, summary))
    (hprocessed : summary.actionsProcessed ≠ 0)
    (htime : ⌈final.elapsedTimeSeconds * 1000⌉ ≤ env.nowMillis - pilot.createdAt)
    (hnew : db.findStoredSettlement matchId = none) {settlement : MatchSettlement}
    (hsettlement : settlement = pilotSettlement career pilot summary matchId env.nowMillis) :
    ∃ db' closed, db.settleMatchVerified userId matchId actions env = .ok (settlement, db') ∧
      db'.career? userId = some settlement.newCareer ∧ db'.botMatch? matchId = some closed ∧
      closed.playerId = userId ∧ db'.findStoredSettlement matchId = some settlement := by
  have hdecided : decideVerified db userId matchId actions env
      = .ok (.pay settlement (settlementPayment settlement)) := by
    rw [hsettlement]
    unfold decideVerified
    rw [if_pos hnamed]
    simp only [decidePilot, bind, Except.bind, pure, Except.pure, realmCareerForUpdate_of hcareer,
      hrow, hnew, hpilot, hopen, hreplay]
    have hrunning : ¬ (false = true ∨ pilot.expiresAt ≤ env.nowMillis) := by
      simp [hexpires]
    rw [if_neg (not_not.mpr hplayer), if_neg hrunning, if_neg hacted, if_neg hprocessed,
      if_neg (not_lt.mpr htime)]
  have hid : settlement.matchId = matchId := by
    rw [hsettlement]
    rfl
  have hpays : PaysTo db userId (settlementPayment settlement) := by
    rw [hsettlement]
    exact .settle hcareer rfl rfl rfl
  obtain ⟨closed, hclosed, hsame⟩ := @botMatch?_settled (db.pay (settlementPayment settlement))
    userId matchId row hrow settlement env
  unfold Database.settleMatchVerified
  rw [hdecided]
  exact ⟨_, closed, rfl, hpays.career?, hclosed, hsame.trans hplayer, @findStored_storeSettlement
    (db.pay (settlementPayment settlement)) userId matchId settlement hid hnew⟩

theorem settleBotMatch_again {db : Database} {userId matchId : String}
    {settlement : MatchSettlement} (hnamed : isPilotPractice matchId = false)
    (hplayer : settlement.newCareer.playerId = userId)
    (hstored : db.findStoredSettlement matchId = some settlement) (actions : List PvpAction)
    {env : Env} (hpilot : env.pilotEnabled = false) :
    db.settleMatchVerified userId matchId actions env = .ok (settlement, db) := by
  have hdecided : decideVerified db userId matchId actions env = .ok (.answer settlement) := by
    simp only [decideVerified, hnamed, hpilot, hstored, bind, Except.bind, pure, Except.pure]
    rw [if_neg Bool.false_ne_true, if_neg Bool.false_ne_true, if_neg (not_not.mpr hplayer)]
  unfold Database.settleMatchVerified
  rw [hdecided]
  rfl

/-- **A bot match is settled as its replay ends**, and the settlement is stored. -/
theorem settleBotMatch_pays {db : Database} {userId matchId : String} {row : BotMatchRow}
    {career : PlayerCareer} {actions : List PvpAction} {env : Env} {final : GameState}
    {summary : PvpBattleSummary} (hnamed : isPilotPractice matchId = false)
    (hpilot : env.pilotEnabled = false) (hcareer : db.career? userId = some career)
    (hrow : db.botMatch? matchId = some row) (hplayer : row.playerId = userId)
    (hreplay : replayBattle actions
      { player := upgradeModifiers career
        enemy := defaultModifiers
        battlefieldId := row.battlefieldId
        rulesVersion := row.gameplayRulesVersion
        difficulty := row.botDifficulty
        commander := row.commander } = .ok (final, summary))
    (hnew : db.findStoredSettlement matchId = none) {settlement : MatchSettlement}
    (hsettlement : settlement = settleMatch career summary.status summary.stats matchId
      env.nowMillis) :
    ∃ db', db.settleMatchVerified userId matchId actions env = .ok (settlement, db') ∧
      db'.career? userId = some settlement.newCareer ∧ settlement.newCareer.playerId = userId ∧
      db'.findStoredSettlement matchId = some settlement := by
  have hdecided : decideVerified db userId matchId actions env
      = .ok (.pay settlement (settlementPayment settlement)) := by
    rw [hsettlement]
    simp only [decideVerified, hnamed, hpilot, hnew, hrow, getCareerForUpdate_of hcareer, hreplay,
      bind, Except.bind, pure, Except.pure]
    rw [if_neg Bool.false_ne_true, if_neg Bool.false_ne_true, if_neg (not_not.mpr hplayer)]
  have hpays : PaysTo db userId (settlementPayment settlement) := by
    rw [hsettlement]
    exact .settle hcareer rfl rfl rfl
  have hid : settlement.matchId = matchId := by
    rw [hsettlement]
    rfl
  unfold Database.settleMatchVerified
  rw [hdecided]
  exact ⟨_, rfl, hpays.career?, hpays.player, @findStored_storeSettlement
    (db.pay (settlementPayment settlement)) userId matchId settlement hid hnew⟩

/-! ### From then on -/

section Later

variable {server : RealmServer} {s : RealmWorld}

omit [MathLib] in
theorem career?_of_players {db : Database} {u : String} (h : (db.players u).isSome) :
    ∃ career, db.career? u = some career := by
  obtain ⟨row, hrow⟩ := Option.isSome_iff_exists.mp h
  refine ⟨careerFromRow u row, ?_⟩
  unfold Accounts.career?
  rw [hrow]
  rfl

omit [MathLib] in
theorem players_of_career? {db : Database} {u : String} {career : PlayerCareer}
    (h : db.career? u = some career) : (db.players u).isSome := by
  unfold Accounts.career? at h
  obtain ⟨row, hrow, -⟩ := Option.map_eq_some_iff.mp h
  rw [hrow]
  rfl

theorem attack_lasts (hok : s.Ok server) {userId id : String} {career : PlayerCareer}
    (hcareer : s.store.career? userId = some career) {row : RealmTicketRow}
    (hrow : s.store.realmTicket? userId id = .ok row) (hclosed : row.state ≠ .active)
    {result : RealmResult} (hresult : row.result = some result) :
    s.Lasts server fun db => ∀ actions env,
      db.settleRealmAttack userId id actions env = .ok (result, db.toDatabase) := by
  intro later hordinary actions env
  obtain ⟨hmem, rfl, rfl⟩ := realmTicket?_ok hrow
  obtain ⟨hok', hkept⟩ := RealmWorld.Ok.run later hok
  have hplayer := (run_carries later s hordinary).players _ (players_of_career? hcareer)
  obtain ⟨career', hcareer'⟩ := career?_of_players hplayer
  exact settleRealmAttack_again hcareer' (hok'.realmTicket? (hkept.closed row hmem hclosed))
    hresult actions env

theorem practice_lasts (hissued : Issued s.store) {row : BotMatchRow}
    (hrow : row ∈ s.store.botMatches) (hnamed : isPilotPractice row.matchId = true)
    {career : PlayerCareer} (hcareer : s.store.career? row.playerId = some career)
    {settlement : MatchSettlement}
    (hstored : s.store.findStoredSettlement row.matchId = some settlement) :
    s.Lasts server fun db => ∀ actions env,
      db.settleMatchVerified row.playerId row.matchId actions env
        = .ok (settlement, db.toDatabase) := by
  intro later hordinary actions env
  have hcarries := run_carries later s hordinary
  obtain ⟨settled, hrow'⟩ := hcarries.matches_kept row hrow
  have hfound := (hcarries.issued hissued).botMatch? hrow'
  obtain ⟨career', hcareer'⟩ := career?_of_players
    (hcarries.players _ (players_of_career? hcareer))
  exact settlePractice_again hnamed hcareer' hfound rfl
    (hcarries.stored _ (Or.inl (hissued.bots row hrow).named) _ hstored) actions env

theorem botMatch_lasts {userId matchId : String} (hid : BotId matchId)
    (hnamed : isPilotPractice matchId = false) {settlement : MatchSettlement}
    (hplayer : settlement.newCareer.playerId = userId)
    (hstored : s.store.findStoredSettlement matchId = some settlement) :
    s.Lasts server fun db => ∀ actions env, env.pilotEnabled = false →
      db.settleMatchVerified userId matchId actions env = .ok (settlement, db.toDatabase) := by
  intro later hordinary actions env hpilot
  have hkept := (run_carries later s hordinary).stored matchId (Or.inl hid) settlement hstored
  exact settleBotMatch_again hnamed hplayer hkept actions hpilot

theorem step_now (now : ℤ) (op : RealmOp) :
    RealmWorld.step server ⟨s.store, now⟩ ⟨0, op⟩ = ⟨s.store.apply server now op, now⟩ := by
  unfold RealmWorld.step
  simp

/-- The store after a call that settles. -/
theorem step_settleRealmAttack {now : ℤ} {userId id : String} {actions : List PvpAction}
    {result : RealmResult} {db : Database}
    (h : s.store.settleRealmAttack userId id actions (server.env now) = .ok (result, db)) :
    RealmWorld.step server ⟨s.store, now⟩ ⟨0, .settleRealmAttack userId id actions⟩
      = ⟨{ s.store with toDatabase := db }, now⟩ := by
  rw [step_now]
  simp only [RealmStore.apply, Database.run, h, committed]

theorem step_settleMatchVerified {now : ℤ} {userId matchId : String} {actions : List PvpAction}
    {settlement : MatchSettlement} {db : Database}
    (h : s.store.settleMatchVerified userId matchId actions (server.env now)
      = .ok (settlement, db)) :
    RealmWorld.step server ⟨s.store, now⟩ ⟨0, .settleMatchVerified userId matchId actions⟩
      = ⟨{ s.store with toDatabase := db }, now⟩ := by
  rw [step_now]
  simp only [RealmStore.apply, Database.run, h, committed]

end Later

end CrownClash.Store
