import CrownClash.Store.Rewards

/-!
# Store: what the server answers a client

The calls that `CareerManager` makes.  Each runs in one transaction, and its answer
tells the career as the transaction leaves it.  A call whose id is stored is a retry:
its answer is the stored one, and tells the career of the first time.

`serve_tells` is the same for all calls: when a client takes a career out of an answer,
this is the career that is stored with the id (`RemoteCall.stored?`), or the one that
the player has from this transaction on.
-/

namespace CrownClash.Store

open Lib
open Go (PlayerCareer UpgradeType)

/-! ### Calls and answers -/

inductive RemoteCall
  /-- A login gets the career as well. -/
  | getCareer
  | completeTutorial
  | selectCommander (commanderId : String)
  | settleMatch (matchId : String) (actions : List PvpAction)
  | purchaseUpgrade (upgrade : UpgradeType) (purchaseId : String)
  | claimDailyReward (rewardType : DailyRewardType) (claimId : String)
  | claimLeagueReward (rankId claimId : String)
  | completeLevel (levelId : ℤ) (claimId : String) (actions : List PvpAction)
  | completeWeekly (week slot : ℤ) (claimId : String) (actions : List PvpAction)
  | completeLane (levelId : ℤ) (claimId : String) (actions : List LaneAction)

inductive Answer
  | career (career : PlayerCareer)
  | settlement (settlement : MatchSettlement)
  | purchase (result : UpgradePurchaseResult)
  | daily (result : ClaimResult (String × DailyRewardType))
  | league (result : ClaimResult String)
  | level (result : LevelClaimResult)
  | weekly (result : ClaimResult (ℤ × ℤ))
  | lane (result : ClaimResult ℤ)

def Database.getOrCreateCareer (db : Database) (userId : String) : Database :=
  { db with toAccounts := db.toAccounts.getOrCreateCareer userId }

def Database.completeTutorial (db : Database) (userId : String) : Database :=
  { db with toAccounts := db.toAccounts.completeTutorial userId }

/-- A commander that does not exist or is locked is an error. -/
def Database.selectCommander (db : Database) (userId commanderId : String) :
    Option (PlayerCareer × Database) :=
  match commanderUnlockLevel commanderId, db.career? userId with
  | some unlock, some career =>
    if kingdomLevel career < unlock then none
    else
      some ({ career with selectedCommanderId := commanderId },
        { db with
          toAccounts := db.updatePlayer userId fun row =>
            { row with selectedCommander := commanderId } })
  | _, _ => none

/-- An answer, unless the operation fails. -/
def answered {ρ : Type} (result : Except StoreError (ρ × Database)) (answer : ρ → Answer) :
    Option (Answer × Database) :=
  match result with
  | .error _ => none
  | .ok (r, db) => some (answer r, db)

section Calls

variable [MathLib]

/-- What a call of a player answers and what it leaves; `none` is an error. -/
def Database.serve (db : Database) (userId : String) (env : Env) :
    RemoteCall → Option (Answer × Database)
  | .getCareer =>
    let db := db.getOrCreateCareer userId
    (db.career? userId).map fun career => (.career career, db)
  | .completeTutorial =>
    let db := db.completeTutorial userId
    (db.career? userId).map fun career => (.career career, db)
  | .selectCommander commanderId =>
    (db.selectCommander userId commanderId).map fun p => (.career p.1, p.2)
  | .settleMatch matchId actions =>
    answered (db.settleMatchVerified userId matchId actions env) .settlement
  | .purchaseUpgrade upgrade purchaseId =>
    answered (db.purchaseUpgrade userId upgrade purchaseId env.nowMillis) .purchase
  | .claimDailyReward rewardType claimId =>
    answered (db.claimDailyReward userId rewardType claimId env) .daily
  | .claimLeagueReward rankId claimId =>
    answered (db.claimLeagueReward userId rankId claimId env) .league
  | .completeLevel levelId claimId actions =>
    answered (db.completeLevelVerified userId levelId claimId actions env) .level
  | .completeWeekly week slot claimId actions =>
    answered (db.completeWeeklyVerified userId week slot claimId actions env) .weekly
  | .completeLane levelId claimId actions =>
    answered (db.completeLaneVerified userId levelId claimId actions env) .lane

end Calls

/-! ### What a client takes out of an answer -/

/-- A career with the ledger entries that are new with it. -/
abbrev RemoteState := PlayerCareer × List EconomyLedgerEntry

def settlementState? (settlement : MatchSettlement) : Option RemoteState :=
  some (settlement.newCareer, settlement.ledgerEntries)

def purchaseState? (result : UpgradePurchaseResult) : Option RemoteState :=
  if result.success then some (result.newCareer, result.ledgerEntry.toList) else none

def claimState? {κ : Type} (result : ClaimResult κ) : Option RemoteState :=
  match result.success, result.ledgerEntry with
  | true, some entry => some (result.newCareer, [entry])
  | _, _ => none

/-- A battle that was paid already is a success that pays nothing. -/
def rewardState? {κ : Type} (result : ClaimResult κ) : Option RemoteState :=
  if 0 < result.reward then claimState? result else none

def Answer.state? : Answer → Option RemoteState
  | .career told => some (told, [])
  | .settlement result => settlementState? result
  | .purchase result => purchaseState? result
  | .daily result => claimState? result
  | .league result => claimState? result
  | .level result => rewardState? result.toClaimResult
  | .weekly result => rewardState? result
  | .lane result => rewardState? result

/-- The career that is stored under the id of a claim. -/
def storedClaim? {κ ρ : Type} (rows : List (ClaimRow κ ρ)) (claimId : String)
    (career : ρ → PlayerCareer) : Option PlayerCareer :=
  (rows.find? fun row => row.claimId = claimId).map fun row => career row.result

/-- The career that is stored under the id of a call. -/
def RemoteCall.stored? (db : Database) : RemoteCall → Option PlayerCareer
  | .getCareer => none
  | .completeTutorial => none
  | .selectCommander _ => none
  | .settleMatch matchId _ => (db.findStoredSettlement matchId).map MatchSettlement.newCareer
  | .purchaseUpgrade _ purchaseId =>
    (db.upgradePurchases.find? fun row => row.purchaseId = purchaseId).map fun row =>
      row.result.newCareer
  | .claimDailyReward _ claimId =>
    storedClaim? db.dailyRewardClaims claimId ClaimResult.newCareer
  | .claimLeagueReward _ claimId =>
    storedClaim? db.leagueRewardClaims claimId ClaimResult.newCareer
  | .completeLevel _ claimId _ =>
    storedClaim? db.levelRewardClaims claimId fun result => result.newCareer
  | .completeWeekly _ _ claimId _ =>
    storedClaim? db.weeklyChallengeClaims claimId ClaimResult.newCareer
  | .completeLane _ claimId _ =>
    storedClaim? db.laneRewardClaims claimId ClaimResult.newCareer

/-! ### The career that a payment leaves -/

/-- A payment to a player, who keeps the commander and the tutorial. -/
structure PaysTo (db : Database) (u : String) (p : Payment) : Prop where
  player : p.career.playerId = u
  kept : ∃ career, db.career? u = some career ∧
    p.career.selectedCommanderId = career.selectedCommanderId ∧
    p.career.tutorialCompleted = career.tutorialCompleted

/-- The career that was paid is read back. -/
theorem PaysTo.career? {db : Database} {u : String} {p : Payment} (h : PaysTo db u p) :
    (db.pay p).career? u = some p.career := by
  obtain ⟨career, hcareer, hcommander, htutorial⟩ := h.kept
  obtain ⟨row, hrow, rfl⟩ := Option.map_eq_some_iff.mp hcareer
  have hstored : db.players p.career.playerId = some row := by
    rw [h.player]
    exact hrow
  have hback := Accounts.career?_persistCareer hstored hcommander htutorial
  rw [h.player] at hback
  exact hback

theorem career?_playerId {db : Accounts} {u : String} {career : PlayerCareer}
    (h : db.career? u = some career) : career.playerId = u := by
  obtain ⟨row, -, rfl⟩ := Option.map_eq_some_iff.mp h
  rfl

theorem PaysTo.reward {db : Database} {u : String} {career : PlayerCareer}
    (h : db.getCareerForUpdate u = .ok career) (amount : ℤ) (entries : List EconomyLedgerEntry) :
    PaysTo db u ⟨rewarded career amount, entries⟩ := by
  have hcareer := getCareerForUpdate_ok h
  have hplayer : career.playerId = u := career?_playerId hcareer
  exact ⟨hplayer, career, hcareer, rfl, rfl⟩

theorem PaysTo.settle {db : Database} {u : String} {career : PlayerCareer}
    (h : db.career? u = some career) {s : MatchSettlement}
    (hplayer : s.newCareer.playerId = career.playerId)
    (hcommander : s.newCareer.selectedCommanderId = career.selectedCommanderId)
    (htutorial : s.newCareer.tutorialCompleted = career.tutorialCompleted) :
    PaysTo db u (settlementPayment s) :=
  ⟨hplayer.trans (career?_playerId h), career, h, hcommander, htutorial⟩

/-! ### What the decisions tell -/

/-- A decision tells nothing, or what is stored, or what it pays to the player, and what
it pays is the new career of its result. -/
inductive Tells {ρ : Type} (db : Database) (u : String) (stored : Option PlayerCareer)
    (state? : ρ → Option RemoteState) (newCareer : ρ → PlayerCareer) : Decision ρ → Prop
  | silentAnswer {r : ρ} (h : state? r = none) : Tells db u stored state? newCareer (.answer r)
  | silentRecord {r : ρ} (h : state? r = none) : Tells db u stored state? newCareer (.record r)
  | retry {r : ρ} (h : ∀ state, state? r = some state → stored = some state.1) :
    Tells db u stored state? newCareer (.answer r)
  | paid {r : ρ} {p : Payment} (hnew : stored = none)
    (h : ∀ state, state? r = some state → state.1 = newCareer r) (hcareer : newCareer r = p.career)
    (hpays : PaysTo db u p) : Tells db u stored state? newCareer (.pay r p)

theorem claimState?_career {κ : Type} {result : ClaimResult κ} {state : RemoteState}
    (h : claimState? result = some state) : state.1 = result.newCareer := by
  unfold claimState? at h
  split at h
  · cases h
    rfl
  · cases h

theorem rewardState?_career {κ : Type} {result : ClaimResult κ} {state : RemoteState}
    (h : rewardState? result = some state) : state.1 = result.newCareer := by
  unfold rewardState? at h
  split at h
  · exact claimState?_career h
  · cases h

theorem rewardState?_unpaid {κ : Type} (claimId reason : String) (success : Bool) (subject : κ)
    (career : PlayerCareer) : rewardState? (unpaid claimId reason success subject career) = none :=
  if_neg (by decide : ¬ (0 : ℤ) < 0)

/-- What `findStoredClaim` finds is what is stored under the id. -/
theorem storedClaim?_of_some {κ ρ : Type} [DecidableEq κ] {rows : List (ClaimRow κ ρ)}
    {ownership mismatch : StoreError} {userId claimId : String} {subject : κ} {existing : ρ}
    (h : findStoredClaim rows ownership mismatch userId subject claimId = .ok (some existing))
    (career : ρ → PlayerCareer) : storedClaim? rows claimId career = some (career existing) := by
  unfold findStoredClaim at h
  unfold storedClaim?
  split at h
  · cases h
  next row hrow =>
    split at h
    · cases h
    split at h
    · cases h
    cases h
    rw [hrow]
    rfl

theorem storedClaim?_of_none {κ ρ : Type} [DecidableEq κ] {rows : List (ClaimRow κ ρ)}
    {ownership mismatch : StoreError} {userId claimId : String} {subject : κ}
    (h : findStoredClaim rows ownership mismatch userId subject claimId = .ok none)
    (career : ρ → PlayerCareer) : storedClaim? rows claimId career = none := by
  unfold findStoredClaim at h
  unfold storedClaim?
  split at h
  next hnone =>
    rw [hnone]
    rfl
  next row hrow =>
    split at h
    · cases h
    split at h
    · cases h
    · cases h


theorem decideDaily_tells {db : Database} {userId : String} {rewardType : DailyRewardType}
    {claimId : String} {env : Env} {d : Decision (ClaimResult (String × DailyRewardType))}
    (h : decideDaily db userId rewardType claimId env = .ok d) :
    Tells db userId (storedClaim? db.dailyRewardClaims claimId ClaimResult.newCareer)
      claimState? ClaimResult.newCareer d := by
  simp only [decideDaily, bind, Except.bind, pure, Except.pure, throw, throwThe,
    MonadExceptOf.throw] at h
  split at h
  · cases h
  next found hfound =>
  split at h
  · cases h
    refine .retry fun state hstate => ?_
    rw [storedClaim?_of_some hfound, claimState?_career hstate]
  split at h
  · cases h
  next career hcareer =>
  split at h
  · cases h
    exact .silentAnswer rfl
  split at h
  · cases h
  cases h
  exact .paid (storedClaim?_of_none hfound _) (fun state hstate => claimState?_career hstate)
    rfl (.reward hcareer _ _)

theorem decideLeague_tells {db : Database} {userId rankId claimId : String} {env : Env}
    {d : Decision (ClaimResult String)}
    (h : decideLeague db userId rankId claimId env = .ok d) :
    Tells db userId (storedClaim? db.leagueRewardClaims claimId ClaimResult.newCareer)
      claimState? ClaimResult.newCareer d := by
  simp only [decideLeague, bind, Except.bind, pure, Except.pure] at h
  split at h
  · cases h
  next found hfound =>
  split at h
  · cases h
    refine .retry fun state hstate => ?_
    rw [storedClaim?_of_some hfound, claimState?_career hstate]
  split at h
  · cases h
  next career hcareer =>
  split at h
  · cases h
    exact .silentAnswer rfl
  split at h
  · cases h
    exact .silentAnswer rfl
  split at h
  · cases h
    exact .silentAnswer rfl
  cases h
  exact .paid (storedClaim?_of_none hfound _) (fun state hstate => claimState?_career hstate)
    rfl (.reward hcareer _ _)

/-- What the four upgrades leave alone. -/
theorem setUpgradeLevel_kept (career : PlayerCareer) (upgrade : UpgradeType) (level : ℤ) :
    (setUpgradeLevel career upgrade level).playerId = career.playerId ∧
      (setUpgradeLevel career upgrade level).selectedCommanderId = career.selectedCommanderId ∧
      (setUpgradeLevel career upgrade level).tutorialCompleted = career.tutorialCompleted := by
  cases upgrade <;> exact ⟨rfl, rfl, rfl⟩

theorem purchaseUpgrade_kept (career : PlayerCareer) (upgrade : UpgradeType) (purchaseId : String)
    (now : ℤ) :
    (purchaseUpgrade career upgrade purchaseId now).newCareer.playerId = career.playerId ∧
      (purchaseUpgrade career upgrade purchaseId now).newCareer.selectedCommanderId =
        career.selectedCommanderId ∧
      (purchaseUpgrade career upgrade purchaseId now).newCareer.tutorialCompleted =
        career.tutorialCompleted := by
  unfold purchaseUpgrade
  dsimp only
  split
  · exact ⟨rfl, rfl, rfl⟩
  · split
    · exact ⟨rfl, rfl, rfl⟩
    · exact setUpgradeLevel_kept _ upgrade _

theorem decidePurchase_tells {db : Database} {userId : String} {upgrade : UpgradeType}
    {purchaseId : String} {now : ℤ} {d : Decision UpgradePurchaseResult}
    (h : decidePurchase db userId upgrade purchaseId now = .ok d) :
    Tells db userId ((db.upgradePurchases.find? fun row => row.purchaseId = purchaseId).map
      fun row => row.result.newCareer) purchaseState? UpgradePurchaseResult.newCareer d := by
  have hstate : ∀ (r : UpgradePurchaseResult) (state : RemoteState),
      purchaseState? r = some state → state.1 = r.newCareer := by
    intro r state hr
    unfold purchaseState? at hr
    split at hr
    · cases hr
      rfl
    · cases hr
  simp only [decidePurchase, findStoredUpgradePurchase, bind, Except.bind, pure,
    Except.pure] at h
  cases hrow : db.upgradePurchases.find? fun row => row.purchaseId = purchaseId with
  | some row =>
    simp only [hrow] at h
    split at h
    · cases h
    next found hfound =>
    split at hfound
    · cases hfound
    split at hfound
    · cases hfound
    cases hfound
    cases h
    exact .retry fun state hs => congrArg some (hstate _ state hs).symm
  | none =>
    simp only [hrow] at h
    split at h
    · cases h
    next career hcareer =>
    split at h
    next hfailed =>
      cases h
      exact .silentAnswer (if_neg (by simpa using hfailed))
    cases h
    obtain ⟨hid, hcommander, htutorial⟩ := purchaseUpgrade_kept career upgrade purchaseId now
    have hstored := getCareerForUpdate_ok hcareer
    have hplayer : career.playerId = userId := career?_playerId hstored
    exact .paid rfl (hstate _) rfl ⟨hid.trans hplayer, career, hstored, hcommander, htutorial⟩

theorem settlement_retry {db : Database} {u matchId : String} {s : MatchSettlement}
    (h : db.findStoredSettlement matchId = some s) :
    Tells db u ((db.findStoredSettlement matchId).map MatchSettlement.newCareer)
      settlementState? MatchSettlement.newCareer (.answer s) := by
  refine .retry fun state hstate => ?_
  cases hstate
  rw [h]
  rfl

theorem settlement_paid {db : Database} {u matchId : String} {s : MatchSettlement}
    (hnew : db.findStoredSettlement matchId = none) (h : PaysTo db u (settlementPayment s)) :
    Tells db u ((db.findStoredSettlement matchId).map MatchSettlement.newCareer)
      settlementState? MatchSettlement.newCareer (.pay s (settlementPayment s)) := by
  refine .paid ?_ (fun state hstate => ?_) rfl h
  · rw [hnew]
    rfl
  · cases hstate
    rfl

section Battles

variable [MathLib]

theorem decideLevel_tells {db : Database} {userId : String} {levelId : ℤ} {claimId : String}
    {actions : List PvpAction} {env : Env} {d : Decision LevelClaimResult}
    (h : decideLevel db userId levelId claimId actions env = .ok d) :
    Tells db userId (storedClaim? db.levelRewardClaims claimId fun result => result.newCareer)
      (fun result => rewardState? result.toClaimResult) (fun result => result.newCareer) d := by
  simp only [decideLevel, bind, Except.bind, pure, Except.pure, throw, throwThe,
    MonadExceptOf.throw] at h
  split at h
  · cases h
  split at h
  · cases h
  split at h
  · cases h
    exact .silentAnswer (rewardState?_unpaid _ _ _ _ _)
  split at h
  · cases h
  next found hfound =>
  split at h
  · cases h
    refine .retry fun state hstate => ?_
    rw [storedClaim?_of_some hfound, rewardState?_career hstate]
  split at h
  · cases h
  next career hcareer =>
  split at h
  · cases h
    exact .silentAnswer (rewardState?_unpaid _ _ _ _ _)
  split at h
  · cases h
    exact .silentRecord (rewardState?_unpaid _ _ _ _ _)
  cases h
  exact .paid (storedClaim?_of_none hfound _) (fun state hstate => rewardState?_career hstate)
    rfl (.reward hcareer _ _)

theorem decideWeekly_tells {db : Database} {userId : String} {week slot : ℤ} {claimId : String}
    {actions : List PvpAction} {env : Env} {d : Decision (ClaimResult (ℤ × ℤ))}
    (h : decideWeekly db userId week slot claimId actions env = .ok d) :
    Tells db userId (storedClaim? db.weeklyChallengeClaims claimId ClaimResult.newCareer)
      rewardState? ClaimResult.newCareer d := by
  simp only [decideWeekly, bind, Except.bind, pure, Except.pure, throw, throwThe,
    MonadExceptOf.throw] at h
  split at h
  · cases h
  split at h
  · cases h
    exact .silentAnswer (rewardState?_unpaid _ _ _ _ _)
  split at h
  · cases h
  split at h
  · cases h
    exact .silentAnswer (rewardState?_unpaid _ _ _ _ _)
  split at h
  · cases h
  next found hfound =>
  split at h
  · cases h
    refine .retry fun state hstate => ?_
    rw [storedClaim?_of_some hfound, rewardState?_career hstate]
  split at h
  · cases h
  next career hcareer =>
  split at h
  · cases h
    exact .silentRecord (rewardState?_unpaid _ _ _ _ _)
  cases h
  exact .paid (storedClaim?_of_none hfound _) (fun state hstate => rewardState?_career hstate)
    rfl (.reward hcareer _ _)

theorem decideLane_tells {db : Database} {userId : String} {levelId : ℤ} {claimId : String}
    {actions : List LaneAction} {env : Env} {d : Decision (ClaimResult ℤ)}
    (h : decideLane db userId levelId claimId actions env = .ok d) :
    Tells db userId (storedClaim? db.laneRewardClaims claimId ClaimResult.newCareer)
      rewardState? ClaimResult.newCareer d := by
  simp only [decideLane, bind, Except.bind, pure, Except.pure, throw, throwThe,
    MonadExceptOf.throw] at h
  split at h
  · cases h
  split at h
  · cases h
  split at h
  · cases h
    exact .silentAnswer (rewardState?_unpaid _ _ _ _ _)
  split at h
  · cases h
  next found hfound =>
  split at h
  · cases h
    refine .retry fun state hstate => ?_
    rw [storedClaim?_of_some hfound, rewardState?_career hstate]
  split at h
  · cases h
  next career hcareer =>
  split at h
  · cases h
    exact .silentRecord (rewardState?_unpaid _ _ _ _ _)
  cases h
  exact .paid (storedClaim?_of_none hfound _) (fun state hstate => rewardState?_career hstate)
    rfl (.reward hcareer _ _)

theorem decidePilot_tells {db : Database} {userId matchId : String} {actions : List PvpAction}
    {env : Env} {d : Decision MatchSettlement}
    (h : decidePilot db userId matchId actions env = .ok d) :
    Tells db userId ((db.findStoredSettlement matchId).map MatchSettlement.newCareer)
      settlementState? MatchSettlement.newCareer d := by
  simp only [decidePilot, bind, Except.bind, pure, Except.pure, throw, throwThe,
    MonadExceptOf.throw] at h
  split at h
  · cases h
  next career hcareer =>
  split at h
  · cases h
  split at h
  · cases h
  split at h
  next s hs =>
    cases h
    exact settlement_retry hs
  next hnone =>
  split at h
  · cases h
  split at h
  · cases h
  split at h
  · cases h
  split at h
  · cases h
  split at h
  · cases h
  split at h
  · cases h
  cases h
  exact settlement_paid hnone (.settle (realmCareerForUpdate_ok hcareer) rfl rfl rfl)

theorem decideVerified_tells {db : Database} {userId matchId : String} {actions : List PvpAction}
    {env : Env} {d : Decision MatchSettlement}
    (h : decideVerified db userId matchId actions env = .ok d) :
    Tells db userId ((db.findStoredSettlement matchId).map MatchSettlement.newCareer)
      settlementState? MatchSettlement.newCareer d := by
  simp only [decideVerified, bind, Except.bind, pure, Except.pure, throw, throwThe,
    MonadExceptOf.throw] at h
  split at h
  · exact decidePilot_tells h
  split at h
  · cases h
  split at h
  next s hs =>
    split at h
    · cases h
    cases h
    exact settlement_retry hs
  next hnone =>
  split at h
  · cases h
  split at h
  · cases h
  split at h
  · cases h
  next career hcareer =>
  split at h
  · cases h
  cases h
  exact settlement_paid hnone (.settle (getCareerForUpdate_ok hcareer) rfl rfl rfl)

end Battles


/-! ### What the answers tell -/

theorem Tells.commit {ρ : Type} {db db' : Database} {u : String} {stored : Option PlayerCareer}
    {state? : ρ → Option RemoteState} {newCareer : ρ → PlayerCareer} {d : Decision ρ}
    (h : Tells db u stored state? newCareer d) {record write : ρ → Database → Database} {r : ρ} {state : RemoteState}
    (hwrite : ∀ r db, (write r db).career? u = db.career? u)
    (hd : d.commit db record write = (r, db')) (hstate : state? r = some state) :
    stored = some state.1 ∨ stored = none ∧ db'.career? u = some state.1 := by
  cases h with
  | silentAnswer hsilent =>
    cases hd
    rw [hsilent] at hstate
    cases hstate
  | silentRecord hsilent =>
    cases hd
    rw [hsilent] at hstate
    cases hstate
  | retry hretry =>
    cases hd
    exact Or.inl (hretry state hstate)
  | paid hnew hpaid hcareer hpays =>
    cases hd
    refine Or.inr ⟨hnew, ?_⟩
    rw [hwrite, hpays.career?, hpaid state hstate, hcareer]

theorem answered_eq_some {ρ : Type} {result : Except StoreError (ρ × Database)}
    {answer : ρ → Answer} {a : Answer} {db' : Database} (h : answered result answer = some (a, db')) :
    ∃ r, result = .ok (r, db') ∧ a = answer r := by
  unfold answered at h
  split at h
  · cases h
  next r db =>
    cases h
    exact ⟨r, rfl, rfl⟩

/-- An operation that decides and commits. -/
theorem Tells.answered {ρ : Type} {db db' : Database} {u : String}
    {stored : Option PlayerCareer} {state? : ρ → Option RemoteState} {newCareer : ρ → PlayerCareer}
    {decision : Except StoreError (Decision ρ)}
    (h : ∀ d, decision = .ok d → Tells db u stored state? newCareer d)
    {record write : ρ → Database → Database} {answer : ρ → Answer} {a : Answer}
    {state : RemoteState}
    (ha : Store.answered (decision.map fun d => d.commit db record write) answer = some (a, db'))
    (hstate : a.state? = some state) (hanswer : ∀ r, (answer r).state? = state? r)
    (hwrite : ∀ r db, (write r db).career? u = db.career? u) :
    stored = some state.1 ∨ stored = none ∧ db'.career? u = some state.1 := by
  obtain ⟨r, hr, rfl⟩ := answered_eq_some ha
  cases decision with
  | error e => cases hr
  | ok d =>
    rw [hanswer] at hstate
    exact (h d rfl).commit hwrite (Except.ok.inj hr) hstate

theorem career?_setLevelsCompleted (db : Accounts) (userId : String) (completed : ℤ) (u : String) :
    (db.setLevelsCompleted userId completed).career? u = db.career? u := by
  unfold Accounts.setLevelsCompleted Accounts.career?
  dsimp only
  by_cases hu : u = userId
  · rw [hu, Function.update_self, Option.map_map]
    rfl
  · rw [Function.update_of_ne hu]

theorem selectCommander_tells {db db' : Database} {u commanderId : String} {career : PlayerCareer}
    (h : db.selectCommander u commanderId = some (career, db')) : db'.career? u = some career := by
  unfold Database.selectCommander at h
  split at h
  next unlock stored hunlock hstored =>
    split at h
    · cases h
    cases h
    obtain ⟨row, hrow, rfl⟩ := Option.map_eq_some_iff.mp hstored
    unfold Accounts.career? Accounts.updatePlayer
    dsimp only
    rw [Function.update_self, hrow]
    rfl
  · cases h

/-- **A career in an answer is the stored one of a retry, or the one that the player has
from then on.** -/
theorem serve_tells [MathLib] {db db' : Database} {u : String} {env : Env} {call : RemoteCall}
    {answer : Answer} {state : RemoteState} (h : db.serve u env call = some (answer, db'))
    (hstate : answer.state? = some state) : call.stored? db = some state.1 ∨
      call.stored? db = none ∧ db'.career? u = some state.1 := by
  cases call with
  | getCareer =>
    obtain ⟨career, hcareer, hsame⟩ := Option.map_eq_some_iff.mp h
    cases hsame
    cases hstate
    exact Or.inr ⟨rfl, hcareer⟩
  | completeTutorial =>
    obtain ⟨career, hcareer, hsame⟩ := Option.map_eq_some_iff.mp h
    cases hsame
    cases hstate
    exact Or.inr ⟨rfl, hcareer⟩
  | selectCommander commanderId =>
    obtain ⟨⟨career, db''⟩, hselect, hsame⟩ := Option.map_eq_some_iff.mp h
    cases hsame
    cases hstate
    exact Or.inr ⟨rfl, selectCommander_tells hselect⟩
  | settleMatch matchId actions =>
    exact Tells.answered (fun d hd => decideVerified_tells hd) h hstate (fun _ => rfl) fun _ _ => rfl
  | purchaseUpgrade upgrade purchaseId =>
    exact Tells.answered (fun d hd => decidePurchase_tells hd) h hstate (fun _ => rfl) fun _ _ => rfl
  | claimDailyReward rewardType claimId =>
    exact Tells.answered (fun d hd => decideDaily_tells hd) h hstate (fun _ => rfl) fun _ _ => rfl
  | claimLeagueReward rankId claimId =>
    exact Tells.answered (fun d hd => decideLeague_tells hd) h hstate (fun _ => rfl) fun _ _ => rfl
  | completeLevel levelId claimId actions =>
    exact Tells.answered (fun d hd => decideLevel_tells hd) h hstate (fun _ => rfl)
      fun r db => career?_setLevelsCompleted db.toAccounts u r.levelsCompleted u
  | completeWeekly week slot claimId actions =>
    exact Tells.answered (fun d hd => decideWeekly_tells hd) h hstate (fun _ => rfl) fun _ _ => rfl
  | completeLane levelId claimId actions =>
    exact Tells.answered (fun d hd => decideLane_tells hd) h hstate (fun _ => rfl) fun _ _ => rfl

end CrownClash.Store
