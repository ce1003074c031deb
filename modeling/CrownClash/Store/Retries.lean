import CrownClash.Store.Answers

/-!
# Store: what is stored for a retry

The tables that answer retries only grow.  A row that an operation adds carries the career
that its player has from that operation on (`Stores`), and so what a retry is told is
the career as it was when its id was stored.

`run_stores` says this for every operation on the store, and `serve_stores` for the calls
of a client, which are some of them.
-/

namespace CrownClash.Store

open Lib
open Go (PlayerCareer)

/-! ### Rows that are added -/

/-- Rows are added, each with the career that its player has from then on. -/
def AddsCurrent {α : Type} (career : α → PlayerCareer) (db' : Database) (rows rows' : List α) :
    Prop :=
  ∃ new, rows' = rows ++ new ∧ ∀ row ∈ new, db'.career? (career row).playerId = some (career row)

section Rows

variable {α : Type} {career : α → PlayerCareer} {db' : Database} {rows rows' : List α}

theorem AddsCurrent.same (h : rows' = rows) : AddsCurrent career db' rows rows' :=
  ⟨[], h.trans (List.append_nil rows).symm, fun _ hrow => (List.not_mem_nil hrow).elim⟩

theorem AddsCurrent.one {row : α}
    (hcareer : db'.career? (career row).playerId = some (career row)) :
    AddsCurrent career db' rows (rows ++ [row]) := by
  refine ⟨[row], rfl, fun r hr => ?_⟩
  rw [List.mem_singleton.mp hr]
  exact hcareer

theorem AddsCurrent.new {κ : Type} [DecidableEq κ] {key : α → κ} {row : α}
    (hcareer : db'.career? (career row).playerId = some (career row)) :
    AddsCurrent career db' rows (insertNew key rows row) := by
  by_cases h : Holds key rows (key row)
  · rw [insertNew_of_held h]
    exact .same rfl
  · rw [insertNew_of_new h]
    exact .one hcareer

/-- What is found under an id is what was found before, or is new and current. -/
theorem AddsCurrent.find? (h : AddsCurrent career db' rows rows') (p : α → Bool) :
    (rows'.find? p).map career = (rows.find? p).map career ∨
      (rows.find? p).map career = none ∧
        ∀ told, (rows'.find? p).map career = some told → db'.career? told.playerId = some told := by
  obtain ⟨new, rfl, hnew⟩ := h
  rw [List.find?_append]
  cases hfind : rows.find? p with
  | some row => exact Or.inl rfl
  | none =>
    refine Or.inr ⟨rfl, fun told htold => ?_⟩
    rw [Option.none_or] at htold
    obtain ⟨row, hrow, rfl⟩ := Option.map_eq_some_iff.mp htold
    exact hnew row (List.mem_of_find?_eq_some hrow)

end Rows

/-- The tables that answer retries, with what an operation adds to them. -/
structure Stores (db db' : Database) : Prop where
  settlements : AddsCurrent (fun row => row.settlement.newCareer) db' db.matchSettlements
    db'.matchSettlements
  purchases : AddsCurrent (fun row => row.result.newCareer) db' db.upgradePurchases
    db'.upgradePurchases
  daily : AddsCurrent (fun row => row.result.newCareer) db' db.dailyRewardClaims
    db'.dailyRewardClaims
  league : AddsCurrent (fun row => row.result.newCareer) db' db.leagueRewardClaims
    db'.leagueRewardClaims
  level : AddsCurrent (fun row => row.result.newCareer) db' db.levelRewardClaims
    db'.levelRewardClaims
  weekly : AddsCurrent (fun row => row.result.newCareer) db' db.weeklyChallengeClaims
    db'.weeklyChallengeClaims
  lane : AddsCurrent (fun row => row.result.newCareer) db' db.laneRewardClaims
    db'.laneRewardClaims

/-- An operation that stores nothing for retries. -/
theorem Stores.nothing {db db' : Database}
    (hsettlements : db'.matchSettlements = db.matchSettlements)
    (hpurchases : db'.upgradePurchases = db.upgradePurchases)
    (hdaily : db'.dailyRewardClaims = db.dailyRewardClaims)
    (hleague : db'.leagueRewardClaims = db.leagueRewardClaims)
    (hlevel : db'.levelRewardClaims = db.levelRewardClaims)
    (hweekly : db'.weeklyChallengeClaims = db.weeklyChallengeClaims)
    (hlane : db'.laneRewardClaims = db.laneRewardClaims) : Stores db db' :=
  ⟨.same hsettlements, .same hpurchases, .same hdaily, .same hleague, .same hlevel, .same hweekly,
    .same hlane⟩

theorem Stores.refl (db : Database) : Stores db db := .nothing rfl rfl rfl rfl rfl rfl rfl

/-- **What a call is stored with stays**, and is current when it is new. -/
theorem Stores.stored? {db db' : Database} (h : Stores db db') (call : RemoteCall) :
    call.stored? db' = call.stored? db ∨
      call.stored? db = none ∧
        ∀ told, call.stored? db' = some told → db'.career? told.playerId = some told := by
  have hsettlement : ∀ (db : Database) (matchId : String),
      (db.findStoredSettlement matchId).map MatchSettlement.newCareer =
        (db.matchSettlements.find? fun row => row.matchId = matchId).map
          fun row => row.settlement.newCareer := by
    intro db matchId
    unfold Database.findStoredSettlement
    rw [Option.map_map]
    rfl
  cases call with
  | getCareer => exact Or.inl rfl
  | completeTutorial => exact Or.inl rfl
  | selectCommander => exact Or.inl rfl
  | settleMatch =>
    simp only [RemoteCall.stored?, hsettlement]
    exact h.settlements.find? _
  | purchaseUpgrade => exact h.purchases.find? _
  | claimDailyReward => exact h.daily.find? _
  | claimLeagueReward => exact h.league.find? _
  | completeLevel => exact h.level.find? _
  | completeWeekly => exact h.weekly.find? _
  | completeLane => exact h.lane.find? _

/-! ### What the payments add -/

/-- A career that is paid is the one that the player has from then on. -/
theorem PaysTo.current {db db' : Database} {u : String} {p : Payment} (h : PaysTo db u p)
    {told : PlayerCareer} (htold : told = p.career)
    (hsame : db'.career? u = (db.pay p).career? u) : db'.career? told.playerId = some told := by
  rw [htold, h.player, hsame, h.career?]

theorem Tells.current {ρ : Type} {db db' : Database} {u : String} {stored : Option PlayerCareer}
    {state? : ρ → Option RemoteState} {newCareer : ρ → PlayerCareer} {r : ρ} {p : Payment}
    (h : Tells db u stored state? newCareer (.pay r p))
    (hsame : db'.career? u = (db.pay p).career? u) :
    db'.career? (newCareer r).playerId = some (newCareer r) := by
  cases h with
  | paid hnew hpaid hcareer hpays => exact hpays.current hcareer hsame

theorem decideMatch_paysTo {db : Database} {userId : String} {status : MatchStatus}
    {stats : MatchStats} {matchId : String} {env : Env} {r : MatchSettlement} {p : Payment}
    (h : decideMatch db userId status stats matchId env = .ok (.pay r p)) :
    r.newCareer = p.career ∧ PaysTo db userId p := by
  simp only [decideMatch, bind, Except.bind, pure, Except.pure] at h
  split at h
  · cases h
  split at h
  · cases h
  next career hcareer =>
  cases h
  exact ⟨rfl, .settle (getCareerForUpdate_ok hcareer) rfl rfl rfl⟩

theorem realmSettlement_kept (career : PlayerCareer) (status : MatchStatus) (stats : MatchStats)
    (id : String) (now : ℤ) (source : RealmSource) (eligible : Bool) :
    let new := (realmSettlement career status stats id now source eligible).newCareer
    new.playerId = career.playerId ∧ new.selectedCommanderId = career.selectedCommanderId ∧
      new.tutorialCompleted = career.tutorialCompleted := by
  cases eligible <;> cases source <;> exact ⟨rfl, rfl, rfl⟩

theorem ticketSettlement_paysTo {db : Database} {u : String} {career : PlayerCareer}
    (h : db.career? u = some career) (ticket : RealmTicket) (summary : PvpBattleSummary)
    (id : String) (now : ℤ) (eligible : Bool) :
    PaysTo db u (settlementPayment (ticketSettlement career ticket summary id now eligible)) := by
  obtain ⟨hplayer, hcommander, htutorial⟩ := realmSettlement_kept
    { career with treasuryLevel := ticket.rewardTreasuryLevel } summary.status summary.stats id now
    ticket.source eligible
  exact .settle h hplayer hcommander htutorial

theorem abandonSettlement_paysTo {db : Database} {u : String} {career : PlayerCareer}
    (h : db.career? u = some career) (ticket : RealmTicket) (now : ℤ) :
    PaysTo db u (settlementPayment (abandonSettlement career ticket now)) := by
  obtain ⟨hplayer, hcommander, htutorial⟩ := realmSettlement_kept career .defeat MatchStats.zero
    ticket.matchId now ticket.source false
  unfold abandonSettlement
  dsimp only
  split
  · exact .settle h hplayer hcommander htutorial
  · exact .settle h hplayer hcommander htutorial

/-! ### Every operation -/

section Ops

variable [MathLib]

/-- **An operation adds careers that are current.** -/
theorem run_stores (db : Database) (op : StoreOp) : Stores db (db.run op) := by
  have hrefl := Stores.refl db
  cases op with
  | settleMatch userId status stats matchId env =>
    refine committed_inv hrefl (fun _ _ => hrefl) fun r p hp => ?_
    obtain ⟨hcareer, hpays⟩ := decideMatch_paysTo hp
    exact ⟨.new (hpays.current hcareer rfl), .same rfl, .same rfl, .same rfl, .same rfl,
      .same rfl, .same rfl⟩
  | settleMatchVerified userId matchId actions env =>
    refine committed_inv hrefl (fun _ _ => hrefl) fun r p hp => ?_
    exact ⟨.new ((decideVerified_tells hp).current rfl), .same rfl, .same rfl, .same rfl,
      .same rfl, .same rfl, .same rfl⟩
  | settleMatch2v2 request clock =>
    show Stores db (committed db (db.settleMatch2v2 request clock))
    unfold Database.settleMatch2v2
    split
    · exact hrefl
    · exact hrefl
    · exact .nothing rfl rfl rfl rfl rfl rfl rfl
  | settlePvpAttack attackerId defenderId attackId actions env =>
    refine committed_inv hrefl (fun _ _ => hrefl) fun r p hp => ?_
    exact .nothing rfl rfl rfl rfl rfl rfl rfl
  | purchaseUpgrade userId upgrade purchaseId now =>
    refine committed_inv hrefl (fun _ _ => hrefl) fun r p hp => ?_
    exact ⟨.same rfl, .one ((decidePurchase_tells hp).current rfl), .same rfl, .same rfl,
      .same rfl, .same rfl, .same rfl⟩
  | claimDailyReward userId rewardType claimId env =>
    refine committed_inv hrefl (fun _ _ => hrefl) fun r p hp => ?_
    exact ⟨.same rfl, .same rfl, .one ((decideDaily_tells hp).current rfl), .same rfl, .same rfl,
      .same rfl, .same rfl⟩
  | claimLeagueReward userId rankId claimId env =>
    refine committed_inv hrefl (fun _ _ => hrefl) fun r p hp => ?_
    exact ⟨.same rfl, .same rfl, .same rfl, .one ((decideLeague_tells hp).current rfl), .same rfl,
      .same rfl, .same rfl⟩
  | completeLevelVerified userId levelId claimId actions env =>
    refine committed_inv hrefl (fun r _ => ?_) fun r p hp => ?_
    · exact .nothing rfl rfl rfl rfl rfl rfl rfl
    · have hsame := career?_setLevelsCompleted (db.pay p).toAccounts userId r.levelsCompleted userId
      exact ⟨.same rfl, .same rfl, .same rfl, .same rfl,
        .one ((decideLevel_tells hp).current hsame), .same rfl, .same rfl⟩
  | completeWeeklyVerified userId week slot claimId actions env =>
    refine committed_inv hrefl (fun _ _ => hrefl) fun r p hp => ?_
    exact ⟨.same rfl, .same rfl, .same rfl, .same rfl, .same rfl,
      .one ((decideWeekly_tells hp).current rfl), .same rfl⟩
  | completeLaneVerified userId levelId claimId actions env =>
    refine committed_inv hrefl (fun _ _ => hrefl) fun r p hp => ?_
    exact ⟨.same rfl, .same rfl, .same rfl, .same rfl, .same rfl, .same rfl,
      .one ((decideLane_tells hp).current rfl)⟩
  | settleRealmAttack userId id actions env =>
    refine committed_inv hrefl (fun _ _ => hrefl) fun r p hp => ?_
    rcases decideRealm_inv hp with ⟨row, -, r', -, -, hanswer⟩ |
      ⟨row, -, career, summary, eligible, -, -, -, hcareer, -, -, hpay⟩
    · cases hanswer
    · cases hpay
      have hpays := ticketSettlement_paysTo hcareer row.document summary id env.nowMillis eligible
      dsimp only
      split
      · exact ⟨.one (hpays.current rfl rfl), .same rfl, .same rfl, .same rfl, .same rfl, .same rfl,
          .same rfl⟩
      · exact ⟨.one (hpays.current rfl rfl), .same rfl, .same rfl, .same rfl, .same rfl, .same rfl,
          .same rfl⟩
  | abandonRealmAttack userId id env =>
    refine committed_inv hrefl (fun _ _ => hrefl) fun r p hp => ?_
    rcases decideAbandon_inv hp with hanswer | ⟨row, -, career, -, -, -, hcareer, -, hpay⟩
    · cases hanswer
    · cases hpay
      have hpays := abandonSettlement_paysTo hcareer row.document env.nowMillis
      exact ⟨.one (hpays.current rfl rfl), .same rfl, .same rfl, .same rfl, .same rfl, .same rfl,
        .same rfl⟩
  | fulfillCoinOrder payment env =>
    refine committed_inv hrefl (fun _ _ => hrefl) fun r p hp => ?_
    exact .nothing rfl rfl rfl rfl rfl rfl rfl
  | recordCoinRefund id reference note env =>
    refine committed_inv hrefl (fun _ _ => hrefl) fun r p hp => ?_
    exact .nothing rfl rfl rfl rfl rfl rfl rfl
  | issue tables => exact .nothing rfl rfl rfl rfl rfl rfl rfl

theorem runCareer_stores (db : Database) (op : CareerOp) : Stores db (db.runCareer op) := by
  cases op with
  | store op => exact run_stores db op
  | _ => exact .nothing rfl rfl rfl rfl rfl rfl rfl

omit [MathLib] in
theorem answered_committed {ρ : Type} {result : Except StoreError (ρ × Database)}
    {answer : ρ → Answer} {a : Answer} {db' : Database}
    (h : answered result answer = some (a, db')) (db : Database) : committed db result = db' := by
  obtain ⟨r, rfl, -⟩ := answered_eq_some h
  rfl

/-- A call of a client is one of these operations. -/
theorem serve_stores {db db' : Database} {u : String} {env : Env} {call : RemoteCall}
    {answer : Answer} (h : db.serve u env call = some (answer, db')) : Stores db db' := by
  cases call with
  | getCareer =>
    obtain ⟨career, -, hsame⟩ := Option.map_eq_some_iff.mp h
    cases hsame
    exact .nothing rfl rfl rfl rfl rfl rfl rfl
  | completeTutorial =>
    obtain ⟨career, -, hsame⟩ := Option.map_eq_some_iff.mp h
    cases hsame
    exact .nothing rfl rfl rfl rfl rfl rfl rfl
  | selectCommander commanderId =>
    obtain ⟨p, hselect, hsame⟩ := Option.map_eq_some_iff.mp h
    cases hsame
    unfold Database.selectCommander at hselect
    split at hselect
    · split at hselect
      · cases hselect
      cases hselect
      exact .nothing rfl rfl rfl rfl rfl rfl rfl
    · cases hselect
  | settleMatch matchId actions =>
    exact answered_committed h db ▸ run_stores db (.settleMatchVerified u matchId actions env)
  | purchaseUpgrade upgrade purchaseId =>
    exact answered_committed h db ▸
      run_stores db (.purchaseUpgrade u upgrade purchaseId env.nowMillis)
  | claimDailyReward rewardType claimId =>
    exact answered_committed h db ▸ run_stores db (.claimDailyReward u rewardType claimId env)
  | claimLeagueReward rankId claimId =>
    exact answered_committed h db ▸ run_stores db (.claimLeagueReward u rankId claimId env)
  | completeLevel levelId claimId actions =>
    exact answered_committed h db ▸
      run_stores db (.completeLevelVerified u levelId claimId actions env)
  | completeWeekly week slot claimId actions =>
    exact answered_committed h db ▸
      run_stores db (.completeWeeklyVerified u week slot claimId actions env)
  | completeLane levelId claimId actions =>
    exact answered_committed h db ▸
      run_stores db (.completeLaneVerified u levelId claimId actions env)

end Ops

end CrownClash.Store
