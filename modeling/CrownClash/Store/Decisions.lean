import CrownClash.Store.Payments

/-!
# Store: the payments of the operations

Each operation decides on its own tables, and then pays in one of a few ways: a
settlement, a reward or a purchase, on the career as it is stored (`PayForm`).  The
`_form` lemmas, one for an operation, say which.
-/

namespace CrownClash.Store

open Lib
open Go (PlayerCareer UpgradeType)

/-! ### What the checks let through -/

theorem career?_eq_some {db : Accounts} {u : String} {career : PlayerCareer}
    (h : db.career? u = some career) :
    ∃ row, db.players career.playerId = some row ∧ row.coins = career.coins := by
  obtain ⟨row, hrow, rfl⟩ := Option.map_eq_some_iff.mp h
  exact ⟨row, hrow, rfl⟩

theorem getCareerForUpdate_ok {db : Database} {u : String} {career : PlayerCareer}
    (h : db.getCareerForUpdate u = .ok career) : db.career? u = some career := by
  unfold Database.getCareerForUpdate at h
  split at h
  next hc =>
    cases h
    exact hc
  · cases h

theorem realmCareerForUpdate_ok {db : Database} {u : String} {career : PlayerCareer}
    (h : db.realmCareerForUpdate u = .ok career) : db.career? u = some career := by
  unfold Database.realmCareerForUpdate at h
  split at h
  next hc =>
    cases h
    exact hc
  · cases h

/-- A reward, or coins taken back, with its entry. -/
theorem reward_ok {db : Accounts} {u : String} {career : PlayerCareer}
    (h : db.career? u = some career) (amount : ℤ) (id reason source : String) (now : ℤ) :
    PaymentOk db ⟨rewarded career amount, [rewardEntry id career amount reason source now]⟩ := by
  obtain ⟨row, hrow, hcoins⟩ := career?_eq_some h
  refine ⟨row, some (rewardEntry id career amount reason source now), [], hrow, rfl,
    fun e he => (List.not_mem_nil he).elim, fun e he => ?_, ?_⟩
  · cases he
    exact ⟨rfl, rfl⟩
  · change career.coins + amount = row.coins + amount
    rw [hcoins]

/-- What the settlement of a match says about coins. -/
theorem settle_entries (career : PlayerCareer) (status : MatchStatus) (stats : MatchStats)
    (matchId : String) (now : ℤ) (policy : RewardPolicy) :
    ∃ coin others,
      (settleMatchWithPolicy career status stats matchId now policy).ledgerEntries =
        coin :: others ∧
      (∀ e ∈ others, e.currency ≠ .coins) ∧ coin.player = career.playerId ∧
      coin.currency = .coins ∧
      (settleMatchWithPolicy career status stats matchId now policy).newCareer.coins =
        career.coins + coin.amount := by
  have hcons : ∀ (p : Prop) [Decidable p] (a b : EconomyLedgerEntry),
      (if p then [a, b] else [a]) = a :: if p then [b] else [] := by
    intro p _ a b
    by_cases hp : p <;> simp [hp]
  have hmem : ∀ (p : Prop) [Decidable p] (b e : EconomyLedgerEntry),
      (e ∈ if p then [b] else []) → e = b := by
    intro p _ b e he
    by_cases hp : p
    · rw [if_pos hp] at he
      exact List.mem_singleton.mp he
    · rw [if_neg hp] at he
      exact (List.not_mem_nil he).elim
  refine ⟨_, _, hcons _ _ _, fun e he => ?_, rfl, rfl, rfl⟩
  rw [hmem _ _ _ he]
  exact fun h => nomatch h

/-- The settlement of a match, for a career whose coins are those that are stored. -/
theorem settlement_ok {db : Accounts} {u : String} {career : PlayerCareer}
    (h : db.career? u = some career) {base : PlayerCareer} (hid : base.playerId = career.playerId)
    (hcoins : base.coins = career.coins) {s : MatchSettlement} {status : MatchStatus}
    {stats : MatchStats} {matchId : String} {now : ℤ} {policy : RewardPolicy}
    (hentries : s.ledgerEntries =
      (settleMatchWithPolicy base status stats matchId now policy).ledgerEntries)
    (hplayer : s.newCareer.playerId = career.playerId)
    (hnew : s.newCareer.coins =
      (settleMatchWithPolicy base status stats matchId now policy).newCareer.coins) :
    PaymentOk db (settlementPayment s) := by
  obtain ⟨row, hrow, hrowcoins⟩ := career?_eq_some h
  obtain ⟨coin, others, hlist, hothers, hcoinplayer, hcurrency, hamount⟩ :=
    settle_entries base status stats matchId now policy
  refine ⟨row, some coin, others, ?_, hentries.trans hlist, hothers, fun e he => ?_, ?_⟩
  · change db.players s.newCareer.playerId = some row
    rw [hplayer]
    exact hrow
  · cases he
    exact ⟨(hcoinplayer.trans hid).trans hplayer.symm, hcurrency⟩
  · change s.newCareer.coins = row.coins + coin.amount
    rw [hnew, hamount, hcoins, hrowcoins]

theorem purchase_ok {db : Accounts} {u : String} {career : PlayerCareer}
    (h : db.career? u = some career) {upgrade : UpgradeType} {purchaseId : String} {now : ℤ}
    (hs : (purchaseUpgrade career upgrade purchaseId now).success = true) :
    PaymentOk db ⟨(purchaseUpgrade career upgrade purchaseId now).newCareer,
      (purchaseUpgrade career upgrade purchaseId now).ledgerEntry.toList⟩ := by
  obtain ⟨row, hrow, hcoins⟩ := career?_eq_some h
  have hid : ∀ (c : PlayerCareer) (level : ℤ), (setUpgradeLevel c upgrade level).playerId =
      c.playerId ∧ (setUpgradeLevel c upgrade level).coins = c.coins := by
    intro c level
    cases upgrade <;> exact ⟨rfl, rfl⟩
  unfold purchaseUpgrade at hs ⊢
  dsimp only at hs ⊢
  split at hs
  · cases hs
  next cost hcost =>
  split at hs
  · cases hs
  next hafford =>
  rw [if_neg hafford]
  refine ⟨row, some _, [], ?_, rfl, fun e he => (List.not_mem_nil he).elim, fun e he => ?_, ?_⟩
  · dsimp only
    rw [(hid _ _).1]
    exact hrow
  · cases he
    dsimp only
    rw [(hid _ _).1]
    exact ⟨rfl, rfl⟩
  · dsimp only
    rw [(hid _ _).2]
    change career.coins - cost = row.coins + -cost
    omega

/-! ### What the decisions pay -/

/-- **The ways in which an operation pays**, each on a career as it is stored: a
settlement, a purchase, a reward, or coins that were bought or are taken back. -/
inductive PayForm (db : Database) : Payment → Prop
  | settle {u : String} {career : PlayerCareer} (h : db.career? u = some career)
    (status : MatchStatus) (stats : MatchStats) (matchId : String) (now : ℤ)
    (policy : RewardPolicy) :
    PayForm db (settlementPayment (settleMatchWithPolicy career status stats matchId now policy))
  | participant {u : String} {career : PlayerCareer} (h : db.career? u = some career)
    (matchId : String) (participant : TwoVTwoParticipantOutcome) (now : ℤ) :
    PayForm db (settlementPayment (settleParticipant matchId participant career now))
  | pilot {u : String} {career : PlayerCareer} (h : db.career? u = some career)
    (pilot : PilotPractice) (summary : PvpBattleSummary) (matchId : String) (now : ℤ) :
    PayForm db (settlementPayment (pilotSettlement career pilot summary matchId now))
  | ticket {u : String} {career : PlayerCareer} (h : db.career? u = some career)
    (ticket : RealmTicket) (summary : PvpBattleSummary) (id : String) (now : ℤ)
    (eligible : Bool) :
    PayForm db (settlementPayment (ticketSettlement career ticket summary id now eligible))
  | abandon {u : String} {career : PlayerCareer} (h : db.career? u = some career)
    (ticket : RealmTicket) (now : ℤ) :
    PayForm db (settlementPayment (abandonSettlement career ticket now))
  | purchase {u : String} {career : PlayerCareer} (h : db.career? u = some career)
    {upgrade : UpgradeType} {purchaseId : String} {now : ℤ}
    (hs : (purchaseUpgrade career upgrade purchaseId now).success = true) :
    PayForm db ⟨(purchaseUpgrade career upgrade purchaseId now).newCareer,
      (purchaseUpgrade career upgrade purchaseId now).ledgerEntry.toList⟩
  | reward {u : String} {career : PlayerCareer} (h : db.career? u = some career) {amount : ℤ}
    (hamount : 0 ≤ amount) (id reason source : String) (now : ℤ) :
    PayForm db ⟨rewarded career amount, [rewardEntry id career amount reason source now]⟩
  | credit {u : String} {career : PlayerCareer} (h : db.career? u = some career)
    {order : CoinOrderRow} (horder : order ∈ db.coinOrders) (id reason source : String) (now : ℤ) :
    PayForm db ⟨rewarded career order.product.coins,
      [rewardEntry id career order.product.coins reason source now]⟩
  | refund {u : String} {career : PlayerCareer} (h : db.career? u = some career)
    (order : CoinOrderRow) (id reason source : String) (now : ℤ) :
    PayForm db ⟨rewarded career (-min career.coins order.product.coins),
      [rewardEntry id career (-min career.coins order.product.coins) reason source now]⟩

/-- No reward of a level is negative. -/
theorem levelDefs_reward : ∀ level ∈ levelDefs, 0 ≤ level.coinReward := by decide

theorem levelDefById_reward {id : ℤ} {level : LevelDef} (h : levelDefById id = some level) :
    0 ≤ level.coinReward := levelDefs_reward level (List.mem_of_find?_eq_some h)

theorem weeklyDef_reward {week slot : ℤ} {level : LevelDef} (h : weeklyDef week slot = some level) :
    0 ≤ level.coinReward := by
  unfold weeklyDef at h
  dsimp only at h
  split at h
  · cases h
  split at h
  · cases h
    show (0 : ℤ) ≤ 50
    decide
  split at h
  · cases h
    show (0 : ℤ) ≤ 80
    decide
  split at h
  · cases h
    show (0 : ℤ) ≤ 120
    decide
  · cases h

theorem coinOrder_mem {db : Database} {id : String} {order : CoinOrderRow}
    (h : db.coinOrder? id = .ok order) : order ∈ db.coinOrders := by
  unfold Database.coinOrder? at h
  split at h
  · cases h
  next horder =>
    cases h
    exact List.mem_of_find?_eq_some horder

theorem decideMatch_form {db : Database} {userId : String} {status : MatchStatus}
    {stats : MatchStats} {matchId : String} {env : Env} {r : MatchSettlement} {p : Payment}
    (h : decideMatch db userId status stats matchId env = .ok (.pay r p)) :
    PayForm db p := by
  simp only [decideMatch, bind, Except.bind, pure, Except.pure] at h
  split at h
  · cases h
  split at h
  · cases h
  next career hcareer =>
  cases h
  exact .settle (getCareerForUpdate_ok hcareer) _ _ _ _ _

theorem decidePurchase_form {db : Database} {userId : String} {upgrade : UpgradeType}
    {purchaseId : String} {now : ℤ} {r : UpgradePurchaseResult} {p : Payment}
    (h : decidePurchase db userId upgrade purchaseId now = .ok (.pay r p)) :
    PayForm db p := by
  simp only [decidePurchase, bind, Except.bind, pure, Except.pure] at h
  split at h
  · cases h
  split at h
  · cases h
  split at h
  · cases h
  next career hcareer =>
  split at h
  · cases h
  next hsuccess =>
  cases h
  exact .purchase (getCareerForUpdate_ok hcareer) (by simpa using hsuccess)

theorem decideDaily_form {db : Database} {userId : String} {rewardType : DailyRewardType}
    {claimId : String} {env : Env} {r : ClaimResult (String × DailyRewardType)} {p : Payment}
    (h : decideDaily db userId rewardType claimId env = .ok (.pay r p)) :
    PayForm db p := by
  simp only [decideDaily, bind, Except.bind, pure, Except.pure, throw, throwThe,
    MonadExceptOf.throw] at h
  split at h
  · cases h
  split at h
  · cases h
  split at h
  · cases h
  next career hcareer =>
  split at h
  · cases h
  split at h
  · cases h
  cases h
  refine .reward (getCareerForUpdate_ok hcareer) ?_ _ _ _ _
  cases rewardType <;> decide

theorem decideLeague_form {db : Database} {userId rankId claimId : String} {env : Env}
    {r : ClaimResult String} {p : Payment}
    (h : decideLeague db userId rankId claimId env = .ok (.pay r p)) :
    PayForm db p := by
  simp only [decideLeague, bind, Except.bind, pure, Except.pure] at h
  split at h
  · cases h
  split at h
  · cases h
  split at h
  · cases h
  next career hcareer =>
  split at h
  · cases h
  split at h
  · cases h
  split at h
  · cases h
  cases h
  exact .reward (getCareerForUpdate_ok hcareer) (by omega) _ _ _ _

theorem pilotSettlement_ok {db : Accounts} {u : String} {career : PlayerCareer}
    (h : db.career? u = some career) (pilot : PilotPractice) (summary : PvpBattleSummary)
    (matchId : String) (now : ℤ) :
    PaymentOk db (settlementPayment (pilotSettlement career pilot summary matchId now)) := by
  have hentries : (pilotSettlement career pilot summary matchId now).ledgerEntries =
      (settleMatchWithPolicy { career with treasuryLevel := pilot.rewardTreasuryLevel }
        summary.status summary.stats matchId now casualPolicy).ledgerEntries := rfl
  exact settlement_ok h (by rfl) (by rfl) hentries rfl rfl

section Replays

variable [MathLib]

theorem decideLevel_form {db : Database} {userId : String} {levelId : ℤ} {claimId : String}
    {actions : List PvpAction} {env : Env} {r : LevelClaimResult} {p : Payment}
    (h : decideLevel db userId levelId claimId actions env = .ok (.pay r p)) :
    PayForm db p := by
  simp only [decideLevel, bind, Except.bind, pure, Except.pure, throw, throwThe,
    MonadExceptOf.throw] at h
  split at h
  · cases h
  next level hlevel =>
  split at h
  · cases h
  split at h
  · cases h
  split at h
  · cases h
  split at h
  · cases h
  split at h
  · cases h
  next career hcareer =>
  split at h
  · cases h
  split at h
  · cases h
  cases h
  exact .reward (getCareerForUpdate_ok hcareer) (levelDefById_reward hlevel) _ _ _ _

theorem decideWeekly_form {db : Database} {userId : String} {week slot : ℤ} {claimId : String}
    {actions : List PvpAction} {env : Env} {r : ClaimResult (ℤ × ℤ)} {p : Payment}
    (h : decideWeekly db userId week slot claimId actions env = .ok (.pay r p)) :
    PayForm db p := by
  simp only [decideWeekly, bind, Except.bind, pure, Except.pure, throw, throwThe,
    MonadExceptOf.throw] at h
  split at h
  · cases h
  next level hlevel =>
  split at h
  · cases h
  split at h
  · cases h
  split at h
  · cases h
  split at h
  · cases h
  split at h
  · cases h
  split at h
  · cases h
  next career hcareer =>
  split at h
  · cases h
  cases h
  exact .reward (getCareerForUpdate_ok hcareer) (weeklyDef_reward hlevel) _ _ _ _

theorem decideLane_form {db : Database} {userId : String} {levelId : ℤ} {claimId : String}
    {actions : List LaneAction} {env : Env} {r : ClaimResult ℤ} {p : Payment}
    (h : decideLane db userId levelId claimId actions env = .ok (.pay r p)) :
    PayForm db p := by
  simp only [decideLane, bind, Except.bind, pure, Except.pure, throw, throwThe,
    MonadExceptOf.throw] at h
  split at h
  · cases h
  split at h
  · cases h
  split at h
  · cases h
  split at h
  · cases h
  split at h
  · cases h
  split at h
  · cases h
  next career hcareer =>
  split at h
  · cases h
  cases h
  refine .reward (getCareerForUpdate_ok hcareer) ?_ _ _ _ _
  unfold laneRewardByDifficulty
  split <;> decide

theorem decidePilot_form {db : Database} {userId matchId : String} {actions : List PvpAction}
    {env : Env} {r : MatchSettlement} {p : Payment}
    (h : decidePilot db userId matchId actions env = .ok (.pay r p)) :
    PayForm db p := by
  simp only [decidePilot, bind, Except.bind, pure, Except.pure, throw, throwThe,
    MonadExceptOf.throw] at h
  split at h
  · cases h
  next career hcareer =>
  split at h
  · cases h
  split at h
  · cases h
  split at h
  · cases h
  split at h
  · cases h
  split at h
  · cases h
  split at h
  · cases h
  split at h
  · cases h
  split at h
  · cases h
  split at h
  · cases h
  cases h
  exact .pilot (realmCareerForUpdate_ok hcareer) _ _ _ _

theorem decideVerified_form {db : Database} {userId matchId : String} {actions : List PvpAction}
    {env : Env} {r : MatchSettlement} {p : Payment}
    (h : decideVerified db userId matchId actions env = .ok (.pay r p)) :
    PayForm db p := by
  simp only [decideVerified, bind, Except.bind, pure, Except.pure, throw, throwThe,
    MonadExceptOf.throw] at h
  split at h
  · exact decidePilot_form h
  split at h
  · cases h
  split at h
  · split at h
    · cases h
    · cases h
  split at h
  · cases h
  split at h
  · cases h
  split at h
  · cases h
  next career hcareer =>
  split at h
  · cases h
  cases h
  exact .settle (getCareerForUpdate_ok hcareer) _ _ _ _ _

theorem decidePvpAttack_form {db : Database} {attackerId defenderId attackId : String}
    {actions : List PvpAction} {env : Env} {r : PvpAttackResult} {p : Payment}
    (h : decidePvpAttack db attackerId defenderId attackId actions env = .ok (.pay r p)) :
    PayForm db p := by
  simp only [decidePvpAttack, bind, Except.bind, pure, Except.pure, throw, throwThe,
    MonadExceptOf.throw] at h
  split at h
  · cases h
  split at h
  · split at h
    · cases h
    · cases h
  split at h
  · cases h
  split at h
  · cases h
  next career hcareer =>
  split at h
  · cases h
  split at h
  · cases h
  cases h
  exact .settle (getCareerForUpdate_ok hcareer) _ _ _ _ _

end Replays

/-! ### Realm tickets and coin orders -/

/-- The treasury counts as one of the levels there are. -/
theorem treasuryCoinBonusRate_clamp (level : ℤ) :
    treasuryCoinBonusRate level = treasuryCoinBonusRate (min 20 (max 0 level)) := by
  have hclamp : min 20 (max 0 (min 20 (max 0 level))) = min 20 (max 0 level) := by omega
  unfold treasuryCoinBonusRate
  rw [hclamp]

/-- What a match can be worth before the treasury, which is so many times five coins, at
the rate of any level. -/
theorem treasuryProduct_nonneg : ∀ fives ∈ Finset.Icc (2 : ℤ) 19,
    ∀ level ∈ Finset.Icc (0 : ℤ) 20,
      0 ≤ exactValue (Float.ofInt (5 * fives) * treasuryCoinBonusRate level) := by
  decide +kernel

theorem withTreasury_totalCoins {base speed domination streak : ℤ}
    (hfives : 5 ∣ base + speed + domination + streak)
    (hlow : 10 ≤ base + speed + domination + streak)
    (hhigh : base + speed + domination + streak ≤ 95) (level trophyDelta : ℤ) :
    10 ≤ (withTreasury level base speed domination streak trophyDelta).totalCoins := by
  obtain ⟨fives, hsum⟩ := hfives
  have hlevel : min 20 (max 0 level) ∈ Finset.Icc (0 : ℤ) 20 :=
    Finset.mem_Icc.mpr ⟨by omega, by omega⟩
  have hmem : fives ∈ Finset.Icc (2 : ℤ) 19 := Finset.mem_Icc.mpr ⟨by omega, by omega⟩
  have hproduct := treasuryProduct_nonneg fives hmem _ hlevel
  rw [← treasuryCoinBonusRate_clamp, ← hsum] at hproduct
  have hbonus := Int.floor_nonneg.mpr hproduct
  change 10 ≤ base + speed + domination + streak + ⌊_⌋
  omega

/-- **A match always pays coins.** -/
theorem calculateMatchRewards_totalCoins (status : MatchStatus) (stats : MatchStats)
    (streak level : ℤ) : 10 ≤ (calculateMatchRewards status stats streak level).totalCoins := by
  cases status with
  | victory =>
    have hstreak : min 25 (max 0 ((streak + 1 - 1) * 5)) = 5 * min 5 (max 0 streak) := by omega
    refine withTreasury_totalCoins ?_ ?_ ?_ level 30
    · rw [hstreak]
      split_ifs <;> omega
    · split_ifs <;> omega
    · split_ifs <;> omega
  | defeat => exact withTreasury_totalCoins (by decide) (by decide) (by decide) level (-12)
  | playing => exact withTreasury_totalCoins (by decide) (by decide) (by decide) level 5
  | draw => exact withTreasury_totalCoins (by decide) (by decide) (by decide) level 5

/-- The trophies that a realm battle moves are no coins. -/
theorem trophies_ne_coins (entries : List EconomyLedgerEntry) (source : RealmSource)
    (eligible : Bool) : ∀ e ∈ (if source = .ranked ∧ eligible then
      entries.filter fun e => e.currency = .trophies else []), e.currency ≠ .coins := by
  intro e he
  split at he
  · have htrophies : e.currency = .trophies := by simpa using (List.mem_filter.mp he).2
    rw [htrophies]
    exact fun h => nomatch h
  · exact (List.not_mem_nil he).elim

/-- The coins that a realm battle pays. -/
def realmCoins (career : PlayerCareer) (status : MatchStatus) (stats : MatchStats)
    (source : RealmSource) (eligible : Bool) : ℤ :=
  if !eligible then 0
  else if source = .ranked then
    (calculateMatchRewards status stats career.currentStreak career.treasuryLevel).totalCoins
  else 20

theorem realmCoins_nonneg (career : PlayerCareer) (status : MatchStatus) (stats : MatchStats)
    (source : RealmSource) (eligible : Bool) :
    0 ≤ realmCoins career status stats source eligible := by
  unfold realmCoins
  split
  · exact le_refl 0
  · split
    · have htotal := calculateMatchRewards_totalCoins status stats career.currentStreak
        career.treasuryLevel
      omega
    · decide

theorem realmSettlement_coins (career : PlayerCareer) (status : MatchStatus) (stats : MatchStats)
    (id : String) (now : ℤ) (source : RealmSource) (eligible : Bool) :
    (realmSettlement career status stats id now source eligible).newCareer.coins =
      career.coins + realmCoins career status stats source eligible := by
  cases eligible <;> cases source <;> rfl

theorem realmSettlement_playerId (career : PlayerCareer) (status : MatchStatus)
    (stats : MatchStats) (id : String) (now : ℤ) (source : RealmSource) (eligible : Bool) :
    (realmSettlement career status stats id now source eligible).newCareer.playerId =
      career.playerId := by
  cases eligible <;> cases source <;> rfl

/-- There is an entry for the coins of a realm settlement when there are any. -/
theorem realmSettlement_entries (career : PlayerCareer) (status : MatchStatus)
    (stats : MatchStats) (id : String) (now : ℤ) (source : RealmSource) (eligible : Bool) :
    ∃ coin others, (realmSettlement career status stats id now source eligible).ledgerEntries =
        Option.toList coin ++ others ∧
      (∀ e ∈ others, e.currency ≠ .coins) ∧
      (∀ e, coin = some e → e.player = career.playerId ∧ e.currency = .coins) ∧
      realmCoins career status stats source eligible =
        coin.elim 0 EconomyLedgerEntry.amount := by
  have hnonneg := realmCoins_nonneg career status stats source eligible
  have hcoins : ∃ (e : EconomyLedgerEntry) (entries : List EconomyLedgerEntry),
      (realmSettlement career status stats id now source eligible).ledgerEntries =
        (if 0 < realmCoins career status stats source eligible then [e] else []) ++
          (if source = .ranked ∧ eligible then entries.filter fun e => e.currency = .trophies
            else []) ∧
      e.player = career.playerId ∧ e.currency = .coins ∧
      e.amount = realmCoins career status stats source eligible := by
    cases eligible <;> cases source <;>
      exact ⟨_, (settleMatchWithPolicy career status stats id now rankedPolicy).ledgerEntries,
        rfl, rfl, rfl, rfl⟩
  obtain ⟨e, entries, hentries, hplayer, hcurrency, hamount⟩ := hcoins
  by_cases hpos : 0 < realmCoins career status stats source eligible
  · refine ⟨some e, _, ?_, trophies_ne_coins entries source eligible, fun d hd => ?_, hamount.symm⟩
    · rw [hentries, if_pos hpos]
      rfl
    · cases hd
      exact ⟨hplayer, hcurrency⟩
  · refine ⟨none, _, ?_, trophies_ne_coins entries source eligible, fun d hd => ?_, ?_⟩
    · rw [hentries, if_neg hpos]
      rfl
    · cases hd
    · change _ = (0 : ℤ)
      omega

/-- A realm settlement, for a career whose coins are those that are stored. -/
theorem realm_ok {db : Accounts} {u : String} {career : PlayerCareer}
    (h : db.career? u = some career) {base : PlayerCareer} (hid : base.playerId = career.playerId)
    (hcoins : base.coins = career.coins) {s : MatchSettlement} {status : MatchStatus}
    {stats : MatchStats} {id : String} {now : ℤ} {source : RealmSource} {eligible : Bool}
    {more : List EconomyLedgerEntry} (hmore : ∀ e ∈ more, e.currency ≠ .coins)
    (hentries : s.ledgerEntries =
      (realmSettlement base status stats id now source eligible).ledgerEntries ++ more)
    (hplayer : s.newCareer.playerId =
      (realmSettlement base status stats id now source eligible).newCareer.playerId)
    (hnew : s.newCareer.coins =
      (realmSettlement base status stats id now source eligible).newCareer.coins) :
    PaymentOk db (settlementPayment s) := by
  obtain ⟨row, hrow, hrowcoins⟩ := career?_eq_some h
  obtain ⟨coin, others, hlist, hothers, hfields, hamount⟩ :=
    realmSettlement_entries base status stats id now source eligible
  rw [realmSettlement_playerId, hid] at hplayer
  rw [realmSettlement_coins, hcoins, hamount] at hnew
  refine ⟨row, coin, others ++ more, ?_, ?_, fun e he => ?_, fun e he => ?_, ?_⟩
  · change db.players s.newCareer.playerId = some row
    rw [hplayer]
    exact hrow
  · change s.ledgerEntries = _
    rw [hentries, hlist, List.append_assoc]
  · rcases List.mem_append.mp he with he | he
    · exact hothers e he
    · exact hmore e he
  · obtain ⟨hentry, hcurrency⟩ := hfields e he
    exact ⟨(hentry.trans hid).trans hplayer.symm, hcurrency⟩
  · change s.newCareer.coins = _
    rw [hnew, hrowcoins]

theorem ticketSettlement_ok {db : Accounts} {u : String} {career : PlayerCareer}
    (h : db.career? u = some career) (ticket : RealmTicket) (summary : PvpBattleSummary)
    (id : String) (now : ℤ) (eligible : Bool) :
    PaymentOk db (settlementPayment (ticketSettlement career ticket summary id now eligible)) := by
  have hentries : (ticketSettlement career ticket summary id now eligible).ledgerEntries =
      (realmSettlement { career with treasuryLevel := ticket.rewardTreasuryLevel } summary.status
        summary.stats id now ticket.source eligible).ledgerEntries ++ [] :=
    (List.append_nil _).symm
  exact realm_ok h (by rfl) (by rfl) (fun e he => (List.not_mem_nil he).elim) hentries rfl rfl

theorem abandonSettlement_ok {db : Accounts} {u : String} {career : PlayerCareer}
    (h : db.career? u = some career) (ticket : RealmTicket) (now : ℤ) :
    PaymentOk db (settlementPayment (abandonSettlement career ticket now)) := by
  have hnil : ∀ entries : List EconomyLedgerEntry, entries = entries ++ [] := fun entries =>
    (List.append_nil entries).symm
  unfold abandonSettlement
  dsimp only
  split
  · exact realm_ok h (by rfl) (by rfl) (fun e he => (List.not_mem_nil he).elim) (hnil _) rfl rfl
  · split
    · refine realm_ok h (by rfl) (by rfl) (fun e he => ?_) rfl rfl rfl
      rw [List.mem_singleton.mp he]
      exact fun h => nomatch h
    · exact realm_ok h (by rfl) (by rfl) (fun e he => (List.not_mem_nil he).elim) (hnil _) rfl rfl

theorem realmTicket?_ok {db : Database} {userId id : String} {row : RealmTicketRow}
    (h : db.realmTicket? userId id = .ok row) :
    row ∈ db.realmTickets ∧ row.id = id ∧ row.playerId = userId := by
  unfold Database.realmTicket? at h
  split at h
  · cases h
  next found hfound =>
    split at h
    · cases h
    next howner =>
      cases h
      exact ⟨List.mem_of_find?_eq_some hfound, by simpa using List.find?_some hfound,
        not_not.mp howner⟩

/-- A ticket is settled by its player, while it is active. -/
theorem decideRealm_inv [MathLib] {db : Database} {userId id : String} {actions : List PvpAction}
    {env : Env} {d : Decision RealmResult} (h : decideRealm db userId id actions env = .ok d) :
    (∃ row ∈ db.realmTickets, ∃ r, row.id = id ∧ row.result = some r ∧ d = .answer r) ∨
      ∃ row ∈ db.realmTickets, ∃ career summary eligible, row.id = id ∧
        row.playerId = userId ∧ row.state = .active ∧ db.career? userId = some career ∧
        db.findStoredSettlement id = none ∧
        eligible = (db.realmEligibility userId row.document.defenderId row.document.source env &&
          row.document.rewardEligible) ∧
        d = .pay ⟨row.document, ticketSettlement career row.document summary id env.nowMillis
            eligible, eligible⟩
          (settlementPayment (ticketSettlement career row.document summary id env.nowMillis
            eligible)) := by
  simp only [decideRealm, bind, Except.bind, pure, Except.pure, throw, throwThe,
    MonadExceptOf.throw] at h
  split at h
  · cases h
  next career hcareer =>
  split at h
  · cases h
  next row hrow =>
  obtain ⟨hmem, hid, hplayer⟩ := realmTicket?_ok hrow
  split at h
  next r hr =>
    cases h
    exact Or.inl ⟨row, hmem, r, hid, hr, rfl⟩
  split at h
  · cases h
  next hactive =>
  split at h
  · cases h
  split at h
  · cases h
  split at h
  · cases h
  split at h
  · cases h
  split at h
  · cases h
  split at h
  · cases h
  next hfree =>
  cases h
  exact Or.inr ⟨row, hmem, career, _, _, hid, hplayer, not_not.mp hactive,
    realmCareerForUpdate_ok hcareer, by simpa using hfree, rfl, rfl⟩

theorem decideRealm_form [MathLib] {db : Database} {userId id : String} {actions : List PvpAction}
    {env : Env} {r : RealmResult} {p : Payment}
    (h : decideRealm db userId id actions env = .ok (.pay r p)) : PayForm db p := by
  rcases decideRealm_inv h with ⟨-, -, r', -, -, hanswer⟩ |
    ⟨row, -, career, summary, eligible, -, -, -, hcareer, -, -, hpay⟩
  · cases hanswer
  · cases hpay
    exact .ticket hcareer _ _ _ _ _

/-- A ticket is given up by its player, while it is active. -/
theorem decideAbandon_inv {db : Database} {userId id : String} {env : Env}
    {d : Decision (Option RealmResult)} (h : decideAbandon db userId id env = .ok d) :
    d = .answer none ∨ ∃ row ∈ db.realmTickets, ∃ career, row.id = id ∧
      row.playerId = userId ∧ row.state = .active ∧ db.career? userId = some career ∧
      db.findStoredSettlement row.document.matchId = none ∧
      d = .pay (some ⟨row.document, abandonSettlement career row.document env.nowMillis, false⟩)
        (settlementPayment (abandonSettlement career row.document env.nowMillis)) := by
  simp only [decideAbandon, bind, Except.bind, pure, Except.pure, throw, throwThe,
    MonadExceptOf.throw] at h
  split at h
  · cases h
  next career hcareer =>
  split at h
  · cases h
  next row hrow =>
  obtain ⟨hmem, hid, hplayer⟩ := realmTicket?_ok hrow
  split at h
  · cases h
    exact Or.inl rfl
  next hactive =>
  split at h
  · cases h
  next hfree =>
  cases h
  exact Or.inr ⟨row, hmem, career, hid, hplayer, not_not.mp hactive,
    realmCareerForUpdate_ok hcareer, by simpa using hfree, rfl⟩

theorem decideAbandon_form {db : Database} {userId id : String} {env : Env}
    {r : Option RealmResult} {p : Payment}
    (h : decideAbandon db userId id env = .ok (.pay r p)) : PayForm db p := by
  rcases decideAbandon_inv h with hanswer | ⟨row, -, career, -, -, -, hcareer, -, hpay⟩
  · cases hanswer
  · cases hpay
    exact .abandon hcareer _ _

/-- What an abandoned ticket leaves says which one it was, and when. -/
theorem abandonSettlement_id (career : PlayerCareer) (ticket : RealmTicket) (now : ℤ) :
    (abandonSettlement career ticket now).matchId = ticket.matchId ∧
      (abandonSettlement career ticket now).newCareer.lastMatchTimestamp = now := by
  have hrealm : ∀ source, (realmSettlement career .defeat MatchStats.zero ticket.matchId now source
      false).newCareer.lastMatchTimestamp = now := by
    intro source
    cases source <;> rfl
  unfold abandonSettlement
  dsimp only
  split
  · exact ⟨rfl, hrealm ticket.source⟩
  · exact ⟨rfl, hrealm ticket.source⟩

theorem ticketSettlement_id (career : PlayerCareer) (ticket : RealmTicket)
    (summary : PvpBattleSummary) (id : String) (now : ℤ) (eligible : Bool) :
    (ticketSettlement career ticket summary id now eligible).matchId = id ∧
      (ticketSettlement career ticket summary id now eligible).newCareer.lastMatchTimestamp =
        now := by
  obtain ⟨treasury, matchId, source⟩ := ticket
  cases source <;> cases eligible <;> exact ⟨rfl, rfl⟩

/-- An order that is credited is pending and bound to the transaction. -/
theorem decideFulfill_pays {db : Database} {payment : VerifiedCoinPayment} {env : Env}
    {r : CoinOrderRow} {p : Payment} (h : decideFulfill db payment env = .ok (.pay r p)) :
    ∃ order career, db.coinOrder? payment.orderId = .ok order ∧
      db.career? order.playerId = some career ∧ validCoinPayment order payment = true ∧
      order.transactionId = some payment.transactionId ∧ order.state = .pending ∧
      r = { order with state := .fulfilled } ∧
      p = ⟨rewarded career order.product.coins, [rewardEntry ("coin_order_" ++ order.id) career
        order.product.coins "coin_purchase" order.id env.nowMillis]⟩ := by
  simp only [decideFulfill, bind, Except.bind, pure, Except.pure, throw, throwThe,
    MonadExceptOf.throw] at h
  split at h
  · cases h
  next order horder =>
  split at h
  · cases h
  next career hcareer =>
  split at h
  · cases h
  next hvalid =>
  split at h
  · split at h
    · cases h
    · cases h
  split at h
  · cases h
  next htransaction =>
  split at h
  · cases h
  next hstate =>
  split at h
  · cases h
  cases h
  exact ⟨order, career, horder, realmCareerForUpdate_ok hcareer, by simpa using hvalid,
    not_not.mp htransaction, not_not.mp hstate, rfl, rfl⟩

theorem decideFulfill_form {db : Database} {payment : VerifiedCoinPayment} {env : Env}
    {r : CoinOrderRow} {p : Payment} (h : decideFulfill db payment env = .ok (.pay r p)) :
    PayForm db p := by
  obtain ⟨order, career, horder, hcareer, -, -, -, -, rfl⟩ := decideFulfill_pays h
  exact .credit hcareer (coinOrder_mem horder) _ _ _ _

/-- An order that is refunded is fulfilled. -/
theorem decideRefund_pays {db : Database} {id reference note : String} {env : Env}
    {r : CoinOrderRow} {p : Payment} (h : decideRefund db id reference note env = .ok (.pay r p)) :
    ∃ order career, db.coinOrder? id = .ok order ∧ db.career? order.playerId = some career ∧
      order.state = .fulfilled ∧
      r = { order with state := .refunded, refundReference := some reference } ∧
      p = ⟨rewarded career (-min career.coins order.product.coins),
        [rewardEntry ("coin_refund_" ++ id) career (-min career.coins order.product.coins)
          "coin_refund" id env.nowMillis]⟩ := by
  simp only [decideRefund, bind, Except.bind, pure, Except.pure, throw, throwThe,
    MonadExceptOf.throw] at h
  split at h
  · cases h
  split at h
  · cases h
  next order horder =>
  split at h
  · cases h
  next career hcareer =>
  split at h
  · split at h
    · cases h
    · cases h
  split at h
  · cases h
  next hstate =>
  split at h
  · cases h
  cases h
  exact ⟨order, career, horder, realmCareerForUpdate_ok hcareer, not_not.mp hstate, rfl, rfl⟩

theorem decideRefund_form {db : Database} {id reference note : String} {env : Env}
    {r : CoinOrderRow} {p : Payment} (h : decideRefund db id reference note env = .ok (.pay r p)) :
    PayForm db p := by
  obtain ⟨order, career, -, hcareer, -, -, rfl⟩ := decideRefund_pays h
  exact .refund hcareer _ _ _ _ _

end CrownClash.Store
