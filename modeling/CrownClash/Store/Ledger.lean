import CrownClash.Store.Decisions
import CrownClash.Store.Settle2v2Atomic

/-!
# Store: the books of the players

A store takes one operation after the other.  Each of them pays by writing a career
and inserting ledger rows, and the ids of these rows come from ids that the clients
choose, one id space for all operations.

`payments` is what an operation pays, by its own checks.  `ledger_complete` says
when the coins of every player stay what the ledger says: exactly if no operation
pays coins under a row id that is taken.
-/

namespace CrownClash.Store

open Lib
open Go (PlayerCareer UpgradeType)

/-- A committed operation, with what it read from outside. -/
inductive StoreOp
  | settleMatch (userId : String) (status : MatchStatus) (stats : MatchStats) (matchId : String)
      (env : Env)
  | settleMatchVerified (userId matchId : String) (actions : List PvpAction) (env : Env)
  | settleMatch2v2 (request : Settle2v2Request) (clock : Clock)
  | settlePvpAttack (attackerId defenderId attackId : String) (actions : List PvpAction)
      (env : Env)
  | purchaseUpgrade (userId : String) (upgrade : UpgradeType) (purchaseId : String) (now : ℤ)
  | claimDailyReward (userId : String) (rewardType : DailyRewardType) (claimId : String)
      (env : Env)
  | claimLeagueReward (userId rankId claimId : String) (env : Env)
  | completeLevelVerified (userId : String) (levelId : ℤ) (claimId : String)
      (actions : List PvpAction) (env : Env)
  | completeWeeklyVerified (userId : String) (week slot : ℤ) (claimId : String)
      (actions : List PvpAction) (env : Env)
  | completeLaneVerified (userId : String) (levelId : ℤ) (claimId : String)
      (actions : List LaneAction) (env : Env)
  | settleRealmAttack (userId id : String) (actions : List PvpAction) (env : Env)
  | abandonRealmAttack (userId id : String) (env : Env)
  | fulfillCoinOrder (payment : VerifiedCoinPayment) (env : Env)
  | recordCoinRefund (id reference note : String) (env : Env)
  /-- Tickets, defences and orders are issued, which pays nobody. -/
  | issue (tables : IssuedTables)

/-! ### A 2v2 settlement, undisturbed -/

/-- The careers of a 2v2 settlement that is not stored yet. -/
def decide2v2 (db : Database) (request : Settle2v2Request) :
    Except Settle2v2Error (List MatchSettlement ⊕ (String → PlayerCareer)) := do
  validateSettle2v2Request request
  match ← findStored2v2Settlements db.toMatchTables request.matchId with
  | some stored => return .inl stored
  | none =>
    let careers ← getCareersForUpdate db.toAccounts (sortBy (fun a b => a < b) request.userIds)
    return .inr careers

def Database.settleMatch2v2 (db : Database) (request : Settle2v2Request) (clock : Clock) :
    Except StoreError (List MatchSettlement × Database) :=
  match decide2v2 db request with
  | .error e => .error (.settle2v2 e)
  | .ok (.inl stored) => .ok (stored, db)
  | .ok (.inr careers) =>
    .ok ((List.finRange 4).map (settlements2v2 request careers clock),
      { db with toMatchTables := persist2v2 db.toMatchTables request careers clock })

def payments2v2 (request : Settle2v2Request) (careers : String → PlayerCareer) (clock : Clock) :
    List Payment :=
  (List.finRange 4).map fun k => settlementPayment (settlements2v2 request careers clock k)

/-- The store after a transaction: a refused one is rolled back. -/
def committed {ρ : Type} (db : Database) (result : Except StoreError (ρ × Database)) : Database :=
  match result with
  | .error _ => db
  | .ok p => p.2

/-- What a decision pays. -/
def paid {ρ : Type} (decision : Except StoreError (Decision ρ)) : List Payment :=
  match decision with
  | .error _ => []
  | .ok d => d.payment?.toList

section Ops

variable [MathLib]

def Database.run (db : Database) : StoreOp → Database
  | .settleMatch userId status stats matchId env =>
    committed db (db.settleMatch userId status stats matchId env)
  | .settleMatchVerified userId matchId actions env =>
    committed db (db.settleMatchVerified userId matchId actions env)
  | .settleMatch2v2 request clock => committed db (db.settleMatch2v2 request clock)
  | .settlePvpAttack attackerId defenderId attackId actions env =>
    committed db (db.settlePvpAttack attackerId defenderId attackId actions env)
  | .purchaseUpgrade userId upgrade purchaseId now =>
    committed db (db.purchaseUpgrade userId upgrade purchaseId now)
  | .claimDailyReward userId rewardType claimId env =>
    committed db (db.claimDailyReward userId rewardType claimId env)
  | .claimLeagueReward userId rankId claimId env =>
    committed db (db.claimLeagueReward userId rankId claimId env)
  | .completeLevelVerified userId levelId claimId actions env =>
    committed db (db.completeLevelVerified userId levelId claimId actions env)
  | .completeWeeklyVerified userId week slot claimId actions env =>
    committed db (db.completeWeeklyVerified userId week slot claimId actions env)
  | .completeLaneVerified userId levelId claimId actions env =>
    committed db (db.completeLaneVerified userId levelId claimId actions env)
  | .settleRealmAttack userId id actions env =>
    committed db (db.settleRealmAttack userId id actions env)
  | .abandonRealmAttack userId id env => committed db (db.abandonRealmAttack userId id env)
  | .fulfillCoinOrder payment env => committed db (db.fulfillCoinOrder payment env)
  | .recordCoinRefund id reference note env =>
    committed db (db.recordCoinRefund id reference note env)
  | .issue tables => { db with toIssuedTables := tables }

/-- What an operation pays in a store, as its checks decide. -/
def StoreOp.payments (db : Database) : StoreOp → List Payment
  | .settleMatch userId status stats matchId env =>
    paid (decideMatch db userId status stats matchId env)
  | .settleMatchVerified userId matchId actions env =>
    paid (decideVerified db userId matchId actions env)
  | .settleMatch2v2 request clock =>
    match decide2v2 db request with
    | .ok (.inr careers) => payments2v2 request careers clock
    | _ => []
  | .settlePvpAttack attackerId defenderId attackId actions env =>
    paid (decidePvpAttack db attackerId defenderId attackId actions env)
  | .purchaseUpgrade userId upgrade purchaseId now =>
    paid (decidePurchase db userId upgrade purchaseId now)
  | .claimDailyReward userId rewardType claimId env =>
    paid (decideDaily db userId rewardType claimId env)
  | .claimLeagueReward userId rankId claimId env =>
    paid (decideLeague db userId rankId claimId env)
  | .completeLevelVerified userId levelId claimId actions env =>
    paid (decideLevel db userId levelId claimId actions env)
  | .completeWeeklyVerified userId week slot claimId actions env =>
    paid (decideWeekly db userId week slot claimId actions env)
  | .completeLaneVerified userId levelId claimId actions env =>
    paid (decideLane db userId levelId claimId actions env)
  | .settleRealmAttack userId id actions env => paid (decideRealm db userId id actions env)
  | .abandonRealmAttack userId id env => paid (decideAbandon db userId id env)
  | .fulfillCoinOrder payment env => paid (decideFulfill db payment env)
  | .recordCoinRefund id reference note env => paid (decideRefund db id reference note env)
  | .issue _ => []

end Ops

/-- The coins of every player have moved with the ledger since the start. -/
def Balanced (start db : Database) : Prop :=
  ∀ u, coinsOf db.toAccounts u - coinsOf start.toAccounts u =
    ledgerCoins db.ledger u - ledgerCoins start.ledger u

/-- No coins are paid under a row id that is taken. -/
def RowsFree [MathLib] (db : Database) (op : StoreOp) : Prop :=
  ∀ p ∈ op.payments db, ∀ e ∈ p.entries, e.currency = .coins → e.amount ≠ 0 →
    ¬ Holds EconomyLedgerEntry.id db.ledger e.id

theorem balanced_iff {start db : Database} :
    Balanced start db ↔ ∀ u, gap db.toAccounts u = gap start.toAccounts u := by
  unfold Balanced gap
  constructor
  · intro h u
    have hu := h u
    omega
  · intro h u
    have hu := h u
    omega

/-! ### What an operation does to the books -/

/-- What the writes besides the payment leave alone comes out as the payments leave it. -/
theorem committed_eq {α ρ : Type} {F : Accounts → α} {db : Database}
    {decision : Except StoreError (Decision ρ)} {record write : ρ → Database → Database}
    (hrecord : ∀ r db, F (record r db).toAccounts = F db.toAccounts)
    (hwrite : ∀ r db, F (write r db).toAccounts = F db.toAccounts) :
    F (committed db (decision.map fun d => d.commit db record write)).toAccounts =
      F ((paid decision).foldl Accounts.pay db.toAccounts) := by
  cases decision with
  | error e => rfl
  | ok d =>
    cases d with
    | answer r => rfl
    | record r => exact hrecord r db
    | pay r p => exact hwrite r (db.pay p)

/-- What no write touches stays as it was, whatever is decided. -/
theorem committed_frame {α ρ : Type} {F : Database → α} {db : Database}
    {decision : Except StoreError (Decision ρ)} {record write : ρ → Database → Database}
    (hpay : ∀ db p, F (Database.pay db p) = F db) (hrecord : ∀ r db, F (record r db) = F db)
    (hwrite : ∀ r db, F (write r db) = F db) :
    F (committed db (decision.map fun d => d.commit db record write)) = F db := by
  cases decision with
  | error e => rfl
  | ok d =>
    cases d with
    | answer r => rfl
    | record r => exact hrecord r db
    | pay r p => exact (hwrite r (db.pay p)).trans (hpay db p)

/-- A transaction keeps what its writes keep. -/
theorem committed_inv {ρ : Type} {I : Database → Prop} {db : Database}
    {decision : Except StoreError (Decision ρ)} {record write : ρ → Database → Database}
    (h : I db) (hrecord : ∀ r, decision = .ok (.record r) → I (record r db))
    (hwrite : ∀ r p, decision = .ok (.pay r p) → I (write r (db.pay p))) :
    I (committed db (decision.map fun d => d.commit db record write)) := by
  cases decision with
  | error e => exact h
  | ok d =>
    cases d with
    | answer r => exact h
    | record r => exact hrecord r rfl
    | pay r p => exact hwrite r p rfl

theorem gap_setLevelsCompleted (db : Accounts) (userId : String) (completed : ℤ) (u : String) :
    gap (db.setLevelsCompleted userId completed) u = gap db u := by
  unfold gap coinsOf Accounts.setLevelsCompleted
  dsimp only
  by_cases hu : u = userId
  · rw [hu, Function.update_self]
    cases db.players userId <;> rfl
  · rw [Function.update_of_ne hu]

/-- One payment at most, and in one of the ways there are. -/
theorem paid_form {ρ : Type} {db : Database} {decision : Except StoreError (Decision ρ)}
    (h : ∀ {r : ρ} {p : Payment}, decision = .ok (.pay r p) → PayForm db p) :
    (∀ p ∈ paid decision, PayForm db p) ∧ PaysApart (paid decision) := by
  cases decision with
  | error e => exact ⟨fun p hp => (List.not_mem_nil hp).elim, List.Pairwise.nil⟩
  | ok d =>
    cases d with
    | answer r => exact ⟨fun p hp => (List.not_mem_nil hp).elim, List.Pairwise.nil⟩
    | record r => exact ⟨fun p hp => (List.not_mem_nil hp).elim, List.Pairwise.nil⟩
    | pay r p =>
      refine ⟨fun q hq => ?_, List.pairwise_singleton _ p⟩
      rw [List.mem_singleton.mp hq]
      exact h rfl

/-! ### A 2v2 settlement and the books -/

theorem PaymentOk.map_entries {db : Accounts} {p : Payment} (h : PaymentOk db p)
    {f : EconomyLedgerEntry → EconomyLedgerEntry} (hplayer : ∀ e, (f e).player = e.player)
    (hcurrency : ∀ e, (f e).currency = e.currency) (hamount : ∀ e, (f e).amount = e.amount) :
    PaymentOk db ⟨p.career, p.entries.map f⟩ := by
  obtain ⟨row, coin, others, hrow, hentries, hothers, hcoin, hcoins⟩ := h.shape
  refine ⟨row, coin.map f, others.map f, hrow, ?_, fun e he => ?_, fun e he => ?_, ?_⟩
  · dsimp only
    rw [hentries, List.map_append]
    cases coin <;> rfl
  · obtain ⟨d, hd, rfl⟩ := List.mem_map.mp he
    rw [hcurrency]
    exact hothers d hd
  · obtain ⟨d, hd, rfl⟩ := Option.map_eq_some_iff.mp he
    rw [hplayer, hcurrency]
    exact hcoin d hd
  · dsimp only
    rw [hcoins]
    cases coin with
    | none => rfl
    | some d => exact congrArg (row.coins + ·) (hamount d).symm

theorem settleParticipant_ok {db : Accounts} {u : String} {career : PlayerCareer}
    (h : db.career? u = some career) (matchId : String)
    (participant : TwoVTwoParticipantOutcome) (now : ℤ) :
    PaymentOk db (settlementPayment (settleParticipant matchId participant career now)) :=
  (settlement_ok h (by rfl) (by rfl) (by rfl) (by rfl) (by rfl) : PaymentOk db
    (settlementPayment (settleMatchWithPolicy career participant.settledStatus
      participant.settledStats matchId now casualPolicy))).map_entries
    (fun _ => rfl) (fun _ => rfl) fun _ => rfl

theorem settleParticipant_id {matchId : String} {participant : TwoVTwoParticipantOutcome}
    {career : PlayerCareer} {now : ℤ} {e : EconomyLedgerEntry}
    (h : e ∈ (settleParticipant matchId participant career now).ledgerEntries) :
    ∃ c t, e.id = ledgerId2v2 matchId participant.userId c t := by
  obtain ⟨d, -, rfl⟩ := List.mem_map.mp h
  exact ⟨d.currency, d.timestamp, rfl⟩

theorem decide2v2_careers {db : Database} {request : Settle2v2Request}
    {careers : String → PlayerCareer} (h : decide2v2 db request = .ok (.inr careers)) :
    Function.Injective request.user ∧ ReadsCareers db.toAccounts request careers := by
  simp only [decide2v2, bind, Except.bind, pure, Except.pure] at h
  split at h
  · cases h
  next hvalid =>
  split at h
  · cases h
  split at h
  · cases h
  split at h
  · cases h
  next hcareers =>
  cases h
  exact ⟨validate_users hvalid, getCareers_reads hcareers⟩

/-- **A payment adds to a stored career what its coin entry says.** -/
theorem PayForm.ok {db : Database} {p : Payment} (h : PayForm db p) : PaymentOk db.toAccounts p := by
  cases h with
  | settle h => exact settlement_ok h rfl rfl rfl rfl rfl
  | participant h => exact settleParticipant_ok h _ _ _
  | pilot h => exact pilotSettlement_ok h _ _ _ _
  | ticket h => exact ticketSettlement_ok h _ _ _ _ _
  | abandon h => exact abandonSettlement_ok h _ _
  | purchase h hs => exact purchase_ok h hs
  | reward h => exact reward_ok h _ _ _ _ _
  | credit h => exact reward_ok h _ _ _ _ _
  | refund h => exact reward_ok h _ _ _ _ _

theorem payments2v2_form {db : Database} {request : Settle2v2Request}
    {careers : String → PlayerCareer} {clock : Clock} (hinj : Function.Injective request.user)
    (hreads : ReadsCareers db.toAccounts request careers) :
    (∀ p ∈ payments2v2 request careers clock, PayForm db p) ∧
      PaysApart (payments2v2 request careers clock) := by
  have hid : ∀ k, (careers (request.user k)).playerId = request.user k := by
    intro k
    obtain ⟨row, -, hcareer⟩ := hreads k
    rw [hcareer]
    rfl
  constructor
  · intro p hp
    obtain ⟨k, -, rfl⟩ := List.mem_map.mp hp
    obtain ⟨row, hrow, hcareer⟩ := hreads k
    have hread : db.career? (request.user k) = some (careers (request.user k)) := by
      rw [hcareer]
      exact congrArg (Option.map _) hrow
    exact .participant hread _ _ _
  · refine List.pairwise_map.mpr ((List.nodup_finRange 4).imp fun {j k} hjk => ⟨fun heq => ?_,
      fun e he d hd _ heq => ?_⟩)
    · have huser : (careers (request.user j)).playerId = (careers (request.user k)).playerId := heq
      rw [hid, hid] at huser
      exact hjk (hinj huser)
    · obtain ⟨c, t, hc⟩ := settleParticipant_id he
      obtain ⟨c', t', hc'⟩ := settleParticipant_id hd
      exact hjk (hinj (ledgerId2v2_inj (hc.symm.trans (heq.trans hc'))))

theorem persistSome_books {request : Settle2v2Request} {careers : String → PlayerCareer}
    {clock : Clock} : ∀ (l : List (Fin 4)) {db : MatchTables} {books : Accounts},
      db.players = books.players → db.ledger = books.ledger →
        let db' := persistSome request careers clock db l
        let books' := (l.map fun k =>
          settlementPayment (settlements2v2 request careers clock k)).foldl Accounts.pay books
        db'.players = books'.players ∧ db'.ledger = books'.ledger := by
  intro l
  induction l with
  | nil => intro db books hplayers hledger; exact ⟨hplayers, hledger⟩
  | cons k l ih =>
    intro db books hplayers hledger
    refine ih ?_ ?_
    · change (db.persistCareer _).players = (books.persistCareer _).players
      unfold Accounts.persistCareer
      rw [hplayers]
      rfl
    · change insertAll _ db.ledger _ = insertAll _ books.ledger _
      rw [hledger]
      rfl

theorem persist2v2_books {request : Settle2v2Request} {careers : String → PlayerCareer}
    {clock : Clock} (db : MatchTables) :
    (persist2v2 db request careers clock).players =
        ((payments2v2 request careers clock).foldl Accounts.pay db.toAccounts).players ∧
      (persist2v2 db request careers clock).ledger =
        ((payments2v2 request careers clock).foldl Accounts.pay db.toAccounts).ledger :=
  persistSome_books (List.finRange 4) rfl rfl

/-! ### Every operation -/

section Ops

variable [MathLib]

/-- What an operation pays goes to different players, to each in one of the ways there are. -/
theorem payments_form (db : Database) (op : StoreOp) :
    (∀ p ∈ op.payments db, PayForm db p) ∧ PaysApart (op.payments db) := by
  cases op with
  | settleMatch userId status stats matchId env => exact paid_form decideMatch_form
  | settleMatchVerified userId matchId actions env => exact paid_form decideVerified_form
  | settleMatch2v2 request clock =>
    cases h : decide2v2 db request with
    | error e =>
      have hnone : (StoreOp.settleMatch2v2 request clock).payments db = [] := by
        simp only [StoreOp.payments, h]
      rw [hnone]
      exact ⟨fun p hp => (List.not_mem_nil hp).elim, List.Pairwise.nil⟩
    | ok found =>
      cases found with
      | inl stored =>
        have hnone : (StoreOp.settleMatch2v2 request clock).payments db = [] := by
          simp only [StoreOp.payments, h]
        rw [hnone]
        exact ⟨fun p hp => (List.not_mem_nil hp).elim, List.Pairwise.nil⟩
      | inr careers =>
        have hpays : (StoreOp.settleMatch2v2 request clock).payments db =
            payments2v2 request careers clock := by
          simp only [StoreOp.payments, h]
        rw [hpays]
        obtain ⟨hinj, hreads⟩ := decide2v2_careers h
        exact payments2v2_form hinj hreads
  | settlePvpAttack attackerId defenderId attackId actions env => exact paid_form decidePvpAttack_form
  | purchaseUpgrade userId upgrade purchaseId now => exact paid_form decidePurchase_form
  | claimDailyReward userId rewardType claimId env => exact paid_form decideDaily_form
  | claimLeagueReward userId rankId claimId env => exact paid_form decideLeague_form
  | completeLevelVerified userId levelId claimId actions env => exact paid_form decideLevel_form
  | completeWeeklyVerified userId week slot claimId actions env => exact paid_form decideWeekly_form
  | completeLaneVerified userId levelId claimId actions env => exact paid_form decideLane_form
  | settleRealmAttack userId id actions env => exact paid_form decideRealm_form
  | abandonRealmAttack userId id env => exact paid_form decideAbandon_form
  | fulfillCoinOrder payment env => exact paid_form decideFulfill_form
  | recordCoinRefund id reference note env => exact paid_form decideRefund_form
  | issue tables => exact ⟨fun p hp => (List.not_mem_nil hp).elim, List.Pairwise.nil⟩

/-- **An operation does to careers and ledger what it pays.**  Only the completion of a
level writes anything else there, the level that the player has reached. -/
theorem run_eq {α : Type} {F : Accounts → α}
    (hF : ∀ {a b : Accounts}, a.players = b.players → a.ledger = b.ledger → F a = F b)
    (db : Database) (op : StoreOp)
    (hlevel : ∀ userId levelId claimId actions env,
      op = .completeLevelVerified userId levelId claimId actions env →
        ∀ a completed, F (Accounts.setLevelsCompleted a userId completed) = F a) :
    F (db.run op).toAccounts = F ((op.payments db).foldl Accounts.pay db.toAccounts) := by
  cases op with
  | settleMatch userId status stats matchId env =>
    exact committed_eq (fun _ _ => rfl) fun _ _ => hF rfl rfl
  | settleMatchVerified userId matchId actions env =>
    exact committed_eq (fun _ _ => rfl) fun _ _ => hF rfl rfl
  | settleMatch2v2 request clock =>
    cases h : decide2v2 db request with
    | error e => simp only [Database.run, Database.settleMatch2v2, StoreOp.payments, h, committed,
        List.foldl_nil]
    | ok found =>
      cases found with
      | inl stored => simp only [Database.run, Database.settleMatch2v2, StoreOp.payments, h,
          committed, List.foldl_nil]
      | inr careers =>
        simp only [Database.run, Database.settleMatch2v2, StoreOp.payments, h, committed]
        obtain ⟨hplayers, hledger⟩ := persist2v2_books db.toMatchTables
        exact hF hplayers hledger
  | settlePvpAttack attackerId defenderId attackId actions env =>
    exact committed_eq (fun _ _ => rfl) fun _ _ => hF rfl rfl
  | purchaseUpgrade userId upgrade purchaseId now =>
    exact committed_eq (fun _ _ => rfl) fun _ _ => hF rfl rfl
  | claimDailyReward userId rewardType claimId env =>
    exact committed_eq (fun _ _ => rfl) fun _ _ => hF rfl rfl
  | claimLeagueReward userId rankId claimId env =>
    exact committed_eq (fun _ _ => rfl) fun _ _ => hF rfl rfl
  | completeLevelVerified userId levelId claimId actions env =>
    have hset := hlevel userId levelId claimId actions env rfl
    exact committed_eq (fun result db => hset db.toAccounts result.levelsCompleted)
      fun result db => hset db.toAccounts result.levelsCompleted
  | completeWeeklyVerified userId week slot claimId actions env =>
    exact committed_eq (fun _ _ => rfl) fun _ _ => hF rfl rfl
  | completeLaneVerified userId levelId claimId actions env =>
    exact committed_eq (fun _ _ => rfl) fun _ _ => hF rfl rfl
  | settleRealmAttack userId id actions env =>
    refine committed_eq (fun _ _ => rfl) fun result db => ?_
    dsimp only
    split
    · exact hF rfl rfl
    · exact hF rfl rfl
  | abandonRealmAttack userId id env =>
    refine committed_eq (fun _ _ => rfl) fun result db => ?_
    cases result with
    | none => rfl
    | some result => exact hF rfl rfl
  | fulfillCoinOrder payment env => exact committed_eq (fun _ _ => rfl) fun _ _ => hF rfl rfl
  | recordCoinRefund id reference note env =>
    exact committed_eq (fun _ _ => rfl) fun _ _ => hF rfl rfl
  | issue tables => exact hF rfl rfl

theorem run_gap (db : Database) (op : StoreOp) (u : String) :
    gap (db.run op).toAccounts u = gap ((op.payments db).foldl Accounts.pay db.toAccounts) u := by
  refine @run_eq _ _ (fun a => gap a u) (fun hplayers hledger => ?_) db op
    fun userId _ _ _ _ _ a completed => gap_setLevelsCompleted a userId completed u
  unfold gap coinsOf
  rw [hplayers, hledger]

/-- **One operation keeps the books exactly if its rows get in.** -/
theorem run_iff (db : Database) (op : StoreOp) :
    (∀ u, gap (db.run op).toAccounts u = gap db.toAccounts u) ↔ RowsFree db op := by
  obtain ⟨hform, hapart⟩ := payments_form db op
  rw [forall_congr' fun u => by rw [run_gap db op u]]
  exact pays_iff (fun p hp => (hform p hp).ok) hapart

/-- **The ledger is complete exactly while rows are free.**  In every run of committed
operations, whatever their ids, the coins of all players have moved with the ledger
if and only if no operation paid coins under a row id that was stored already. -/
theorem ledger_complete (start : Database) (ops : List StoreOp) :
    Always Database.run (Balanced start) start ops ↔
      EachStep Database.run RowsFree start ops := by
  refine always_iff_eachStep (I := fun _ => True) (E := fun _ => True) (fun _ _ _ _ _ _ => trivial)
    (fun db op _ _ hdb => ?_) (fun _ _ => trivial) trivial (fun u => by omega)
  rw [← run_iff db op, balanced_iff]
  have hgap := balanced_iff.mp hdb
  exact forall_congr' fun u => by rw [hgap u]

end Ops

/-! ### An id that is taken -/

/-- Anna has 100 coins and has played twice today. -/
def annasStore : Database where
  players u := if u = "anna" then
    some ⟨100, 10, 0, 0, 0, 0, 0, "crown_guard", 0, 0, 0, 0, 0, true, 0⟩ else none
  ledger := []
  dailyProgress u day :=
    if u = "anna" ∧ day = "2026-01-01" then some ⟨2, 0, 0, false, false, false, false⟩ else none
  matchSettlementsMulti := []
  matchReplays := []
  botMatches := []
  pvpDefenses _ := none
  realmTickets := []
  coinOrders := []
  matchSettlements := []
  upgradePurchases := []
  pvpAttacks := []
  dailyRewardClaims := []
  leagueRewardClaims := []
  levelRewardClaims := []
  weeklyChallengeClaims := []
  laneRewardClaims := []

/-- She buys an upgrade under a purchase id of her choice and then claims a reward. -/
def annasDay : List StoreOp :=
  [.purchaseUpgrade "anna" .production "daily_claim" 1000,
   .claimDailyReward "anna" .playMatches "claim" ⟨2000, "2026-01-01", 0, 86400000, false⟩]

/-- **Anna is paid without a ledger row.**  The reward of 30 coins is filed under the id of
her purchase: she has 80 coins, and the ledger says 50. -/
theorem ledger_taken : ¬ ∀ (start : Database) (ops : List StoreOp),
    Always (@Database.run decimalHypot) (Balanced start) start ops := by
  intro h
  have hlast := (h annasStore annasDay).last "anna"
  revert hlast
  decide +kernel

end CrownClash.Store
