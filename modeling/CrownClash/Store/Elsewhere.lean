import CrownClash.Store.RewardsOnce

/-!
# Store: what is settled elsewhere

Bot matches, practices and attacks on realms are issued under ids of their own (`Issuable`).
No player leaves the store, and only the call that settles a match writes a settlement under
such an id: everything else leaves them as they are (`runCareer_elsewhere`).
-/

namespace CrownClash.Store

open Lib

/-- The ids that matches are issued under. -/
def Issuable (id : String) : Prop := BotId id ∨ RealmId id

/-- The players stay, no settlement of an issued match is lost, and no other match than `m` is
settled. -/
structure Settles (m : Option String) (a b : Database) : Prop where
  players : ∀ u, (a.players u).isSome → (b.players u).isSome
  kept : ∀ id, Issuable id → ∀ s, a.findStoredSettlement id = some s →
    b.findStoredSettlement id = some s
  others : ∀ id, Issuable id → some id ≠ m → b.findStoredSettlement id = a.findStoredSettlement id

section Writes

variable {m : Option String} {a b c : Database}

theorem Settles.of_players (hplayers : ∀ u, (a.players u).isSome → (b.players u).isSome)
    (hsettlements : b.matchSettlements = a.matchSettlements) : Settles m a b := by
  have hsame : ∀ id, b.findStoredSettlement id = a.findStoredSettlement id := by
    intro id
    unfold Database.findStoredSettlement
    rw [hsettlements]
  exact ⟨hplayers, fun id _ s h => (hsame id).trans h, fun id _ _ => hsame id⟩

theorem Settles.same (hplayers : b.players = a.players)
    (hsettlements : b.matchSettlements = a.matchSettlements) : Settles m a b := by
  refine .of_players (fun u h => ?_) hsettlements
  rw [hplayers]
  exact h

theorem Settles.refl (m : Option String) (a : Database) : Settles m a a := .same rfl rfl

theorem Settles.trans (h : Settles m a b) (g : Settles m b c) : Settles m a c where
  players u hu := g.players u (h.players u hu)
  kept id hid s hs := g.kept id hid s (h.kept id hid s hs)
  others id hid hne := (g.others id hid hne).trans (h.others id hid hne)

/-- What settles nothing settles no more than `m`. -/
theorem Settles.none (h : Settles .none a b) : Settles m a b where
  players := h.players
  kept := h.kept
  others id hid _ := h.others id hid (Option.some_ne_none id)

/-- What is not settled by a step was settled before. -/
theorem Settles.before (h : Settles m a b) {id : String} (hid : Issuable id) (hne : some id ≠ m)
    {s : MatchSettlement} (hs : b.findStoredSettlement id = some s) :
    a.findStoredSettlement id = some s :=
  (h.others id hid hne).symm.trans hs

/-- A settlement is written behind the others. -/
theorem Settles.append (hplayers : b.players = a.players) {row : MatchSettlementRow}
    (hsettlements : b.matchSettlements = a.matchSettlements ++ [row]) :
    Settles (some row.matchId) a b := by
  refine ⟨fun u h => ?_, fun id _ s hs => ?_, fun id _ hne => ?_⟩
  · rw [hplayers]
    exact h
  · obtain ⟨found, hfound, rfl⟩ := Option.map_eq_some_iff.mp hs
    unfold Database.findStoredSettlement
    rw [hsettlements, List.find?_append, hfound]
    rfl
  · have hother : ¬ row.matchId = id := fun h => hne (congrArg some h.symm)
    unfold Database.findStoredSettlement
    rw [hsettlements, List.find?_append, List.find?_singleton, if_neg (by simpa using hother),
      Option.or_none]

theorem Settles.store (db : Database) (userId : String) (settlement : MatchSettlement) :
    Settles (some settlement.matchId) db (db.storeSettlement userId settlement) := by
  by_cases h : Holds MatchSettlementRow.matchId db.matchSettlements settlement.matchId
  · exact .same rfl (insertNew_of_held h)
  · exact @Settles.append db (db.storeSettlement userId settlement) rfl
      ⟨settlement.matchId, userId, settlement⟩ (insertNew_of_new h)

theorem Settles.closeRealmTicket (db : Database) (userId : String) (result : RealmResult)
    (state : RealmTicketState) :
    Settles (some result.settlement.matchId) db (db.closeRealmTicket userId result state) :=
  @Settles.append db (db.closeRealmTicket userId result state) rfl
    ⟨result.settlement.matchId, userId, result.settlement⟩ rfl

end Writes

/-! ### Players -/

theorem update_isSome {players : String → Option PlayerRow} {userId : String}
    {row : Option PlayerRow} (h : (players userId).isSome → row.isSome) (u : String)
    (hu : (players u).isSome) : (Function.update players userId row u).isSome := by
  by_cases hself : u = userId
  · subst hself
    rw [Function.update_self]
    exact h hu
  · rw [Function.update_of_ne hself]
    exact hu

theorem pay_players (db : Accounts) (p : Payment) (u : String) (h : (db.players u).isSome) :
    ((db.pay p).players u).isSome :=
  update_isSome (fun hrow => Option.isSome_map.trans hrow) u h

theorem Settles.pay (db : Database) (p : Payment) (m : Option String) :
    Settles m db (db.pay p) :=
  .of_players (pay_players db.toAccounts p) rfl

theorem pays_players : ∀ (payments : List Payment) (db : Accounts) (u : String),
    (db.players u).isSome → ((payments.foldl Accounts.pay db).players u).isSome := by
  intro payments
  induction payments with
  | nil => intro db u h; exact h
  | cons p payments ih => intro db u h; exact ih (db.pay p) u (pay_players db p u h)

theorem insertPlayer_players (db : Accounts) (userId : String) (row : PlayerRow) (u : String)
    (h : (db.players u).isSome) : ((db.insertPlayer userId row).players u).isSome := by
  unfold Accounts.insertPlayer
  split
  · exact h
  · exact update_isSome (fun _ => rfl) u h

theorem updatePlayer_players (db : Accounts) (userId : String) (f : PlayerRow → PlayerRow)
    (u : String) (h : (db.players u).isSome) : ((db.updatePlayer userId f).players u).isSome :=
  update_isSome (fun hrow => Option.isSome_map.trans hrow) u h

theorem setLevelsCompleted_players (db : Accounts) (userId : String) (completed : ℤ) (u : String) :
    ((db.setLevelsCompleted userId completed).players u).isSome = (db.players u).isSome := by
  unfold Accounts.setLevelsCompleted
  dsimp only
  by_cases hself : u = userId
  · subst hself
    rw [Function.update_self, Option.isSome_map]
  · rw [Function.update_of_ne hself]

theorem ensureSeedBots_players (db : Accounts) (u : String) (h : (db.players u).isSome) :
    ((db.ensureSeedBots).players u).isSome := by
  unfold Accounts.ensureSeedBots
  generalize seedBotRoster.zipIdx = bots
  induction bots generalizing db with
  | nil => exact h
  | cons bot bots ih => exact ih _ (insertPlayer_players db _ _ u h)

/-! ### The operations -/

/-- An operation that settles no issued match: a live match has an id of its own kind. -/
def StoreOp.Elsewhere : StoreOp → Prop
  | .settleMatch userId _ _ matchId _ => ∃ startedAt, matchId = Go.livePlayerMatchId startedAt userId
  | .settleMatchVerified _ _ _ _ => False
  | .settleRealmAttack _ _ _ _ => False
  | .abandonRealmAttack _ _ _ => False
  | _ => True

def CareerOp.Elsewhere : CareerOp → Prop
  | .store op _ => op.Elsewhere
  | _ => True

/-- A live match is not issued. -/
theorem not_issuable_live (t : ℤ) (u : String) : ¬ Issuable (Go.livePlayerMatchId t u) := by
  rintro (h | h)
  · exact not_botId_live t u h
  · exact not_realmId_live t u h

variable [MathLib]

theorem run_players (db : Database) (op : StoreOp) (u : String) (h : (db.players u).isSome) :
    ((db.run op).players u).isSome := by
  have hrun := @run_eq _ _ (fun a => (a.players u).isSome) (fun hplayers _ => by rw [hplayers])
    db op fun userId levelId claimId actions env _ a completed =>
      setLevelsCompleted_players a userId completed u
  exact hrun.trans (pays_players _ _ u h)

theorem run_elsewhere {db : Database} {op : StoreOp} (h : op.Elsewhere) :
    Settles none db (db.run op) := by
  cases op with
  | settleMatch userId status stats matchId env =>
    refine committed_inv (.refl none db) (fun _ _ => .refl none db) fun r p hp => ?_
    obtain ⟨startedAt, rfl⟩ := h
    obtain ⟨-, hid⟩ := decideMatch_pays hp
    have hstored := (Settles.pay db p _).trans (Settles.store (db.pay p) userId r)
    refine ⟨hstored.players, hstored.kept, fun id hissued _ => ?_⟩
    refine hstored.others id hissued fun heq => not_issuable_live startedAt userId ?_
    rw [← hid, ← Option.some.inj heq]
    exact hissued
  | settleMatchVerified => cases h
  | settleRealmAttack => cases h
  | abandonRealmAttack => cases h
  | settleMatch2v2 request clock =>
    refine .of_players (run_players db _) ?_
    show (committed db (db.settleMatch2v2 request clock)).matchSettlements = db.matchSettlements
    unfold Database.settleMatch2v2
    split <;> rfl
  | issue tables => exact .same rfl rfl
  | _ =>
    exact .of_players (run_players db _) (committed_frame (F := Database.matchSettlements)
      (fun _ _ => rfl) (fun _ _ => rfl) fun _ _ => rfl)

/-- **Everything else settles no issued match.** -/
theorem runCareer_elsewhere {db : Database} {op : CareerOp} (h : op.Elsewhere) :
    Settles none db (db.runCareer op) := by
  cases op with
  | store op hop => exact run_elsewhere h
  | getOrCreateCareer userId =>
    exact .of_players (fun u hu => insertPlayer_players _ _ _ u hu) rfl
  | completeTutorial userId =>
    exact .of_players (fun u hu => updatePlayer_players _ _ _ u (insertPlayer_players _ _ _ u hu))
      rfl
  | selectCommander userId commanderId =>
    refine .of_players (fun u hu => ?_) rfl
    show ((db.toAccounts.selectCommander userId commanderId).players u).isSome
    unfold Accounts.selectCommander
    split
    · split
      · exact hu
      · exact updatePlayer_players _ _ _ u hu
    · exact hu
  | completeLevel userId level =>
    refine .of_players (fun u hu => ?_) rfl
    show ((db.toAccounts.completeLevel userId level).players u).isSome
    unfold Accounts.completeLevel
    split
    · exact hu
    · have hmade := insertPlayer_players db.toAccounts userId createDefaultCareer u hu
      dsimp only
      split
      · exact (setLevelsCompleted_players _ _ _ u).trans hmade
      · exact hmade
  | ensureSeedBots => exact .of_players (fun u hu => ensureSeedBots_players _ u hu) rfl

end CrownClash.Store
