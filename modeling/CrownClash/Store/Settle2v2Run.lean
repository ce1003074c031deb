import CrownClash.Lib.Text
import CrownClash.Store.Settle2v2

/-!
# Store: concurrent settlements of 2v2 matches

Any number of calls of `SettleMatch2v2` run at once.  What a call writes becomes
visible when it commits; until then it holds the locks of its four careers, and a
call that needs one of them waits.

`Settled` is what the calls that have committed make of a store: everything that
each of them writes is there, a match is paid once, trophies are what they were,
and whoever looks at the match later is told what is stored.  `CommitsAlone` is when
a commit keeps that.
-/

namespace CrownClash.Store

open Lib
open Go (PlayerCareer)

/-- How far a call has come. -/
inductive Call
  | idle
  | begun (request : Settle2v2Request)
  /-- No settlement was stored. -/
  | looked (request : Settle2v2Request)
  /-- The careers are locked. -/
  | locked (request : Settle2v2Request) (careers : String → PlayerCareer)
  /-- No settlement is stored now that the careers are locked. -/
  | settling (request : Settle2v2Request) (careers : String → PlayerCareer)
  | returned (request : Settle2v2Request) (answer : Except Settle2v2Error (List MatchSettlement))

/-- A call that has committed, with what it read. -/
structure Commit where
  request : Settle2v2Request
  careers : String → PlayerCareer
  clock : Clock

def Settle2v2Request.user (request : Settle2v2Request) (k : Fin 4) : String :=
  (request.participants k).userId

namespace Commit

def settlement (c : Commit) (k : Fin 4) : MatchSettlement :=
  settlements2v2 c.request c.careers c.clock k

def settlements (c : Commit) : List MatchSettlement := (List.finRange 4).map c.settlement

def rows (c : Commit) : List MatchSettlementMultiRow :=
  (List.finRange 4).map fun k =>
    multiRow c.request.matchId (c.request.participants k) (c.settlement k)

def ledgerEntries (c : Commit) : List EconomyLedgerEntry :=
  (List.finRange 4).flatMap fun k => (c.settlement k).ledgerEntries

/-- The settlements as a later look finds them, in the order of the slots. -/
def stored (c : Commit) : List MatchSettlement :=
  (sortBy (fun a b => a.slot < b.slot) c.rows).map MatchSettlementMultiRow.settlement

def replay (c : Commit) : MatchReplayRow :=
  ⟨c.request.matchId, c.request.battlefieldId, c.request.replayPayload⟩

/-- The career it leaves a user with. -/
def careerOf (c : Commit) (userId : String) : Option PlayerCareer :=
  (List.finRange 4).findSome? fun k =>
    if c.request.user k = userId then some (c.settlement k).newCareer else none

end Commit

/-- The store, the calls by number, who holds the lock of a career, and the calls
that have committed so far. -/
structure System where
  db : MatchTables
  calls : ℕ → Call
  lockedBy : String → Option ℕ
  commits : List Commit

inductive SettleEvent
  | call (i : ℕ) (request : Settle2v2Request)
  | look (i : ℕ)
  | lock (i : ℕ)
  | relook (i : ℕ)
  | commit (i : ℕ) (clock : Clock)
  /-- A statement of the call fails. -/
  | fail (i : ℕ)

namespace System

def start (db : MatchTables) : System := ⟨db, fun _ => .idle, fun _ => none, []⟩

def setCall (s : System) (i : ℕ) (call : Call) : System :=
  { s with calls := Function.update s.calls i call }

/-- A call returns and gives up its locks. -/
def answer (s : System) (i : ℕ) (request : Settle2v2Request)
    (answer : Except Settle2v2Error (List MatchSettlement)) : System :=
  { s with
    calls := Function.update s.calls i (.returned request answer)
    lockedBy := fun u => if s.lockedBy u = some i then none else s.lockedBy u }

/-- A look for stored settlements; `next` is how the call goes on without any. -/
def lookAt (s : System) (i : ℕ) (request : Settle2v2Request) (next : Call) : System :=
  match findStored2v2Settlements s.db request.matchId with
  | .error e => s.answer i request (.error e)
  | .ok (some stored) => s.answer i request (.ok stored)
  | .ok none => s.setCall i next

/-- What a call has written becomes visible. -/
def commit (s : System) (i : ℕ) (c : Commit) : System :=
  { s.answer i c.request (.ok c.settlements) with
    db := persist2v2 s.db c.request c.careers c.clock
    commits := s.commits ++ [c] }

def step (s : System) : SettleEvent → System
  | .call i request =>
    match s.calls i with
    | .idle =>
      match validateSettle2v2Request request with
      | .error e => s.answer i request (.error e)
      | .ok _ => s.setCall i (.begun request)
    | _ => s
  | .look i =>
    match s.calls i with
    | .begun request => s.lookAt i request (.looked request)
    | _ => s
  | .lock i =>
    match s.calls i with
    | .looked request =>
      if request.userIds.any fun u => (s.lockedBy u).isSome then s
      else
        match getCareersForUpdate s.db.toAccounts
            (sortBy (fun a b => a < b) request.userIds) with
        | .error e => s.answer i request (.error e)
        | .ok careers =>
          { s with
            calls := Function.update s.calls i (.locked request careers)
            lockedBy := fun u => if u ∈ request.userIds then some i else s.lockedBy u }
    | _ => s
  | .relook i =>
    match s.calls i with
    | .locked request careers => s.lookAt i request (.settling request careers)
    | _ => s
  | .commit i clock =>
    match s.calls i with
    | .settling request careers => s.commit i ⟨request, careers, clock⟩
    | _ => s
  | .fail i =>
    match s.calls i with
    | .begun request => s.answer i request (.error .database)
    | .looked request => s.answer i request (.error .database)
    | .locked request _ => s.answer i request (.error .database)
    | .settling request _ => s.answer i request (.error .database)
    | _ => s

end System

/-- What a user's career is after some commits. -/
def careerAfter (commits : List Commit) (userId : String) (career : Option PlayerCareer) :
    Option PlayerCareer :=
  commits.foldl (fun career c => (c.careerOf userId).or career) career

/-- **What the calls that have committed make of a store.** -/
structure Settled (store : MatchTables) (s : System) : Prop where
  multi : s.db.matchSettlementsMulti =
    store.matchSettlementsMulti ++ s.commits.flatMap Commit.rows
  ledger : s.db.ledger = store.ledger ++ s.commits.flatMap Commit.ledgerEntries
  replays : s.db.matchReplays = store.matchReplays ++ s.commits.map Commit.replay
  careers : ∀ u, s.db.career? u = careerAfter s.commits u (store.career? u)
  once : (s.commits.map fun c => c.request.matchId).Nodup
  first : ∀ c ∈ s.commits, ∀ row ∈ store.matchSettlementsMulti, row.matchId ≠ c.request.matchId
  trophies : ∀ u, (s.db.career? u).map PlayerCareer.trophies =
    (store.career? u).map PlayerCareer.trophies
  /-- A call that looks at a settled match is told what is stored. -/
  told : ∀ c ∈ s.commits, ∀ i request, request.matchId = c.request.matchId →
    (s.calls i = .begun request →
      (s.step (.look i)).calls i = .returned request (.ok c.stored)) ∧
    (∀ careers, s.calls i = .locked request careers →
      (s.step (.relook i)).calls i = .returned request (.ok c.stored))
  /-- Whoever was told something was told what is stored. -/
  answers : ∀ i request settlements, s.calls i = .returned request (.ok settlements) →
    ∃ stored, settlements.Perm stored ∧
      findStored2v2Settlements s.db request.matchId = .ok (some stored)

/-- A commit finds no settlement of its match for anyone but its participants, no
ledger row under an id it derives, no replay of its match, and trophies that are
not negative. -/
structure CommitsAlone (s : System) (request : Settle2v2Request)
    (careers : String → PlayerCareer) (clock : Clock) : Prop where
  strangers : ∀ row ∈ s.db.matchSettlementsMulti, row.matchId = request.matchId →
    ∃ k, row.userId = (request.participants k).userId
  ids : ∀ k, ¬ Holds EconomyLedgerEntry.id s.db.ledger
    (ledgerId2v2 request.matchId (request.participants k).userId .coins (clock.nowMillis k))
  replay : ¬ Holds MatchReplayRow.matchId s.db.matchReplays request.matchId
  trophies : ∀ k, 0 ≤ (careers (request.participants k).userId).trophies

/-- Every commit finds its place empty. -/
def PlaceFree (s : System) : SettleEvent → Prop
  | .commit i clock => ∀ request careers, s.calls i = .settling request careers →
      CommitsAlone s request careers clock
  | _ => True

/-! ### What one commit writes -/

/-- The careers of a call, as they stand in the store. -/
def ReadsCareers (db : Accounts) (request : Settle2v2Request) (careers : String → PlayerCareer) :
    Prop :=
  ∀ k, ∃ row, db.players (request.user k) = some row ∧
    careers (request.user k) = careerFromRow (request.user k) row

theorem checkParticipants_ok : ∀ {l : List TwoVTwoParticipantOutcome} {users : List String}
    {slots seen : List ℤ}, checkParticipants users slots l = .ok seen →
      (l.map TwoVTwoParticipantOutcome.userId).Nodup ∧ ∀ p ∈ l, p.userId ∉ users := by
  intro l
  induction l with
  | nil => intro users slots seen _; exact ⟨List.nodup_nil, fun p hp => (List.not_mem_nil hp).elim⟩
  | cons p l ih =>
    intro users slots seen h
    unfold checkParticipants at h
    split at h
    · cases h
    next hname =>
    split at h
    · cases h
    split at h
    · cases h
    split at h
    · cases h
    obtain ⟨hnodup, hnew⟩ := ih h
    rw [List.map_cons, List.nodup_cons]
    refine ⟨⟨fun hmem => ?_, hnodup⟩, fun q hq => ?_⟩
    · obtain ⟨q, hq, heq⟩ := List.mem_map.mp hmem
      exact hnew q hq (heq ▸ List.mem_cons_self)
    · rcases List.mem_cons.mp hq with rfl | hq
      · exact fun hseen => hname (Or.inr hseen)
      · exact fun hseen => hnew q hq (List.mem_cons_of_mem _ hseen)

/-- The four participants of a valid request are four users. -/
theorem validate_users {request : Settle2v2Request}
    (h : validateSettle2v2Request request = .ok ()) : Function.Injective request.user := by
  unfold validateSettle2v2Request at h
  split at h
  · cases h
  split at h
  · cases h
  split at h
  · cases h
  cases hcheck : checkParticipants [] [] (List.ofFn request.participants) with
  | error e =>
    rw [hcheck] at h
    cases h
  | ok seen =>
    have hnodup := (checkParticipants_ok hcheck).1
    rw [List.map_ofFn, List.nodup_ofFn] at hnodup
    exact hnodup

theorem mem_userIds {request : Settle2v2Request} {u : String} :
    u ∈ request.userIds ↔ ∃ k, request.user k = u := by
  unfold Settle2v2Request.userIds Settle2v2Request.user
  rw [List.mem_ofFn']
  exact Set.mem_range

section Persist

variable {request : Settle2v2Request} {careers : String → PlayerCareer} {clock : Clock}

/-- The statements for some of the participants. -/
def persistSome (request : Settle2v2Request) (careers : String → PlayerCareer) (clock : Clock)
    (db : MatchTables) (l : List (Fin 4)) : MatchTables :=
  l.foldl (fun db k => persistParticipant db request.matchId (request.participants k)
    (settlements2v2 request careers clock k) (clock.dayKey k)) db

theorem persist2v2_eq (db : MatchTables) : persist2v2 db request careers clock =
    insertReplay (persistSome request careers clock db (List.finRange 4)) request := rfl

theorem persistSome_ledger : ∀ (l : List (Fin 4)) (db : MatchTables),
    (persistSome request careers clock db l).ledger = insertAll EconomyLedgerEntry.id db.ledger
      (l.flatMap fun k => (settlements2v2 request careers clock k).ledgerEntries) := by
  intro l
  induction l with
  | nil => intro db; rfl
  | cons k l ih =>
    intro db
    rw [List.flatMap_cons, insertAll_append]
    exact ih _

theorem persistSome_multi : ∀ (l : List (Fin 4)) (db : MatchTables),
    (persistSome request careers clock db l).matchSettlementsMulti =
      insertAll MatchSettlementMultiRow.key db.matchSettlementsMulti
        (l.map fun k => multiRow request.matchId (request.participants k)
          (settlements2v2 request careers clock k)) := by
  intro l
  induction l with
  | nil => intro db; rfl
  | cons k l ih =>
    intro db
    rw [List.map_cons, insertAll_cons]
    exact ih _

theorem persistSome_replays : ∀ (l : List (Fin 4)) (db : MatchTables),
    (persistSome request careers clock db l).matchReplays = db.matchReplays := by
  intro l
  induction l with
  | nil => intro db; rfl
  | cons k l ih => intro db; exact ih _

/-- The career that the statements for one participant leave. -/
theorem persistParticipant_career {db : MatchTables} {k : Fin 4} {row : PlayerRow}
    (hrow : db.players (request.user k) = some row)
    (hcareer : careers (request.user k) = careerFromRow (request.user k) row) (u : String) :
    (persistParticipant db request.matchId (request.participants k)
        (settlements2v2 request careers clock k) (clock.dayKey k)).career? u =
      if request.user k = u then some (settlements2v2 request careers clock k).newCareer
      else db.career? u := by
  have hid : (settlements2v2 request careers clock k).newCareer.playerId = request.user k := by
    change (careers (request.user k)).playerId = request.user k
    rw [hcareer]
    rfl
  have hplayers : (persistParticipant db request.matchId (request.participants k)
      (settlements2v2 request careers clock k) (clock.dayKey k)).players =
        (db.persistCareer (settlements2v2 request careers clock k).newCareer).players := rfl
  by_cases hu : request.user k = u
  · subst hu
    rw [if_pos rfl, ← hid]
    have hcommander : (settlements2v2 request careers clock k).newCareer.selectedCommanderId =
        row.selectedCommander := by
      change (careers (request.user k)).selectedCommanderId = row.selectedCommander
      rw [hcareer]
      rfl
    have htutorial : (settlements2v2 request careers clock k).newCareer.tutorialCompleted =
        row.tutorialCompleted := by
      change (careers (request.user k)).tutorialCompleted = row.tutorialCompleted
      rw [hcareer]
      rfl
    refine Eq.trans (congrArg (Option.map _) (congrFun hplayers _)) ?_
    exact Accounts.career?_persistCareer (hid ▸ hrow) hcommander htutorial
  · rw [if_neg hu]
    refine congrArg (Option.map _) ((congrFun hplayers u).trans ?_)
    exact Accounts.persistCareer_players_of_ne _ (hid ▸ fun h => hu h.symm)

/-- Who is no participant is not touched. -/
theorem persistSome_players_of_ne {u : String} (hu : ∀ k, request.user k ≠ u) :
    ∀ (l : List (Fin 4)) {db : MatchTables},
      (∀ k ∈ l, (careers (request.user k)).playerId = request.user k) →
        (persistSome request careers clock db l).players u = db.players u := by
  intro l
  induction l with
  | nil => intro db _; rfl
  | cons k l ih =>
    intro db hid
    refine (ih fun j hj => hid j (List.mem_cons_of_mem k hj)).trans ?_
    refine Accounts.persistCareer_players_of_ne _ fun h => hu k ?_
    rw [h]
    exact (hid k List.mem_cons_self).symm

/-- The careers that the statements leave, one participant after the other. -/
theorem persistSome_career (hinj : Function.Injective request.user) (u : String) :
    ∀ (l : List (Fin 4)) {db : MatchTables}, l.Nodup →
      (∀ k ∈ l, ∃ row, db.players (request.user k) = some row ∧
        careers (request.user k) = careerFromRow (request.user k) row) →
      (persistSome request careers clock db l).career? u =
        (l.findSome? fun k => if request.user k = u then
          some (settlements2v2 request careers clock k).newCareer else none).or (db.career? u) := by
  intro l
  induction l with
  | nil => intro db _ _; rfl
  | cons k l ih =>
    intro db hnodup hreads
    obtain ⟨hk, hnodup⟩ := List.nodup_cons.mp hnodup
    obtain ⟨row, hrow, hcareer⟩ := hreads k List.mem_cons_self
    have hother : ∀ j ∈ l, (persistParticipant db request.matchId (request.participants k)
        (settlements2v2 request careers clock k) (clock.dayKey k)).players (request.user j) =
          db.players (request.user j) := by
      intro j hj
      refine Accounts.persistCareer_players_of_ne _ fun h => hk ?_
      have hid : (careers (request.user k)).playerId = request.user k := by
        rw [hcareer]
        rfl
      rw [← hinj (h.trans hid)]
      exact hj
    have hrest := ih hnodup fun j hj => by
      rw [hother j hj]
      exact hreads j (List.mem_cons_of_mem k hj)
    refine hrest.trans ?_
    rw [persistParticipant_career hrow hcareer, List.findSome?_cons]
    by_cases hu : request.user k = u
    · rw [if_pos hu, if_pos hu]
      have hnone : (l.findSome? fun j => if request.user j = u then
          some (settlements2v2 request careers clock j).newCareer else none) = none := by
        refine List.findSome?_eq_none_iff.mpr fun j hj => if_neg fun h => hk ?_
        rw [hinj (hu.trans h.symm)]
        exact hj
      rw [hnone]
      rfl
    · rw [if_neg hu, if_neg hu]

end Persist

/-! ### The ledger entries of a commit -/

/-- A settlement that leaves trophies alone has one ledger entry. -/
theorem settleParticipant_entries {matchId : String} {participant : TwoVTwoParticipantOutcome}
    {career : PlayerCareer} (h : 0 ≤ career.trophies) (now : ℤ) :
    (settleParticipant matchId participant career now).ledgerEntries.map EconomyLedgerEntry.id =
      [ledgerId2v2 matchId participant.userId .coins now] := by
  have hdelta : max 0 (career.trophies + 0) - career.trophies = 0 := by omega
  unfold settleParticipant settleMatchWithPolicy
  change List.map _ (List.map _ (if max 0 (career.trophies + 0) - career.trophies ≠ 0 then _
    else _)) = _
  rw [if_neg (fun hne => hne hdelta)]
  rfl

theorem settleParticipant_trophies (matchId : String) (participant : TwoVTwoParticipantOutcome)
    (career : PlayerCareer) (now : ℤ) :
    (settleParticipant matchId participant career now).newCareer.trophies =
      max 0 career.trophies :=
  settleMatchWithPolicy_casual career _ _ matchId now

/-- **The ledger ids of a match tell its participants apart.** -/
theorem ledgerId2v2_inj {matchId u u' : String} {c c' : Currency} {now now' : ℤ}
    (h : ledgerId2v2 matchId u c now = ledgerId2v2 matchId u' c' now') : u = u' := by
  have htext : ∀ c : Currency, '_' ∉ c.text.toList := by
    intro c
    cases c <;> decide
  have hsplit := (join_inj (notMem_toString_int (by decide) (by decide) now)
    (notMem_toString_int (x := '_') (by decide) (by decide) now') h).1
  have huser := (join_inj (htext c) (htext c') hsplit).1
  have hlist := congrArg String.toList huser
  simp only [String.toList_append] at hlist
  exact String.toList_injective (List.append_cancel_left hlist)

/-! ### What a commit adds -/

theorem Commit.rows_matchId {c : Commit} {row : MatchSettlementMultiRow} (h : row ∈ c.rows) :
    row.matchId = c.request.matchId := by
  obtain ⟨k, -, rfl⟩ := List.mem_map.mp h
  rfl

theorem Commit.rows_key (c : Commit) : c.rows.map MatchSettlementMultiRow.key =
    (List.finRange 4).map fun k => (c.request.matchId, c.request.user k) := by
  unfold Commit.rows
  rw [List.map_map]
  rfl

theorem Commit.ledgerEntries_id {c : Commit}
    (h : ∀ k, 0 ≤ (c.careers (c.request.user k)).trophies) :
    c.ledgerEntries.map EconomyLedgerEntry.id = (List.finRange 4).map fun k =>
      ledgerId2v2 c.request.matchId (c.request.user k) .coins (c.clock.nowMillis k) := by
  unfold Commit.ledgerEntries
  rw [List.map_flatMap]
  have hone : (fun k => (c.settlement k).ledgerEntries.map EconomyLedgerEntry.id) = fun k =>
      [ledgerId2v2 c.request.matchId (c.request.user k) .coins (c.clock.nowMillis k)] := by
    funext k
    exact settleParticipant_entries (h k) (c.clock.nowMillis k)
  rw [hone]
  exact (List.map_eq_flatMap).symm

/-- **When all ledger rows of a commit get in.** -/
theorem ledger_iff {db : MatchTables} {c : Commit} (hinj : Function.Injective c.request.user)
    (h : ∀ k, 0 ≤ (c.careers (c.request.user k)).trophies) :
    (persist2v2 db c.request c.careers c.clock).ledger = db.ledger ++ c.ledgerEntries ↔
      ∀ k, ¬ Holds EconomyLedgerEntry.id db.ledger
        (ledgerId2v2 c.request.matchId (c.request.user k) .coins (c.clock.nowMillis k)) := by
  have hledger : (persist2v2 db c.request c.careers c.clock).ledger =
      insertAll EconomyLedgerEntry.id db.ledger c.ledgerEntries :=
    persistSome_ledger (List.finRange 4) db
  rw [hledger, insertAll_eq_append_iff, Commit.ledgerEntries_id h]
  constructor
  · rintro ⟨hnew, -⟩ k hheld
    have hk : ledgerId2v2 c.request.matchId (c.request.user k) .coins (c.clock.nowMillis k) ∈
        c.ledgerEntries.map EconomyLedgerEntry.id := by
      rw [Commit.ledgerEntries_id h]
      exact List.mem_map.mpr ⟨k, List.mem_finRange k, rfl⟩
    obtain ⟨entry, hentry, hid⟩ := List.mem_map.mp hk
    exact hnew entry hentry (hid ▸ hheld)
  · intro hnew
    refine ⟨fun entry hentry hheld => ?_, ?_⟩
    · have hid : entry.id ∈ c.ledgerEntries.map EconomyLedgerEntry.id :=
        List.mem_map.mpr ⟨entry, hentry, rfl⟩
      rw [Commit.ledgerEntries_id h] at hid
      obtain ⟨k, -, hk⟩ := List.mem_map.mp hid
      exact hnew k (hk ▸ hheld)
    · exact (List.nodup_finRange 4).map fun j k hjk => hinj (ledgerId2v2_inj hjk)

theorem multi_iff {db : MatchTables} {c : Commit} (hinj : Function.Injective c.request.user) :
    (persist2v2 db c.request c.careers c.clock).matchSettlementsMulti =
        db.matchSettlementsMulti ++ c.rows ↔
      ∀ k, ¬ Holds MatchSettlementMultiRow.key db.matchSettlementsMulti
        (c.request.matchId, c.request.user k) := by
  have hmulti : (persist2v2 db c.request c.careers c.clock).matchSettlementsMulti =
      insertAll MatchSettlementMultiRow.key db.matchSettlementsMulti c.rows :=
    persistSome_multi (List.finRange 4) db
  rw [hmulti, insertAll_eq_append_iff, Commit.rows_key]
  constructor
  · rintro ⟨hnew, -⟩ k hheld
    exact hnew (multiRow c.request.matchId (c.request.participants k) (c.settlement k))
      (List.mem_map.mpr ⟨k, List.mem_finRange k, rfl⟩) hheld
  · intro hnew
    refine ⟨fun row hrow hheld => ?_, ?_⟩
    · obtain ⟨k, -, rfl⟩ := List.mem_map.mp hrow
      exact hnew k hheld
    · exact (List.nodup_finRange 4).map fun j k hjk => hinj (Prod.mk.inj hjk).2

theorem replays_iff {db : MatchTables} {c : Commit} :
    (persist2v2 db c.request c.careers c.clock).matchReplays = db.matchReplays ++ [c.replay] ↔
      ¬ Holds MatchReplayRow.matchId db.matchReplays c.request.matchId := by
  have hreplays : (persist2v2 db c.request c.careers c.clock).matchReplays =
      insertNew MatchReplayRow.matchId db.matchReplays c.replay :=
    congrArg (fun replays => insertNew MatchReplayRow.matchId replays c.replay)
      (persistSome_replays (List.finRange 4) db)
  rw [hreplays]
  exact insertNew_eq_append_iff

/-- The careers of the participants are replaced, the others stay. -/
theorem persist2v2_career {db : MatchTables} {c : Commit}
    (hinj : Function.Injective c.request.user)
    (hreads : ReadsCareers db.toAccounts c.request c.careers) (u : String) :
    (persist2v2 db c.request c.careers c.clock).career? u = (c.careerOf u).or (db.career? u) :=
  persistSome_career hinj u (List.finRange 4) (List.nodup_finRange 4) fun k _ => hreads k

theorem persist2v2_players_of_ne {db : MatchTables} {c : Commit}
    (hreads : ReadsCareers db.toAccounts c.request c.careers) {u : String}
    (hu : ∀ k, c.request.user k ≠ u) :
    (persist2v2 db c.request c.careers c.clock).players u = db.players u := by
  refine persistSome_players_of_ne hu (List.finRange 4) fun k _ => ?_
  obtain ⟨row, -, hcareer⟩ := hreads k
  rw [hcareer]
  rfl

theorem Commit.careerOf_cases (c : Commit) (u : String) :
    (c.careerOf u = none ∧ ∀ k, c.request.user k ≠ u) ∨
      ∃ k, c.request.user k = u ∧ c.careerOf u = some (c.settlement k).newCareer := by
  unfold Commit.careerOf
  cases hfind : (List.finRange 4).findSome? fun k =>
      if c.request.user k = u then some (c.settlement k).newCareer else none with
  | none =>
    refine Or.inl ⟨rfl, fun k hk => ?_⟩
    have hnone := List.findSome?_eq_none_iff.mp hfind k (List.mem_finRange k)
    rw [if_pos hk] at hnone
    cases hnone
  | some career =>
    obtain ⟨k, -, hk⟩ := List.exists_of_findSome?_eq_some hfind
    split at hk
    next heq => exact Or.inr ⟨k, heq, by rw [← hk]⟩
    · cases hk

/-- **When a commit leaves all trophies alone.** -/
theorem trophies_iff {db : MatchTables} {c : Commit}
    (hinj : Function.Injective c.request.user)
    (hreads : ReadsCareers db.toAccounts c.request c.careers) :
    (∀ u, ((persist2v2 db c.request c.careers c.clock).career? u).map PlayerCareer.trophies =
        (db.career? u).map PlayerCareer.trophies) ↔
      ∀ k, 0 ≤ (c.careers (c.request.user k)).trophies := by
  have hread : ∀ k, db.career? (c.request.user k) = some (c.careers (c.request.user k)) := by
    intro k
    obtain ⟨row, hrow, hcareer⟩ := hreads k
    unfold Accounts.career?
    rw [hrow, hcareer]
    rfl
  have hnew : ∀ k, (c.settlement k).newCareer.trophies =
      max 0 (c.careers (c.request.user k)).trophies := fun k =>
    settleParticipant_trophies _ _ _ _
  constructor
  · intro hall k
    have hk := hall (c.request.user k)
    rw [persist2v2_career hinj hreads, hread k] at hk
    rcases c.careerOf_cases (c.request.user k) with ⟨-, hne⟩ | ⟨j, hj, hcareer⟩
    · exact absurd rfl (hne k)
    · rw [hcareer, hinj hj] at hk
      have heq : (c.settlement k).newCareer.trophies =
          (c.careers (c.request.user k)).trophies := Option.some.inj hk
      rw [hnew] at heq
      omega
  · intro hpos u
    rw [persist2v2_career hinj hreads]
    rcases c.careerOf_cases u with ⟨hnone, -⟩ | ⟨k, rfl, hcareer⟩
    · rw [hnone]
      rfl
    · rw [hcareer, hread k]
      have hk := hpos k
      have heq := hnew k
      change some (c.settlement k).newCareer.trophies = some (c.careers (c.request.user k)).trophies
      rw [heq, max_eq_right hk]

/-! ### Looking for a match -/

theorem findStored_none_iff {db : MatchTables} {matchId : String} :
    findStored2v2Settlements db matchId = .ok none ↔
      ∀ row ∈ db.matchSettlementsMulti, row.matchId ≠ matchId := by
  unfold findStored2v2Settlements
  dsimp only
  rw [List.length_map, length_sortBy]
  constructor
  · intro h row hrow heq
    split at h
    next hlen =>
      have hmem : row ∈ db.matchSettlementsMulti.filter fun row => row.matchId = matchId :=
        List.mem_filter.mpr ⟨hrow, by simpa using heq⟩
      rw [List.length_eq_zero_iff.mp hlen] at hmem
      cases hmem
    · split at h
      · cases h
      · cases h
  · intro h
    have hnil : (db.matchSettlementsMulti.filter fun row => row.matchId = matchId) = [] :=
      List.filter_eq_nil_iff.mpr fun row hrow => by simpa using h row hrow
    rw [hnil]
    rfl

theorem findStored_of_rows {db : MatchTables} {c : Commit}
    (h : (db.matchSettlementsMulti.filter fun row => row.matchId = c.request.matchId) = c.rows) :
    findStored2v2Settlements db c.request.matchId = .ok (some c.stored) := by
  unfold findStored2v2Settlements
  rw [h]
  have hlen : c.stored.length = 4 := by
    unfold Commit.stored
    rw [List.length_map, length_sortBy]
    rfl
  change (if c.stored.length = 0 then _ else if (c.stored.length : ℤ) ≠ live2v2MaxPlayers then _
    else _) = _
  rw [hlen]
  rfl

theorem findStored_congr {db db' : MatchTables} {matchId : String}
    (h : (db.matchSettlementsMulti.filter fun row => row.matchId = matchId) =
      db'.matchSettlementsMulti.filter fun row => row.matchId = matchId) :
    findStored2v2Settlements db matchId = findStored2v2Settlements db' matchId := by
  unfold findStored2v2Settlements
  rw [h]

theorem stored_perm (c : Commit) : c.stored.Perm c.settlements := by
  have hmap : c.rows.map MatchSettlementMultiRow.settlement = c.settlements := by
    unfold Commit.rows
    rw [List.map_map]
    rfl
  rw [← hmap]
  exact (perm_sortBy _ _).map _

/-- The rows of one match among those of all commits. -/
theorem filter_rows {c : Commit} : ∀ {commits : List Commit},
    (commits.map fun c => c.request.matchId).Nodup → c ∈ commits →
      ((commits.flatMap Commit.rows).filter fun row => row.matchId = c.request.matchId) =
        c.rows := by
  have hnone : ∀ {commits : List Commit},
      (∀ d ∈ commits, d.request.matchId ≠ c.request.matchId) →
        ((commits.flatMap Commit.rows).filter fun row => row.matchId = c.request.matchId) = [] := by
    intro commits hne
    refine List.filter_eq_nil_iff.mpr fun row hrow => ?_
    obtain ⟨d, hd, hrow⟩ := List.mem_flatMap.mp hrow
    simpa [Commit.rows_matchId hrow] using hne d hd
  intro commits
  induction commits with
  | nil => intro _ hc; cases hc
  | cons d commits ih =>
    intro hnodup hc
    rw [List.map_cons, List.nodup_cons] at hnodup
    obtain ⟨hd, hnodup⟩ := hnodup
    rw [List.flatMap_cons, List.filter_append]
    rcases List.mem_cons.mp hc with rfl | hc
    · have hall : (c.rows.filter fun row => row.matchId = c.request.matchId) = c.rows :=
        List.filter_eq_self.mpr fun row hrow => by simpa using Commit.rows_matchId hrow
      have hrest : ((commits.flatMap Commit.rows).filter fun row =>
          row.matchId = c.request.matchId) = [] :=
        hnone fun e he heq => hd (List.mem_map.mpr ⟨e, he, heq⟩)
      rw [hall, hrest, List.append_nil]
    · have hhead : (d.rows.filter fun row => row.matchId = c.request.matchId) = [] := by
        refine List.filter_eq_nil_iff.mpr fun row hrow => ?_
        have hne : d.request.matchId ≠ c.request.matchId := fun heq =>
          hd (List.mem_map.mpr ⟨c, hc, heq.symm⟩)
        simpa [Commit.rows_matchId hrow] using hne
      rw [hhead, List.nil_append]
      exact ih hnodup hc

end CrownClash.Store
