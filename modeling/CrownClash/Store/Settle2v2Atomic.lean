import CrownClash.Store.Settle2v2Run

/-!
# Store: a 2v2 match is settled at once or not at all

`Orderly` is what the locks are good for: the careers that a call has read stay as
they are until it commits, and no other call settles any of its users for the same
match once it has looked again.  With it, a commit keeps the store `Settled` exactly
if it commits alone (`commit_iff`), and so does a whole run (`settle2v2_runs`).

What a call cannot see is another one for the same match with four other users, a
ledger row that somebody else has stored under one of its ids, and a replay that is
stored already: the inserts of the last two are dropped without a word.
-/

namespace CrownClash.Store

open Lib
open Go (PlayerCareer)

/-! ### Calls and their locks -/

/-- The request of a call that is under way. -/
def Call.request? : Call → Option Settle2v2Request
  | .begun request => some request
  | .looked request => some request
  | .locked request _ => some request
  | .settling request _ => some request
  | _ => none

/-- What a call has locked. -/
def Call.holding? : Call → Option (Settle2v2Request × (String → PlayerCareer))
  | .locked request careers => some (request, careers)
  | .settling request careers => some (request, careers)
  | _ => none

/-- **What the locks are good for.**  The careers that a call has read are those in
the store, and once it has looked again no other call settles any of its users for
the same match. -/
structure Orderly (s : System) : Prop where
  valid : ∀ i request, (s.calls i).request? = some request → Function.Injective request.user
  locks : ∀ i request careers, (s.calls i).holding? = some (request, careers) →
    (∀ k, s.lockedBy (request.user k) = some i) ∧ ReadsCareers s.db.toAccounts request careers
  alone : ∀ i request careers, s.calls i = .settling request careers →
    ∀ row ∈ s.db.matchSettlementsMulti, row.matchId = request.matchId →
      ∀ k, row.userId ≠ request.user k

theorem orderly_start (db : MatchTables) : Orderly (.start db) := by
  refine ⟨fun i q h => ?_, fun i q careers h => ?_, fun i q careers h => ?_⟩
  · cases h
  · cases h
  · cases h

/-- A change of one call that neither takes locks nor settles. -/
theorem Orderly.setCall {s : System} (h : Orderly s) {i : ℕ} {call : Call}
    (hvalid : ∀ request, call.request? = some request → Function.Injective request.user)
    (hlocks : ∀ request careers, call.holding? = some (request, careers) →
      (∀ k, s.lockedBy (request.user k) = some i) ∧ ReadsCareers s.db.toAccounts request careers)
    (halone : ∀ request careers, call = .settling request careers →
      ∀ row ∈ s.db.matchSettlementsMulti, row.matchId = request.matchId →
        ∀ k, row.userId ≠ request.user k) :
    Orderly (s.setCall i call) := by
  refine ⟨fun j request hj => ?_, fun j request careers hj => ?_, fun j request careers hj => ?_⟩
  · change (Function.update s.calls i call j).request? = some request at hj
    by_cases hji : j = i
    · rw [hji, Function.update_self] at hj
      exact hvalid request hj
    · rw [Function.update_of_ne hji] at hj
      exact h.valid j request hj
  · change (Function.update s.calls i call j).holding? = some (request, careers) at hj
    by_cases hji : j = i
    · rw [hji, Function.update_self] at hj
      rw [hji]
      exact hlocks request careers hj
    · rw [Function.update_of_ne hji] at hj
      exact h.locks j request careers hj
  · change Function.update s.calls i call j = .settling request careers at hj
    by_cases hji : j = i
    · rw [hji, Function.update_self] at hj
      exact halone request careers hj
    · rw [Function.update_of_ne hji] at hj
      exact h.alone j request careers hj

theorem Orderly.answer {s : System} (h : Orderly s) (i : ℕ) (request : Settle2v2Request)
    (a : Except Settle2v2Error (List MatchSettlement)) : Orderly (s.answer i request a) := by
  have hne : ∀ j, ((s.answer i request a).calls j).request? ≠ none → j ≠ i := by
    intro j hj hji
    rw [hji] at hj
    change (Function.update s.calls i (.returned request a) i).request? ≠ none at hj
    rw [Function.update_self] at hj
    exact hj rfl
  have hold : ∀ j, j ≠ i → (s.answer i request a).calls j = s.calls j :=
    fun j hj => Function.update_of_ne hj _ _
  refine ⟨fun j q hj => ?_, fun j q careers hj => ?_, fun j q careers hj => ?_⟩
  · have hji := hne j (by rw [hj]; exact Option.some_ne_none q)
    rw [hold j hji] at hj
    exact h.valid j q hj
  · have hji : j ≠ i := by
      refine hne j fun hnone => ?_
      cases hcall : (s.answer i request a).calls j <;> rw [hcall] at hj hnone <;> cases hj <;>
        cases hnone
    rw [hold j hji] at hj
    obtain ⟨hlock, hreads⟩ := h.locks j q careers hj
    refine ⟨fun k => ?_, hreads⟩
    change (if s.lockedBy (q.user k) = some i then none else s.lockedBy (q.user k)) = some j
    rw [hlock k, if_neg fun heq => hji (Option.some.inj heq)]
  · have hji := hne j (by rw [hj]; exact Option.some_ne_none q)
    rw [hold j hji] at hj
    exact h.alone j q careers hj

/-- A look leaves the calls in order, however it goes on. -/
theorem Orderly.lookAt {s : System} (h : Orderly s) {i : ℕ} {request : Settle2v2Request}
    {next : Call}
    (hvalid : ∀ q, next.request? = some q → Function.Injective q.user)
    (hlocks : ∀ q careers, next.holding? = some (q, careers) →
      (∀ k, s.lockedBy (q.user k) = some i) ∧ ReadsCareers s.db.toAccounts q careers)
    (hnext : ∀ q careers, next = .settling q careers → q = request) :
    Orderly (s.lookAt i request next) := by
  unfold System.lookAt
  cases hfind : findStored2v2Settlements s.db request.matchId with
  | error e => exact h.answer i request (.error e)
  | ok found =>
    cases found with
    | some stored => exact h.answer i request (.ok stored)
    | none =>
      refine h.setCall hvalid hlocks fun q careers hq row hrow hmatch => ?_
      rw [hnext q careers hq] at hmatch
      exact absurd hmatch (findStored_none_iff.mp hfind row hrow)

/-- **A commit touches nobody else's careers**, since the locks keep the users of
two calls that hold any apart. -/
theorem Orderly.apart {s : System} (h : Orderly s) {i j : ℕ} (hij : i ≠ j)
    {q q' : Settle2v2Request} {careers careers' : String → PlayerCareer}
    (hi : (s.calls i).holding? = some (q, careers))
    (hj : (s.calls j).holding? = some (q', careers')) (k k' : Fin 4) : q.user k ≠ q'.user k' := by
  intro heq
  have h1 := (h.locks i q careers hi).1 k
  have h2 := (h.locks j q' careers' hj).1 k'
  rw [heq, h2] at h1
  exact hij (Option.some.inj h1).symm

theorem Orderly.commit {s : System} (h : Orderly s) {i : ℕ} {c : Commit}
    (hcall : s.calls i = .settling c.request c.careers) : Orderly (s.commit i c) := by
  have hold : (s.calls i).holding? = some (c.request, c.careers) := by
    rw [hcall]
    rfl
  have hreads := (h.locks i c.request c.careers hold).2
  have ho := h.answer i c.request (.ok c.settlements)
  have hother : ∀ j, j ≠ i → (s.commit i c).calls j = s.calls j :=
    fun j hj => Function.update_of_ne hj _ _
  have hself : (s.commit i c).calls i = .returned c.request (.ok c.settlements) :=
    Function.update_self _ _ _
  refine ⟨fun j q hj => ho.valid j q hj, fun j q careers hj => ?_, fun j q careers hj => ?_⟩
  · have hji : j ≠ i := by
      rintro rfl
      rw [hself] at hj
      cases hj
    obtain ⟨hlock, hreads'⟩ := ho.locks j q careers hj
    refine ⟨hlock, fun k => ?_⟩
    obtain ⟨row, hrow, hcareer⟩ := hreads' k
    rw [hother j hji] at hj
    exact ⟨row, (persist2v2_players_of_ne hreads fun k' =>
      h.apart hji.symm hold hj k' k).trans hrow, hcareer⟩
  · have hji : j ≠ i := by
      rintro rfl
      rw [hself] at hj
      cases hj
    rw [hother j hji] at hj
    have hhold : (s.calls j).holding? = some (q, careers) := by
      rw [hj]
      rfl
    intro row hrow hmatch k
    have hmulti : (s.commit i c).db.matchSettlementsMulti =
        insertAll MatchSettlementMultiRow.key s.db.matchSettlementsMulti c.rows :=
      persistSome_multi (List.finRange 4) s.db
    rw [hmulti] at hrow
    rcases mem_insertAll hrow with hrow | hrow
    · exact h.alone j q careers hj row hrow hmatch k
    · obtain ⟨k', -, rfl⟩ := List.mem_map.mp hrow
      exact h.apart hji.symm hold hhold k' k

/-- The careers of a call that takes its locks. -/
theorem getCareers_reads {db : Accounts} {request : Settle2v2Request} {careers : String → PlayerCareer}
    (h : getCareersForUpdate db (sortBy (fun a b => a < b) request.userIds) = .ok careers) :
    ReadsCareers db request careers := by
  unfold getCareersForUpdate at h
  cases hfind : (sortBy (fun a b => a < b) request.userIds).find? fun u =>
      (db.players u).isNone with
  | some u =>
    rw [hfind] at h
    cases h
  | none =>
    rw [hfind] at h
    cases h
    intro k
    have hsome := List.find?_eq_none.mp hfind (request.user k)
      (mem_sortBy.mpr (mem_userIds.mpr ⟨k, rfl⟩))
    cases hrow : db.players (request.user k) with
    | none =>
      rw [hrow] at hsome
      exact absurd rfl hsome
    | some row =>
      refine ⟨row, rfl, ?_⟩
      dsimp only
      unfold Accounts.career?
      rw [hrow]
      rfl

theorem Orderly.lock {s : System} (h : Orderly s) {i : ℕ} {request : Settle2v2Request}
    (hvalid : Function.Injective request.user)
    (hfree : request.userIds.any (fun u => (s.lockedBy u).isSome) = false)
    {careers : String → PlayerCareer} (hreads : ReadsCareers s.db.toAccounts request careers) :
    Orderly { s with
      calls := Function.update s.calls i (.locked request careers)
      lockedBy := fun u => if u ∈ request.userIds then some i else s.lockedBy u } := by
  refine ⟨fun j q hj => ?_, fun j q careers' hj => ?_, fun j q careers' hj => ?_⟩
  · by_cases hji : j = i
    · rw [hji] at hj
      dsimp only at hj
      rw [Function.update_self] at hj
      exact Option.some.inj hj ▸ hvalid
    · dsimp only at hj
      rw [Function.update_of_ne hji] at hj
      exact h.valid j q hj
  · by_cases hji : j = i
    · rw [hji] at hj
      dsimp only at hj
      rw [Function.update_self] at hj
      cases hj
      exact ⟨fun k => (if_pos (mem_userIds.mpr ⟨k, rfl⟩)).trans (by rw [hji]), hreads⟩
    · dsimp only at hj
      rw [Function.update_of_ne hji] at hj
      obtain ⟨hlock, hreads'⟩ := h.locks j q careers' hj
      refine ⟨fun k => ?_, hreads'⟩
      dsimp only
      rw [if_neg fun hmem => ?_]
      · exact hlock k
      · have hone := List.any_eq_false.mp hfree (q.user k) hmem
        rw [hlock k] at hone
        exact hone rfl
  · dsimp only at hj
    by_cases hji : j = i
    · rw [hji, Function.update_self] at hj
      cases hj
    · rw [Function.update_of_ne hji] at hj
      exact h.alone j q careers' hj

/-- **Every event keeps the calls in order.** -/
theorem Orderly.step {s : System} (h : Orderly s) (e : SettleEvent) : Orderly (s.step e) := by
  cases e with
  | call i request =>
    unfold System.step
    dsimp only
    cases hcall : s.calls i with
    | idle =>
      dsimp only
      cases hv : validateSettle2v2Request request with
      | error e => exact h.answer i request (.error e)
      | ok _ =>
        refine h.setCall (fun q hq => ?_) (fun _ _ hq => by cases hq) fun _ _ hq => by cases hq
        cases hq
        exact validate_users hv
    | _ => exact h
  | look i =>
    unfold System.step
    dsimp only
    cases hcall : s.calls i with
    | begun request =>
      refine h.lookAt (fun q hq => ?_) (fun _ _ hq => by cases hq) fun _ _ hq => by cases hq
      cases hq
      exact h.valid i request (by rw [hcall]; rfl)
    | _ => exact h
  | lock i =>
    unfold System.step
    dsimp only
    cases hcall : s.calls i with
    | looked request =>
      dsimp only
      split
      · exact h
      next hfree =>
      cases hc : getCareersForUpdate s.db.toAccounts
          (sortBy (fun a b => a < b) request.userIds) with
      | error e => exact h.answer i request (.error e)
      | ok careers =>
        exact h.lock (h.valid i request (by rw [hcall]; rfl)) (Bool.eq_false_iff.mpr hfree)
          (getCareers_reads hc)
    | _ => exact h
  | relook i =>
    unfold System.step
    dsimp only
    cases hcall : s.calls i with
    | locked request careers =>
      have hhold : (s.calls i).holding? = some (request, careers) := by
        rw [hcall]
        rfl
      refine h.lookAt (fun q hq => ?_) (fun q careers' hq => ?_) fun q careers' hq => ?_
      · cases hq
        exact h.valid i request (by rw [hcall]; rfl)
      · cases hq
        exact h.locks i request careers hhold
      · cases hq
        rfl
    | _ => exact h
  | commit i clock =>
    unfold System.step
    dsimp only
    cases hcall : s.calls i with
    | settling request careers => exact h.commit (c := ⟨request, careers, clock⟩) hcall
    | _ => exact h
  | fail i =>
    unfold System.step
    dsimp only
    cases hcall : s.calls i with
    | idle => exact h
    | returned request a => exact h
    | begun request => exact h.answer i request _
    | looked request => exact h.answer i request _
    | locked request careers => exact h.answer i request _
    | settling request careers => exact h.answer i request _

/-! ### Runs -/

/-- The rows of a match that a call has settled. -/
theorem Settled.filter {store : MatchTables} {s : System} (h : Settled store s) {c : Commit}
    (hc : c ∈ s.commits) :
    (s.db.matchSettlementsMulti.filter fun row => row.matchId = c.request.matchId) = c.rows := by
  have hstore : (store.matchSettlementsMulti.filter fun row =>
      row.matchId = c.request.matchId) = [] :=
    List.filter_eq_nil_iff.mpr fun row hrow => by simpa using h.first c hc row hrow
  rw [h.multi, List.filter_append, hstore, List.nil_append]
  exact filter_rows h.once hc

/-- A look at a match whose rows are those of a commit. -/
theorem lookAt_calls {s : System} {c : Commit}
    (h : (s.db.matchSettlementsMulti.filter fun row => row.matchId = c.request.matchId) = c.rows)
    (i : ℕ) {request : Settle2v2Request} (hmatch : request.matchId = c.request.matchId)
    (next : Call) : (s.lookAt i request next).calls i = .returned request (.ok c.stored) := by
  unfold System.lookAt
  rw [hmatch, findStored_of_rows h]
  exact Function.update_self _ _ _

theorem told_of_rows {s : System} {c : Commit}
    (h : (s.db.matchSettlementsMulti.filter fun row => row.matchId = c.request.matchId) = c.rows)
    (i : ℕ) {request : Settle2v2Request} (hmatch : request.matchId = c.request.matchId) :
    (s.calls i = .begun request →
      (s.step (.look i)).calls i = .returned request (.ok c.stored)) ∧
    (∀ careers, s.calls i = .locked request careers →
      (s.step (.relook i)).calls i = .returned request (.ok c.stored)) := by
  constructor
  · intro hcall
    unfold System.step
    dsimp only
    rw [hcall]
    exact lookAt_calls h i hmatch _
  · intro careers hcall
    unfold System.step
    dsimp only
    rw [hcall]
    exact lookAt_calls h i hmatch _

/-- What does not commit only has to answer with what is stored. -/
theorem Settled.keep {store : MatchTables} {s s' : System} (h : Settled store s)
    (hdb : s'.db = s.db) (hcommits : s'.commits = s.commits)
    (hanswers : ∀ i q l, s'.calls i = .returned q (.ok l) →
      s.calls i = .returned q (.ok l) ∨
        findStored2v2Settlements s.db q.matchId = .ok (some l)) : Settled store s' := by
  refine
    { multi := by rw [hdb, hcommits, h.multi]
      ledger := by rw [hdb, hcommits, h.ledger]
      replays := by rw [hdb, hcommits, h.replays]
      careers := fun u => by rw [hdb, hcommits, h.careers u]
      once := by rw [hcommits]; exact h.once
      first := fun c hc => h.first c (hcommits ▸ hc)
      trophies := fun u => by rw [hdb, h.trophies u]
      told := fun c hc i request hmatch => told_of_rows ?_ i hmatch
      answers := fun i q l hi => ?_ }
  · rw [hdb]
    exact h.filter (hcommits ▸ hc)
  · rw [hdb]
    rcases hanswers i q l hi with hi | hfind
    · exact h.answers i q l hi
    · exact ⟨l, List.Perm.refl l, hfind⟩

theorem Settled.setCall {store : MatchTables} {s : System} (h : Settled store s) {i : ℕ}
    {call : Call} (hcall : ∀ q l, call ≠ .returned q (.ok l)) : Settled store (s.setCall i call) := by
  refine h.keep rfl rfl fun j q l hj => Or.inl ?_
  change Function.update s.calls i call j = .returned q (.ok l) at hj
  by_cases hji : j = i
  · rw [hji, Function.update_self] at hj
    exact absurd hj (hcall q l)
  · rw [Function.update_of_ne hji] at hj
    exact hj

theorem Settled.answer {store : MatchTables} {s : System} (h : Settled store s) (i : ℕ)
    (request : Settle2v2Request) {a : Except Settle2v2Error (List MatchSettlement)}
    (ha : ∀ l, a = .ok l → findStored2v2Settlements s.db request.matchId = .ok (some l)) :
    Settled store (s.answer i request a) := by
  refine h.keep rfl rfl fun j q l hj => ?_
  change Function.update s.calls i (.returned request a) j = .returned q (.ok l) at hj
  by_cases hji : j = i
  · rw [hji, Function.update_self] at hj
    cases hj
    exact Or.inr (ha l rfl)
  · rw [Function.update_of_ne hji] at hj
    exact Or.inl hj

theorem Settled.lookAt {store : MatchTables} {s : System} (h : Settled store s) (i : ℕ)
    (request : Settle2v2Request) {next : Call} (hnext : ∀ q l, next ≠ .returned q (.ok l)) :
    Settled store (s.lookAt i request next) := by
  unfold System.lookAt
  cases hfind : findStored2v2Settlements s.db request.matchId with
  | error e => exact h.answer i request fun l hl => by cases hl
  | ok found =>
    cases found with
    | some stored =>
      refine h.answer i request fun l hl => ?_
      cases hl
      exact hfind
    | none => exact h.setCall hnext

section Commit

variable {store : MatchTables} {s : System} {i : ℕ} {c : Commit}

/-- What a commit needs that keeps the store settled. -/
theorem Settled.commitsAlone (h : Settled store s) (g : Settled store (s.commit i c))
    (hinj : Function.Injective c.request.user)
    (hreads : ReadsCareers s.db.toAccounts c.request c.careers) :
    CommitsAlone s c.request c.careers c.clock := by
  have hlast : (s.commit i c).commits = s.commits ++ [c] := rfl
  have hdb : (s.commit i c).db = persist2v2 s.db c.request c.careers c.clock := rfl
  have hpos : ∀ k, 0 ≤ (c.careers (c.request.user k)).trophies := by
    refine (trophies_iff hinj hreads).mp fun u => ?_
    rw [h.trophies u, ← g.trophies u, hdb]
  refine ⟨fun row hrow hmatch => ?_, ?_, ?_, hpos⟩
  · -- a row of the match is not from the first store and not from another commit
    rw [h.multi] at hrow
    rcases List.mem_append.mp hrow with hrow | hrow
    · exact absurd hmatch
        (g.first c (by rw [hlast]; exact List.mem_append_right _ List.mem_cons_self) row hrow)
    · obtain ⟨d, hd, hrow⟩ := List.mem_flatMap.mp hrow
      have honce := g.once
      rw [hlast, List.map_append, List.nodup_append] at honce
      exact absurd ((Commit.rows_matchId hrow).symm.trans hmatch)
        (honce.2.2 _ (List.mem_map.mpr ⟨d, hd, rfl⟩) _ (List.mem_singleton_self _))
  · refine (ledger_iff hinj hpos).mp ?_
    have hledger := g.ledger
    rw [hdb, hlast, List.flatMap_append, ← List.append_assoc, ← h.ledger] at hledger
    simpa using hledger
  · refine replays_iff.mp ?_
    have hreplays := g.replays
    rw [hdb, hlast, List.map_append, ← List.append_assoc, ← h.replays] at hreplays
    exact hreplays

theorem commit_multi (hinj : Function.Injective c.request.user)
    (hnone : ∀ row ∈ s.db.matchSettlementsMulti, row.matchId ≠ c.request.matchId) :
    (s.commit i c).db.matchSettlementsMulti = s.db.matchSettlementsMulti ++ c.rows :=
  (multi_iff hinj).mpr fun _ ⟨row, hrow, hkey⟩ => hnone row hrow (Prod.mk.inj hkey).1

/-- The other commits are of other matches. -/
theorem Settled.commits_ne (h : Settled store s)
    (hnone : ∀ row ∈ s.db.matchSettlementsMulti, row.matchId ≠ c.request.matchId) {d : Commit}
    (hd : d ∈ s.commits) : d.request.matchId ≠ c.request.matchId := by
  intro hmatch
  have hrow : multiRow d.request.matchId (d.request.participants 0) (d.settlement 0) ∈ d.rows :=
    List.mem_map.mpr ⟨0, List.mem_finRange 0, rfl⟩
  refine hnone (multiRow d.request.matchId (d.request.participants 0) (d.settlement 0)) ?_ hmatch
  rw [h.multi]
  exact List.mem_append_right _ (List.mem_flatMap.mpr ⟨d, hd, hrow⟩)

theorem commit_filter_of_ne (hinj : Function.Injective c.request.user)
    (hnone : ∀ row ∈ s.db.matchSettlementsMulti, row.matchId ≠ c.request.matchId) {m : String}
    (hm : m ≠ c.request.matchId) :
    ((s.commit i c).db.matchSettlementsMulti.filter fun row => row.matchId = m) =
      s.db.matchSettlementsMulti.filter fun row => row.matchId = m := by
  have hnew : (c.rows.filter fun row => row.matchId = m) = [] :=
    List.filter_eq_nil_iff.mpr fun row hrow => by simpa [Commit.rows_matchId hrow] using hm.symm
  rw [commit_multi hinj hnone, List.filter_append, hnew, List.append_nil]

theorem commit_filter_self (hinj : Function.Injective c.request.user)
    (hnone : ∀ row ∈ s.db.matchSettlementsMulti, row.matchId ≠ c.request.matchId) :
    ((s.commit i c).db.matchSettlementsMulti.filter fun row =>
      row.matchId = c.request.matchId) = c.rows := by
  have hold : (s.db.matchSettlementsMulti.filter fun row =>
      row.matchId = c.request.matchId) = [] :=
    List.filter_eq_nil_iff.mpr fun row hrow => by simpa using hnone row hrow
  rw [commit_multi hinj hnone, List.filter_append, hold, List.nil_append]
  exact List.filter_eq_self.mpr fun row hrow => by simpa using Commit.rows_matchId hrow

/-- After a commit everybody has been told what is stored. -/
theorem Settled.commit_answers (h : Settled store s) (hinj : Function.Injective c.request.user)
    (hnone : ∀ row ∈ s.db.matchSettlementsMulti, row.matchId ≠ c.request.matchId) {j : ℕ}
    {q : Settle2v2Request} {l : List MatchSettlement}
    (hj : (s.commit i c).calls j = .returned q (.ok l)) :
    ∃ stored, l.Perm stored ∧
      findStored2v2Settlements (s.commit i c).db q.matchId = .ok (some stored) := by
  by_cases hji : j = i
  · have hi : (s.commit i c).calls i = .returned c.request (.ok c.settlements) :=
      Function.update_self _ _ _
    rw [hji, hi] at hj
    cases hj
    exact ⟨c.stored, (stored_perm c).symm, findStored_of_rows (commit_filter_self hinj hnone)⟩
  · have hj' : s.calls j = .returned q (.ok l) := by
      rw [← hj]
      exact (Function.update_of_ne hji _ _).symm
    obtain ⟨stored, hperm, hfind⟩ := h.answers j q l hj'
    refine ⟨stored, hperm, ?_⟩
    rw [← hfind]
    refine findStored_congr (commit_filter_of_ne hinj hnone fun hmatch => ?_)
    rw [hmatch, findStored_none_iff.mpr hnone] at hfind
    cases hfind

/-- A commit that finds its place free keeps the store settled. -/
theorem Settled.commit (h : Settled store s) (g : CommitsAlone s c.request c.careers c.clock)
    (hinj : Function.Injective c.request.user)
    (hreads : ReadsCareers s.db.toAccounts c.request c.careers)
    (hnone : ∀ row ∈ s.db.matchSettlementsMulti, row.matchId ≠ c.request.matchId) :
    Settled store (s.commit i c) := by
  have hlast : (s.commit i c).commits = s.commits ++ [c] := rfl
  have hdb : (s.commit i c).db = persist2v2 s.db c.request c.careers c.clock := rfl
  refine
    { multi := ?_
      ledger := ?_
      replays := ?_
      careers := fun u => ?_
      once := ?_
      first := fun d hd row hrow => ?_
      trophies := fun u => ?_
      told := fun d hd j request hmatch => told_of_rows ?_ j hmatch
      answers := fun j q l hj => h.commit_answers hinj hnone hj }
  · rw [commit_multi hinj hnone, hlast, List.flatMap_append, ← List.append_assoc, ← h.multi]
    simp
  · rw [hdb, (ledger_iff hinj g.trophies).mpr g.ids, hlast, List.flatMap_append,
      ← List.append_assoc, ← h.ledger]
    simp
  · rw [hdb, replays_iff.mpr g.replay, hlast, List.map_append, ← List.append_assoc, ← h.replays]
    rfl
  · rw [hdb, persist2v2_career hinj hreads, h.careers u, hlast]
    unfold careerAfter
    rw [List.foldl_append]
    rfl
  · rw [hlast, List.map_append, List.nodup_append]
    refine ⟨h.once, List.nodup_singleton _, fun m hm m' hm' => ?_⟩
    obtain ⟨d, hd, rfl⟩ := List.mem_map.mp hm
    rw [List.mem_singleton.mp hm']
    exact h.commits_ne hnone hd
  · rcases List.mem_append.mp hd with hd | hd
    · exact h.first d hd row hrow
    · rw [List.mem_singleton.mp hd]
      refine hnone row ?_
      rw [h.multi]
      exact List.mem_append_left _ hrow
  · rw [hdb, (trophies_iff hinj hreads).mpr g.trophies u, h.trophies u]
  · rcases List.mem_append.mp hd with hd | hd
    · rw [commit_filter_of_ne hinj hnone (h.commits_ne hnone hd)]
      exact h.filter hd
    · rw [List.mem_singleton.mp hd]
      exact commit_filter_self hinj hnone

/-- **A commit keeps the store settled exactly if it commits alone.** -/
theorem commit_iff (ho : Orderly s) (h : Settled store s)
    (hcall : s.calls i = .settling c.request c.careers) :
    Settled store (s.commit i c) ↔ CommitsAlone s c.request c.careers c.clock := by
  have hinj : Function.Injective c.request.user := ho.valid i c.request (by rw [hcall]; rfl)
  have hreads : ReadsCareers s.db.toAccounts c.request c.careers :=
    (ho.locks i c.request c.careers (by rw [hcall]; rfl)).2
  constructor
  · intro g
    exact h.commitsAlone g hinj hreads
  · intro g
    refine h.commit g hinj hreads fun row hrow hmatch => ?_
    obtain ⟨k, hk⟩ := g.strangers row hrow hmatch
    exact ho.alone i c.request c.careers hcall row hrow hmatch k hk

end Commit

/-- **One event.**  It keeps the store settled exactly if it does not commit or
commits alone. -/
theorem settled_iff {store : MatchTables} {s : System} (ho : Orderly s) (h : Settled store s)
    (e : SettleEvent) : Settled store (s.step e) ↔ PlaceFree s e := by
  cases e with
  | call i request =>
    refine ⟨fun _ => trivial, fun _ => ?_⟩
    unfold System.step
    dsimp only
    cases hcall : s.calls i with
    | idle =>
      dsimp only
      cases hv : validateSettle2v2Request request with
      | error e => exact h.answer i request fun l hl => by cases hl
      | ok _ => exact h.setCall fun q l hq => by cases hq
    | _ => exact h
  | look i =>
    refine ⟨fun _ => trivial, fun _ => ?_⟩
    unfold System.step
    dsimp only
    cases hcall : s.calls i with
    | begun request => exact h.lookAt i request fun q l hq => by cases hq
    | _ => exact h
  | lock i =>
    refine ⟨fun _ => trivial, fun _ => ?_⟩
    unfold System.step
    dsimp only
    cases hcall : s.calls i with
    | looked request =>
      dsimp only
      split
      · exact h
      cases hc : getCareersForUpdate s.db.toAccounts
          (sortBy (fun a b => a < b) request.userIds) with
      | error e => exact h.answer i request fun l hl => by cases hl
      | ok careers =>
        have hset : Settled store (s.setCall i (.locked request careers)) :=
          h.setCall fun q l hq => by cases hq
        exact hset.keep rfl rfl fun j q l hj => Or.inl hj
    | _ => exact h
  | relook i =>
    refine ⟨fun _ => trivial, fun _ => ?_⟩
    unfold System.step
    dsimp only
    cases hcall : s.calls i with
    | locked request careers => exact h.lookAt i request fun q l hq => by cases hq
    | _ => exact h
  | fail i =>
    refine ⟨fun _ => trivial, fun _ => ?_⟩
    unfold System.step
    dsimp only
    cases hcall : s.calls i with
    | idle => exact h
    | returned request a => exact h
    | begun request => exact h.answer i request fun l hl => by cases hl
    | looked request => exact h.answer i request fun l hl => by cases hl
    | locked request careers => exact h.answer i request fun l hl => by cases hl
    | settling request careers => exact h.answer i request fun l hl => by cases hl
  | commit i clock =>
    unfold System.step PlaceFree
    dsimp only
    cases hcall : s.calls i with
    | settling request careers =>
      dsimp only
      rw [commit_iff (c := ⟨request, careers, clock⟩) ho h hcall]
      constructor
      · intro g q careers' hq
        cases hq
        exact g
      · intro g
        exact g request careers rfl
    | _ =>
      refine ⟨fun _ q careers hq => ?_, fun _ => h⟩
      cases hq

/-- **Settling 2v2 matches concurrently.**  From every store and in every
interleaving of any number of calls, the store is what the calls that committed make
of it, a match is paid once, a later call is told what is stored and trophies stay
as they are, exactly if every commit finds its place free. -/
theorem settle2v2_runs (store : MatchTables) (events : List SettleEvent) :
    Always System.step (Settled store) (.start store) events ↔
      EachStep System.step PlaceFree (.start store) events := by
  refine always_iff_eachStep (I := Orderly) (E := fun _ => True)
    (fun s e _ ho _ _ => ho.step e) (fun s e _ ho h => settled_iff ho h e) (fun _ _ => trivial)
    (orderly_start store) ?_
  refine
    { multi := (List.append_nil _).symm
      ledger := (List.append_nil _).symm
      replays := (List.append_nil _).symm
      careers := fun u => rfl
      once := List.nodup_nil
      first := fun c hc => (List.not_mem_nil hc).elim
      trophies := fun u => rfl
      told := fun c hc => (List.not_mem_nil hc).elim
      answers := fun i q l hi => by cases hi }

/-! ### An id that is taken -/

def storedPlayer : PlayerRow := ⟨100, 10, 0, 0, 0, 0, 0, "crown_guard", 0, 0, 0, 0, 0, true, 0⟩

/-- Four players; Anna has bought an upgrade under a purchase id of her choice. -/
def takenStore : MatchTables where
  players u := if u ∈ ["anna", "bert", "carl", "dora"] then some storedPlayer else none
  ledger := [⟨ledgerId2v2 "match" "anna" .coins 5000, "anna", .coins, -50, "upgrade_production",
    "upgrade_purchase", 150, 100, 4000⟩]
  dailyProgress _ _ := none
  matchSettlementsMulti := []
  matchReplays := []

def takenRequest : Settle2v2Request where
  matchId := "match"
  battlefieldId := "quad_citadel"
  replayPayload := "[]"
  participants k :=
    match k with
    | 0 => ⟨0, "anna", .a, .victory, MatchStats.zero, false⟩
    | 1 => ⟨1, "bert", .a, .victory, MatchStats.zero, false⟩
    | 2 => ⟨2, "carl", .b, .defeat, MatchStats.zero, false⟩
    | 3 => ⟨3, "dora", .b, .defeat, MatchStats.zero, false⟩

/-- One call, undisturbed. -/
def takenCall : List SettleEvent :=
  [.call 0 takenRequest, .look 0, .lock 0, .relook 0,
   .commit 0 ⟨fun _ => 5000, fun _ => "2026-01-01"⟩]

/-- **Anna is paid without a ledger row.**  The row of the match is dropped because her
purchase has its id, and everything else of the match is stored. -/
theorem settle2v2_taken : ¬ Always System.step (Settled takenStore) (.start takenStore) takenCall := by
  intro h
  have hledger := congrArg List.length h.last.ledger
  revert hledger
  decide +kernel

end CrownClash.Store
