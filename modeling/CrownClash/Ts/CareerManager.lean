import CrownClash.Store.Retries

/-!
# TypeScript: the career that the client shows

`CareerManager` keeps a copy of the career of its player.  Several calls may wait for
their answers at once; the server commits them in one order, and the answers come in
another.  Whatever career an answer brings replaces the copy (`applyRemoteState`), so
the copy is the career that was told last, not the one that was committed last.

`Order` counts the commits that change the career, and keeps for every answer which of
them it tells of.  The copy is right when the answer that was taken last tells of the last
of them (`career_current`).
-/

namespace CrownClash.Ts

open Lib Store
open Go (PlayerCareer)

/-! ### The client -/

structure CareerManager where
  career : PlayerCareer
  ledger : List EconomyLedgerEntry
  deriving DecidableEq, Repr

def CareerManager.applyRemoteState (manager : CareerManager) (career : PlayerCareer)
    (entries : List EconomyLedgerEntry) : CareerManager where
  career := career
  ledger := manager.ledger ++
    entries.filter fun entry => entry.id ∉ manager.ledger.map EconomyLedgerEntry.id

/-- What the methods do with the answer that they wait for. -/
def CareerManager.receive (manager : CareerManager) (answer : Answer) : CareerManager :=
  match answer.state? with
  | some (career, entries) => manager.applyRemoteState career entries
  | none => manager

/-! ### Calls in flight -/

/-- A call that is sent, one whose answer is on its way (`none` is an error), and one
that is over. -/
inductive CallState
  | sent (call : RemoteCall)
  | answered (answer : Option Answer)
  | ended

/-- The server, the client, and the calls by their number. -/
structure Remote where
  db : Database
  manager : CareerManager
  calls : ℕ → Option CallState

inductive RemoteEvent
  | send (i : ℕ) (call : RemoteCall)
  /-- The server runs the call and commits. -/
  | serve (i : ℕ) (env : Env)
  /-- The server turns the call down before it does anything. -/
  | refuse (i : ℕ)
  | receive (i : ℕ)
  /-- The socket is gone before the answer comes. -/
  | lose (i : ℕ)
  /-- Something else happens to careers, such as a live match. -/
  | other (op : CareerOp)

def Remote.start (db : Database) (manager : CareerManager) : Remote := ⟨db, manager, fun _ => none⟩

def Remote.set (s : Remote) (i : ℕ) (state : CallState) : Remote :=
  { s with calls := Function.update s.calls i (some state) }

section Runs

variable [MathLib] (u : String)

def Remote.serve (s : Remote) (i : ℕ) (env : Env) (call : RemoteCall) : Remote :=
  match s.db.serve u env call with
  | some (answer, db) => { s.set i (.answered (some answer)) with db := db }
  | none => s.set i (.answered none)

def Remote.receive (s : Remote) (i : ℕ) (answer : Option Answer) : Remote :=
  { s.set i .ended with manager := answer.elim s.manager s.manager.receive }

/-- The client is the one of the player `u`. -/
def Remote.step (s : Remote) : RemoteEvent → Remote
  | .send i call =>
    match s.calls i with
    | none => s.set i (.sent call)
    | some _ => s
  | .serve i env =>
    match s.calls i with
    | some (.sent call) => s.serve u i env call
    | _ => s
  | .refuse i =>
    match s.calls i with
    | some (.sent _) => s.set i (.answered none)
    | _ => s
  | .receive i =>
    match s.calls i with
    | some (.answered answer) => s.receive i answer
    | _ => s
  | .lose i =>
    match s.calls i with
    | some (.answered _) => s.set i .ended
    | _ => s
  | .other op => { s with db := s.db.runCareer op }

def Remote.run (s : Remote) (events : List RemoteEvent) : Remote := events.foldl (Remote.step u) s

/-- All calls are over. -/
def Remote.Quiet (s : Remote) : Prop := ∀ i state, s.calls i = some state → state = .ended

/-! ### The order of commits and answers -/

/-- The commits that change the career of the player, by number, and where among them a
result was stored, an answer was made and the career was told that the client shows. -/
structure Order where
  changes : ℕ
  /-- The career from a commit on, until the next one. -/
  careers : ℕ → Option PlayerCareer
  /-- Where a result was stored for a call to be answered with. -/
  stored : RemoteCall → Option ℕ
  answered : ℕ → Option ℕ
  shown : Option ℕ

/-- What was stored before has no place. -/
def Order.start (s : Remote) : Order where
  changes := 0
  careers _ := s.db.career? u
  stored _ := none
  answered _ := none
  shown := if s.db.career? u = some s.manager.career then some 0 else none

def Order.commit (o : Order) (db db' : Database) : Order :=
  let changes := if db'.career? u = db.career? u then o.changes else o.changes + 1
  { o with
    changes := changes
    careers := Function.update o.careers changes (db'.career? u)
    stored := fun call =>
      if call.stored? db = none ∧ call.stored? db' ≠ none then some changes else o.stored call }

/-- A retry is answered from where its result was stored, if it is the player's. -/
def Order.serve (o : Order) (i : ℕ) (call : RemoteCall) (db db' : Database) : Order :=
  let place :=
    match call.stored? db with
    | some career => if career.playerId = u then o.stored call else none
    | none => some (o.commit u db db').changes
  { o.commit u db db' with answered := Function.update o.answered i place }

def Order.step (s : Remote) (o : Order) : RemoteEvent → Order
  | .serve i env =>
    match s.calls i with
    | some (.sent call) =>
      match s.db.serve u env call with
      | some (_, db) => o.serve u i call s.db db
      | none => o
    | _ => o
  | .receive i =>
    match s.calls i with
    | some (.answered (some answer)) =>
      if answer.state?.isSome then { o with shown := o.answered i } else o
    | _ => o
  | .other op => o.commit u s.db (s.db.runCareer op)
  | _ => o

def Remote.order (s : Remote) (events : List RemoteEvent) : Order :=
  (events.foldl (fun p e => (p.1.step u e, p.2.step u p.1 e)) (s, Order.start u s)).2

/-- The career never comes back to what a commit has left. -/
def Order.NeverAgain (o : Order) (n : ℕ) : Prop :=
  ∀ m, n < m → m ≤ o.changes → o.careers m ≠ o.careers n

/-! ### The copy is what was told last -/

/-- What is stored, told and shown is the career of its place. -/
structure Ordered (s : Remote) (o : Order) : Prop where
  now : o.careers o.changes = s.db.career? u
  stored : ∀ call n career, o.stored call = some n → call.stored? s.db = some career →
    career.playerId = u → n ≤ o.changes ∧ o.careers n = some career
  answers : ∀ i answer state n, s.calls i = some (.answered (some answer)) →
    answer.state? = some state → o.answered i = some n →
      n ≤ o.changes ∧ o.careers n = some state.1
  copy : ∀ n, o.shown = some n → n ≤ o.changes ∧ o.careers n = some s.manager.career

omit [MathLib] in
theorem ordered_start (db : Database) (manager : CareerManager) :
    Ordered u (Remote.start db manager) (Order.start u (Remote.start db manager)) where
  now := rfl
  stored _ _ _ h := nomatch h
  answers _ _ _ _ h := nomatch h
  copy n hn := by
    have hstart : (if db.career? u = some manager.career then some 0 else none) = some n := hn
    split at hstart
    next hsame =>
      cases hstart
      exact ⟨le_refl 0, hsame⟩
    · cases hstart

variable {u}

omit [MathLib] in
theorem Order.commit_now (o : Order) (db db' : Database) :
    (o.commit u db db').careers (o.commit u db db').changes = db'.career? u :=
  Function.update_self _ _ o.careers

omit [MathLib] in
theorem Order.commit_careers {o : Order} {db : Database} (hnow : o.careers o.changes = db.career? u)
    (db' : Database) {n : ℕ} (hn : n ≤ o.changes) :
    n ≤ (o.commit u db db').changes ∧ (o.commit u db db').careers n = o.careers n := by
  unfold Order.commit
  dsimp only
  split
  next hsame =>
    refine ⟨hn, ?_⟩
    by_cases hlast : n = o.changes
    · rw [hlast, Function.update_self, hnow, hsame]
    · exact Function.update_of_ne hlast _ o.careers
  · have hold : n ≠ o.changes + 1 := by omega
    exact ⟨by omega, Function.update_of_ne hold _ o.careers⟩

omit [MathLib] in
/-- **A commit**, by whomever. -/
theorem Ordered.commit {s : Remote} {o : Order} (h : Ordered u s o) {db' : Database}
    (hstores : Stores s.db db') : Ordered u { s with db := db' } (o.commit u s.db db') where
  now := o.commit_now s.db db'
  stored call n career hn hcareer hplayer := by
    rcases hstores.stored? call with hsame | ⟨hnone, hnew⟩
    · have hold : call.stored? s.db = some career := hsame.symm.trans hcareer
      have hkept : (if call.stored? s.db = none ∧ call.stored? db' ≠ none then
          some (o.commit u s.db db').changes else o.stored call) = some n := hn
      rw [if_neg fun hc => Option.some_ne_none career (hold.symm.trans hc.1)] at hkept
      obtain ⟨hle, hplace⟩ := h.stored call n career hkept hold hplayer
      obtain ⟨hle', hsame'⟩ := Order.commit_careers h.now db' hle
      exact ⟨hle', hsame'.trans hplace⟩
    · have hset : (if call.stored? s.db = none ∧ call.stored? db' ≠ none then
          some (o.commit u s.db db').changes else o.stored call) = some n := hn
      rw [if_pos ⟨hnone, fun hc => Option.some_ne_none career (hcareer.symm.trans hc)⟩] at hset
      cases hset
      have hcurrent := hnew career hcareer
      rw [hplayer] at hcurrent
      exact ⟨le_refl _, (o.commit_now s.db db').trans hcurrent⟩
  answers i answer state n hi hstate hn := by
    obtain ⟨hle, hplace⟩ := h.answers i answer state n hi hstate hn
    obtain ⟨hle', hsame⟩ := Order.commit_careers h.now db' hle
    exact ⟨hle', hsame.trans hplace⟩
  copy n hn := by
    obtain ⟨hle, hplace⟩ := h.copy n hn
    obtain ⟨hle', hsame⟩ := Order.commit_careers h.now db' hle
    exact ⟨hle', hsame.trans hplace⟩

omit [MathLib] in
theorem Ordered.set {s : Remote} {o : Order} (h : Ordered u s o) (i : ℕ) {state : CallState}
    (hstate : ∀ answer, state ≠ .answered (some answer)) : Ordered u (s.set i state) o where
  now := h.now
  stored := h.stored
  answers j answer told n hj := by
    by_cases hij : j = i
    · have hset : (s.set i state).calls j = some state := by
        rw [hij]
        exact Function.update_self i _ s.calls
      rw [hset] at hj
      exact absurd (Option.some.inj hj) (hstate answer)
    · have hset : (s.set i state).calls j = s.calls j := Function.update_of_ne hij _ s.calls
      rw [hset] at hj
      exact h.answers j answer told n hj
  copy := h.copy

/-- The server answers a call: what the answer tells is stored already, or is the career
from this commit on. -/
theorem Ordered.serve {s : Remote} {o : Order} (h : Ordered u s o) {i : ℕ} {env : Env}
    {call : RemoteCall} {answer : Answer} {db' : Database}
    (hserve : s.db.serve u env call = some (answer, db')) :
    Ordered u { s.set i (.answered (some answer)) with db := db' }
      (o.serve u i call s.db db') := by
  have hcommit := h.commit (serve_stores hserve)
  refine ⟨hcommit.now, hcommit.stored, fun j told state n hj hstate hn => ?_, hcommit.copy⟩
  by_cases hij : j = i
  · subst hij
    have hset : some (CallState.answered (some answer)) = some (.answered (some told)) :=
      (Function.update_self j _ s.calls).symm.trans hj
    cases hset
    have hplace : (match call.stored? s.db with
        | some career => if career.playerId = u then o.stored call else none
        | none => some (o.commit u s.db db').changes) = some n :=
      (Function.update_self j _ o.answered).symm.trans hn
    rcases serve_tells hserve hstate with hstored | ⟨hnone, hcareer⟩
    · rw [hstored] at hplace
      dsimp only at hplace
      split at hplace
      next hplayer =>
        obtain ⟨hle, hcareer⟩ := h.stored call n state.1 hplace hstored hplayer
        obtain ⟨hle', hsame⟩ := Order.commit_careers h.now db' hle
        exact ⟨hle', hsame.trans hcareer⟩
      · cases hplace
    · rw [hnone] at hplace
      cases hplace
      exact ⟨le_refl _, (o.commit_now s.db db').trans hcareer⟩
  · have hcalls : ({ s with db := db' } : Remote).calls j = some (.answered (some told)) :=
      (Function.update_of_ne hij _ s.calls).symm.trans hj
    have hplace : (o.commit u s.db db').answered j = some n :=
      (Function.update_of_ne hij _ o.answered).symm.trans hn
    exact hcommit.answers j told state n hcalls hstate hplace

omit [MathLib] in
theorem Ordered.receive {s : Remote} {o : Order} (h : Ordered u s o) {i : ℕ} {answer : Answer}
    (hi : s.calls i = some (.answered (some answer))) :
    Ordered u (s.receive i (some answer))
      (if answer.state?.isSome then { o with shown := o.answered i } else o) := by
  have hover : Ordered u (s.set i .ended) o := h.set i fun _ hc => nomatch hc
  cases hstate : answer.state? with
  | none =>
    have hsame : s.receive i (some answer) = s.set i .ended := by
      simp only [Remote.receive, Option.elim, CareerManager.receive, hstate]
      rfl
    rw [hsame, if_neg (Bool.eq_false_iff.mp Option.isSome_none)]
    exact hover
  | some state =>
    have hmanager : (s.receive i (some answer)).manager.career = state.1 := by
      simp only [Remote.receive, Option.elim, CareerManager.receive, hstate]
      rfl
    rw [if_pos Option.isSome_some]
    refine ⟨hover.now, hover.stored, hover.answers, fun n hn => ?_⟩
    rw [hmanager]
    exact h.answers i answer state n hi hstate hn

theorem Ordered.step {s : Remote} {o : Order} (h : Ordered u s o) (e : RemoteEvent) :
    Ordered u (s.step u e) (o.step u s e) := by
  cases e with
  | send i call =>
    simp only [Remote.step, Order.step]
    split
    · exact h.set i fun _ hc => nomatch hc
    · exact h
  | serve i env =>
    rcases hi : s.calls i with _ | call | answer | _
    · simp only [Remote.step, Order.step, hi]
      exact h
    · simp only [Remote.step, Order.step, hi, Remote.serve]
      cases hserve : s.db.serve u env call with
      | none => exact h.set i fun _ hc => nomatch hc
      | some p => exact h.serve hserve
    · simp only [Remote.step, Order.step, hi]
      exact h
    · simp only [Remote.step, Order.step, hi]
      exact h
  | refuse i =>
    simp only [Remote.step, Order.step]
    split
    · exact h.set i fun _ hc => nomatch hc
    · exact h
  | receive i =>
    rcases hi : s.calls i with _ | call | (_ | answer) | _
    · simp only [Remote.step, Order.step, hi]
      exact h
    · simp only [Remote.step, Order.step, hi]
      exact h
    · simp only [Remote.step, Order.step, hi]
      exact h.set i fun _ hc => nomatch hc
    · simp only [Remote.step, Order.step, hi]
      exact h.receive hi
    · simp only [Remote.step, Order.step, hi]
      exact h
  | lose i =>
    simp only [Remote.step, Order.step]
    split
    · exact h.set i fun _ hc => nomatch hc
    · exact h
  | other op => exact h.commit (runCareer_stores s.db op)

/-- The places are kept beside a run, and change nothing in it. -/
theorem ordered_run (events : List RemoteEvent) : ∀ {s : Remote} {o : Order}, Ordered u s o →
    Ordered u (s.run u events)
      (events.foldl (fun p e => (p.1.step u e, p.2.step u p.1 e)) (s, o)).2 := by
  induction events with
  | nil => intro s o h; exact h
  | cons e events ih => intro s o h; exact ih (h.step e)

/-- **The client shows the career of the player when the answer that it took last tells of
the last change.**  Calls may be in flight in any number, be served in any order and
answered in another, fail, get lost and be retried, and other operations run in between.
An answer tells of the commit of its call, that of a retry of the commit that stored its
result.  If the career never comes back to what that commit has left, the client shows
the career of the player only then. -/
theorem career_current (u : String) (db : Database) (manager : CareerManager)
    (events : List RemoteEvent) :
    let s := (Remote.start db manager).run u events
    let o := (Remote.start db manager).order u events
    (o.shown = some o.changes → s.db.career? u = some s.manager.career) ∧
      ∀ n, o.shown = some n → o.NeverAgain n →
        (s.db.career? u = some s.manager.career ↔ n = o.changes) := by
  intro s o
  have hordered : Ordered u s o := ordered_run events (ordered_start u db manager)
  refine ⟨fun hshown => ?_, fun n hshown hnever => ?_⟩
  · obtain ⟨-, hcareer⟩ := hordered.copy _ hshown
    exact hordered.now.symm.trans hcareer
  · obtain ⟨hle, hcareer⟩ := hordered.copy n hshown
    constructor
    · intro hcurrent
      by_contra hne
      refine hnever o.changes (by omega) (le_refl _) ?_
      rw [hordered.now, hcareer, hcurrent]
    · rintro rfl
      exact hordered.now.symm.trans hcareer

end Runs

/-! ### A copy that goes back -/

/-- Two upgrades are bought at once, and paid in this order. -/
def twoPurchases : List RemoteEvent :=
  [.send 0 (.purchaseUpgrade .production "first"), .send 1 (.purchaseUpgrade .treasury "second"),
    .serve 0 ⟨0, "", 0, 0, false⟩, .serve 1 ⟨0, "", 0, 0, false⟩]

/-- The answers come in the order of the payments, or in the other. -/
def answersInOrder : List RemoteEvent := twoPurchases ++ [.receive 0, .receive 1]

def answersSwapped : List RemoteEvent := twoPurchases ++ [.receive 1, .receive 0]

/-- Anna's store and client after her first login. -/
def annasClient : Remote :=
  Remote.start (emptyStore.getOrCreateCareer "anna") ⟨careerFromRow "anna" createDefaultCareer, []⟩

/-- In order, her client shows her career.  Swapped, it shows what the first payment left,
which is not the last. -/
theorem career_current_anna :
    (@Remote.run decimalHypot "anna" annasClient answersInOrder).db.career? "anna" =
      some (@Remote.run decimalHypot "anna" annasClient answersInOrder).manager.career ∧
    ¬ (@Remote.run decimalHypot "anna" annasClient answersSwapped).db.career? "anna" =
      some (@Remote.run decimalHypot "anna" annasClient answersSwapped).manager.career := by
  have hchanges : (@Remote.order decimalHypot "anna" annasClient answersSwapped).changes = 2 := by
    decide +kernel
  have hshown : (@Remote.order decimalHypot "anna" annasClient answersSwapped).shown = some 1 := by
    decide +kernel
  have hnever : (@Remote.order decimalHypot "anna" annasClient answersSwapped).NeverAgain 1 := by
    intro m hlow hhigh
    obtain rfl : m = 2 := by omega
    decide +kernel
  constructor
  · exact (@career_current decimalHypot "anna" _ _ answersInOrder).1 (by decide +kernel)
  · intro hcurrent
    have hlast := ((@career_current decimalHypot "anna" _ _ answersSwapped).2 1 hshown hnever).mp
      hcurrent
    exact absurd (hlast.trans hchanges) (by decide)

/-- She paid for both, and her client shows one of them and the coins of the other. -/
theorem career_goes_back :
    annasClient.db.career? "anna" = some annasClient.manager.career ∧
      (@Remote.run decimalHypot "anna" annasClient answersSwapped).Quiet ∧
      (@Remote.run decimalHypot "anna" annasClient answersSwapped).db.career? "anna" ≠
        some (@Remote.run decimalHypot "anna" annasClient answersSwapped).manager.career := by
  refine ⟨rfl, fun i state h => ?_, ?_⟩
  · match i with
    | 0 =>
      have hover : some CallState.ended = some state := h
      exact (Option.some.inj hover).symm
    | 1 =>
      have hover : some CallState.ended = some state := h
      exact (Option.some.inj hover).symm
    | i + 2 =>
      have hnone : (none : Option CallState) = some state := h
      cases hnone
  · decide +kernel

end CrownClash.Ts
