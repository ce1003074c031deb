import CrownClash.Lib.Run
import Mathlib.Logic.Function.Basic

/-!
# Transactions under row locks

Any number of sessions call a store at once.  A call first looks at the store and may
answer from that.  Else it waits for the locks of its rows, which it takes together,
reads the store, and commits later on, when other sessions may have committed in
between.  Transactions of other kinds run in one step and wait for the locks of their
rows.

`Fresh.step` is the rule for what a call has read: what every transaction on other rows
leaves alone is the same at the commit as it was read.
-/

namespace CrownClash.Lib

/-- What the calls do: the rows that a call locks, its answer from a first look, if it has
one, and its answer and what it makes of the store when it commits, from what it has read
under the locks and from the store by then. -/
structure Transactions (δ κ γ α ω : Type*) where
  keys : γ → List κ
  look : δ → γ → Option α
  commit : δ → δ → γ → α × δ
  failed : α
  other : δ → ω → δ
  locks : δ → ω → List κ

/-- How far a call has come. -/
inductive Session (δ γ α : Type*)
  | idle
  | begun (c : γ)
  | looked (c : γ)
  | locked (c : γ)
  | reading (c : γ) (seen : δ)
  | returned (c : γ) (answer : α)

/-- The call that holds the locks of its rows. -/
def Session.holds {δ γ α : Type*} : Session δ γ α → Option γ
  | .locked c => some c
  | .reading c _ => some c
  | _ => none

def Session.call? {δ γ α : Type*} : Session δ γ α → Option γ
  | .idle => none
  | .begun c => some c
  | .looked c => some c
  | .locked c => some c
  | .reading c _ => some c
  | .returned c _ => some c

inductive TransactionEvent (γ ω : Type*)
  | call (i : ℕ) (c : γ)
  | look (i : ℕ)
  | lock (i : ℕ)
  | read (i : ℕ)
  | commit (i : ℕ)
  /-- A statement of the call fails. -/
  | fail (i : ℕ)
  | other (o : ω)

/-- Whose step it is. -/
def TransactionEvent.session? {γ ω : Type*} : TransactionEvent γ ω → Option ℕ
  | .call i _ => some i
  | .look i => some i
  | .lock i => some i
  | .read i => some i
  | .commit i => some i
  | .fail i => some i
  | .other _ => none

structure Sessions (δ κ γ α : Type*) where
  db : δ
  sessions : ℕ → Session δ γ α
  lockedBy : κ → Option ℕ

namespace Sessions

variable {δ κ γ α ω : Type*} [DecidableEq κ]

def start (db : δ) : Sessions δ κ γ α := ⟨db, fun _ => .idle, fun _ => none⟩

def setSession (s : Sessions δ κ γ α) (i : ℕ) (session : Session δ γ α) : Sessions δ κ γ α :=
  { s with sessions := Function.update s.sessions i session }

/-- A call returns and gives up its locks. -/
def answer (s : Sessions δ κ γ α) (i : ℕ) (c : γ) (answer : α) : Sessions δ κ γ α :=
  { s with
    sessions := Function.update s.sessions i (.returned c answer)
    lockedBy := fun k => if s.lockedBy k = some i then none else s.lockedBy k }

variable (P : Transactions δ κ γ α ω)

def callStep (s : Sessions δ κ γ α) (i : ℕ) (c : γ) : Sessions δ κ γ α :=
  match s.sessions i with
  | .idle => s.setSession i (.begun c)
  | _ => s

def lookStep (s : Sessions δ κ γ α) (i : ℕ) : Sessions δ κ γ α :=
  match s.sessions i with
  | .begun c =>
    match P.look s.db c with
    | some a => s.answer i c a
    | none => s.setSession i (.looked c)
  | _ => s

def lockStep (s : Sessions δ κ γ α) (i : ℕ) : Sessions δ κ γ α :=
  match s.sessions i with
  | .looked c =>
    if (P.keys c).any fun k => (s.lockedBy k).isSome then s
    else
      { s with
        sessions := Function.update s.sessions i (.locked c)
        lockedBy := fun k => if k ∈ P.keys c then some i else s.lockedBy k }
  | _ => s

def readStep (s : Sessions δ κ γ α) (i : ℕ) : Sessions δ κ γ α :=
  match s.sessions i with
  | .locked c => s.setSession i (.reading c s.db)
  | _ => s

def commitStep (s : Sessions δ κ γ α) (i : ℕ) : Sessions δ κ γ α :=
  match s.sessions i with
  | .reading c seen =>
    { s.answer i c (P.commit seen s.db c).1 with db := (P.commit seen s.db c).2 }
  | _ => s

def failStep (s : Sessions δ κ γ α) (i : ℕ) : Sessions δ κ γ α :=
  match s.sessions i with
  | .begun c => s.answer i c P.failed
  | .looked c => s.answer i c P.failed
  | .locked c => s.answer i c P.failed
  | .reading c _ => s.answer i c P.failed
  | _ => s

def otherStep (s : Sessions δ κ γ α) (o : ω) : Sessions δ κ γ α :=
  if (P.locks s.db o).any fun k => (s.lockedBy k).isSome then s
  else { s with db := P.other s.db o }

def step (s : Sessions δ κ γ α) : TransactionEvent γ ω → Sessions δ κ γ α
  | .call i c => s.callStep i c
  | .look i => s.lookStep P i
  | .lock i => s.lockStep P i
  | .read i => s.readStep i
  | .commit i => s.commitStep P i
  | .fail i => s.failStep P i
  | .other o => s.otherStep P o

/-! ### One step -/

omit [DecidableEq κ] in
/-- Rows none of which is locked. -/
theorem all_free {s : Sessions δ κ γ α} {rows : List κ}
    (h : ¬ (rows.any fun k => (s.lockedBy k).isSome) = true) : ∀ k ∈ rows, s.lockedBy k = none := by
  intro k hk
  by_contra hlocked
  exact h (List.any_eq_true.mpr ⟨k, hk, Option.isSome_iff_ne_none.mpr hlocked⟩)

/-- What a step does to the store: nothing, unless a call commits or a transaction of
another kind runs. -/
theorem step_db (s : Sessions δ κ γ α) (e : TransactionEvent γ ω) :
    (s.step P e).db = s.db ∨
    (∃ i c seen, e = .commit i ∧ s.sessions i = .reading c seen ∧
      (s.step P e).db = (P.commit seen s.db c).2 ∧
      (s.step P e).sessions i = .returned c (P.commit seen s.db c).1) ∨
    ∃ o, e = .other o ∧ (∀ k ∈ P.locks s.db o, s.lockedBy k = none) ∧
      (s.step P e).db = P.other s.db o := by
  cases e with
  | call i c =>
    left
    show (s.callStep i c).db = s.db
    unfold callStep
    split <;> rfl
  | look i =>
    left
    show (s.lookStep P i).db = s.db
    unfold lookStep
    split
    · split <;> rfl
    · rfl
  | lock i =>
    left
    show (s.lockStep P i).db = s.db
    unfold lockStep
    split
    · split <;> rfl
    · rfl
  | read i =>
    left
    show (s.readStep i).db = s.db
    unfold readStep
    split <;> rfl
  | commit i =>
    have hstep : s.step P (.commit i) = s.commitStep P i := rfl
    cases h : s.sessions i with
    | reading c seen =>
      refine Or.inr (Or.inl ⟨i, c, seen, rfl, h, ?_, ?_⟩)
      · simp only [hstep, commitStep, h]
      · simp only [hstep, commitStep, h, answer, Function.update_self]
    | _ => exact Or.inl (by simp only [hstep, commitStep, h])
  | fail i =>
    left
    show (s.failStep P i).db = s.db
    unfold failStep
    split <;> rfl
  | other o =>
    by_cases h : ((P.locks s.db o).any fun k => (s.lockedBy k).isSome) = true
    · exact Or.inl (congrArg Sessions.db (if_pos h))
    · exact Or.inr (Or.inr ⟨o, rfl, all_free h, congrArg Sessions.db (if_neg h)⟩)

omit [DecidableEq κ] in
theorem setSession_sessions (s : Sessions δ κ γ α) (i j : ℕ) (session : Session δ γ α) :
    (s.setSession j session).sessions i = if i = j then session else s.sessions i :=
  Function.update_apply s.sessions j session i

omit [DecidableEq κ] in
theorem answer_sessions (s : Sessions δ κ γ α) (i j : ℕ) (c : γ) (a : α) :
    (s.answer j c a).sessions i = if i = j then .returned c a else s.sessions i :=
  Function.update_apply s.sessions j (.returned c a) i

/-- How a session goes on in a step. -/
inductive Goes (s : Sessions δ κ γ α) (i : ℕ) (e : TransactionEvent γ ω) :
    Session δ γ α → Session δ γ α → Prop
  | stays (session : Session δ γ α) : Goes s i e session session
  | begins {c : γ} : Goes s i e .idle (.begun c)
  | answered {c : γ} {a : α} (h : P.look s.db c = some a) : Goes s i e (.begun c) (.returned c a)
  | looks {c : γ} : Goes s i e (.begun c) (.looked c)
  | locks {c : γ} : Goes s i e (.looked c) (.locked c)
  | reads {c : γ} (h : e = .read i) : Goes s i e (.locked c) (.reading c s.db)
  | commits {c : γ} {seen : δ} (h : e = .commit i) :
    Goes s i e (.reading c seen) (.returned c (P.commit seen s.db c).1)
  | fails {session : Session δ γ α} {c : γ} (h : session.call? = some c) :
    Goes s i e session (.returned c P.failed)

variable {P}

omit [DecidableEq κ] in
theorem goes_setSession {s : Sessions δ κ γ α} {i j : ℕ} {e : TransactionEvent γ ω}
    {session : Session δ γ α} (h : i = j → Goes P s i e (s.sessions i) session) :
    Goes P s i e (s.sessions i) ((s.setSession j session).sessions i) := by
  rw [setSession_sessions]
  split
  next hij => exact h hij
  · exact .stays _

omit [DecidableEq κ] in
theorem goes_fail {s : Sessions δ κ γ α} {i j : ℕ} {e : TransactionEvent γ ω} {c : γ}
    (h : (s.sessions j).call? = some c) :
    Goes P s i e (s.sessions i) ((s.answer j c P.failed).sessions i) :=
  goes_setSession fun hij => .fails (hij ▸ h)

variable (P)

theorem step_goes (s : Sessions δ κ γ α) (e : TransactionEvent γ ω) (i : ℕ) :
    Goes P s i e (s.sessions i) ((s.step P e).sessions i) := by
  cases e with
  | call j c =>
    show Goes P s i _ _ ((s.callStep j c).sessions i)
    unfold callStep
    split
    next hj => exact goes_setSession fun hij => by rw [hij, hj]; exact .begins
    · exact .stays _
  | look j =>
    show Goes P s i _ _ ((s.lookStep P j).sessions i)
    unfold lookStep
    split
    next c hj =>
      split
      next a ha => exact goes_setSession fun hij => by rw [hij, hj]; exact .answered ha
      · exact goes_setSession fun hij => by rw [hij, hj]; exact .looks
    · exact .stays _
  | lock j =>
    show Goes P s i _ _ ((s.lockStep P j).sessions i)
    unfold lockStep
    split
    next c hj =>
      split
      · exact .stays _
      · have hset : Goes P s i (.lock j) (s.sessions i)
            ((s.setSession j (.locked c)).sessions i) :=
          goes_setSession fun hij => by rw [hij, hj]; exact .locks
        exact hset
    · exact .stays _
  | read j =>
    show Goes P s i _ _ ((s.readStep j).sessions i)
    unfold readStep
    split
    next c hj => exact goes_setSession fun hij => by rw [hij, hj]; exact .reads rfl
    · exact .stays _
  | commit j =>
    show Goes P s i _ _ ((s.commitStep P j).sessions i)
    unfold commitStep
    split
    next c seen hj => exact goes_setSession fun hij => by rw [hij, hj]; exact .commits rfl
    · exact .stays _
  | fail j =>
    show Goes P s i _ _ ((s.failStep P j).sessions i)
    unfold failStep
    split
    next c hj => exact goes_fail (by rw [hj]; rfl)
    next c hj => exact goes_fail (by rw [hj]; rfl)
    next c hj => exact goes_fail (by rw [hj]; rfl)
    next c seen hj => exact goes_fail (by rw [hj]; rfl)
    · exact .stays _
  | other o =>
    show Goes P s i _ _ ((s.otherStep P o).sessions i)
    unfold otherStep
    split
    · exact .stays _
    · exact .stays _

/-- A call that reads has read before, or reads what is stored. -/
theorem step_reading {s : Sessions δ κ γ α} {e : TransactionEvent γ ω} {i : ℕ} {c : γ} {seen : δ}
    (h : (s.step P e).sessions i = .reading c seen) :
    s.sessions i = .reading c seen ∨ e = .read i ∧ seen = s.db := by
  have hgo := step_goes P s e i
  rw [h] at hgo
  generalize hold : s.sessions i = session at hgo
  cases hgo with
  | stays => exact Or.inl rfl
  | reads he => exact Or.inr ⟨he, rfl⟩

/-- A call that has returned has returned before, or is answered by its look or its
commit, or fails. -/
theorem step_returned {s : Sessions δ κ γ α} {e : TransactionEvent γ ω} {i : ℕ} {c : γ} {a : α}
    (h : (s.step P e).sessions i = .returned c a) :
    s.sessions i = .returned c a ∨ P.look s.db c = some a ∨ a = P.failed ∨
      ∃ seen, s.sessions i = .reading c seen ∧ a = (P.commit seen s.db c).1 := by
  have hgo := step_goes P s e i
  rw [h] at hgo
  generalize hold : s.sessions i = session at hgo
  cases hgo with
  | stays => exact Or.inl rfl
  | answered ha => exact Or.inr (Or.inl ha)
  | commits he => exact Or.inr (Or.inr (Or.inr ⟨_, rfl, rfl⟩))
  | fails hc => exact Or.inr (Or.inr (Or.inl rfl))

/-- A session keeps its call. -/
theorem step_call? {s : Sessions δ κ γ α} {e : TransactionEvent γ ω} {i : ℕ} {c : γ}
    (h : (s.sessions i).call? = some c) : ((s.step P e).sessions i).call? = some c := by
  have hgo := step_goes P s e i
  generalize s.sessions i = session at h hgo
  generalize (s.step P e).sessions i = session' at hgo ⊢
  cases hgo with
  | stays => exact h
  | begins => cases h
  | fails hc => exact hc.symm.trans h ▸ rfl
  | _ => exact h

/-! ### Locks -/

/-- Whoever is past its locks has them. -/
def Held (s : Sessions δ κ γ α) : Prop :=
  ∀ i c, (s.sessions i).holds = some c → ∀ k ∈ P.keys c, s.lockedBy k = some i

variable {P}

omit [DecidableEq κ] in
theorem Held.setSession {s : Sessions δ κ γ α} (h : s.Held P) {i : ℕ} {session : Session δ γ α}
    (hsame : ∀ c, session.holds = some c → (s.sessions i).holds = some c) :
    (s.setSession i session).Held P := by
  intro j c hj
  rw [setSession_sessions] at hj
  split at hj
  next hij => exact hij ▸ h i c (hsame c hj)
  · exact h j c hj

omit [DecidableEq κ] in
/-- A call that returns takes no locks but its own away. -/
theorem Held.answer {s : Sessions δ κ γ α} (h : s.Held P) (i : ℕ) (d : γ) (a : α) :
    (s.answer i d a).Held P := by
  intro j c hj k hk
  rw [answer_sessions] at hj
  split at hj
  · cases hj
  next hij =>
    have hlock := h j c hj k hk
    show (if s.lockedBy k = some i then none else s.lockedBy k) = some j
    rw [hlock, if_neg fun heq => hij (Option.some.inj heq)]

theorem Held.lockStep {s : Sessions δ κ γ α} (h : s.Held P) (i : ℕ) :
    (s.lockStep P i).Held P := by
  unfold Sessions.lockStep
  split
  next d hd =>
    split
    · exact h
    next hfree =>
      intro j c hj k hk
      dsimp only at hj ⊢
      by_cases hij : j = i
      · rw [hij, Function.update_self] at hj
        cases hj
        rw [hij, if_pos hk]
      · rw [Function.update_of_ne hij] at hj
        have hlock := h j c hj k hk
        -- the row was free, so it is none that `j` holds
        have hnot : k ∉ P.keys d := fun hmem => by
          rw [all_free hfree k hmem] at hlock
          cases hlock
        rw [if_neg hnot]
        exact hlock
  · exact h

theorem Held.step {s : Sessions δ κ γ α} (h : s.Held P) (e : TransactionEvent γ ω) :
    (s.step P e).Held P := by
  cases e with
  | call i c =>
    show (s.callStep i c).Held P
    unfold callStep
    split
    · exact h.setSession fun d hd => nomatch hd
    · exact h
  | look i =>
    show (s.lookStep P i).Held P
    unfold lookStep
    split
    · split
      · exact h.answer i _ _
      · exact h.setSession fun d hd => nomatch hd
    · exact h
  | lock i => exact h.lockStep i
  | read i =>
    show (s.readStep i).Held P
    unfold readStep
    split
    next c hc => exact h.setSession fun d hd => by rw [hc]; exact hd
    · exact h
  | commit i =>
    show (s.commitStep P i).Held P
    unfold commitStep
    split
    · exact h.answer i _ _
    · exact h
  | fail i =>
    show (s.failStep P i).Held P
    unfold failStep
    split
    · exact h.answer i _ _
    · exact h.answer i _ _
    · exact h.answer i _ _
    · exact h.answer i _ _
    · exact h
  | other o =>
    show (s.otherStep P o).Held P
    unfold otherStep
    split
    · exact h
    · exact h

omit [DecidableEq κ] in
theorem held_start (db : δ) : (start db : Sessions δ κ γ α).Held P := fun _ _ h => nomatch h

/-! ### What a call has read -/

/-- The store keeps an invariant, and what a call sees of the store is as it has read it. -/
structure Fresh (P : Transactions δ κ γ α ω) (I : δ → Prop) (V : κ → δ → δ → Prop)
    (s : Sessions δ κ γ α) : Prop where
  held : s.Held P
  inv : I s.db
  view : ∀ i c seen, s.sessions i = .reading c seen →
    I seen ∧ ∀ k ∈ P.keys c, V k seen s.db

variable {I : δ → Prop} {V : κ → δ → δ → Prop}

omit [DecidableEq κ] in
/-- Two calls never hold the same lock. -/
theorem Held.disjoint {s : Sessions δ κ γ α} (h : s.Held P) {i j : ℕ} {c d : γ} (hij : j ≠ i)
    (hi : (s.sessions i).holds = some c) (hj : (s.sessions j).holds = some d) {k : κ}
    (hk : k ∈ P.keys d) : k ∉ P.keys c := by
  intro hmem
  have hlocki := h i c hi k hmem
  have hlockj := h j d hj k hk
  rw [hlocki] at hlockj
  exact hij (Option.some.inj hlockj).symm

/-- **What others leave alone is at the commit as it was read.** -/
theorem Fresh.step (hrefl : ∀ k db, V k db db)
    (htrans : ∀ {k a b c}, V k a b → V k b c → V k a c)
    (hcommit : ∀ {seen db c}, I seen → I db → (∀ k ∈ P.keys c, V k seen db) →
      I (P.commit seen db c).2 ∧ ∀ k, k ∉ P.keys c → V k db (P.commit seen db c).2)
    (hother : ∀ {db o}, I db → I (P.other db o) ∧ ∀ k, k ∉ P.locks db o → V k db (P.other db o))
    {s : Sessions δ κ γ α} (h : s.Fresh P I V) (e : TransactionEvent γ ω) :
    (s.step P e).Fresh P I V := by
  have hview : ∀ i c seen, (s.step P e).sessions i = .reading c seen →
      I seen ∧ ∀ k ∈ P.keys c, V k seen s.db := by
    intro i c seen hreading
    rcases step_reading P hreading with hold | ⟨-, rfl⟩
    · exact h.view i c seen hold
    · exact ⟨h.inv, fun k _ => hrefl k _⟩
  rcases step_db P s e with hdb | ⟨i, c, seen, rfl, hi, hdb, hnow⟩ | ⟨o, rfl, hfree, hdb⟩
  · refine ⟨h.held.step e, hdb ▸ h.inv, fun i c seen hreading => ?_⟩
    rw [hdb]
    exact hview i c seen hreading
  · obtain ⟨hseen, hsees⟩ := h.view i c seen hi
    obtain ⟨hinv, hkeeps⟩ := hcommit hseen h.inv hsees
    refine ⟨h.held.step _, hdb ▸ hinv, fun j d before hreading => ?_⟩
    have hij : j ≠ i := by
      intro heq
      rw [heq, hnow] at hreading
      cases hreading
    obtain ⟨hbefore, hstill⟩ := hview j d before hreading
    have hji : s.sessions j = .reading d before := by
      rcases step_reading P hreading with hold | ⟨hread, -⟩
      · exact hold
      · cases hread
    rw [hdb]
    refine ⟨hbefore, fun k hk => htrans (hstill k hk) (hkeeps k ?_)⟩
    exact h.held.disjoint hij (by rw [hi]; rfl) (by rw [hji]; rfl) hk
  · obtain ⟨hinv, hkeeps⟩ := hother h.inv
    refine ⟨h.held.step _, hdb ▸ hinv, fun j d before hreading => ?_⟩
    obtain ⟨hbefore, hstill⟩ := hview j d before hreading
    have hj : s.sessions j = .reading d before := by
      rcases step_reading P hreading with hold | ⟨hread, -⟩
      · exact hold
      · cases hread
    rw [hdb]
    refine ⟨hbefore, fun k hk => htrans (hstill k hk) (hkeeps k fun hmem => ?_)⟩
    have hlock := h.held j d (by rw [hj]; rfl) k hk
    rw [hfree k hmem] at hlock
    cases hlock

/-- The steps of a call that does not wait. -/
def steps (i : ℕ) (c : γ) : List (TransactionEvent γ ω) :=
  [.call i c, .look i, .lock i, .read i, .commit i]

/-- A call that nobody disturbs commits to the store that it has read. -/
theorem foldl_steps {s : Sessions δ κ γ α} {i : ℕ} {c : γ} (hidle : s.sessions i = .idle)
    (hlook : P.look s.db c = none) (hfree : ∀ k ∈ P.keys c, s.lockedBy k = none) :
    ((steps i c).foldl (step P) s).db = (P.commit s.db s.db c).2 := by
  have hlock : ¬ ((P.keys c).any fun k => (s.lockedBy k).isSome) = true := by
    intro hany
    obtain ⟨k, hk, hsome⟩ := List.any_eq_true.mp hany
    rw [hfree k hk] at hsome
    cases hsome
  simp only [steps, List.foldl_cons, List.foldl_nil, step, callStep, hidle, setSession, lookStep,
    Function.update_self, hlook, lockStep, hlock, readStep, commitStep, Bool.false_eq_true,
    if_false]

omit [DecidableEq κ] in
theorem fresh_start {db : δ} (h : I db) : (start db : Sessions δ κ γ α).Fresh P I V :=
  ⟨held_start db, h, fun _ _ _ h => nomatch h⟩

end Sessions

end CrownClash.Lib
