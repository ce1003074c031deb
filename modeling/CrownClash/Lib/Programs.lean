import CrownClash.Lib.Run
import Mathlib.Logic.Function.Basic

/-!
# Programs of statements under row locks

A call of a store as the statements that it executes one after the other, with those of
any other calls in between.  A read sees the store as it is then.  A lock is waited for and
is kept until the transaction ends.  A commit writes everything at once, unless a
constraint refuses it.

`Program.Sound` is what one call has to show on its own: what it writes keeps the
invariant of the store, leaves alone what belongs to locks that it does not hold, and does
what the call may do.  `Programs.Ok.step` is that nothing else is needed for any
interleaving.
-/

namespace CrownClash.Lib

inductive Program (δ κ α : Type*)
  | done (a : α)
  | read (next : δ → Program δ κ α)
  | lock (k : κ) (next : Program δ κ α)
  | commit (write : δ → Option δ) (next refused : Program δ κ α)

/-- The programs of the calls, and what else happens to the store in one step, under the
locks that it takes. -/
structure Interface (δ κ γ α ω : Type*) where
  program : γ → Program δ κ α
  failed : α
  other : δ → ω → δ
  locks : ω → List κ

structure Programs (δ κ γ α : Type*) where
  db : δ
  /-- The calls with what is left of them. -/
  calls : ℕ → Option (γ × Program δ κ α)
  lockedBy : κ → Option ℕ

inductive ProgramEvent (γ ω : Type*)
  | call (i : ℕ) (c : γ)
  | statement (i : ℕ)
  /-- A statement fails, which ends the call. -/
  | fail (i : ℕ)
  | other (o : ω)

namespace Programs

variable {δ κ γ α ω : Type*} [DecidableEq κ]

def start (db : δ) : Programs δ κ γ α := ⟨db, fun _ => none, fun _ => none⟩

def goOn (s : Programs δ κ γ α) (i : ℕ) (c : γ) (rest : Program δ κ α) : Programs δ κ γ α :=
  { s with calls := Function.update s.calls i (some (c, rest)) }

/-- The end of a transaction. -/
def release (s : Programs δ κ γ α) (i : ℕ) : Programs δ κ γ α :=
  { s with lockedBy := fun k => if s.lockedBy k = some i then none else s.lockedBy k }

def take (s : Programs δ κ γ α) (i : ℕ) (k : κ) : Programs δ κ γ α :=
  { s with lockedBy := Function.update s.lockedBy k (some i) }

variable (P : Interface δ κ γ α ω)

def callStep (s : Programs δ κ γ α) (i : ℕ) (c : γ) : Programs δ κ γ α :=
  match s.calls i with
  | none => s.goOn i c (P.program c)
  | some _ => s

def statementStep (s : Programs δ κ γ α) (i : ℕ) : Programs δ κ γ α :=
  match s.calls i with
  | none => s
  | some (_, .done _) => s.release i
  | some (c, .read next) => s.goOn i c (next s.db)
  | some (c, .lock k next) =>
    if s.lockedBy k = none ∨ s.lockedBy k = some i then (s.take i k).goOn i c next else s
  | some (c, .commit write next refused) =>
    match write s.db with
    | some db => { (s.release i).goOn i c next with db := db }
    | none => (s.release i).goOn i c refused

def failStep (s : Programs δ κ γ α) (i : ℕ) : Programs δ κ γ α :=
  match s.calls i with
  | none => s
  | some (_, .done _) => s
  | some (c, _) => (s.release i).goOn i c (.done P.failed)

def otherStep (s : Programs δ κ γ α) (o : ω) : Programs δ κ γ α :=
  if (P.locks o).any fun k => (s.lockedBy k).isSome then s else { s with db := P.other s.db o }

def step (s : Programs δ κ γ α) : ProgramEvent γ ω → Programs δ κ γ α
  | .call i c => s.callStep P i c
  | .statement i => s.statementStep i
  | .fail i => s.failStep P i
  | .other o => s.otherStep P o

end Programs

/-! ### What a call shows on its own -/

section Sound

variable {δ κ γ α ω : Type*}

/-- `V k` is what a holder of the lock `k` finds unchanged, `held` are the locks that are
held and `K` is what is known of the store. -/
def Program.Sound (I : δ → Prop) (V : κ → δ → δ → Prop) (G : δ → δ → Prop) :
    Program δ κ α → (κ → Prop) → (δ → Prop) → Prop
  | .done _, _, _ => True
  | .read next, held, K => ∀ seen, I seen → K seen →
    (next seen).Sound I V G held fun db => K db ∧ ∀ k, held k → V k seen db
  | .lock k next, held, K => next.Sound I V G (fun j => j = k ∨ held j) K
  | .commit write next refused, held, K =>
    (∀ db db', I db → K db → write db = some db' →
      I db' ∧ (∀ k, ¬ held k → V k db db') ∧ G db db') ∧
    next.Sound I V G (fun _ => False) (fun _ => True) ∧
    refused.Sound I V G (fun _ => False) (fun _ => True)

variable {I : δ → Prop} {V : κ → δ → δ → Prop} {G : δ → δ → Prop}

/-- A commit with nothing after it. -/
theorem Program.sound_commit {write : δ → Option δ} {a b : α} {held : κ → Prop} {K : δ → Prop}
    (h : ∀ db db', I db → K db → write db = some db' →
      I db' ∧ (∀ k, ¬ held k → V k db db') ∧ G db db') :
    (Program.commit write (.done a) (.done b) : Program δ κ α).Sound I V G held K :=
  ⟨h, trivial, trivial⟩

end Sound

namespace Programs

variable {δ κ γ α ω : Type*} [DecidableEq κ]
variable {P : Interface δ κ γ α ω} {I : δ → Prop} {V : κ → δ → δ → Prop} {G : γ → δ → δ → Prop}

/-- What is known of the store survives what others do. -/
def Stable (V : κ → δ → δ → Prop) (held : κ → Prop) (K : δ → Prop) : Prop :=
  ∀ db db', K db → (∀ k, held k → V k db db') → K db'

/-- A call that has not begun holds no lock; what is left of another is sound. -/
def Fine (I : δ → Prop) (V : κ → δ → δ → Prop) (G : γ → δ → δ → Prop) (db : δ)
    (held : κ → Prop) : Option (γ × Program δ κ α) → Prop
  | none => ∀ k, ¬ held k
  | some (c, rest) => ∃ K, Stable V held K ∧ K db ∧ rest.Sound I V (G c) held K

def Held (s : Programs δ κ γ α) (i : ℕ) : κ → Prop := fun k => s.lockedBy k = some i

structure Ok (I : δ → Prop) (V : κ → δ → δ → Prop) (G : γ → δ → δ → Prop)
    (s : Programs δ κ γ α) : Prop where
  inv : I s.db
  calls : ∀ i, Fine I V G s.db (s.Held i) (s.calls i)

omit [DecidableEq κ] in
theorem ok_start {db : δ} (h : I db) : (start db : Programs δ κ γ α).Ok I V G :=
  ⟨h, fun _ _ hk => nomatch hk⟩

/-! ### Locks -/

omit [DecidableEq κ] in
theorem held_release (s : Programs δ κ γ α) (i : ℕ) : (s.release i).Held i = fun _ => False := by
  funext k
  refine propext ⟨fun h => ?_, False.elim⟩
  unfold Held release at h
  dsimp only at h
  split at h
  · cases h
  next hne => exact hne h

omit [DecidableEq κ] in
theorem held_release_of_ne (s : Programs δ κ γ α) {i j : ℕ} (h : j ≠ i) :
    (s.release i).Held j = s.Held j := by
  funext k
  unfold Held release
  dsimp only
  split
  next hk => rw [hk]; exact propext ⟨nofun, fun heq => absurd (Option.some.inj heq).symm h⟩
  · rfl

theorem held_take (s : Programs δ κ γ α) (i : ℕ) (k : κ) :
    (s.take i k).Held i = fun j => j = k ∨ s.Held i j := by
  funext j
  unfold Held take
  dsimp only
  by_cases hj : j = k
  · subst hj
    rw [Function.update_self]
    exact propext ⟨fun _ => Or.inl rfl, fun _ => rfl⟩
  · rw [Function.update_of_ne hj]
    exact propext ⟨Or.inr, fun h => h.resolve_left hj⟩

theorem held_take_of_ne {s : Programs δ κ γ α} {i j : ℕ} {k : κ} (h : j ≠ i)
    (hfree : s.lockedBy k = none ∨ s.lockedBy k = some i) : (s.take i k).Held j = s.Held j := by
  funext l
  unfold Held take
  dsimp only
  by_cases hl : l = k
  · subst hl
    rw [Function.update_self]
    refine propext ⟨fun heq => absurd (Option.some.inj heq).symm h, fun heq => ?_⟩
    rw [heq] at hfree
    rcases hfree with hnone | hsome
    · cases hnone
    · exact absurd (Option.some.inj hsome) h
  · rw [Function.update_of_ne hl]

/-! ### One step -/

omit [DecidableEq κ] in
/-- The calls that do not take the step. -/
theorem Fine.frame {db db' : δ} {held held' : κ → Prop} {call : Option (γ × Program δ κ α)}
    (h : Fine I V G db held call) (hheld : held' = held) (hV : ∀ k, held k → V k db db') :
    Fine I V G db' held' call := by
  subst hheld
  cases call with
  | none => exact h
  | some call =>
    obtain ⟨K, hstable, hK, hsound⟩ := h
    exact ⟨K, hstable, hstable db db' hK hV, hsound⟩

omit [DecidableEq κ] in
/-- A call goes on, and the others are as they were. -/
theorem Ok.goOn (hrefl : ∀ k db, V k db db) {s s' : Programs δ κ γ α} (h : s.Ok I V G) {i : ℕ}
    {c : γ} {rest : Program δ κ α} (hdb : s'.db = s.db) (hcalls : s'.calls = s.calls)
    (hothers : ∀ j, j ≠ i → s'.Held j = s.Held j)
    (hrest : Fine I V G s.db (s'.Held i) (some (c, rest))) : (s'.goOn i c rest).Ok I V G := by
  constructor
  · show I s'.db
    rw [hdb]
    exact h.inv
  · intro j
    show Fine I V G s'.db (s'.Held j) (Function.update s'.calls i (some (c, rest)) j)
    rw [hdb, hcalls]
    by_cases hj : j = i
    · subst hj
      rw [Function.update_self]
      exact hrest
    · rw [Function.update_of_ne hj]
      exact (h.calls j).frame (hothers j hj) fun k _ => hrefl k s.db

omit [DecidableEq κ] in
/-- What is left of a call whose transaction has ended. -/
theorem fine_ended {db : δ} {s : Programs δ κ γ α} {i : ℕ} {c : γ} {rest : Program δ κ α}
    (h : rest.Sound I V (G c) (fun _ => False) fun _ => True) :
    Fine I V G db ((s.release i).Held i) (some (c, rest)) := by
  rw [held_release]
  exact ⟨fun _ => True, fun _ _ _ _ => trivial, trivial, h⟩

variable (hrefl : ∀ k db, V k db db) (htrans : ∀ {k a b c}, V k a b → V k b c → V k a c)
  (hprogram : ∀ c, (P.program c).Sound I V (G c) (fun _ => False) fun _ => True)
  (hother : ∀ db o, I db → I (P.other db o) ∧ ∀ k, k ∉ P.locks o → V k db (P.other db o))

omit [DecidableEq κ] in
include hrefl hprogram in
theorem Ok.callStep {s : Programs δ κ γ α} (h : s.Ok I V G) (i : ℕ) (c : γ) :
    (s.callStep P i c).Ok I V G := by
  unfold Programs.callStep
  split
  next hnone =>
    have hfree := h.calls i
    rw [hnone] at hfree
    have hheld : s.Held i = fun _ => False := funext fun k => propext ⟨hfree k, False.elim⟩
    refine h.goOn hrefl rfl rfl (fun _ _ => rfl) ?_
    rw [hheld]
    exact ⟨fun _ => True, fun _ _ _ _ => trivial, trivial, hprogram c⟩
  · exact h

omit [DecidableEq κ] in
include hrefl in
theorem Ok.failStep {s : Programs δ κ γ α} (h : s.Ok I V G) (i : ℕ) :
    (s.failStep P i).Ok I V G := by
  unfold Programs.failStep
  split
  · exact h
  · exact h
  · exact h.goOn hrefl rfl rfl (fun j hj => held_release_of_ne s hj) (fine_ended trivial)

include hrefl htrans in
/-- A statement other than a commit that writes. -/
theorem Ok.statement {s : Programs δ κ γ α} (h : s.Ok I V G) {i : ℕ} {c : γ}
    {rest : Program δ κ α} (hi : s.calls i = some (c, rest))
    (hnot : ∀ write next refused, rest = .commit write next refused → write s.db = none) :
    (s.statementStep i).Ok I V G := by
  obtain ⟨K, hstable, hK, hsound⟩ : Fine I V G s.db (s.Held i) (some (c, rest)) := hi ▸ h.calls i
  unfold Programs.statementStep
  rw [hi]
  cases rest with
  | done a =>
    refine ⟨h.inv, fun j => ?_⟩
    show Fine I V G s.db ((s.release i).Held j) (s.calls j)
    by_cases hj : j = i
    · subst hj
      rw [hi]
      exact fine_ended trivial
    · exact (h.calls j).frame (held_release_of_ne s hj) fun k _ => hrefl k s.db
  | read next =>
    refine h.goOn hrefl rfl rfl (fun _ _ => rfl) ⟨_, fun db db' hdb hV => ?_, ?_,
      hsound s.db h.inv hK⟩
    · exact ⟨hstable db db' hdb.1 hV, fun k hk => htrans (hdb.2 k hk) (hV k hk)⟩
    · exact ⟨hK, fun k _ => hrefl k s.db⟩
  | lock k next =>
    dsimp only
    split
    next hfree =>
      refine h.goOn hrefl rfl rfl (fun j hj => held_take_of_ne hj hfree) ?_
      rw [held_take]
      exact ⟨K, fun db db' hdb hV => hstable db db' hdb fun j hj => hV j (Or.inr hj), hK, hsound⟩
    · exact h
  | commit write next refused =>
    dsimp only
    rw [hnot write next refused rfl]
    exact h.goOn hrefl rfl rfl (fun j hj => held_release_of_ne s hj) (fine_ended hsound.2.2)

/-- A commit that writes: what it does, and that it leaves the others alone. -/
theorem Ok.write {s : Programs δ κ γ α} (h : s.Ok I V G) {i : ℕ} {c : γ}
    {write : δ → Option δ} {next refused : Program δ κ α} {db : δ}
    (hi : s.calls i = some (c, .commit write next refused)) (hwrite : write s.db = some db) :
    (s.statementStep i).Ok I V G ∧ (s.statementStep i).db = db ∧ G c s.db db := by
  obtain ⟨K, -, hK, hcommit, hnext, -⟩ : Fine I V G s.db (s.Held i) (some (c, _)) :=
    hi ▸ h.calls i
  obtain ⟨hinv, hleaves, hG⟩ := hcommit s.db db h.inv hK hwrite
  have hstep : s.statementStep i = { (s.release i).goOn i c next with db := db } := by
    simp only [Programs.statementStep, hi, hwrite]
  rw [hstep]
  refine ⟨⟨hinv, fun j => ?_⟩, rfl, hG⟩
  show Fine I V G db ((s.release i).Held j)
    (Function.update s.calls i (some (c, next)) j)
  by_cases hj : j = i
  · subst hj
    rw [Function.update_self]
    exact fine_ended hnext
  · rw [Function.update_of_ne hj]
    refine (h.calls j).frame (held_release_of_ne s hj) fun k hk => hleaves k fun hik => ?_
    -- two calls never hold the same lock
    unfold Held at hk hik
    rw [hk] at hik
    exact hj (Option.some.inj hik)

omit [DecidableEq κ] in
include hother in
theorem Ok.otherStep {s : Programs δ κ γ α} (h : s.Ok I V G) (o : ω) :
    (s.otherStep P o).Ok I V G := by
  unfold Programs.otherStep
  split
  · exact h
  next hfree =>
    obtain ⟨hinv, hleaves⟩ := hother s.db o h.inv
    refine ⟨hinv, fun j => (h.calls j).frame rfl fun k hk => hleaves k fun hmem => ?_⟩
    exact hfree (List.any_eq_true.mpr ⟨k, hmem, by rw [show s.lockedBy k = some j from hk]; rfl⟩)

include hrefl htrans in
/-- A statement writes what its call may write, or leaves the store as it is. -/
theorem Ok.statementStep {s : Programs δ κ γ α} (h : s.Ok I V G) (i : ℕ) :
    (s.statementStep i).Ok I V G ∧ ((s.statementStep i).db = s.db ∨
      ∃ c rest, s.calls i = some (c, rest) ∧ G c s.db (s.statementStep i).db) := by
  cases hi : s.calls i with
  | none =>
    have hstep : s.statementStep i = s := by simp only [Programs.statementStep, hi]
    rw [hstep]
    exact ⟨h, Or.inl rfl⟩
  | some call =>
    obtain ⟨c, rest⟩ := call
    by_cases hnot : ∀ write next refused, rest = .commit write next refused → write s.db = none
    · refine ⟨h.statement hrefl htrans hi hnot, Or.inl ?_⟩
      unfold Programs.statementStep
      rw [hi]
      cases rest with
      | done a => rfl
      | read next => rfl
      | lock k next =>
        dsimp only
        split <;> rfl
      | commit write next refused =>
        dsimp only
        rw [hnot write next refused rfl]
        rfl
    · push Not at hnot
      obtain ⟨write, next, refused, rfl, hsome⟩ := hnot
      obtain ⟨db, hwrite⟩ := Option.ne_none_iff_exists'.mp hsome
      obtain ⟨hok, hdb, hG⟩ := h.write hi hwrite
      exact ⟨hok, Or.inr ⟨c, _, rfl, hdb ▸ hG⟩⟩

include hrefl htrans hprogram hother in
/-- **Sound calls stay sound in any interleaving.** -/
theorem Ok.step {s : Programs δ κ γ α} (h : s.Ok I V G) (e : ProgramEvent γ ω) :
    (s.step P e).Ok I V G := by
  cases e with
  | call i c => exact h.callStep hrefl hprogram i c
  | statement i => exact (h.statementStep hrefl htrans i).1
  | fail i => exact h.failStep hrefl i
  | other o => exact h.otherStep hother o

include hrefl htrans in
/-- **What a step does to the store**: nothing, or what a call may do, or something else
that happens. -/
theorem Ok.step_db {s : Programs δ κ γ α} (h : s.Ok I V G) (e : ProgramEvent γ ω) :
    (s.step P e).db = s.db ∨
    (∃ i c rest, e = .statement i ∧ s.calls i = some (c, rest) ∧ G c s.db (s.step P e).db) ∨
    ∃ o, e = .other o ∧ (s.step P e).db = P.other s.db o := by
  cases e with
  | call i c =>
    left
    show (s.callStep P i c).db = s.db
    unfold Programs.callStep
    split <;> rfl
  | statement i =>
    rcases (h.statementStep hrefl htrans i).2 with hsame | ⟨c, rest, hi, hG⟩
    · exact Or.inl hsame
    · exact Or.inr (Or.inl ⟨i, c, rest, rfl, hi, hG⟩)
  | fail i =>
    left
    show (s.failStep P i).db = s.db
    unfold Programs.failStep
    split <;> rfl
  | other o =>
    show (s.otherStep P o).db = s.db ∨ _ ∨ _
    by_cases hlocked : ((P.locks o).any fun k => (s.lockedBy k).isSome) = true
    · exact Or.inl (congrArg Programs.db (if_pos hlocked))
    · exact Or.inr (Or.inr ⟨o, rfl, congrArg Programs.db (if_neg hlocked)⟩)

end Programs

end CrownClash.Lib
