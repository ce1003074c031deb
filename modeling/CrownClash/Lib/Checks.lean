import Mathlib.Data.List.Basic
import Mathlib.Data.List.Nodup
import Mathlib.Tactic.Common

/-!
# Checks that stop at the first flaw

A validator runs its checks in a row and reports the first that fails.  What it
accepts has passed every one of them: `check_then` takes a row apart,
`checkEach_ok` a loop, and `checkNew_ok` a loop that also remembers the keys it
has seen and reports a second one.
-/

namespace CrownClash.Lib

variable {α β ε κ : Type}

theorem check_then {x : Except ε α} {y : α → Except ε β} {b : β} :
    (x >>= y) = .ok b ↔ ∃ a, x = .ok a ∧ y a = .ok b := by
  cases x with
  | error e =>
    constructor
    · intro h
      cases h
    · rintro ⟨a, h, -⟩
      cases h
  | ok a =>
    constructor
    · intro h
      exact ⟨a, rfl, h⟩
    · rintro ⟨a', h, hb⟩
      cases h
      exact hb

/-- One check for every element. -/
def checkEach (check : α → Except ε Unit) : List α → Except ε Unit
  | [] => pure ()
  | a :: l => do
    check a
    checkEach check l

theorem checkEach_ok {check : α → Except ε Unit} {l : List α} :
    checkEach check l = .ok () ↔ ∀ a ∈ l, check a = .ok () := by
  induction l with
  | nil =>
    constructor
    · intro _ a ha
      exact absurd ha List.not_mem_nil
    · intro _
      rfl
  | cons a l ih =>
    rw [checkEach, check_then, List.forall_mem_cons]
    constructor
    · rintro ⟨u, ha, hl⟩
      exact ⟨ha, ih.mp hl⟩
    · rintro ⟨ha, hl⟩
      exact ⟨(), ha, ih.mpr hl⟩

variable [DecidableEq κ]

/-- One check for every element, whose key must be new; the answer is the keys that were seen. -/
def checkNew (key : α → κ) (check : α → Except ε Unit) (again : α → ε) :
    List κ → List α → Except ε (List κ)
  | seen, [] => pure seen
  | seen, a :: l => do
    check a
    if key a ∈ seen then throw (again a)
    checkNew key check again (key a :: seen) l

theorem checkNew_ok {key : α → κ} {check : α → Except ε Unit} {again : α → ε} :
    ∀ {l : List α} {seen seen' : List κ}, checkNew key check again seen l = .ok seen' →
      (∀ a ∈ l, check a = .ok ()) ∧ (∀ a ∈ l, key a ∉ seen) ∧ (l.map key).Nodup ∧
        ∀ k, k ∈ seen' ↔ k ∈ seen ∨ k ∈ l.map key := by
  intro l
  induction l with
  | nil =>
    intro seen seen' h
    cases h
    refine ⟨fun a ha => absurd ha List.not_mem_nil, fun a ha => absurd ha List.not_mem_nil,
      List.nodup_nil, fun k => ?_⟩
    rw [List.map_nil]
    exact ⟨Or.inl, fun hk => hk.resolve_right List.not_mem_nil⟩
  | cons a l ih =>
    intro seen seen' h
    rw [checkNew, check_then] at h
    obtain ⟨u, ha, h⟩ := h
    by_cases hseen : key a ∈ seen
    · rw [if_pos hseen] at h
      cases h
    · rw [if_neg hseen] at h
      obtain ⟨hchecks, hfresh, hnodup, hmem⟩ := ih h
      refine ⟨List.forall_mem_cons.mpr ⟨ha, hchecks⟩, ?_, ?_, ?_⟩
      · refine List.forall_mem_cons.mpr ⟨hseen, fun b hb hk => ?_⟩
        exact hfresh b hb (List.mem_cons_of_mem _ hk)
      · rw [List.map_cons, List.nodup_cons]
        refine ⟨fun hk => ?_, hnodup⟩
        obtain ⟨b, hb, hkey⟩ := List.mem_map.mp hk
        exact hfresh b hb (hkey ▸ List.mem_cons_self)
      · intro k
        rw [hmem, List.map_cons, List.mem_cons, List.mem_cons]
        tauto

end CrownClash.Lib
