import Mathlib.Data.List.Basic

/-!
# Folds as runs

A loop over a list is a fold, and so is a run of a machine over its events.
`foldl_preserves` is the invariant rule and `foldl_lockstep` its relational
form: two machines that stay related under every event end related.
-/

namespace CrownClash.Lib

variable {σ τ ε : Type*}

/-- What holds at the start and is preserved by every event holds at the end. -/
theorem foldl_preserves {P : σ → Prop} {f : σ → ε → σ} : ∀ {l : List ε} {s : σ},
    (∀ s, ∀ e ∈ l, P s → P (f s e)) → P s → P (l.foldl f s) := by
  intro l
  induction l with
  | nil => intro s _ h; exact h
  | cons e l ih =>
    intro s hf h
    exact ih (fun s e' he' => hf s e' (List.mem_cons_of_mem e he'))
      (hf s e List.mem_cons_self h)

/-- Two machines that every event keeps related end related. -/
theorem foldl_lockstep {R : σ → τ → Prop} {f : σ → ε → σ} {g : τ → ε → τ} :
    ∀ {l : List ε} {s : σ} {t : τ},
      (∀ s t, ∀ e ∈ l, R s t → R (f s e) (g t e)) → R s t → R (l.foldl f s) (l.foldl g t) := by
  intro l
  induction l with
  | nil => intro s t _ h; exact h
  | cons e l ih =>
    intro s t hf h
    exact ih (fun s t e' he' => hf s t e' (List.mem_cons_of_mem e he'))
      (hf s t e List.mem_cons_self h)

/-- Searching the elements that pass a filter. -/
theorem findSome?_filter (p : ε → Bool) (f : ε → Option σ) : ∀ l : List ε,
    (l.filter p).findSome? f = l.findSome? fun x => if p x then f x else none := by
  intro l
  induction l with
  | nil => rfl
  | cons a l ih =>
    rw [List.findSome?_cons]
    by_cases h : p a = true
    · rw [List.filter_cons_of_pos h, List.findSome?_cons, if_pos h, ih]
    · rw [List.filter_cons_of_neg h, if_neg h, ih]

theorem findSome?_congr {f g : ε → Option σ} : ∀ {l : List ε},
    (∀ x ∈ l, f x = g x) → l.findSome? f = l.findSome? g := by
  intro l
  induction l with
  | nil => intro _; rfl
  | cons a l ih =>
    intro h
    rw [List.findSome?_cons, List.findSome?_cons, h a List.mem_cons_self,
      ih fun x hx => h x (List.mem_cons_of_mem a hx)]

theorem map_findSome? (g : σ → τ) (f : ε → Option σ) : ∀ l : List ε,
    (l.findSome? f).map g = l.findSome? fun x => (f x).map g := by
  intro l
  induction l with
  | nil => rfl
  | cons a l ih =>
    rw [List.findSome?_cons, List.findSome?_cons]
    cases f a with
    | none => exact ih
    | some b => rfl

end CrownClash.Lib
