import Mathlib.Data.Nat.Basic
import Mathlib.Tactic.Common

/-!
# While loops

`whileLoop cond body fuel` runs the body as long as the condition holds, at most
`fuel` times.  When the fuel is at least a measure that the body decreases, the
loop ends because its condition fails (`whileLoop_exit`) and not because the
fuel is gone; the other rules are the invariant rule and its relational form.
-/

namespace CrownClash.Lib

variable {σ τ : Type*}

def whileLoop (cond : σ → Bool) (body : σ → σ) : ℕ → σ → σ
  | 0, s => s
  | fuel + 1, s => if cond s then whileLoop cond body fuel (body s) else s

/-- What a round preserves while the condition holds, the loop preserves. -/
theorem whileLoop_preserves {P : σ → Prop} {cond : σ → Bool} {body : σ → σ}
    (hb : ∀ s, cond s = true → P s → P (body s)) :
    ∀ (fuel : ℕ) {s : σ}, P s → P (whileLoop cond body fuel s) := by
  intro fuel
  induction fuel with
  | zero => intro s h; exact h
  | succ fuel ih =>
    intro s h
    unfold whileLoop
    split
    · next hc => exact ih (hb s hc h)
    · exact h

theorem whileLoop_of_not {cond : σ → Bool} (body : σ → σ) {s : σ} (h : cond s = false) :
    ∀ fuel, whileLoop cond body fuel s = s := by
  intro fuel
  cases fuel with
  | zero => rfl
  | succ fuel =>
    unfold whileLoop
    rw [h]
    rfl

/-- **The loop ends.**  With fuel for a measure that every round decreases, the
condition fails at the end. -/
theorem whileLoop_exit {P : σ → Prop} {c : σ → Bool} {f : σ → σ} {m : σ → ℕ}
    (hb : ∀ s, c s = true → P s → P (f s)) (hm : ∀ s, c s = true → P s → m (f s) < m s) :
    ∀ (fuel : ℕ) {s : σ}, P s → m s ≤ fuel → c (whileLoop c f fuel s) = false := by
  intro fuel
  induction fuel with
  | zero =>
    intro s hP hs
    cases hc : c s with
    | false => exact hc
    | true =>
      have := hm s hc hP
      omega
  | succ fuel ih =>
    intro s hP hs
    unfold whileLoop
    split
    · next hc =>
      have := hm s hc hP
      exact ih (hb s hc hP) (by omega)
    · next hc => exact Bool.eq_false_iff.mpr hc

/-- Two loops whose conditions agree and whose bodies stay related end related. -/
theorem whileLoop_lockstep {R : σ → τ → Prop} {c : σ → Bool} {f : σ → σ} {d : τ → Bool}
    {g : τ → τ} (hc : ∀ s t, R s t → c s = d t)
    (hb : ∀ s t, c s = true → R s t → R (f s) (g t)) :
    ∀ (fuel : ℕ) {s : σ} {t : τ}, R s t →
      R (whileLoop c f fuel s) (whileLoop d g fuel t) := by
  intro fuel
  induction fuel with
  | zero => intro s t h; exact h
  | succ fuel ih =>
    intro s t h
    unfold whileLoop
    rw [← hc s t h]
    split
    · next hs => exact ih (hb s t hs h)
    · exact h


/-! ### Counting up to a target -/

/-- Rounds that count up to a target, as long as a condition holds. -/
def countTo (p : σ → Bool) (body : σ → σ) (count : σ → ℕ) (target : ℕ) (s : σ) : σ :=
  whileLoop (fun s => p s && decide (count s < target)) body (target - count s) s

section CountTo

variable {p : σ → Bool} {body : σ → σ} {count : σ → ℕ}

theorem countTo_of_not {s : σ} (h : p s = false) (n : ℕ) : countTo p body count n s = s := by
  unfold countTo
  cases n - count s with
  | zero => rfl
  | succ k =>
    unfold whileLoop
    rw [h]
    rfl

theorem countTo_of_le {s : σ} {n : ℕ} (h : n ≤ count s) : countTo p body count n s = s := by
  unfold countTo
  rw [Nat.sub_eq_zero_of_le h]
  rfl

theorem countTo_step (hb : ∀ s, p s = true → count (body s) = count s + 1) {s : σ} {n : ℕ}
    (hp : p s = true) (hn : count s < n) :
    countTo p body count n s = countTo p body count n (body s) := by
  unfold countTo
  have hfuel : n - count s = (n - count (body s)) + 1 := by
    have := hb s hp
    omega
  rw [hfuel, whileLoop, hp, decide_eq_true hn]
  rfl

/-- The rounds reach their target while the condition holds. -/
theorem count_countTo (hb : ∀ s, p s = true → count (body s) = count s + 1) {n : ℕ} :
    ∀ {s : σ}, count s ≤ n → p (countTo p body count n s) = true →
      count (countTo p body count n s) = n := by
  intro s hs
  obtain ⟨k, hk⟩ := Nat.exists_eq_add_of_le hs
  induction k generalizing s with
  | zero =>
    intro _
    rw [countTo_of_le (by omega)]
    omega
  | succ k ih =>
    cases hp : p s with
    | false =>
      rw [countTo_of_not hp]
      intro hp'
      rw [hp] at hp'
      cases hp'
    | true =>
      rw [countTo_step hb hp (by omega)]
      have hcount := hb s hp
      exact ih (by omega) (by omega)

theorem countTo_le (hb : ∀ s, p s = true → count (body s) = count s + 1) {s : σ} {n : ℕ}
    (hs : count s ≤ n) : count (countTo p body count n s) ≤ n := by
  obtain ⟨k, hk⟩ := Nat.exists_eq_add_of_le hs
  induction k generalizing s with
  | zero =>
    rw [countTo_of_le (by omega)]
    exact hs
  | succ k ih =>
    cases hp : p s with
    | false =>
      rw [countTo_of_not hp]
      exact hs
    | true =>
      have hcount := hb s hp
      rw [countTo_step hb hp (by omega)]
      exact ih (by omega) (by omega)

theorem countTo_succ (hb : ∀ s, p s = true → count (body s) = count s + 1) {n : ℕ} :
    ∀ {s : σ}, count s ≤ n → countTo p body count (n + 1) s =
      if p (countTo p body count n s) then body (countTo p body count n s)
      else countTo p body count n s := by
  intro s hs
  obtain ⟨k, hk⟩ := Nat.exists_eq_add_of_le hs
  induction k generalizing s with
  | zero =>
    rw [countTo_of_le (s := s) (n := n) (by omega)]
    cases hp : p s with
    | false => exact countTo_of_not hp _
    | true =>
      have hcount := hb s hp
      rw [countTo_step hb hp (by omega), countTo_of_le (by omega)]
      rfl
  | succ k ih =>
    cases hp : p s with
    | false =>
      rw [countTo_of_not hp, countTo_of_not hp, hp]
      rfl
    | true =>
      have hcount := hb s hp
      rw [countTo_step hb hp (by omega), countTo_step hb hp (by omega)]
      exact ih (by omega) (by omega)

/-- On the way to a target one passes those before it. -/
theorem countTo_countTo (hb : ∀ s, p s = true → count (body s) = count s + 1) {n m : ℕ}
    (h : n ≤ m) : ∀ {s : σ}, count s ≤ n →
      countTo p body count m (countTo p body count n s) = countTo p body count m s := by
  intro s hs
  obtain ⟨k, rfl⟩ := Nat.exists_eq_add_of_le h
  induction k with
  | zero =>
    cases hp : p (countTo p body count n s) with
    | false => exact countTo_of_not hp _
    | true => exact countTo_of_le (Nat.le_of_eq (count_countTo hb hs hp).symm)
  | succ k ih =>
    have hle : p (countTo p body count n s) = true → count (countTo p body count n s) ≤ n + k :=
      fun hp => by
        rw [count_countTo hb hs hp]
        exact Nat.le_add_right n k
    have hfirst := ih (Nat.le_add_right n k)
    cases hp : p (countTo p body count n s) with
    | false =>
      rw [countTo_of_not hp] at hfirst ⊢
      have hsucc := countTo_succ hb (Nat.le_trans hs (Nat.le_add_right n k))
      rw [← hfirst, hp] at hsucc
      exact hsucc.symm
    | true =>
      rw [← Nat.add_assoc, countTo_succ hb (hle hp), hfirst,
        countTo_succ hb (Nat.le_trans hs (Nat.le_add_right n k))]

end CountTo

end CrownClash.Lib
