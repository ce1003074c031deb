import CrownClash.Lib.Rounding
import CrownClash.Lib.Run
import Mathlib.Algebra.BigOperators.Group.List.Basic
import Mathlib.Algebra.Order.Ring.Abs
import Mathlib.Tactic.Positivity

/-!
# Carrying a fraction

A running sum hands out its whole units and carries the rest.  When the sum is first
moved onto an integer that it misses by less than `ε`, what is handed out and what is
carried differ from the sum by less than `ε` (`abs_carry_sub_lt`), and the carry stays
a fraction.
-/

namespace CrownClash.Lib

/-- A snap moves a number by less than its distance. -/
theorem abs_snap_sub_lt {ε : ℚ} (hε : 0 < ε) (near : ℤ) (x : ℚ) : |snap ε near x - x| < ε := by
  unfold snap
  split
  · next h =>
    rw [abs_sub_comm]
    exact h
  · rw [sub_self, abs_zero]
    exact hε

theorem snap_nonneg {ε : ℚ} {near : ℤ} {x : ℚ} (hn : 0 ≤ near) (hx : 0 ≤ x) :
    0 ≤ snap ε near x := by
  unfold snap
  split
  · exact_mod_cast hn
  · exact hx

/-- A sum as it is handed out: a number that is not negative, snapped onto the nearest integer. -/
theorem snapped_nonneg {ε x : ℚ} (hx : 0 ≤ x) : 0 ≤ snap ε (roundHalfUp x) x :=
  snap_nonneg (roundHalfUp_nonneg hx) hx

/-- What is left over once the whole units are taken is a fraction. -/
theorem sub_floor_fraction (x : ℚ) : 0 ≤ x - ⌊x⌋ ∧ x - ⌊x⌋ < 1 := by
  have hlow := Int.floor_le x
  have hhigh := Int.lt_floor_add_one x
  constructor
  · linarith
  · linarith

/-- A number that is not negative and hands out no whole unit is a fraction. -/
theorem lt_one_of_floor {x : ℚ} (h : ¬ ⌊x⌋ > 0) : x < 1 := by
  have hhigh := Int.lt_floor_add_one x
  have hle : (⌊x⌋ : ℚ) ≤ 0 := by exact_mod_cast not_lt.mp h
  linarith

/-! ### Runs that carry -/

section Runs

variable {σ ε : Type*}

/-- What the events of a run hand out. -/
def handedOut (step : σ → ε → σ) (granted : σ → ε → ℤ) : σ → List ε → ℤ
  | _, [] => 0
  | s, e :: events => granted s e + handedOut step granted (step s e) events

/-- **A run that carries a fraction**: every event hands out the whole units of its sum, and is
wrong by less than `δ`. -/
theorem carry_run {step : σ → ε → σ} {granted : σ → ε → ℤ} {carry : σ → ℚ} {gain : ε → ℚ}
    {Q : σ → ε → Prop} {δ : ℚ}
    (hstep : ∀ s e, Q s e → 0 ≤ carry s ∧ carry s < 1 →
      (0 ≤ carry (step s e) ∧ carry (step s e) < 1) ∧
        |(granted s e + carry (step s e)) - (carry s + gain e)| < δ) :
    ∀ {events : List ε} {s : σ}, 0 ≤ carry s ∧ carry s < 1 → EachStep step Q s events →
      Always step (fun s => 0 ≤ carry s ∧ carry s < 1) s events ∧
        |(handedOut step granted s events + carry (events.foldl step s))
            - (carry s + (events.map gain).sum)| ≤ events.length * δ ∧
        (events ≠ [] → |(handedOut step granted s events + carry (events.foldl step s))
            - (carry s + (events.map gain).sum)| < events.length * δ) := by
  intro events
  induction events with
  | nil =>
    intro s hs _
    refine ⟨always_nil.mpr hs, ?_, fun h => absurd rfl h⟩
    simp [handedOut]
  | cons e events ih =>
    intro s hs hq
    obtain ⟨hhead, hrest⟩ := eachStep_cons.mp hq
    obtain ⟨hnext, herr⟩ := hstep s e hhead hs
    obtain ⟨halways, hle, -⟩ := ih hnext hrest
    have hsplit : (handedOut step granted s (e :: events)
          + carry ((e :: events).foldl step s))
            - (carry s + ((e :: events).map gain).sum)
        = ((granted s e + carry (step s e)) - (carry s + gain e))
          + ((handedOut step granted (step s e) events + carry (events.foldl step (step s e)))
            - (carry (step s e) + (events.map gain).sum)) := by
      rw [List.map_cons, List.sum_cons, List.foldl_cons, handedOut]
      push_cast
      ring
    have hlt : |(handedOut step granted s (e :: events) + carry ((e :: events).foldl step s))
        - (carry s + ((e :: events).map gain).sum)| < (e :: events).length * δ := by
      rw [hsplit, List.length_cons]
      push_cast
      rw [add_mul, one_mul, add_comm ((events.length : ℚ) * δ)]
      exact lt_of_le_of_lt (abs_add_le _ _) (add_lt_add_of_lt_of_le herr hle)
    exact ⟨always_cons.mpr ⟨hs, halways⟩, hlt.le, fun _ => hlt⟩

end Runs

end CrownClash.Lib
