import CrownClash.Lib.Run
import CrownClash.Ts.Pvp
import Mathlib.Algebra.BigOperators.Group.List.Basic

/-!
# Client: the clock of a frame

`consumeSimulationTicks` of `pvp.ts` turns the time of a frame into whole ticks of
the simulation and a remainder that the next frame carries on.  A tick that is
complete up to a billionth of a second is handed out at once, and the remainder
that this would make negative is set to zero; so a call gains at most that
billionth, never loses any time, and leaves less than a tick (`clock_loses_nothing`).
-/

namespace CrownClash.Ts

open Lib

/-- `1e-9`: a tick that lacks less is complete. -/
def clockTolerance : ℚ := 1 / 10 ^ 9

structure SimulationTickBudget where
  ticks : ℤ
  remainderSeconds : ℚ
  deriving DecidableEq

/-- Every number here is finite, so that only the sign is checked. -/
def consumeSimulationTicks (previousRemainderSeconds deltaSeconds : ℚ) : SimulationTickBudget :=
  let safeRemainder := max 0 previousRemainderSeconds
  let safeDelta := max 0 deltaSeconds
  let total := safeRemainder + safeDelta
  let ticks := ⌊(total + clockTolerance) / pvpSimulationTickSeconds⌋
  { ticks := ticks
    remainderSeconds := max 0 (total - ticks * pvpSimulationTickSeconds) }

/-- The ticks handed out so far, and the remainder that is carried on. -/
structure FrameClock where
  ticks : ℤ
  remainder : ℚ
  deriving DecidableEq

def FrameClock.start : FrameClock := ⟨0, 0⟩

def FrameClock.frame (c : FrameClock) (deltaSeconds : ℚ) : FrameClock :=
  let budget := consumeSimulationTicks c.remainder deltaSeconds
  ⟨c.ticks + budget.ticks, budget.remainderSeconds⟩

/-- The time that the clock has accounted for. -/
def FrameClock.time (c : FrameClock) : ℚ := c.ticks * pvpSimulationTickSeconds + c.remainder

/-- The remainder is a part of a tick. -/
def FrameClock.Ok (c : FrameClock) : Prop :=
  0 ≤ c.remainder ∧ c.remainder < pvpSimulationTickSeconds

theorem pvpSimulationTickSeconds_pos : 0 < pvpSimulationTickSeconds := by
  norm_num [pvpSimulationTickSeconds]

/-- **What one frame does**: the remainder stays a part of a tick, no time is lost and at most
the tolerance is gained. -/
theorem FrameClock.frame_spec {c : FrameClock} (h : 0 ≤ c.remainder) {delta : ℚ} (hd : 0 ≤ delta) :
    (c.frame delta).Ok ∧ c.time + delta ≤ (c.frame delta).time ∧
      (c.frame delta).time ≤ c.time + delta + clockTolerance := by
  have hτ : (0 : ℚ) < clockTolerance := by norm_num [clockTolerance]
  have htotal : max 0 c.remainder + max 0 delta = c.remainder + delta := by
    rw [max_eq_right h, max_eq_right hd]
  have hlow := Int.floor_le ((c.remainder + delta + clockTolerance) / pvpSimulationTickSeconds)
  have hhigh := Int.lt_floor_add_one
    ((c.remainder + delta + clockTolerance) / pvpSimulationTickSeconds)
  rw [le_div_iff₀ pvpSimulationTickSeconds_pos] at hlow
  rw [div_lt_iff₀ pvpSimulationTickSeconds_pos] at hhigh
  unfold Ok time frame consumeSimulationTicks
  dsimp only
  rw [htotal]
  generalize ⌊(c.remainder + delta + clockTolerance) / pvpSimulationTickSeconds⌋ = n
    at hlow hhigh ⊢
  have hsplit : ((c.ticks + n : ℤ) : ℚ) * pvpSimulationTickSeconds
      = c.ticks * pvpSimulationTickSeconds + n * pvpSimulationTickSeconds := by
    push_cast
    ring
  rw [add_mul, one_mul] at hhigh
  rw [hsplit]
  have hpos := pvpSimulationTickSeconds_pos
  rcases le_total 0 (c.remainder + delta - n * pvpSimulationTickSeconds) with hr | hr
  · rw [max_eq_right hr]
    refine ⟨⟨hr, ?_⟩, ?_, ?_⟩
    · linarith
    · linarith
    · linarith
  · rw [max_eq_left hr]
    refine ⟨⟨le_refl 0, hpos⟩, ?_, ?_⟩
    · linarith
    · linarith

/-- The frames of a run: every frame may gain the tolerance once. -/
theorem FrameClock.frames_spec : ∀ {deltas : List ℚ} {c : FrameClock}, 0 ≤ c.remainder →
    (∀ d ∈ deltas, 0 ≤ d) →
      c.time + deltas.sum ≤ (deltas.foldl FrameClock.frame c).time ∧
        (deltas.foldl FrameClock.frame c).time
          ≤ c.time + deltas.sum + deltas.length * clockTolerance := by
  intro deltas
  induction deltas with
  | nil =>
    intro c _ _
    rw [List.foldl_nil, List.sum_nil, List.length_nil]
    constructor
    · linarith
    · rw [Nat.cast_zero, zero_mul]
      linarith
  | cons d deltas ih =>
    intro c hc hd
    obtain ⟨hok, hlow, hhigh⟩ := frame_spec hc (hd d List.mem_cons_self)
    obtain ⟨hl, hh⟩ := ih hok.1 fun e he => hd e (List.mem_cons_of_mem d he)
    rw [List.foldl_cons, List.sum_cons, List.length_cons]
    push_cast
    constructor
    · linarith
    · linarith

/-- **The clock loses no time.**  After any frames of non-negative length the ticks handed out
and the remainder make up the length of the frames, and at most the tolerance for each of them
more; and the remainder is always a part of a tick. -/
theorem clock_loses_nothing {deltas : List ℚ} (h : ∀ d ∈ deltas, 0 ≤ d) :
    Always FrameClock.frame FrameClock.Ok .start deltas ∧
      deltas.sum ≤ (deltas.foldl FrameClock.frame .start).ticks * pvpSimulationTickSeconds
        + (deltas.foldl FrameClock.frame .start).remainder ∧
      (deltas.foldl FrameClock.frame .start).ticks * pvpSimulationTickSeconds
        + (deltas.foldl FrameClock.frame .start).remainder
          ≤ deltas.sum + deltas.length * clockTolerance := by
  have hstart : FrameClock.start.time = 0 := by
    unfold FrameClock.time FrameClock.start
    rw [Int.cast_zero, zero_mul, add_zero]
  refine ⟨?_, ?_⟩
  · exact always_of_preserves (E := fun d => 0 ≤ d)
      (fun c d hd hc => (FrameClock.frame_spec hc.1 hd).1) h
      ⟨le_refl 0, pvpSimulationTickSeconds_pos⟩
  · obtain ⟨hlow, hhigh⟩ := FrameClock.frames_spec (c := .start) (le_refl 0) h
    rw [hstart, zero_add] at hlow hhigh
    exact ⟨hlow, hhigh⟩

theorem clock_loses_nothing_frames :
    Always FrameClock.frame FrameClock.Ok .start [1 / 60, 1 / 30, 0] ∧
      ([1 / 60, 1 / 30, 0] : List ℚ).sum
        ≤ (([1 / 60, 1 / 30, 0] : List ℚ).foldl FrameClock.frame .start).ticks
            * pvpSimulationTickSeconds
          + (([1 / 60, 1 / 30, 0] : List ℚ).foldl FrameClock.frame .start).remainder ∧
      (([1 / 60, 1 / 30, 0] : List ℚ).foldl FrameClock.frame .start).ticks
            * pvpSimulationTickSeconds
          + (([1 / 60, 1 / 30, 0] : List ℚ).foldl FrameClock.frame .start).remainder
        ≤ ([1 / 60, 1 / 30, 0] : List ℚ).sum
          + ([1 / 60, 1 / 30, 0] : List ℚ).length * clockTolerance :=
  clock_loses_nothing (by norm_num)

end CrownClash.Ts
