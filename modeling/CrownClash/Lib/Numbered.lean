import CrownClash.Lib.Run
import Mathlib.Algebra.Order.Ring.Int
import Mathlib.Tactic.Common

/-!
# Numbered orders

A sender numbers its orders one after the other, and a receiver takes the orders in
the sequence in which they were sent.  The receiver counts only the orders it
accepts: an order must carry the number that is expected next and be good besides.

The two counters then agree exactly as long as no order was bad, since a bad order
has its number and is not counted.  `Numbered.inStep_iff` says what that means for a
whole run: every good order is met with its number expected if and only if no good
order ever follows a bad one.
-/

namespace CrownClash.Lib

variable {σ ε : Type*}

/-- Once `Q` has held of an event, `R` holds of none that follows. -/
def NeverAfter (step : σ → ε → σ) (Q R : σ → ε → Prop) (s : σ) (events : List ε) : Prop :=
  ∀ before e after, before ++ e :: after = events → Q (before.foldl step s) e →
    EachStep step (fun s e => ¬ R s e) (step (before.foldl step s) e) after

section NeverAfter

variable {step : σ → ε → σ} {Q R : σ → ε → Prop}

theorem neverAfter_nil {s : σ} : NeverAfter step Q R s [] := by
  intro before e after h
  cases before with
  | nil => cases h
  | cons d before => cases h

theorem neverAfter_cons {s : σ} {e : ε} {events : List ε} :
    NeverAfter step Q R s (e :: events) ↔
      (Q s e → EachStep step (fun s e => ¬ R s e) (step s e) events) ∧
        NeverAfter step Q R (step s e) events := by
  constructor
  · intro h
    refine ⟨fun hq => h [] e events rfl hq, fun before d after hb hq => ?_⟩
    exact h (e :: before) d after (congrArg (e :: ·) hb) hq
  · rintro ⟨hfirst, hrest⟩ before d after hb hq
    cases before with
    | nil =>
      cases hb
      exact hfirst hq
    | cons c before =>
      obtain ⟨rfl, hsame⟩ := List.cons.inj hb
      exact hrest before d after hsame hq

/-- What never holds does not hold after anything. -/
theorem neverAfter_of_never : ∀ {events : List ε} {s : σ},
    EachStep step (fun s e => ¬ R s e) s events → NeverAfter step Q R s events := by
  intro events
  induction events with
  | nil => intro s _; exact neverAfter_nil
  | cons e events ih =>
    intro s h
    obtain ⟨-, hrest⟩ := eachStep_cons.mp h
    exact neverAfter_cons.mpr ⟨fun _ => hrest, ih hrest⟩

end NeverAfter

/-- A machine that takes numbered orders: `takes` says which events take an order,
`good` whether that order is good, `number` is the number it carries and `expected`
the number the receiver waits for. -/
structure Numbered (step : σ → ε → σ) (I : σ → Prop) (takes good : σ → ε → Prop)
    (number expected : σ → ℤ) : Prop where
  keeps : ∀ s e, I s → I (step s e)
  /-- An order is gone once it is taken. -/
  taken : ∀ s e, I s → takes s e → number (step s e) = number s + 1
  /-- A good order with the expected number is counted. -/
  counted : ∀ s e, I s → takes s e → good s e → number s = expected s →
    expected (step s e) = expected s + 1
  /-- Any other order is not. -/
  refused : ∀ s e, I s → takes s e → ¬ (good s e ∧ number s = expected s) →
    expected (step s e) = expected s
  /-- No other event touches the counters. -/
  others : ∀ s e, I s → ¬ takes s e → number (step s e) = number s ∧
    expected (step s e) = expected s

namespace Numbered

variable {step : σ → ε → σ} {I : σ → Prop} {takes good : σ → ε → Prop} {number expected : σ → ℤ}

/-- A good order finds its number expected. -/
def InStep (takes good : σ → ε → Prop) (number expected : σ → ℤ) (s : σ) (e : ε) : Prop :=
  takes s e → good s e → number s = expected s

/-- A receiver that has fallen behind stays behind. -/
theorem behind (h : Numbered step I takes good number expected) {s : σ} (hI : I s)
    (hs : expected s < number s) (e : ε) : expected (step s e) < number (step s e) := by
  by_cases ht : takes s e
  · have hexpected := h.refused s e hI ht fun hg => absurd hg.2 (ne_of_gt hs)
    rw [h.taken s e hI ht, hexpected]
    omega
  · obtain ⟨hnumber, hexpected⟩ := h.others s e hI ht
    rw [hnumber, hexpected]
    exact hs

/-- From there on every good order is refused. -/
theorem inStep_behind (h : Numbered step I takes good number expected) :
    ∀ {events : List ε} {s : σ}, I s → expected s < number s →
      (EachStep step (InStep takes good number expected) s events ↔
        EachStep step (fun s e => ¬ (takes s e ∧ good s e)) s events) := by
  intro events
  induction events with
  | nil => intro s _ _; exact ⟨fun _ => eachStep_nil, fun _ => eachStep_nil⟩
  | cons e events ih =>
    intro s hI hs
    rw [eachStep_cons, eachStep_cons, ih (h.keeps s e hI) (h.behind hI hs e)]
    refine and_congr_left fun _ => ⟨fun hin hg => ?_, fun hno ht hg => absurd ⟨ht, hg⟩ hno⟩
    exact absurd (hin hg.1 hg.2) (ne_of_gt hs)

/-- **Good orders find their number expected as long as none follows a bad one**, and
no longer. -/
theorem inStep_iff (h : Numbered step I takes good number expected) :
    ∀ {events : List ε} {s : σ}, I s → number s = expected s →
      (EachStep step (InStep takes good number expected) s events ↔
        NeverAfter step (fun s e => takes s e ∧ ¬ good s e) (fun s e => takes s e ∧ good s e) s
          events) := by
  intro events
  induction events with
  | nil => intro s _ _; exact ⟨fun _ => neverAfter_nil, fun _ => eachStep_nil⟩
  | cons e events ih =>
    intro s hI hs
    have hnext := h.keeps s e hI
    rw [eachStep_cons, neverAfter_cons]
    have hin : InStep takes good number expected s e := fun _ _ => hs
    by_cases hbad : takes s e ∧ ¬ good s e
    · -- the counters part here: what follows must not be good
      have hnumber := h.taken s e hI hbad.1
      have hexpected := h.refused s e hI hbad.1 fun hg => hbad.2 hg.1
      have hbehind : expected (step s e) < number (step s e) := by omega
      rw [h.inStep_behind hnext hbehind]
      constructor
      · rintro ⟨-, hrest⟩
        exact ⟨fun _ => hrest, neverAfter_of_never hrest⟩
      · rintro ⟨hfirst, -⟩
        exact ⟨hin, hfirst hbad⟩
    · have hagree : number (step s e) = expected (step s e) := by
        by_cases ht : takes s e
        · have hg : good s e := by
            by_contra hg
            exact hbad ⟨ht, hg⟩
          rw [h.taken s e hI ht, h.counted s e hI ht hg hs, hs]
        · obtain ⟨hnumber, hexpected⟩ := h.others s e hI ht
          rw [hnumber, hexpected, hs]
      rw [ih hnext hagree]
      exact ⟨fun hr => ⟨fun hq => absurd hq hbad, hr.2⟩, fun hr => ⟨hin, hr.2⟩⟩

end Numbered

end CrownClash.Lib
