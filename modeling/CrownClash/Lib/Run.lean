import Mathlib.Data.List.Basic
import Mathlib.Data.List.Infix

/-!
# Runs of a machine

A machine takes events one after the other: `events.foldl step s` is where it
ends.  `Always` says something of every state on the way, `EachStep` something of
every event together with the state it meets.

`always_iff_eachStep` is how a property that is not invariant is settled: when
one step keeps it exactly if the step meets a condition, a whole run has it
exactly if every step meets the condition.
-/

namespace CrownClash.Lib

variable {σ τ ε : Type*}

/-- `P` holds in every state of the run, the first and the last included. -/
def Always (step : σ → ε → σ) (P : σ → Prop) (s : σ) (events : List ε) : Prop :=
  ∀ before, before <+: events → P (before.foldl step s)

/-- `Q` holds of every event of the run and the state it meets. -/
def EachStep (step : σ → ε → σ) (Q : σ → ε → Prop) (s : σ) (events : List ε) : Prop :=
  ∀ before e, before ++ [e] <+: events → Q (before.foldl step s) e

/-- After an event of which `Q` holds, `Q` holds of no event any more. -/
def AtMostOnce (step : σ → ε → σ) (Q : σ → ε → Prop) (s : σ) (events : List ε) : Prop :=
  ∀ before e after, before ++ e :: after = events → Q (before.foldl step s) e →
    EachStep step (fun s e => ¬ Q s e) (step (before.foldl step s) e) after

variable {step : σ → ε → σ} {P : σ → Prop} {Q : σ → ε → Prop}

theorem always_nil {s : σ} : Always step P s [] ↔ P s := by
  constructor
  · intro h
    exact h [] (List.prefix_refl [])
  · intro h before hb
    rw [List.prefix_nil.mp hb]
    exact h

theorem always_cons {s : σ} {e : ε} {events : List ε} :
    Always step P s (e :: events) ↔ P s ∧ Always step P (step s e) events := by
  constructor
  · intro h
    refine ⟨h [] (List.nil_prefix), fun before hb => ?_⟩
    exact h (e :: before) (List.cons_prefix_cons.mpr ⟨rfl, hb⟩)
  · rintro ⟨hs, h⟩ before hb
    cases before with
    | nil => exact hs
    | cons d before =>
      obtain ⟨rfl, hrest⟩ := List.cons_prefix_cons.mp hb
      exact h before hrest

theorem Always.head {s : σ} {events : List ε} (h : Always step P s events) : P s :=
  h [] List.nil_prefix

theorem Always.last {s : σ} {events : List ε} (h : Always step P s events) :
    P (events.foldl step s) :=
  h events (List.prefix_refl events)

/-- A run that goes on for one event more. -/
theorem Always.snoc {s : σ} {events : List ε} {e : ε} (h : Always step P s events)
    (he : P (step (events.foldl step s) e)) : Always step P s (events ++ [e]) := by
  intro before hb
  rcases List.prefix_concat_iff.mp hb with rfl | hb
  · rw [List.foldl_append]
    exact he
  · exact h before hb

theorem eachStep_nil {s : σ} : EachStep step Q s [] := by
  intro before e hb
  cases before with
  | nil => cases List.prefix_nil.mp hb
  | cons d before => cases List.prefix_nil.mp hb

theorem eachStep_cons {s : σ} {e : ε} {events : List ε} :
    EachStep step Q s (e :: events) ↔ Q s e ∧ EachStep step Q (step s e) events := by
  constructor
  · intro h
    refine ⟨h [] e (List.cons_prefix_cons.mpr ⟨rfl, List.nil_prefix⟩), fun before d hb => ?_⟩
    exact h (e :: before) d (List.cons_prefix_cons.mpr ⟨rfl, hb⟩)
  · rintro ⟨hs, h⟩ before d hb
    cases before with
    | nil =>
      obtain ⟨rfl, -⟩ := List.cons_prefix_cons.mp hb
      exact hs
    | cons c before =>
      obtain ⟨rfl, hrest⟩ := List.cons_prefix_cons.mp hb
      exact h before d hrest

theorem EachStep.last {s : σ} {events : List ε} {e : ε}
    (h : EachStep step Q s (events ++ [e])) : Q (events.foldl step s) e :=
  h events e (List.prefix_refl _)

/-- Of two events of a run one comes before the other, unless they are the same. -/
theorem snoc_prefix_cases {events before before' : List ε} {e e' : ε}
    (h : before ++ [e] <+: events) (h' : before' ++ [e'] <+: events) :
    (before = before' ∧ e = e') ∨ before ++ [e] <+: before' ∨ before' ++ [e'] <+: before := by
  rcases List.prefix_or_prefix_of_prefix h h' with hb | hb
  · rcases List.prefix_concat_iff.mp hb with he | hb
    · obtain ⟨rfl, hsame⟩ := List.append_inj' he rfl
      exact Or.inl ⟨rfl, List.singleton_inj.mp hsame⟩
    · exact Or.inr (Or.inl hb)
  · rcases List.prefix_concat_iff.mp hb with he | hb
    · obtain ⟨rfl, hsame⟩ := List.append_inj' he rfl
      exact Or.inl ⟨rfl, (List.singleton_inj.mp hsame).symm⟩
    · exact Or.inr (Or.inr hb)

/-- What every event keeps holds in every state of a run. -/
theorem always_of_preserves {E : ε → Prop} (hstep : ∀ s e, E e → P s → P (step s e)) :
    ∀ {events : List ε} {s : σ}, (∀ e ∈ events, E e) → P s → Always step P s events := by
  intro events
  induction events with
  | nil => intro s _ h; exact always_nil.mpr h
  | cons e events ih =>
    intro s he h
    exact always_cons.mpr ⟨h, ih (fun d hd => he d (List.mem_cons_of_mem e hd))
      (hstep s e (he e List.mem_cons_self) h)⟩

/-- What the states of an invariant give of every event holds of every event of a run. -/
theorem eachStep_of_preserves {I : σ → Prop} (hstep : ∀ s e, I s → I (step s e))
    (hq : ∀ s e, I s → Q s e) : ∀ {events : List ε} {s : σ}, I s → EachStep step Q s events := by
  intro events
  induction events with
  | nil => intro s _; exact eachStep_nil
  | cons e events ih => intro s h; exact eachStep_cons.mpr ⟨hq s e h, ih (hstep s e h)⟩

/-- What holds of the events so far and of the state they lead to, when one event
more keeps it. -/
theorem history {H : List ε → σ → Prop} {s : σ} (hstart : H [] s)
    (hstep : ∀ before e, H before (before.foldl step s) →
      H (before ++ [e]) (step (before.foldl step s) e)) (events : List ε) :
    H events (events.foldl step s) := by
  induction events using List.reverseRecOn with
  | nil => exact hstart
  | append_singleton before e ih =>
    rw [List.foldl_append]
    exact hstep before e ih

/-- An event that leads where it cannot happen any more happens at most once. -/
theorem atMostOnce_of_preserves {N : σ → Prop} (hleads : ∀ s e, Q s e → N (step s e))
    (hstep : ∀ s e, N s → N (step s e)) (hnever : ∀ s e, N s → ¬ Q s e) {s : σ}
    {events : List ε} : AtMostOnce step Q s events := by
  intro before e after _ hq
  exact eachStep_of_preserves hstep hnever (hleads _ e hq)

/-- The same along the states of an invariant. -/
theorem atMostOnce_of_invariant {I N : σ → Prop} (hinv : ∀ s e, I s → I (step s e))
    (hleads : ∀ s e, I s → Q s e → N (step s e)) (hstep : ∀ s e, I s → N s → N (step s e))
    (hnever : ∀ s e, I s → N s → ¬ Q s e) {s : σ} (h : I s) {events : List ε} :
    AtMostOnce step Q s events := by
  have hreach : ∀ {before : List ε} {s : σ}, I s → I (before.foldl step s) := by
    intro before
    induction before with
    | nil => intro s h; exact h
    | cons e before ih => intro s h; exact ih (hinv s e h)
  have hkeep : ∀ s e, I s ∧ N s → I (step s e) ∧ N (step s e) := fun s e hs =>
    ⟨hinv s e hs.1, hstep s e hs.1 hs.2⟩
  intro before e after _ hq
  exact eachStep_of_preserves hkeep (fun s e hs => hnever s e hs.1 hs.2)
    ⟨hinv _ e (hreach h), hleads _ e (hreach h) hq⟩

/-- **A run has the property exactly if every step meets the condition**, when
one step from a state that has the property keeps it exactly if it does.  The
invariant the argument runs on need only survive the steps that keep the property. -/
theorem always_iff_eachStep {I : σ → Prop} {E : ε → Prop}
    (hinv : ∀ s e, E e → I s → P s → P (step s e) → I (step s e))
    (hstep : ∀ s e, E e → I s → P s → (P (step s e) ↔ Q s e)) :
    ∀ {events : List ε} {s : σ}, (∀ e ∈ events, E e) → I s → P s →
      (Always step P s events ↔ EachStep step Q s events) := by
  intro events
  induction events with
  | nil =>
    intro s _ _ h
    exact ⟨fun _ => eachStep_nil, fun _ => always_nil.mpr h⟩
  | cons e events ih =>
    intro s he hi h
    have hE := he e List.mem_cons_self
    have hE' : ∀ d ∈ events, E d := fun d hd => he d (List.mem_cons_of_mem e hd)
    rw [always_cons, eachStep_cons, ← hstep s e hE hi h]
    constructor
    · rintro ⟨-, hr⟩
      exact ⟨hr.head, (ih hE' (hinv s e hE hi h hr.head) hr.head).mp hr⟩
    · rintro ⟨hs, hr⟩
      exact ⟨h, (ih hE' (hinv s e hE hi h hs) hs).mpr hr⟩

/-- What no event brings back holds throughout if it holds at the end. -/
theorem always_iff_last (hback : ∀ s e, P (step s e) → P s) :
    ∀ {events : List ε} {s : σ}, Always step P s events ↔ P (events.foldl step s) := by
  intro events
  induction events with
  | nil => intro s; exact always_nil
  | cons e events ih =>
    intro s
    rw [always_cons, ih, List.foldl_cons]
    constructor
    · exact And.right
    · intro h
      have hfirst : P (step s e) := (ih.mpr h).head
      exact ⟨hback s e hfirst, h⟩

/-- Where two conditions agree in the states of an invariant, every step meets
both or neither. -/
theorem eachStep_congr {I : σ → Prop} {R : σ → ε → Prop} (hinv : ∀ s e, I s → I (step s e))
    (hQ : ∀ s e, I s → (Q s e ↔ R s e)) :
    ∀ {events : List ε} {s : σ}, I s → (EachStep step Q s events ↔ EachStep step R s events) := by
  intro events
  induction events with
  | nil => intro s _; exact ⟨fun _ => eachStep_nil, fun _ => eachStep_nil⟩
  | cons e events ih =>
    intro s h
    rw [eachStep_cons, eachStep_cons, hQ s e h, ih (hinv s e h)]

/-- Two machines that every event keeps related have the same property throughout. -/
theorem always_lockstep {R : σ → τ → Prop} {step' : τ → ε → τ} {P' : τ → Prop} {E : ε → Prop}
    (hR : ∀ s t e, E e → R s t → R (step s e) (step' t e)) (hP : ∀ s t, R s t → (P s ↔ P' t)) :
    ∀ {events : List ε} {s : σ} {t : τ}, (∀ e ∈ events, E e) → R s t →
      (Always step P s events ↔ Always step' P' t events) := by
  intro events
  induction events with
  | nil => intro s t _ h; rw [always_nil, always_nil, hP s t h]
  | cons e events ih =>
    intro s t he h
    rw [always_cons, always_cons, hP s t h, ih (fun d hd => he d (List.mem_cons_of_mem e hd))
      (hR s t e (he e List.mem_cons_self) h)]

/-- Two machines that every event keeps related meet the same condition at every step. -/
theorem eachStep_lockstep {R : σ → τ → Prop} {step' : τ → ε → τ} {Q' : τ → ε → Prop}
    {E : ε → Prop} (hR : ∀ s t e, E e → R s t → R (step s e) (step' t e))
    (hQ : ∀ s t e, R s t → (Q s e ↔ Q' t e)) :
    ∀ {events : List ε} {s : σ} {t : τ}, (∀ e ∈ events, E e) → R s t →
      (EachStep step Q s events ↔ EachStep step' Q' t events) := by
  intro events
  induction events with
  | nil => intro s t _ _; exact ⟨fun _ => eachStep_nil, fun _ => eachStep_nil⟩
  | cons e events ih =>
    intro s t he h
    rw [eachStep_cons, eachStep_cons, hQ s t e h,
      ih (fun d hd => he d (List.mem_cons_of_mem e hd))
        (hR s t e (he e List.mem_cons_self) h)]

end CrownClash.Lib
