import Mathlib.Logic.Basic

/-!
# Programs that ask

A program that may ask an oracle is a function of the oracle's answers.  That it
asks for `q` shows in its result: another answer to `q`, and to nothing else,
makes it end elsewhere.

`AsksOnce` says of such a program that it asks nothing, or one question that is
fixed in advance, together with what the question and its answer leave behind.
-/

namespace CrownClash.Lib

variable {Q A R S : Type*}

/-- Given these answers, the program asks for `q`. -/
def AsksFor (f : (Q → A) → R) (ask : Q → A) (q : Q) : Prop :=
  ∃ other : Q → A, (∀ p, p ≠ q → other p = ask p) ∧ f other ≠ f ask

/-- The result depends on no answer but the one to `q`. -/
def ReadsOnly (f : (Q → A) → R) (q : Q) : Prop :=
  ∀ ask other : Q → A, other q = ask q → f other = f ask

/-- The program asks nothing, or one question after which `End` holds of the
question, its answer and the result. -/
inductive AsksOnce (End : Q → A → R → Prop) (f : (Q → A) → R) : Prop
  | never (h : ∀ ask other : Q → A, f other = f ask) : AsksOnce End f
  | once (q : Q) (h : ReadsOnly f q) (hend : ∀ ask : Q → A, End q (ask q) (f ask)) : AsksOnce End f

variable {End : Q → A → R → Prop} {f : (Q → A) → R} {ask : Q → A} {q : Q}

/-- Whoever asks for `q` and reads one answer only reads the answer to `q`. -/
theorem AsksFor.eq_of_readsOnly {p : Q} (h : AsksFor f ask q) (hp : ReadsOnly f p) : p = q := by
  obtain ⟨other, hsame, hne⟩ := h
  by_cases hn : p = q
  · exact hn
  · exact absurd (hp ask other (hsame p hn)) hne

theorem not_asksFor_of_const (h : ∀ ask other : Q → A, f other = f ask) : ¬ AsksFor f ask q := by
  rintro ⟨other, -, hne⟩
  exact hne (h ask other)

/-- A question that was asked leaves behind what the only question does. -/
theorem AsksOnce.end_of_asksFor (h : AsksOnce End f) (ha : AsksFor f ask q) :
    End q (ask q) (f ask) := by
  cases h with
  | never h => exact absurd ha (not_asksFor_of_const h)
  | once p h hend =>
    obtain rfl := ha.eq_of_readsOnly h
    exact hend ask

/-- What a part of the result shows, the result shows. -/
theorem AsksFor.of_comp {g : R → S} (h : AsksFor (fun ask => g (f ask)) ask q) :
    AsksFor f ask q := by
  obtain ⟨other, hsame, hne⟩ := h
  exact ⟨other, hsame, fun he => hne (congrArg g he)⟩

theorem AsksOnce.ite {c : Prop} [Decidable c] {g : (Q → A) → R} (hf : c → AsksOnce End f)
    (hg : ¬ c → AsksOnce End g) : AsksOnce End fun ask => if c then f ask else g ask := by
  by_cases hc : c
  · have hall : (fun ask => if c then f ask else g ask) = f := funext fun _ => if_pos hc
    rw [hall]
    exact hf hc
  · have hall : (fun ask => if c then f ask else g ask) = g := funext fun _ => if_neg hc
    rw [hall]
    exact hg hc

/-- **One program after the other.**  The second asks at most once from wherever
the first leads, and where the first has asked it asks nothing and keeps `End`. -/
theorem AsksOnce.comp {End' : Q → A → S → Prop} {g : R → (Q → A) → S} (h : AsksOnce End f)
    (hg : ∀ ask, AsksOnce End' (g (f ask)))
    (hend : ∀ q a r, End q a r → (∀ ask other, g r other = g r ask) ∧ ∀ ask, End' q a (g r ask)) :
    AsksOnce End' fun ask => g (f ask) ask := by
  cases h with
  | never h =>
    by_cases hne : Nonempty (Q → A)
    · obtain ⟨first⟩ := hne
      have hall : (fun ask => g (f ask) ask) = g (f first) := by
        funext ask
        rw [h first ask]
      rw [hall]
      exact hg first
    · exact .never fun ask _ => absurd ⟨ask⟩ hne
  | once q h hf =>
    refine .once q (fun ask other hq => ?_) fun ask => (hend q _ _ (hf ask)).2 ask
    show g (f other) other = g (f ask) ask
    rw [h ask other hq]
    exact (hend q _ _ (hf ask)).1 ask other

end CrownClash.Lib
