import Mathlib.Data.List.Perm.Basic
import Mathlib.Order.Defs.LinearOrder
import Mathlib.Order.Lattice
import Mathlib.Order.Monotone.Basic

/-!
# Stable sorting by a comparison

`sortBy lt` is insertion sort with a Boolean comparison: it is structurally
recursive, so it evaluates in the kernel, and it is stable, as the sort of a
script array is.  A sort that is not stable gives the same list whenever its
comparison separates the elements, and `sortBy_index` is the case that code
relies on when it breaks ties by position: adding the index to the comparison
of a stable sort changes nothing.
-/

namespace CrownClash.Lib

variable {α β : Type*}

/-- Insert before the first element that is not smaller. -/
def insertBy (lt : α → α → Bool) (a : α) : List α → List α
  | [] => [a]
  | b :: l => if lt b a then b :: insertBy lt a l else a :: b :: l

def sortBy (lt : α → α → Bool) (l : List α) : List α := l.foldr (insertBy lt) []

theorem perm_insertBy (lt : α → α → Bool) (a : α) :
    ∀ l : List α, (insertBy lt a l).Perm (a :: l) := by
  intro l
  induction l with
  | nil => exact List.Perm.refl _
  | cons b l ih =>
    unfold insertBy
    split
    · exact (ih.cons b).trans (List.Perm.swap a b l)
    · exact List.Perm.refl _

theorem perm_sortBy (lt : α → α → Bool) : ∀ l : List α, (sortBy lt l).Perm l := by
  intro l
  induction l with
  | nil => exact List.Perm.refl _
  | cons a l ih => exact (perm_insertBy lt a _).trans (ih.cons a)

@[simp] theorem mem_sortBy {lt : α → α → Bool} {l : List α} {a : α} : a ∈ sortBy lt l ↔ a ∈ l :=
  (perm_sortBy lt l).mem_iff

@[simp] theorem length_sortBy (lt : α → α → Bool) (l : List α) :
    (sortBy lt l).length = l.length := (perm_sortBy lt l).length_eq

theorem insertBy_congr {lt lt' : α → α → Bool} {a : α} : ∀ {l : List α},
    (∀ b ∈ l, lt b a = lt' b a) → insertBy lt a l = insertBy lt' a l := by
  intro l
  induction l with
  | nil => intro _; rfl
  | cons b l ih =>
    intro h
    rw [insertBy, insertBy, h b List.mem_cons_self,
      ih fun c hc => h c (List.mem_cons_of_mem b hc)]

theorem sortBy_map (f : α → β) (lt : β → β → Bool) :
    ∀ l : List α, (sortBy (fun a b => lt (f a) (f b)) l).map f = sortBy lt (l.map f) := by
  have hins : ∀ (a : α) (l : List α),
      (insertBy (fun a b => lt (f a) (f b)) a l).map f = insertBy lt (f a) (l.map f) := by
    intro a l
    induction l with
    | nil => rfl
    | cons b l ih =>
      rw [insertBy, List.map_cons, insertBy]
      split
      · rw [List.map_cons, ih]
      · rfl
  intro l
  induction l with
  | nil => rfl
  | cons a l ih =>
    change (insertBy _ a (sortBy _ l)).map f = insertBy lt (f a) (sortBy lt (l.map f))
    rw [hins, ih]

/-- **Ties by position are stability.**  Sorting by `lt` and, between elements
that `lt` leaves equal, by an index that grows along the list, is sorting by
`lt` alone. -/
theorem sortBy_index {lt : α → α → Bool} {eqv : α → α → Bool} {idx : α → ℕ} :
    ∀ {l : List α}, l.Pairwise (fun a b => idx a < idx b) →
      sortBy (fun a b => lt a b || (eqv a b && decide (idx a < idx b))) l = sortBy lt l := by
  intro l
  induction l with
  | nil => intro _; rfl
  | cons a l ih =>
    intro hp
    obtain ⟨ha, hp⟩ := List.pairwise_cons.mp hp
    change insertBy _ a (sortBy _ l) = insertBy lt a (sortBy lt l)
    rw [ih hp]
    refine insertBy_congr fun b hb => ?_
    have hab : idx a < idx b := ha b (mem_sortBy.mp hb)
    have hn : decide (idx b < idx a) = false := decide_eq_false (by omega)
    rw [hn, Bool.and_false, Bool.or_false]

/-! ### Sorted lists -/

/-- A comparison by rank: strict, and its negation is transitive. -/
structure WeakOrder (lt : α → α → Bool) : Prop where
  asymm : ∀ a b, lt a b = true → lt b a = false
  neg_trans : ∀ a b c, lt b a = false → lt c b = false → lt c a = false

theorem weakOrder_lt {γ : Type*} [LinearOrder γ] : WeakOrder fun a b : γ => decide (a < b) where
  asymm _ _ h := decide_eq_false (lt_asymm (of_decide_eq_true h))
  neg_trans _ _ _ h g := decide_eq_false
    (not_lt.mpr (le_trans (not_lt.mp (of_decide_eq_false h)) (not_lt.mp (of_decide_eq_false g))))

theorem WeakOrder.pullback {lt : β → β → Bool} (h : WeakOrder lt) (f : α → β) :
    WeakOrder fun a b => lt (f a) (f b) where
  asymm _ _ := h.asymm _ _
  neg_trans _ _ _ := h.neg_trans _ _ _

/-- Rank by `f` first, and by `lt` where `f` ties. -/
theorem WeakOrder.lex {γ : Type*} [LinearOrder γ] (f : α → γ) {lt : α → α → Bool}
    (hlt : WeakOrder lt) :
    WeakOrder fun a b => if f a ≠ f b then decide (f a < f b) else lt a b where
  asymm a b h := by
    by_cases he : f a = f b
    · rw [if_neg (not_not.mpr he)] at h
      rw [if_neg (not_not.mpr he.symm)]
      exact hlt.asymm a b h
    · rw [if_pos he] at h
      rw [if_pos (Ne.symm he)]
      exact weakOrder_lt.asymm _ _ h
  neg_trans a b c h k := by
    have hle : ∀ x y : α, (if f x ≠ f y then decide (f x < f y) else lt x y) = false →
        f y < f x ∨ f y = f x ∧ lt x y = false := by
      intro x y hxy
      by_cases he : f x = f y
      · rw [if_neg (not_not.mpr he)] at hxy
        exact Or.inr ⟨he.symm, hxy⟩
      · rw [if_pos he] at hxy
        exact Or.inl (lt_of_le_of_ne (not_lt.mp (of_decide_eq_false hxy)) (Ne.symm he))
    rcases hle b a h with h1 | ⟨h1, h2⟩ <;> rcases hle c b k with k1 | ⟨k1, k2⟩
    · have hlt : f a < f c := lt_trans h1 k1
      rw [if_pos (ne_of_gt hlt)]
      exact decide_eq_false (lt_asymm hlt)
    · have hlt : f a < f c := by rw [← k1]; exact h1
      rw [if_pos (ne_of_gt hlt)]
      exact decide_eq_false (lt_asymm hlt)
    · have hlt : f a < f c := by rw [h1]; exact k1
      rw [if_pos (ne_of_gt hlt)]
      exact decide_eq_false (lt_asymm hlt)
    · rw [if_neg (not_not.mpr (h1.trans k1).symm)]
      exact hlt.neg_trans a b c h2 k2

/-- Rank by `f`, and by `g` where `f` ties. -/
theorem weakOrder_lex {γ δ : Type*} [LinearOrder γ] [LinearOrder δ] (f : α → γ) (g : α → δ) :
    WeakOrder fun a b => if f a ≠ f b then decide (f a < f b) else decide (g a < g b) :=
  (weakOrder_lt.pullback g).lex f

theorem WeakOrder.trans {lt : α → α → Bool} (h : WeakOrder lt) {a b c : α} (hab : lt a b = true)
    (hbc : lt b c = true) : lt a c = true := by
  by_contra hac
  have hcb := h.asymm b c hbc
  have := h.neg_trans b c a hcb (Bool.eq_false_iff.mpr hac)
  rw [hab] at this
  cases this

theorem pairwise_insertBy {lt : α → α → Bool} (h : WeakOrder lt) (a : α) : ∀ {l : List α},
    l.Pairwise (fun x y => lt y x = false) →
      (insertBy lt a l).Pairwise fun x y => lt y x = false := by
  intro l
  induction l with
  | nil => intro _; exact List.pairwise_singleton _ a
  | cons b l ih =>
    intro hl
    obtain ⟨hb, hl'⟩ := List.pairwise_cons.mp hl
    unfold insertBy
    by_cases hba : lt b a = true
    · rw [if_pos hba, List.pairwise_cons]
      refine ⟨fun c hc => ?_, ih hl'⟩
      rcases List.mem_cons.mp ((perm_insertBy lt a l).mem_iff.mp hc) with rfl | hc
      · exact h.asymm b _ hba
      · exact hb c hc
    · have hab : lt b a = false := Bool.eq_false_iff.mpr hba
      rw [if_neg hba, List.pairwise_cons]
      refine ⟨fun c hc => ?_, hl⟩
      rcases List.mem_cons.mp hc with rfl | hc
      · exact hab
      · exact h.neg_trans a b c hab (hb c hc)

theorem pairwise_sortBy {lt : α → α → Bool} (h : WeakOrder lt) :
    ∀ l : List α, (sortBy lt l).Pairwise fun x y => lt y x = false := by
  intro l
  induction l with
  | nil => exact List.Pairwise.nil
  | cons a l ih => exact pairwise_insertBy h a ih

/-- **A comparison that separates the elements of a list sorts every rearrangement of it
alike.** -/
theorem sortBy_perm_of_separates {lt : α → α → Bool} (h : WeakOrder lt) {l l' : List α}
    (hperm : l.Perm l')
    (hsep : ∀ a ∈ l, ∀ b ∈ l, lt a b = false → lt b a = false → a = b) :
    sortBy lt l = sortBy lt l' := by
  have hsorted : (sortBy lt l).Perm (sortBy lt l') :=
    (perm_sortBy _ l).trans (hperm.trans (perm_sortBy _ l').symm)
  refine List.Perm.eq_of_pairwise ?_ (pairwise_sortBy h l) (pairwise_sortBy h l') hsorted
  intro a b ha hb hba hab
  exact hsep a (mem_sortBy.mp ha) b (hperm.mem_iff.mpr (mem_sortBy.mp hb)) hab hba

/-- A comparison that tells all elements apart. -/
structure TotalOrder (lt : α → α → Bool) : Prop extends WeakOrder lt where
  separates : ∀ a b, lt a b = false → lt b a = false → a = b

theorem totalOrder_lt {γ : Type*} [LinearOrder γ] : TotalOrder fun a b : γ => decide (a < b) where
  toWeakOrder := weakOrder_lt
  separates _ _ hab hba :=
    le_antisymm (not_lt.mp (of_decide_eq_false hba)) (not_lt.mp (of_decide_eq_false hab))

theorem TotalOrder.pullback {lt : β → β → Bool} (h : TotalOrder lt) {f : α → β}
    (hf : Function.Injective f) : TotalOrder fun a b => lt (f a) (f b) where
  toWeakOrder := h.toWeakOrder.pullback f
  separates _ _ hab hba := hf (h.separates _ _ hab hba)

/-- Sorting by such a comparison does not depend on the order of the list. -/
theorem TotalOrder.sortBy_perm {lt : α → α → Bool} (h : TotalOrder lt) {l l' : List α}
    (hperm : l.Perm l') : sortBy lt l = sortBy lt l' :=
  sortBy_perm_of_separates h.toWeakOrder hperm fun a _ b _ => h.separates a b

/-- Two comparisons that agree on a list sort it alike. -/
theorem sortBy_congr {lt lt' : α → α → Bool} : ∀ {l : List α},
    (∀ a ∈ l, ∀ b ∈ l, lt a b = lt' a b) → sortBy lt l = sortBy lt' l := by
  intro l
  induction l with
  | nil => intro _; rfl
  | cons a l ih =>
    intro h
    change insertBy lt a (sortBy lt l) = insertBy lt' a (sortBy lt' l)
    rw [ih fun b hb c hc => h b (List.mem_cons_of_mem a hb) c (List.mem_cons_of_mem a hc)]
    exact insertBy_congr fun b hb =>
      h b (List.mem_cons_of_mem a (mem_sortBy.mp hb)) a List.mem_cons_self

theorem insertBy_of_forall {lt : α → α → Bool} {a : α} {l : List α}
    (h : ∀ c ∈ l, lt c a = false) : insertBy lt a l = a :: l := by
  cases l with
  | nil => rfl
  | cons b l =>
    have hb : ¬ lt b a = true := Bool.eq_false_iff.mp (h b List.mem_cons_self)
    rw [insertBy, if_neg hb]

/-- A list in order is sorted already. -/
theorem sortBy_of_pairwise {lt : α → α → Bool} : ∀ {l : List α},
    l.Pairwise (fun a b => lt b a = false) → sortBy lt l = l := by
  intro l
  induction l with
  | nil => intro _; rfl
  | cons a l ih =>
    intro h
    obtain ⟨ha, hl⟩ := List.pairwise_cons.mp h
    change insertBy lt a (sortBy lt l) = a :: l
    rw [ih hl]
    exact insertBy_of_forall ha

theorem filter_insertBy {lt : α → α → Bool} (h : WeakOrder lt) (p : α → Bool) (a : α) :
    ∀ {l : List α}, l.Pairwise (fun x y => lt y x = false) →
      (insertBy lt a l).filter p
        = if p a then insertBy lt a (l.filter p) else l.filter p := by
  intro l
  induction l with
  | nil => intro _; cases hp : p a <;> simp [insertBy, hp]
  | cons b l ih =>
    intro hl
    obtain ⟨hb, hl'⟩ := List.pairwise_cons.mp hl
    by_cases hba : lt b a = true
    · have hins : ∀ k : List α, insertBy lt a (b :: k) = b :: insertBy lt a k :=
        fun k => if_pos hba
      rw [hins, List.filter_cons, List.filter_cons, ih hl']
      by_cases hpb : p b = true
      · simp only [if_pos hpb]
        rw [hins]
        split <;> rfl
      · simp only [if_neg hpb]
    · have hab : lt b a = false := Bool.eq_false_iff.mpr hba
      have hall : ∀ c ∈ b :: l, lt c a = false := by
        intro c hc
        rcases List.mem_cons.mp hc with rfl | hc
        · exact hab
        · exact h.neg_trans a b c hab (hb c hc)
      have hins : insertBy lt a ((b :: l).filter p) = a :: (b :: l).filter p :=
        insertBy_of_forall fun c hc => hall c (List.mem_of_mem_filter hc)
      rw [insertBy_of_forall hall, hins, List.filter_cons]

/-- **Sorting what is kept is keeping from what is sorted.** -/
theorem filter_sortBy {lt : α → α → Bool} (h : WeakOrder lt) (p : α → Bool) :
    ∀ l : List α, (sortBy lt l).filter p = sortBy lt (l.filter p) := by
  intro l
  induction l with
  | nil => rfl
  | cons a l ih =>
    change (insertBy lt a (sortBy lt l)).filter p = _
    rw [filter_insertBy h p a (pairwise_sortBy h l), ih, List.filter_cons]
    split <;> rfl

/-- In a list that rises, what is at most `y` is what is at most `x`, and behind it what lies
between the two. -/
theorem filter_le_window {γ : Type*} [LinearOrder γ] {f : α → γ} {x y : γ} (hxy : x ≤ y) :
    ∀ {l : List α}, l.Pairwise (fun a b => f a ≤ f b) →
      l.filter (fun a => f a ≤ y)
        = l.filter (fun a => f a ≤ x) ++ l.filter fun a => x < f a ∧ f a ≤ y := by
  intro l
  induction l with
  | nil => intro _; rfl
  | cons a l ih =>
    intro h
    obtain ⟨ha, hl⟩ := List.pairwise_cons.mp h
    by_cases hax : f a ≤ x
    · have hay : f a ≤ y := le_trans hax hxy
      have hnot : ¬ (x < f a ∧ f a ≤ y) := fun hw => absurd hw.1 (not_lt.mpr hax)
      rw [List.filter_cons_of_pos (by simpa using hay), List.filter_cons_of_pos (by simpa using hax),
        List.filter_cons_of_neg (by simpa using hnot), ih hl, List.cons_append]
    · -- nothing behind it is smaller
      have hlow : ∀ b ∈ a :: l, ¬ f b ≤ x := by
        intro b hb hbx
        rcases List.mem_cons.mp hb with rfl | hb
        · exact hax hbx
        · exact hax (le_trans (ha b hb) hbx)
      have hnone : (a :: l).filter (fun a => f a ≤ x) = [] := by
        rw [List.filter_eq_nil_iff]
        intro b hb
        simpa using hlow b hb
      rw [hnone, List.nil_append]
      refine List.filter_congr fun b hb => ?_
      have hbx : x < f b := not_le.mp (hlow b hb)
      simp [hbx]

/-- Sorting does not move a value along the list if the elements that change places have the
same. -/
theorem map_sortBy_of_ties {lt : α → α → Bool} (g : α → β) : ∀ {l : List α},
    l.Pairwise (fun a b => lt b a = true → g a = g b) → (sortBy lt l).map g = l.map g := by
  have hins : ∀ (a : α) (l : List α), (∀ b ∈ l, lt b a = true → g a = g b) →
      (insertBy lt a l).map g = g a :: l.map g := by
    intro a l
    induction l with
    | nil => intro _; rfl
    | cons b l ih =>
      intro h
      unfold insertBy
      split
      · next hba =>
        rw [List.map_cons, ih fun c hc => h c (List.mem_cons_of_mem b hc), List.map_cons,
          h b List.mem_cons_self hba]
      · rfl
  intro l
  induction l with
  | nil => intro _; rfl
  | cons a l ih =>
    intro h
    obtain ⟨ha, hl⟩ := List.pairwise_cons.mp h
    show (insertBy lt a (sortBy lt l)).map g = g a :: l.map g
    rw [hins a _ fun b hb => ha b (mem_sortBy.mp hb), ih hl]

/-! ### One window after the other -/

section Windows

variable {γ : Type*} [LinearOrder γ]

/-- What a list holds between two bounds. -/
def window (f : α → γ) (x y : γ) (l : List α) : List α := l.filter fun a => x < f a ∧ f a ≤ y

/-- What lies between the first bound and the next, then what lies between that and the one
after, and so on `k` times; within a window the order is that of the list. -/
def inWindows (f : α → γ) (bound : ℕ → γ) (l : List α) : ℕ → List α
  | 0 => []
  | k + 1 => inWindows f bound l k ++ window f (bound k) (bound (k + 1)) l

variable {f : α → γ} {bound : ℕ → γ} {l : List α}

theorem pairwise_sortBy_le (f : α → γ) (l : List α) :
    (sortBy (fun a b => decide (f a < f b)) l).Pairwise fun a b => f a ≤ f b :=
  (pairwise_sortBy (weakOrder_lt.pullback f) l).imp fun h => not_lt.mp (of_decide_eq_false h)

/-- Sorting moves elements within their windows. -/
theorem filter_sortBy_window (hbound : Monotone bound) (k : ℕ) :
    (sortBy (fun a b => decide (f a < f b)) l).filter (fun a => f a ≤ bound (k + 1))
      = (sortBy (fun a b => decide (f a < f b)) l).filter (fun a => f a ≤ bound k)
        ++ sortBy (fun a b => decide (f a < f b)) (window f (bound k) (bound (k + 1)) l) := by
  rw [filter_le_window (hbound (Nat.le_succ k)) (pairwise_sortBy_le f l),
    filter_sortBy (weakOrder_lt.pullback f), filter_sortBy (weakOrder_lt.pullback f)]
  rfl

theorem filter_sortBy_zero (hfirst : ∀ a ∈ l, bound 0 < f a) :
    (sortBy (fun a b => decide (f a < f b)) l).filter (fun a => f a ≤ bound 0) = [] := by
  rw [List.filter_eq_nil_iff]
  intro a ha
  simpa using hfirst a (mem_sortBy.mp ha)

/-- **The windows hold what the sorted list holds up to their end.** -/
theorem inWindows_perm (hbound : Monotone bound) (hfirst : ∀ a ∈ l, bound 0 < f a) (k : ℕ) :
    (inWindows f bound l k).Perm
      ((sortBy (fun a b => decide (f a < f b)) l).filter fun a => f a ≤ bound k) := by
  induction k with
  | zero =>
    rw [filter_sortBy_zero hfirst]
    exact List.Perm.refl _
  | succ k ih =>
    rw [filter_sortBy_window hbound]
    exact ih.append (perm_sortBy _ _).symm

/-- **The windows read as the sorted list** if elements of one window that do not rise are
alike. -/
theorem map_inWindows (hbound : Monotone bound) (hfirst : ∀ a ∈ l, bound 0 < f a) {g : α → β}
    (hties : ∀ k, (window f (bound k) (bound (k + 1)) l).Pairwise
      fun a b => f b < f a → g a = g b) (k : ℕ) :
    (inWindows f bound l k).map g
      = ((sortBy (fun a b => decide (f a < f b)) l).filter fun a => f a ≤ bound k).map g := by
  induction k with
  | zero =>
    rw [filter_sortBy_zero hfirst]
    rfl
  | succ k ih =>
    rw [filter_sortBy_window hbound, inWindows, List.map_append, List.map_append, ih,
      map_sortBy_of_ties g ((hties k).imp fun h hlt => h (of_decide_eq_true hlt))]

end Windows

/-! ### The least element -/

/-- Keep the smaller of two, and the earlier one of a tie. -/
def keepLeast (lt : α → α → Bool) (best : Option α) (a : α) : Option α :=
  match best with
  | none => some a
  | some b => if lt a b then some a else some b

theorem head?_insertBy (lt : α → α → Bool) (a : α) (l : List α) :
    (insertBy lt a l).head? = (l.head?).elim (some a) fun b => if lt b a then some b else some a := by
  cases l with
  | nil => rfl
  | cons b l =>
    unfold insertBy
    by_cases h : lt b a = true
    · rw [if_pos h]
      exact (if_pos h).symm
    · rw [if_neg h]
      exact (if_neg h).symm

theorem foldl_keepLeast_some {lt : α → α → Bool} (h : WeakOrder lt) : ∀ (l : List α) (a : α),
    l.foldl (keepLeast lt) (some a)
      = ((sortBy lt l).head?).elim (some a) fun b => if lt b a then some b else some a := by
  intro l
  induction l with
  | nil => intro a; rfl
  | cons c l ih =>
    intro a
    have hhead : (sortBy lt (c :: l)).head?
        = ((sortBy lt l).head?).elim (some c) fun b => if lt b c then some b else some c :=
      head?_insertBy lt c (sortBy lt l)
    rw [List.foldl_cons, hhead]
    unfold keepLeast
    by_cases hca : lt c a = true
    · dsimp only
      rw [if_pos hca]
      change l.foldl (keepLeast lt) (some c) = _
      rw [ih c]
      cases (sortBy lt l).head? with
      | none => exact (if_pos hca).symm
      | some b =>
        by_cases hbc : lt b c = true
        · simp only [Option.elim, hbc, h.trans hbc hca, if_true]
        · simp only [Option.elim, hbc, hca, if_true, Bool.false_eq_true, if_false]
    · dsimp only
      rw [if_neg hca]
      change l.foldl (keepLeast lt) (some a) = _
      rw [ih a]
      cases (sortBy lt l).head? with
      | none => exact (if_neg hca).symm
      | some b =>
        by_cases hbc : lt b c = true
        · simp only [Option.elim, hbc, if_true]
        · have hba : lt b a = false :=
            h.neg_trans a c b (Bool.eq_false_iff.mpr hca) (Bool.eq_false_iff.mpr hbc)
          simp only [Option.elim, hbc, hba, hca, Bool.false_eq_true, if_false]

/-- **The head of the sorted list is the least element**, the earliest one of a tie. -/
theorem foldl_keepLeast {lt : α → α → Bool} (h : WeakOrder lt) (l : List α) :
    l.foldl (keepLeast lt) none = (sortBy lt l).head? := by
  cases l with
  | nil => rfl
  | cons a l =>
    have hhead : (sortBy lt (a :: l)).head?
        = ((sortBy lt l).head?).elim (some a) fun b => if lt b a then some b else some a :=
      head?_insertBy lt a (sortBy lt l)
    rw [List.foldl_cons, hhead]
    exact foldl_keepLeast_some h l a

end CrownClash.Lib
