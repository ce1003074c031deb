import CrownClash.Lib.Sorting
import Mathlib.Data.List.Basic
import Mathlib.Data.List.Lex
import Mathlib.Data.String.Basic

/-!
# Texts joined by a separator

An id that is put together from parts can be taken apart again from the right, as
long as the last part does not contain the separator (`join_inj`).  A number never
contains one (`notMem_toString_int`).
-/

namespace CrownClash.Lib

theorem append_cons_inj {α : Type*} {x : α} : ∀ {s s' t t' : List α}, x ∉ s → x ∉ s' →
    s ++ x :: t = s' ++ x :: t' → s = s' ∧ t = t' := by
  intro s
  induction s with
  | nil =>
    intro s' t t' _ hs' heq
    cases s' with
    | nil => exact ⟨rfl, (List.cons.inj heq).2⟩
    | cons b s' => exact absurd ((List.cons.inj heq).1 ▸ List.mem_cons_self) hs'
  | cons a s ih =>
    intro s' t t' hs hs' heq
    cases s' with
    | nil => exact absurd ((List.cons.inj heq).1 ▸ List.mem_cons_self) hs
    | cons b s' =>
      obtain ⟨rfl, hrest⟩ := List.cons.inj heq
      obtain ⟨rfl, ht⟩ := ih (fun h => hs (List.mem_cons_of_mem a h))
        (fun h => hs' (List.mem_cons_of_mem a h)) hrest
      exact ⟨rfl, ht⟩

/-- **A joined text splits at its last separator.** -/
theorem join_inj {x : Char} {s s' t t' : String} (ht : x ∉ t.toList) (ht' : x ∉ t'.toList)
    (h : s ++ String.singleton x ++ t = s' ++ String.singleton x ++ t') : s = s' ∧ t = t' := by
  have hlist : s.toList ++ x :: t.toList = s'.toList ++ x :: t'.toList := by
    have := congrArg String.toList h
    simpa using this
  have hrev := congrArg List.reverse hlist
  rw [List.reverse_append, List.reverse_append, List.reverse_cons, List.reverse_cons,
    List.append_assoc, List.append_assoc, List.singleton_append, List.singleton_append] at hrev
  obtain ⟨h1, h2⟩ := append_cons_inj (by simpa using ht) (by simpa using ht') hrev
  exact ⟨String.toList_injective (List.reverse_injective h2),
    String.toList_injective (List.reverse_injective h1)⟩

theorem notMem_toString_nat {x : Char} (hx : x.isDigit = false) (n : ℕ) :
    x ∉ (toString n).toList := by
  intro h
  have hdigit : x.isDigit = true := by
    refine Nat.isDigit_of_mem_toDigits (b := 10) (n := n) (by decide) (by decide) ?_
    have heq : (toString n).toList = Nat.toDigits 10 n := by
      change (Nat.repr n).toList = _
      simp [Nat.repr]
    rw [← heq]
    exact h
  rw [hx] at hdigit
  cases hdigit

theorem notMem_toString_int {x : Char} (hx : x.isDigit = false) (hminus : x ≠ '-') (n : ℤ) :
    x ∉ (toString n).toList := by
  cases n with
  | ofNat n => exact notMem_toString_nat hx n
  | negSucc n =>
    have heq : toString (Int.negSucc n) = "-" ++ toString (n + 1) := rfl
    rw [heq, String.toList_append]
    intro h
    rcases List.mem_append.mp h with h | h
    · exact hminus (by simpa using h)
    · exact notMem_toString_nat hx (n + 1) h


/-- Different numbers are written differently. -/
theorem toString_nat_inj {m n : ℕ} : toString m = toString n ↔ m = n := by
  constructor
  · intro h
    have hdigits : Nat.toDigits 10 m = Nat.toDigits 10 n := by
      rw [← Nat.toList_repr, ← Nat.toList_repr]
      exact congrArg String.toList h
    have hvalue := congrArg (fun cs => Nat.ofDigitChars 10 cs 0) hdigits
    simpa only [Nat.ofDigitChars_ten_toDigits] using hvalue
  · intro h
    rw [h]


/-! ### Texts in units of sixteen bits

Some languages compare texts unit by unit, where a character beyond the first plane is two
units.  The units still determine the text (`utf16_injective`).
-/

def utf16Units (c : Char) : List ℕ :=
  if c.toNat < 0x10000 then [c.toNat]
  else [0xD800 + (c.toNat - 0x10000) / 0x400, 0xDC00 + (c.toNat - 0x10000) % 0x400]

def utf16 (s : String) : List ℕ := s.toList.flatMap utf16Units

def utf16Lt (a b : String) : Bool := utf16 a < utf16 b

/-- The units of a character can be taken off the front. -/
theorem utf16Units_append_inj {c d : Char} {xs ys : List ℕ}
    (h : utf16Units c ++ xs = utf16Units d ++ ys) : c = d ∧ xs = ys := by
  have hc : c.toNat < 0xD800 ∨ (0xDFFF < c.toNat ∧ c.toNat < 0x110000) := c.valid
  have hd : d.toNat < 0xD800 ∨ (0xDFFF < d.toNat ∧ d.toNat < 0x110000) := d.valid
  have hchar : c.toNat = d.toNat → c = d := fun hn => Char.toNat_inj.mp hn
  unfold utf16Units at h
  split at h <;> split at h
  · simp only [List.cons_append, List.nil_append, List.cons.injEq] at h
    exact ⟨hchar h.1, h.2⟩
  · simp only [List.cons_append, List.nil_append, List.cons.injEq] at h
    omega
  · simp only [List.cons_append, List.nil_append, List.cons.injEq] at h
    omega
  · simp only [List.cons_append, List.nil_append, List.cons.injEq] at h
    exact ⟨hchar (by omega), h.2.2⟩

theorem flatMap_utf16Units_inj : ∀ {s t : List Char},
    s.flatMap utf16Units = t.flatMap utf16Units → s = t := by
  have hne : ∀ (c : Char) (l : List ℕ), utf16Units c ++ l ≠ [] := by
    intro c l
    unfold utf16Units
    split <;> exact List.cons_ne_nil _ _
  intro s
  induction s with
  | nil =>
    intro t h
    cases t with
    | nil => rfl
    | cons d t => exact absurd h.symm (hne d _)
  | cons c s ih =>
    intro t h
    cases t with
    | nil => exact absurd h (hne c _)
    | cons d t =>
      obtain ⟨hcd, hrest⟩ := utf16Units_append_inj h
      rw [hcd, ih hrest]

theorem utf16_injective {s t : String} (h : utf16 s = utf16 t) : s = t :=
  String.toList_inj.mp (flatMap_utf16Units_inj h)

theorem totalOrder_utf16Lt : TotalOrder utf16Lt := by
  unfold utf16Lt
  convert totalOrder_lt.pullback fun _ _ h => utf16_injective h

/-- A text without a character beyond the first plane. -/
def FirstPlane (s : String) : Prop := ∀ c ∈ s.toList, c.toNat < 0x10000

instance (s : String) : Decidable (FirstPlane s) := List.decidableBAll _ _

theorem firstPlane_append {s t : String} :
    FirstPlane (s ++ t) ↔ FirstPlane s ∧ FirstPlane t := by
  unfold FirstPlane
  simp only [String.toList_append, List.mem_append, or_imp, forall_and]

theorem utf16_append (s t : String) : utf16 (s ++ t) = utf16 s ++ utf16 t := by
  unfold utf16
  rw [String.toList_append, List.flatMap_append]

theorem FirstPlane.utf16 {s : String} (h : FirstPlane s) :
    utf16 s = s.toList.map Char.toNat := by
  unfold Lib.utf16
  rw [List.map_eq_flatMap]
  exact List.flatMap_congr fun c hc => if_pos (h c hc)

/-- **Behind a common beginning the units order texts of the first plane as the characters
do.** -/
theorem utf16Lt_append (front : String) {s t : String} (hs : FirstPlane s) (ht : FirstPlane t) :
    utf16Lt (front ++ s) (front ++ t) = decide (front ++ s < front ++ t) := by
  have hlt : ∀ {a b : List Char}, a.map Char.toNat < b.map Char.toNat ↔ a < b := by
    intro a
    induction a with
    | nil =>
      intro b
      cases b with
      | nil => simp
      | cons d b => simp
    | cons c a ih =>
      intro b
      cases b with
      | nil => simp
      | cons d b =>
        have hcd : c.toNat < d.toNat ↔ c < d := UInt32.lt_iff_toNat_lt.symm
        simp [List.cons_lt_cons_iff, ih, Char.toNat_inj, hcd]
  have happend : ∀ {α : Type} [LinearOrder α] (p a b : List α), p ++ a < p ++ b ↔ a < b := by
    intro α _ p a b
    induction p with
    | nil => rfl
    | cons x p ih => rw [List.cons_append, List.cons_append, List.cons_lt_cons_iff]; simp [ih]
  unfold utf16Lt
  rw [decide_eq_decide, utf16_append, utf16_append, hs.utf16, ht.utf16, happend, hlt,
    String.lt_iff_toList_lt, String.toList_append, String.toList_append, happend]

end CrownClash.Lib
