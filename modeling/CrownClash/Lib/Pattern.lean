import Mathlib.Data.List.Basic
import Mathlib.Data.List.Infix
import Mathlib.Data.List.Forall2
import Mathlib.Data.List.TakeWhile

/-!
# Patterns made of character classes

A pattern is a row of items, each a class of characters with how often it may be taken.
An item takes as many characters as it can and gives them back one by one as long as the
rest of the pattern does not fit; a look-ahead has to fit in front, and a pattern may have
to reach the end of the text.  `exec` looks for the leftmost place where the pattern fits,
`replaceAll` puts a text in the place of every fit.

What a fit is made of is what the items allow, and every way to take a text apart is found
(`matchItems_isSome_iff`).  A character that no item accepts ends the text for the pattern,
so that a replacement works on the pieces between such characters (`replaceAll_append`).
-/

namespace CrownClash.Lib

variable {α β : Type}

/-- A class of characters, taken at least `low` and at most `high` times. -/
structure Item (α : Type) where
  accepts : α → Bool
  low : ℕ
  high : Option ℕ

namespace Item

/-- `x` -/
def once (accepts : α → Bool) : Item α := ⟨accepts, 1, some 1⟩

/-- `x+` -/
def plus (accepts : α → Bool) : Item α := ⟨accepts, 1, none⟩

/-- `x*` -/
def star (accepts : α → Bool) : Item α := ⟨accepts, 0, none⟩

/-- The most that can be taken from the front of the text. -/
def run (item : Item α) (s : List α) : ℕ :=
  match item.high with
  | none => (s.takeWhile item.accepts).length
  | some high => min high (s.takeWhile item.accepts).length

/-- What the item may take. -/
structure Fits (item : Item α) (piece : List α) : Prop where
  accepted : ∀ c ∈ piece, item.accepts c = true
  low : item.low ≤ piece.length
  high : ∀ high, item.high = some high → piece.length ≤ high

end Item

/-- The first success from `k` down to `low`. -/
def firstDown (f : ℕ → Option β) (low : ℕ) : ℕ → Option β
  | 0 => if low = 0 then f 0 else none
  | k + 1 =>
    if low ≤ k + 1 then
      match f (k + 1) with
      | some r => some r
      | none => firstDown f low k
    else none

/-- The pieces that the items take from the front of the text. -/
def matchItems (atEnd : Bool) : List (Item α) → List α → Option (List (List α))
  | [], s => if atEnd && !s.isEmpty then none else some []
  | item :: items, s =>
    firstDown (fun k => (matchItems atEnd items (s.drop k)).map (s.take k :: ·)) item.low
      (item.run s)

structure Pattern (α : Type) where
  ahead : List (Item α)
  items : List (Item α)
  atEnd : Bool

namespace Pattern

/-- A pattern without a look-ahead that may end anywhere. -/
def ofItems (items : List (Item α)) : Pattern α := ⟨[], items, false⟩

/-- A pattern that has to take the whole text. -/
def whole (items : List (Item α)) : Pattern α := ⟨[], items, true⟩

def matchAt (p : Pattern α) (s : List α) : Option (List (List α)) :=
  if (matchItems false p.ahead s).isSome then matchItems p.atEnd p.items s else none

/-- The pieces at the leftmost place where the pattern fits. -/
def exec (p : Pattern α) : List α → Option (List (List α))
  | [] => p.matchAt []
  | c :: s =>
    match p.matchAt (c :: s) with
    | some pieces => some pieces
    | none => exec p s

def test (p : Pattern α) (s : List α) : Bool := (p.exec s).isSome

/-- The pattern fits at the start of the text. -/
def fits (p : Pattern α) (s : List α) : Bool := (p.matchAt s).isSome

/-- Replaces from the left; the number is how many characters of a fit are still to be dropped.  A
fit is never empty. -/
def replaceFrom (p : Pattern α) (new : List α) : ℕ → List α → List α
  | _, [] => []
  | skip + 1, _ :: s => replaceFrom p new skip s
  | 0, c :: s =>
    match p.matchAt (c :: s) with
    | some pieces => new ++ replaceFrom p new (pieces.flatten.length - 1) s
    | none => c :: replaceFrom p new 0 s

def replaceAll (p : Pattern α) (new s : List α) : List α := p.replaceFrom new 0 s

end Pattern

/-! ### What a pattern matches -/

theorem firstDown_eq_some {f : ℕ → Option β} {low : ℕ} {r : β} : ∀ {n : ℕ},
    firstDown f low n = some r → ∃ k, low ≤ k ∧ k ≤ n ∧ f k = some r := by
  intro n
  induction n with
  | zero =>
    intro h
    unfold firstDown at h
    split at h
    · next hlow => exact ⟨0, hlow.le, le_refl 0, h⟩
    · cases h
  | succ n ih =>
    intro h
    unfold firstDown at h
    split at h
    · next hlow =>
      cases hf : f (n + 1) with
      | some r' =>
        rw [hf] at h
        exact ⟨n + 1, hlow, le_refl _, hf.trans h⟩
      | none =>
        rw [hf] at h
        obtain ⟨k, hk, hkn, hr⟩ := ih h
        exact ⟨k, hk, Nat.le_succ_of_le hkn, hr⟩
    · cases h

theorem firstDown_isSome {f : ℕ → Option β} {low k : ℕ} (hk : low ≤ k)
    (hf : (f k).isSome = true) : ∀ {n : ℕ}, k ≤ n → (firstDown f low n).isSome = true := by
  intro n
  induction n with
  | zero =>
    intro hn
    have hzero : k = 0 := by omega
    unfold firstDown
    rw [if_pos (by omega), ← hzero]
    exact hf
  | succ n ih =>
    intro hn
    unfold firstDown
    rw [if_pos (by omega)]
    cases hnext : f (n + 1) with
    | some r => rfl
    | none =>
      refine ih ?_
      by_contra hlast
      have heq : k = n + 1 := by omega
      rw [heq, hnext] at hf
      cases hf

theorem Item.run_le (item : Item α) (s : List α) :
    item.run s ≤ (s.takeWhile item.accepts).length := by
  unfold run
  cases item.high with
  | none => exact le_refl _
  | some high => exact min_le_right _ _

theorem Item.fits_take {item : Item α} {s : List α} {k : ℕ} (hlow : item.low ≤ k)
    (hrun : k ≤ item.run s) : item.Fits (s.take k) := by
  have hwhile := item.run_le s
  have hlength : (s.take k).length = k := by
    have := (List.takeWhile_sublist item.accepts (l := s)).length_le
    rw [List.length_take]
    omega
  have hfront : s.take k <+: s.takeWhile item.accepts :=
    List.prefix_of_prefix_length_le (List.take_prefix _ _) (List.takeWhile_prefix _) (by omega)
  refine ⟨fun c hc => ?_, by omega, fun high hhigh => ?_⟩
  · exact List.mem_takeWhile_imp (hfront.subset hc)
  · rw [run, hhigh] at hrun
    rw [hlength]
    exact hrun.trans (min_le_left _ _)

theorem Item.length_le_run {item : Item α} {piece rest : List α} (h : item.Fits piece) :
    piece.length ≤ item.run (piece ++ rest) := by
  have hwhile : piece.length ≤ ((piece ++ rest).takeWhile item.accepts).length := by
    have hall : piece.takeWhile item.accepts = piece := List.takeWhile_eq_self_iff.mpr h.accepted
    rw [List.takeWhile_append, hall, if_pos rfl, List.length_append]
    omega
  unfold run
  cases hhigh : item.high with
  | none => exact hwhile
  | some high => exact le_min (h.high high hhigh) hwhile

/-- A fit is made of pieces that the items allow. -/
theorem matchItems_eq_some {atEnd : Bool} : ∀ {items : List (Item α)} {s : List α}
    {pieces : List (List α)}, matchItems atEnd items s = some pieces →
      List.Forall₂ Item.Fits items pieces ∧
        ∃ rest, s = pieces.flatten ++ rest ∧ (atEnd = true → rest = []) := by
  intro items
  induction items with
  | nil =>
    intro s pieces h
    unfold matchItems at h
    split at h
    · cases h
    · next hend =>
      cases h
      refine ⟨List.Forall₂.nil, s, rfl, fun hatEnd => ?_⟩
      simpa [hatEnd] using hend
  | cons item items ih =>
    intro s pieces h
    unfold matchItems at h
    obtain ⟨k, hlow, hrun, hk⟩ := firstDown_eq_some h
    obtain ⟨more, hmore, rfl⟩ := Option.map_eq_some_iff.mp hk
    obtain ⟨hfits, rest, hrest, hend⟩ := ih hmore
    refine ⟨List.Forall₂.cons (Item.fits_take hlow hrun) hfits, rest, ?_, hend⟩
    rw [List.flatten_cons, List.append_assoc, ← hrest, List.take_append_drop]

/-- Every way to take the text apart is found. -/
theorem matchItems_isSome {atEnd : Bool} : ∀ {items : List (Item α)} {pieces : List (List α)}
    {rest : List α}, List.Forall₂ Item.Fits items pieces → (atEnd = true → rest = []) →
      (matchItems atEnd items (pieces.flatten ++ rest)).isSome = true := by
  intro items
  induction items with
  | nil =>
    intro pieces rest h hend
    cases h
    unfold matchItems
    cases atEnd with
    | false => rfl
    | true => rw [hend rfl]; rfl
  | cons item items ih =>
    intro pieces rest h hend
    cases h with
    | @cons _ piece _ more hpiece hmore =>
      unfold matchItems
      rw [List.flatten_cons, List.append_assoc]
      refine firstDown_isSome hpiece.low ?_ (Item.length_le_run hpiece)
      rw [List.drop_left, Option.isSome_map]
      exact ih hmore hend

theorem matchItems_isSome_iff {atEnd : Bool} {items : List (Item α)} {s : List α} :
    (matchItems atEnd items s).isSome = true ↔ ∃ pieces rest, s = pieces.flatten ++ rest ∧
      List.Forall₂ Item.Fits items pieces ∧ (atEnd = true → rest = []) := by
  constructor
  · intro h
    obtain ⟨pieces, hpieces⟩ := Option.isSome_iff_exists.mp h
    obtain ⟨hfits, rest, hs, hend⟩ := matchItems_eq_some hpieces
    exact ⟨pieces, rest, hs, hfits, hend⟩
  · rintro ⟨pieces, rest, rfl, hfits, hend⟩
    exact matchItems_isSome hfits hend


/-- The last item takes all it can. -/
theorem matchItems_singleton (item : Item α) (s : List α) :
    matchItems false [item] s
      = if item.low ≤ item.run s then some [s.take (item.run s)] else none := by
  have hdown : ∀ n, firstDown (fun k => (matchItems false [] (s.drop k)).map (s.take k :: ·))
      item.low n = if item.low ≤ n then some [s.take n] else none := by
    intro n
    cases n with
    | zero =>
      unfold firstDown
      by_cases hlow : item.low = 0
      · rw [if_pos hlow, if_pos hlow.le]
        rfl
      · rw [if_neg hlow, if_neg (by omega)]
    | succ n =>
      unfold firstDown
      rfl
  unfold matchItems
  exact hdown (item.run s)

theorem Pattern.whole_fits_iff {items : List (Item α)} {s : List α} :
    (Pattern.whole items).fits s = true ↔
      ∃ pieces, s = pieces.flatten ∧ List.Forall₂ Item.Fits items pieces := by
  have hfits : (Pattern.whole items).fits s = (matchItems true items s).isSome := rfl
  rw [hfits, matchItems_isSome_iff]
  constructor
  · rintro ⟨pieces, rest, hs, hpieces, hend⟩
    rw [hend rfl, List.append_nil] at hs
    exact ⟨pieces, hs, hpieces⟩
  · rintro ⟨pieces, hs, hpieces⟩
    exact ⟨pieces, [], by rw [List.append_nil]; exact hs, hpieces, fun _ => rfl⟩

theorem Item.once_fits {accepts : α → Bool} {piece : List α}
    (h : (Item.once accepts).Fits piece) : ∃ c, piece = [c] ∧ accepts c = true := by
  have hlow : 1 ≤ piece.length := h.low
  have hhigh : piece.length ≤ 1 := h.high 1 rfl
  obtain ⟨c, rfl⟩ := List.length_eq_one_iff.mp (le_antisymm hhigh hlow)
  exact ⟨c, rfl, h.accepted c (List.mem_singleton_self c)⟩

theorem Item.fits_once {accepts : α → Bool} {c : α} (h : accepts c = true) :
    (Item.once accepts).Fits [c] where
  accepted := by
    intro d hd
    rw [List.mem_singleton.mp hd]
    exact h
  low := le_refl 1
  high := by
    rintro high ⟨⟩
    exact le_refl 1

theorem Item.plus_fits_iff {accepts : α → Bool} {piece : List α} :
    (Item.plus accepts).Fits piece ↔ piece ≠ [] ∧ ∀ c ∈ piece, accepts c = true := by
  constructor
  · intro h
    refine ⟨fun hnil => ?_, h.accepted⟩
    have hlow : 1 ≤ piece.length := h.low
    rw [hnil] at hlow
    cases hlow
  · rintro ⟨hne, hall⟩
    exact ⟨hall, List.length_pos_iff.mpr hne, fun high hhigh => (nomatch hhigh)⟩

/-- A pattern of one item takes the texts of its class. -/
theorem Pattern.whole_singleton {item : Item α} {s : List α} :
    (Pattern.whole [item]).fits s = true ↔ item.Fits s := by
  rw [Pattern.whole_fits_iff]
  constructor
  · rintro ⟨pieces, rfl, hpieces⟩
    obtain ⟨piece, rest, hpiece, hrest, rfl⟩ := List.forall₂_cons_left_iff.mp hpieces
    rw [List.forall₂_nil_left_iff.mp hrest, List.flatten_singleton]
    exact hpiece
  · intro h
    exact ⟨[s], List.flatten_singleton.symm, List.Forall₂.cons h List.Forall₂.nil⟩

/-! ### A character that no item accepts -/

/-- No item accepts the character. -/
def Pattern.Rejects (p : Pattern α) (x : α) : Prop :=
  (∀ item ∈ p.ahead, item.accepts x = false) ∧ ∀ item ∈ p.items, item.accepts x = false

theorem takeWhile_append_of_reject {accepts : α → Bool} {x : α} (hx : accepts x = false) :
    ∀ (w rest : List α), (w ++ x :: rest).takeWhile accepts = w.takeWhile accepts := by
  intro w rest
  induction w with
  | nil => exact List.takeWhile_cons_of_neg (by simp [hx])
  | cons c w ih =>
    rw [List.cons_append]
    by_cases hc : accepts c = true
    · rw [List.takeWhile_cons_of_pos hc, List.takeWhile_cons_of_pos hc, ih]
    · rw [List.takeWhile_cons_of_neg hc, List.takeWhile_cons_of_neg hc]

theorem firstDown_congr {f g : ℕ → Option β} {low : ℕ} : ∀ {n : ℕ}, (∀ k ≤ n, f k = g k) →
    firstDown f low n = firstDown g low n := by
  intro n
  induction n with
  | zero =>
    intro h
    unfold firstDown
    rw [h 0 (le_refl 0)]
  | succ n ih =>
    intro h
    unfold firstDown
    rw [h (n + 1) (le_refl _), ih fun k hk => h k (Nat.le_succ_of_le hk)]

theorem matchItems_append {x : α} : ∀ {items : List (Item α)},
    (∀ item ∈ items, item.accepts x = false) → ∀ (w rest : List α),
      matchItems false items (w ++ x :: rest) = matchItems false items w := by
  intro items
  induction items with
  | nil => intro _ w rest; rfl
  | cons item items ih =>
    intro hx w rest
    have hitem := hx item List.mem_cons_self
    have hrun : item.run (w ++ x :: rest) = item.run w := by
      unfold Item.run
      rw [takeWhile_append_of_reject hitem]
    unfold matchItems
    rw [hrun]
    apply firstDown_congr
    intro k hk
    have hlength : k ≤ w.length :=
      (hk.trans (item.run_le w)).trans (List.takeWhile_sublist item.accepts).length_le
    rw [List.drop_append_of_le_length hlength, List.take_append_of_le_length hlength,
      ih (fun other hmem => hx other (List.mem_cons_of_mem item hmem))]

theorem Pattern.matchAt_append {p : Pattern α} (hend : p.atEnd = false) {x : α} (hx : p.Rejects x)
    (w rest : List α) : p.matchAt (w ++ x :: rest) = p.matchAt w := by
  unfold matchAt
  rw [hend, matchItems_append hx.1, matchItems_append hx.2]

theorem Pattern.length_of_matchAt {p : Pattern α} {s : List α} {pieces : List (List α)}
    (h : p.matchAt s = some pieces) : pieces.flatten.length ≤ s.length := by
  unfold matchAt at h
  split at h
  · obtain ⟨-, rest, hs, -⟩ := matchItems_eq_some h
    rw [hs, List.length_append]
    omega
  · cases h

theorem Pattern.replaceFrom_none {p : Pattern α} {c : α} {s : List α} (new : List α)
    (h : p.matchAt (c :: s) = none) :
    p.replaceFrom new 0 (c :: s) = c :: p.replaceFrom new 0 s := by
  rw [replaceFrom, h]

theorem Pattern.replaceFrom_some {p : Pattern α} {c : α} {s : List α} {pieces : List (List α)}
    (new : List α) (h : p.matchAt (c :: s) = some pieces) :
    p.replaceFrom new 0 (c :: s)
      = new ++ p.replaceFrom new (pieces.flatten.length - 1) s := by
  rw [replaceFrom, h]

/-- A character that nothing accepts separates what is in front of it from what follows. -/
theorem Pattern.replaceFrom_append {p : Pattern α} (hend : p.atEnd = false) {x : α}
    (hx : p.Rejects x) (hempty : p.matchAt [] = none) (new : List α) :
    ∀ {w : List α} {skip : ℕ} (rest : List α), skip ≤ w.length →
      p.replaceFrom new skip (w ++ x :: rest)
        = p.replaceFrom new skip w ++ x :: p.replaceFrom new 0 rest := by
  intro w
  induction w with
  | nil =>
    intro skip rest hskip
    have hzero : skip = 0 := Nat.le_zero.mp hskip
    have hnone : p.matchAt (x :: rest) = none := by
      have := Pattern.matchAt_append hend hx [] rest
      rw [List.nil_append] at this
      rw [this, hempty]
    rw [hzero, List.nil_append, replaceFrom_none new hnone]
    rfl
  | cons c w ih =>
    intro skip rest hskip
    cases skip with
    | succ skip =>
      rw [List.cons_append]
      exact ih rest (Nat.le_of_succ_le_succ hskip)
    | zero =>
      have hsame : p.matchAt (c :: (w ++ x :: rest)) = p.matchAt (c :: w) :=
        Pattern.matchAt_append hend hx (c :: w) rest
      rw [List.cons_append]
      cases hmatch : p.matchAt (c :: w) with
      | none =>
        rw [replaceFrom_none new (hsame.trans hmatch), replaceFrom_none new hmatch,
          ih rest (Nat.zero_le _), List.cons_append]
      | some pieces =>
        have hlength := Pattern.length_of_matchAt hmatch
        rw [List.length_cons] at hlength
        rw [replaceFrom_some new (hsame.trans hmatch), replaceFrom_some new hmatch,
          ih rest (by omega), List.append_assoc]

theorem Pattern.replaceAll_append {p : Pattern α} (hend : p.atEnd = false) {x : α}
    (hx : p.Rejects x) (hempty : p.matchAt [] = none) (new w rest : List α) :
    p.replaceAll new (w ++ x :: rest) = p.replaceAll new w ++ x :: p.replaceAll new rest :=
  Pattern.replaceFrom_append hend hx hempty new rest (Nat.zero_le _)


/-! ### What a replacement leaves -/

theorem Pattern.replaceFrom_drop (p : Pattern α) (new : List α) : ∀ (skip : ℕ) (s : List α),
    p.replaceFrom new skip s = p.replaceAll new (s.drop skip) := by
  intro skip s
  induction s generalizing skip with
  | nil => rw [List.drop_nil, Pattern.replaceAll, replaceFrom, replaceFrom]
  | cons c s ih =>
    cases skip with
    | zero => rfl
    | succ skip => exact ih skip

theorem Pattern.mem_replaceFrom {p : Pattern α} {new : List α} {x : α} : ∀ {skip : ℕ} {s : List α},
    x ∈ p.replaceFrom new skip s → x ∈ s ∨ x ∈ new := by
  intro skip s
  induction s generalizing skip with
  | nil =>
    intro h
    rw [replaceFrom] at h
    exact Or.inl h
  | cons c s ih =>
    intro h
    cases skip with
    | succ skip => exact (ih h).imp_left (List.mem_cons_of_mem c)
    | zero =>
      cases hmatch : p.matchAt (c :: s) with
      | none =>
        rw [replaceFrom_none new hmatch] at h
        rcases List.mem_cons.mp h with rfl | h
        · exact Or.inl List.mem_cons_self
        · exact (ih h).imp_left (List.mem_cons_of_mem c)
      | some pieces =>
        rw [replaceFrom_some new hmatch] at h
        rcases List.mem_append.mp h with h | h
        · exact Or.inr h
        · exact (ih h).imp_left (List.mem_cons_of_mem c)

theorem Pattern.replaceAll_ne_nil {p : Pattern α} {new : List α} (hnew : new ≠ []) {s : List α}
    (hs : s ≠ []) : p.replaceAll new s ≠ [] := by
  cases s with
  | nil => exact absurd rfl hs
  | cons c s =>
    unfold replaceAll
    cases hmatch : p.matchAt (c :: s) with
    | none =>
      rw [replaceFrom_none new hmatch]
      exact List.cons_ne_nil _ _
    | some pieces =>
      rw [replaceFrom_some new hmatch]
      simp [hnew]


/-- A text of which nothing is in the replacement stands at the start only if it stood there. -/
theorem Pattern.prefix_replaceFrom {p : Pattern α} {new : List α} (hnew : new ≠ []) :
    ∀ {needle s : List α}, (∀ x ∈ needle, x ∉ new) → needle <+: p.replaceFrom new 0 s →
      needle <+: s := by
  intro needle
  induction needle with
  | nil => intro s _ _; exact List.nil_prefix
  | cons x needle ih =>
    intro s hx h
    cases s with
    | nil =>
      rw [replaceFrom] at h
      exact h
    | cons c s =>
      cases hmatch : p.matchAt (c :: s) with
      | none =>
        rw [replaceFrom_none new hmatch, List.cons_prefix_cons] at h
        rw [List.cons_prefix_cons]
        exact ⟨h.1, ih (fun y hy => hx y (List.mem_cons_of_mem x hy)) h.2⟩
      | some pieces =>
        obtain ⟨z, more, rfl⟩ := List.exists_cons_of_ne_nil hnew
        rw [replaceFrom_some _ hmatch, List.cons_append, List.cons_prefix_cons] at h
        rw [h.1] at hx
        exact absurd List.mem_cons_self (hx z List.mem_cons_self)

theorem infix_of_infix_append {x : α} {needle rest : List α} : ∀ {front : List α}, x ∉ front →
    x :: needle <:+: front ++ rest → x :: needle <:+: rest := by
  intro front
  induction front with
  | nil => intro _ h; exact h
  | cons c front ih =>
    intro hx h
    rw [List.mem_cons, not_or] at hx
    rw [List.cons_append, List.infix_cons_iff] at h
    rcases h with h | h
    · exact absurd (List.cons_prefix_cons.mp h).1 hx.1
    · exact ih hx.2 h

/-- And it stands in the text only if it stood there. -/
theorem Pattern.infix_replaceFrom {p : Pattern α} {new : List α} (hnew : new ≠ []) {x : α}
    {needle : List α} (hx : ∀ y ∈ x :: needle, y ∉ new) : ∀ {skip : ℕ} {s : List α},
      x :: needle <:+: p.replaceFrom new skip s → x :: needle <:+: s := by
  intro skip s
  induction s generalizing skip with
  | nil =>
    intro h
    rw [replaceFrom] at h
    exact h
  | cons c s ih =>
    intro h
    cases skip with
    | succ skip => exact (ih h).trans (List.suffix_cons c s).isInfix
    | zero =>
      cases hmatch : p.matchAt (c :: s) with
      | none =>
        have hfirst := @Pattern.prefix_replaceFrom α p new hnew (x :: needle) (c :: s) hx
        rw [replaceFrom_none new hmatch] at h hfirst
        rcases List.infix_cons_iff.mp h with h | h
        · exact (hfirst h).isInfix
        · exact (ih h).trans (List.suffix_cons c s).isInfix
      | some pieces =>
        rw [replaceFrom_some new hmatch] at h
        have hrest := infix_of_infix_append (hx x List.mem_cons_self) h
        exact (ih hrest).trans (List.suffix_cons c s).isInfix

/-- What is taken is accepted, and it is something if one item has to take something. -/
theorem fits_flatten {items : List (Item α)} {pieces : List (List α)}
    (h : List.Forall₂ Item.Fits items pieces) :
    (∀ x ∈ pieces.flatten, ∃ item ∈ items, item.accepts x = true) ∧
      ((∃ item ∈ items, 0 < item.low) → pieces.flatten ≠ []) := by
  induction h with
  | nil => exact ⟨fun _ h => (List.not_mem_nil h).elim, fun ⟨_, h, _⟩ => (List.not_mem_nil h).elim⟩
  | @cons item piece items pieces hfit _ ih =>
    rw [List.flatten_cons]
    refine ⟨fun x hx => ?_, fun ⟨other, hother, hlow⟩ hnil => ?_⟩
    · rcases List.mem_append.mp hx with hx | hx
      · exact ⟨item, List.mem_cons_self, hfit.accepted x hx⟩
      · obtain ⟨other, hother, haccepts⟩ := ih.1 x hx
        exact ⟨other, List.mem_cons_of_mem item hother, haccepts⟩
    · obtain ⟨hpiece, hrest⟩ := List.append_eq_nil_iff.mp hnil
      rcases List.mem_cons.mp hother with rfl | hother
      · have hlength := hfit.low
        rw [hpiece] at hlength
        exact absurd hlow (not_lt.mpr hlength)
      · exact ih.2 ⟨other, hother, hlow⟩ hrest

/-- **A text of which no item takes anything stays in the text.** -/
theorem Pattern.infix_kept {p : Pattern α} (hlow : ∃ item ∈ p.items, 0 < item.low) (new : List α)
    {x : α} {needle : List α}
    (hneedle : ∀ y ∈ x :: needle, ∀ item ∈ p.items, item.accepts y = false) :
    ∀ {s : List α}, x :: needle <:+: s → x :: needle <:+: p.replaceAll new s := by
  have hfit : ∀ {s : List α} {pieces : List (List α)}, p.matchAt s = some pieces →
      pieces.flatten ≠ [] ∧ (∀ y ∈ pieces.flatten, ∃ item ∈ p.items, item.accepts y = true) ∧
        ∃ rest, s = pieces.flatten ++ rest := by
    intro s pieces h
    unfold matchAt at h
    split at h
    · obtain ⟨hfits, rest, hs, -⟩ := matchItems_eq_some h
      obtain ⟨haccepted, hsome⟩ := fits_flatten hfits
      exact ⟨hsome hlow, haccepted, rest, hs⟩
    · cases h
  -- a fit does not start with a character that no item takes
  have hnone : ∀ {y : α} {s : List α}, (∀ item ∈ p.items, item.accepts y = false) →
      p.matchAt (y :: s) = none := by
    intro y s hy
    cases hmatch : p.matchAt (y :: s) with
    | none => rfl
    | some pieces =>
      obtain ⟨hne, haccepted, rest, hs⟩ := hfit hmatch
      obtain ⟨c, more, hflat⟩ := List.exists_cons_of_ne_nil hne
      rw [hflat, List.cons_append] at hs
      obtain ⟨item, hitem, haccepts⟩ := haccepted c (hflat ▸ List.mem_cons_self)
      rw [← (List.cons.inj hs).1, hy item hitem] at haccepts
      cases haccepts
  have hstart : ∀ {text s : List α}, (∀ y ∈ text, ∀ item ∈ p.items, item.accepts y = false) →
      text <+: s → text <+: p.replaceAll new s := by
    intro text
    induction text with
    | nil => intro s _ _; exact List.nil_prefix
    | cons y text ih =>
      intro s htext h
      obtain ⟨rest, rfl⟩ := h
      have hrest := @ih (text ++ rest) (fun z hz => htext z (List.mem_cons_of_mem y hz))
        (List.prefix_append _ _)
      unfold replaceAll at hrest ⊢
      rw [List.cons_append, replaceFrom_none new (hnone (htext y List.mem_cons_self)),
        List.cons_prefix_cons]
      exact ⟨rfl, hrest⟩
  intro s
  induction hn : s.length using Nat.strong_induction_on generalizing s with
  | _ n ih =>
    intro h
    cases s with
    | nil => exact absurd (List.infix_nil.mp h) (List.cons_ne_nil x needle)
    | cons c s =>
      cases hmatch : p.matchAt (c :: s) with
      | none =>
        rcases List.infix_cons_iff.mp h with h | h
        · exact (hstart hneedle h).isInfix
        · have hrest := ih s.length (by rw [← hn, List.length_cons]; omega) rfl h
          unfold replaceAll at hrest ⊢
          rw [replaceFrom_none new hmatch]
          exact hrest.trans (List.suffix_cons c _).isInfix
      | some pieces =>
        obtain ⟨hne, haccepted, rest, hs⟩ := hfit hmatch
        have hx : x ∉ pieces.flatten := by
          intro hmem
          obtain ⟨item, hitem, haccepts⟩ := haccepted x hmem
          rw [hneedle x List.mem_cons_self item hitem] at haccepts
          cases haccepts
        have hdrop : s.drop (pieces.flatten.length - 1) = rest := by
          obtain ⟨d, more, hflat⟩ := List.exists_cons_of_ne_nil hne
          rw [hflat, List.cons_append] at hs
          rw [hflat, (List.cons.inj hs).2, List.length_cons, Nat.add_sub_cancel, List.drop_left]
        rw [hs] at h
        have hlength : rest.length < n := by
          have hpos := List.length_pos_iff.mpr hne
          rw [← hn, hs, List.length_append]
          omega
        have hrest := ih rest.length hlength rfl (infix_of_infix_append hx h)
        unfold replaceAll
        rw [replaceFrom_some new hmatch, replaceFrom_drop, hdrop]
        exact hrest.trans (List.suffix_append new _).isInfix

/-- A text in which the pattern fits nowhere stays as it is. -/
theorem Pattern.replaceAll_of_none {p : Pattern α} (new : List α) : ∀ {s : List α},
    (∀ t, t <:+ s → p.matchAt t = none) → p.replaceAll new s = s := by
  intro s
  induction s with
  | nil => intro _; rfl
  | cons c s ih =>
    intro h
    have hrest := ih fun t ht => h t (ht.trans (List.suffix_cons c s))
    unfold replaceAll at hrest ⊢
    rw [replaceFrom_none new (h _ (List.suffix_refl _)), hrest]

/-- A text that the pattern takes as a whole is replaced as a whole. -/
theorem Pattern.replaceAll_of_whole {p : Pattern α} (new : List α) {s : List α} (hs : s ≠ [])
    {pieces : List (List α)} (h : p.matchAt s = some pieces) (hall : pieces.flatten = s) :
    p.replaceAll new s = new := by
  obtain ⟨c, rest, rfl⟩ := List.exists_cons_of_ne_nil hs
  unfold replaceAll
  rw [replaceFrom_some new h, hall, List.length_cons, Nat.add_sub_cancel, replaceFrom_drop,
    List.drop_length, replaceAll, replaceFrom, List.append_nil]

/-- The last piece of a fit goes as far as its item can take it. -/
theorem matchItems_last : ∀ {items : List (Item α)} {item : Item α} {s : List α}
    {pieces : List (List α)}, matchItems false (items ++ [item]) s = some pieces →
      ∃ front last rest, pieces = front ++ [last] ∧ s = front.flatten ++ (last ++ rest) ∧
        last = (last ++ rest).take (item.run (last ++ rest)) := by
  intro items
  induction items with
  | nil =>
    intro item s pieces h
    rw [List.nil_append, matchItems_singleton] at h
    split at h
    · cases h
      refine ⟨[], s.take (item.run s), s.drop (item.run s), rfl, ?_, ?_⟩
      · rw [List.take_append_drop]
        rfl
      · rw [List.take_append_drop]
    · cases h
  | cons first items ih =>
    intro item s pieces h
    rw [List.cons_append] at h
    unfold matchItems at h
    obtain ⟨k, -, -, hk⟩ := firstDown_eq_some h
    obtain ⟨more, hmore, rfl⟩ := Option.map_eq_some_iff.mp hk
    obtain ⟨front, last, rest, rfl, hs, hlast⟩ := ih hmore
    refine ⟨s.take k :: front, last, rest, rfl, ?_, hlast⟩
    rw [List.flatten_cons, List.append_assoc, ← hs, List.take_append_drop]

end CrownClash.Lib
