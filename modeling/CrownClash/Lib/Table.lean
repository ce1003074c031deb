import Mathlib.Data.List.Basic
import Mathlib.Data.List.Nodup
import Mathlib.Data.List.Infix
import Mathlib.Algebra.BigOperators.Group.List.Basic
import Mathlib.Algebra.Ring.Int.Defs

/-!
# Tables with a unique key

A table is the list of its rows.  `insertNew` is an insert that does nothing when
a row with the same key is there (`ON CONFLICT DO NOTHING`), `insertAll` a
sequence of them.

`insertAll_eq_append_iff` says when all the rows of a sequence get in: exactly if
their keys are new and differ from each other.
-/

namespace CrownClash.Lib

variable {α κ : Type*} [DecidableEq κ] {key : α → κ}

/-- A row with the key of `row` is stored. -/
def Holds (key : α → κ) (table : List α) (k : κ) : Prop := ∃ row ∈ table, key row = k

instance (table : List α) (k : κ) : Decidable (Holds key table k) :=
  inferInstanceAs (Decidable (∃ row ∈ table, key row = k))

/-- An insert that a row with the same key turns into nothing. -/
def insertNew (key : α → κ) (table : List α) (row : α) : List α :=
  if Holds key table (key row) then table else table ++ [row]

def insertAll (key : α → κ) (table rows : List α) : List α := rows.foldl (insertNew key) table

theorem insertNew_of_new {table : List α} {row : α} (h : ¬ Holds key table (key row)) :
    insertNew key table row = table ++ [row] := if_neg h

theorem insertNew_of_held {table : List α} {row : α} (h : Holds key table (key row)) :
    insertNew key table row = table := if_pos h

theorem prefix_insertNew (table : List α) (row : α) : table <+: insertNew key table row := by
  by_cases h : Holds key table (key row)
  · rw [insertNew_of_held h]
  · rw [insertNew_of_new h]
    exact List.prefix_append table [row]

@[simp] theorem insertAll_nil (table : List α) : insertAll key table [] = table := rfl

theorem insertAll_cons (table rows : List α) (row : α) :
    insertAll key table (row :: rows) = insertAll key (insertNew key table row) rows := rfl

theorem insertAll_append (table rows rows' : List α) :
    insertAll key table (rows ++ rows') = insertAll key (insertAll key table rows) rows' :=
  List.foldl_append

theorem prefix_insertAll : ∀ (rows table : List α), table <+: insertAll key table rows := by
  intro rows
  induction rows with
  | nil => intro table; exact List.prefix_refl table
  | cons row rows ih => intro table; exact (prefix_insertNew table row).trans (ih _)

/-- The key of a row is stored after the insert. -/
theorem holds_insertNew (table : List α) (row : α) :
    Holds key (insertNew key table row) (key row) := by
  by_cases h : Holds key table (key row)
  · rw [insertNew_of_held h]
    exact h
  · rw [insertNew_of_new h]
    exact ⟨row, List.mem_append_right _ (List.mem_singleton_self row), rfl⟩

/-- Of every row that is inserted, the key is stored. -/
theorem holds_insertAll : ∀ {rows table : List α} {row : α}, row ∈ rows →
    Holds key (insertAll key table rows) (key row) := by
  intro rows
  induction rows with
  | nil => intro table row h; cases h
  | cons first rows ih =>
    intro table row h
    rcases List.mem_cons.mp h with rfl | h
    · obtain ⟨r, hr, hk⟩ := @holds_insertNew α κ _ key table row
      exact ⟨r, (prefix_insertAll rows _).subset hr, hk⟩
    · exact ih h

theorem mem_insertNew {table : List α} {row r : α} (h : r ∈ insertNew key table row) :
    r ∈ table ∨ r = row := by
  by_cases hheld : Holds key table (key row)
  · rw [insertNew_of_held hheld] at h
    exact Or.inl h
  · rw [insertNew_of_new hheld] at h
    rcases List.mem_append.mp h with h | h
    · exact Or.inl h
    · exact Or.inr (List.mem_singleton.mp h)

theorem mem_insertAll : ∀ {rows table : List α} {r : α}, r ∈ insertAll key table rows →
    r ∈ table ∨ r ∈ rows := by
  intro rows
  induction rows with
  | nil => intro table r h; exact Or.inl h
  | cons row rows ih =>
    intro table r h
    rcases ih h with h | h
    · rcases mem_insertNew h with h | rfl
      · exact Or.inl h
      · exact Or.inr List.mem_cons_self
    · exact Or.inr (List.mem_cons_of_mem row h)

theorem length_insertNew_le (table : List α) (row : α) :
    (insertNew key table row).length ≤ table.length + 1 := by
  by_cases h : Holds key table (key row)
  · rw [insertNew_of_held h]
    omega
  · rw [insertNew_of_new h, List.length_append]
    rfl

theorem length_insertAll_le : ∀ (rows table : List α),
    (insertAll key table rows).length ≤ table.length + rows.length := by
  intro rows
  induction rows with
  | nil => intro table; exact Nat.le_refl _
  | cons row rows ih =>
    intro table
    have h := ih (insertNew key table row)
    have hone : (insertNew key table row).length ≤ table.length + 1 :=
      length_insertNew_le table row
    rw [insertAll_cons, List.length_cons]
    omega

omit [DecidableEq κ] in
theorem holds_append {table rows : List α} {k : κ} :
    Holds key (table ++ rows) k ↔ Holds key table k ∨ Holds key rows k := by
  unfold Holds
  constructor
  · rintro ⟨row, hrow, hk⟩
    rcases List.mem_append.mp hrow with h | h
    · exact Or.inl ⟨row, h, hk⟩
    · exact Or.inr ⟨row, h, hk⟩
  · rintro (⟨row, hrow, hk⟩ | ⟨row, hrow, hk⟩)
    · exact ⟨row, List.mem_append_left _ hrow, hk⟩
    · exact ⟨row, List.mem_append_right _ hrow, hk⟩

omit [DecidableEq κ] in
theorem Holds.mono {table table' : List α} {k : κ} (h : Holds key table k)
    (hgrow : table <+: table') : Holds key table' k := by
  obtain ⟨row, hrow, hk⟩ := h
  exact ⟨row, hgrow.subset hrow, hk⟩

/-- **When all rows get in.**  Their keys are new and differ from each other. -/
theorem insertAll_eq_append_iff : ∀ {rows table : List α},
    insertAll key table rows = table ++ rows ↔
      (∀ row ∈ rows, ¬ Holds key table (key row)) ∧ (rows.map key).Nodup := by
  intro rows
  induction rows with
  | nil =>
    intro table
    rw [insertAll_nil, List.append_nil]
    exact ⟨fun _ => ⟨fun row h => (List.not_mem_nil h).elim, List.nodup_nil⟩, fun _ => rfl⟩
  | cons row rows ih =>
    intro table
    rw [insertAll_cons]
    by_cases h : Holds key table (key row)
    · -- the row is dropped, so one row is missing in the end
      rw [insertNew_of_held h]
      constructor
      · intro heq
        have hlen : (insertAll key table rows).length ≤ table.length + rows.length :=
          length_insertAll_le rows table
        rw [heq, List.length_append, List.length_cons] at hlen
        omega
      · rintro ⟨hnew, -⟩
        exact absurd h (hnew row List.mem_cons_self)
    · rw [insertNew_of_new h, show table ++ row :: rows = (table ++ [row]) ++ rows by simp, ih]
      rw [List.map_cons, List.nodup_cons]
      constructor
      · rintro ⟨hnew, hnodup⟩
        refine ⟨fun r hr => ?_, fun hmem => ?_, hnodup⟩
        · rcases List.mem_cons.mp hr with rfl | hr
          · exact h
          · exact fun hheld => hnew r hr (holds_append.mpr (Or.inl hheld))
        · obtain ⟨r, hr, hk⟩ := List.mem_map.mp hmem
          exact hnew r hr (holds_append.mpr (Or.inr ⟨row, List.mem_singleton_self row, hk.symm⟩))
      · rintro ⟨hnew, hnot, hnodup⟩
        refine ⟨fun r hr hheld => ?_, hnodup⟩
        rcases holds_append.mp hheld with hheld | ⟨q, hq, hk⟩
        · exact hnew r (List.mem_cons_of_mem row hr) hheld
        · rw [List.mem_singleton.mp hq] at hk
          exact hnot (List.mem_map.mpr ⟨r, hr, hk.symm⟩)

theorem insertNew_eq_append_iff {table : List α} {row : α} :
    insertNew key table row = table ++ [row] ↔ ¬ Holds key table (key row) := by
  constructor
  · intro heq hheld
    rw [insertNew_of_held hheld] at heq
    have hlen := congrArg List.length heq
    rw [List.length_append] at hlen
    exact absurd hlen (by simp)
  · exact insertNew_of_new

/-! ### Sums over a table -/

theorem sum_insertNew (f : α → ℤ) (table : List α) (row : α) :
    ((insertNew key table row).map f).sum =
      (table.map f).sum + if Holds key table (key row) then 0 else f row := by
  by_cases h : Holds key table (key row)
  · rw [insertNew_of_held h, if_pos h, add_zero]
  · rw [insertNew_of_new h, if_neg h, List.map_append, List.sum_append]
    simp

theorem sum_insertAll_of_zero {f : α → ℤ} : ∀ {rows table : List α}, (∀ row ∈ rows, f row = 0) →
    ((insertAll key table rows).map f).sum = (table.map f).sum := by
  intro rows
  induction rows with
  | nil => intro table _; rfl
  | cons row rows ih =>
    intro table h
    rw [insertAll_cons, ih fun r hr => h r (List.mem_cons_of_mem row hr), sum_insertNew,
      h row List.mem_cons_self, ite_self, add_zero]

/-- A key that none of the rows has is stored afterwards exactly if it was before. -/
theorem holds_insertAll_iff {k : κ} : ∀ {rows table : List α}, (∀ row ∈ rows, key row ≠ k) →
    (Holds key (insertAll key table rows) k ↔ Holds key table k) := by
  intro rows table h
  constructor
  · rintro ⟨r, hr, hk⟩
    rcases mem_insertAll hr with hr | hr
    · exact ⟨r, hr, hk⟩
    · exact absurd hk (h r hr)
  · rintro ⟨r, hr, hk⟩
    exact ⟨r, (prefix_insertAll rows table).subset hr, hk⟩


/-! ### Counting rows -/

omit [DecidableEq κ] in
/-- Rows that have the same key, when they are counted, are one row at most. -/
theorem countP_le_one {p : α → Bool} : ∀ {table : List α}, (table.map key).Nodup →
    (∀ a ∈ table, ∀ b ∈ table, p a → p b → key a = key b) → table.countP p ≤ 1 := by
  intro table
  induction table with
  | nil => intro _ _; exact Nat.zero_le 1
  | cons row table ih =>
    intro hkeys hone
    rw [List.map_cons, List.nodup_cons] at hkeys
    rw [List.countP_cons]
    by_cases hrow : p row = true
    · have hnone : table.countP p = 0 := by
        refine List.countP_eq_zero.mpr fun other hother hp => hkeys.1 ?_
        have hsame := hone row List.mem_cons_self other (List.mem_cons_of_mem _ hother) hrow hp
        exact List.mem_map.mpr ⟨other, hother, hsame.symm⟩
      rw [hnone, if_pos hrow]
    · rw [if_neg hrow]
      exact ih hkeys.2 fun a ha b hb =>
        hone a (List.mem_cons_of_mem _ ha) b (List.mem_cons_of_mem _ hb)

/-- The row of a key is replaced. -/
theorem countP_replace {p : α → Bool} {row new : α} : ∀ {table : List α},
    (table.map key).Nodup → row ∈ table →
    (table.map fun r => if key r = key row then new else r).countP p +
        (if p row then 1 else 0) = table.countP p + if p new then 1 else 0 := by
  intro table
  induction table with
  | nil => intro _ hrow; exact absurd hrow List.not_mem_nil
  | cons first table ih =>
    intro hkeys hrow
    rw [List.map_cons, List.nodup_cons] at hkeys
    rw [List.map_cons, List.countP_cons, List.countP_cons]
    rcases List.mem_cons.mp hrow with rfl | hmem
    · have hsame : (table.map fun r => if key r = key row then new else r) = table := by
        refine (List.map_congr_left fun r hr => ?_).trans (List.map_id table)
        exact if_neg fun hk => hkeys.1 (List.mem_map.mpr ⟨r, hr, hk⟩)
      rw [hsame, if_pos rfl]
      omega
    · have hne : key first ≠ key row := fun hk =>
        hkeys.1 (List.mem_map.mpr ⟨row, hmem, hk.symm⟩)
      have hrest := ih hkeys.2 hmem
      rw [if_neg hne]
      omega

end CrownClash.Lib
