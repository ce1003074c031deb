import Mathlib.Algebra.BigOperators.Group.List.Basic
import Mathlib.Data.List.Nodup
import Mathlib.Data.List.Perm.Basic
import Mathlib.Tactic.Abel

/-!
# Insertion-ordered records

A record keyed by `κ` in the sense of a script object: a finite map that
remembers the order in which its keys were first assigned.  Assigning to a key
that is present changes the value in place, assigning to a new key appends it,
and the entries are walked in that order.  A hash map walked along an explicit
list of keys is the same data read in another way, so both kinds of code can be
modelled over one type.

The no-duplicate condition on the keys is a field of the structure, so two
records with the same keys in the same order and the same lookups are equal:
`ext_get?` is the rule most proofs end with.  `foldl_modify_keys` is the other
one: updating the keys one by one, each from its own old value only, is mapping
over the entries at once.
-/

namespace CrownClash.Lib

/-- Assignment on an association list: replace in place, or append. -/
def setEntry {κ α : Type*} [DecidableEq κ] (k : κ) (v : α) : List (κ × α) → List (κ × α)
  | [] => [(k, v)]
  | e :: r => if e.1 = k then (k, v) :: r else e :: setEntry k v r

/-- A finite map that remembers the order in which its keys were assigned. -/
structure Record (κ α : Type*) where
  entries : List (κ × α)
  nodup : (entries.map Prod.fst).Nodup

namespace Record

variable {κ α β : Type*}

@[ext] theorem ext {r s : Record κ α} (h : r.entries = s.entries) : r = s := by
  cases r
  cases s
  simp only [mk.injEq]
  exact h

instance [DecidableEq κ] [DecidableEq α] : DecidableEq (Record κ α) := fun r s =>
  decidable_of_iff (r.entries = s.entries) ⟨ext, fun h => h ▸ rfl⟩

/-- The record with no keys. -/
def empty : Record κ α := ⟨[], List.nodup_nil⟩

def keys (r : Record κ α) : List κ := r.entries.map Prod.fst

def values (r : Record κ α) : List α := r.entries.map Prod.snd

theorem nodup_keys (r : Record κ α) : r.keys.Nodup := r.nodup

section Lookup

variable [DecidableEq κ]

/-- Lookup in an association list. -/
def lookupEntry (k : κ) : List (κ × α) → Option α
  | [] => none
  | e :: r => if e.1 = k then some e.2 else lookupEntry k r

def get? (r : Record κ α) (k : κ) : Option α := lookupEntry k r.entries

def getD (r : Record κ α) (k : κ) (d : α) : α := (r.get? k).getD d

theorem lookupEntry_eq_none {k : κ} : ∀ {l : List (κ × α)},
    lookupEntry k l = none ↔ k ∉ l.map Prod.fst := by
  intro l
  induction l with
  | nil => simp [lookupEntry]
  | cons e r ih =>
    by_cases h : e.1 = k
    · simp [lookupEntry, h]
    · simp [lookupEntry, h, ih, Ne.symm h]

theorem lookupEntry_of_mem {k : κ} {v : α} : ∀ {l : List (κ × α)},
    (l.map Prod.fst).Nodup → (k, v) ∈ l → lookupEntry k l = some v := by
  intro l
  induction l with
  | nil => intro _ h; exact absurd h List.not_mem_nil
  | cons e r ih =>
    intro hn hm
    rw [List.map_cons, List.nodup_cons] at hn
    rcases List.mem_cons.mp hm with h | h
    · subst h
      simp [lookupEntry]
    · have hne : e.1 ≠ k := by
        intro he
        exact hn.1 (List.mem_map.mpr ⟨(k, v), h, he.symm⟩)
      simp [lookupEntry, hne, ih hn.2 h]

theorem mem_of_lookupEntry {k : κ} {v : α} : ∀ {l : List (κ × α)},
    lookupEntry k l = some v → (k, v) ∈ l := by
  intro l
  induction l with
  | nil => intro h; simp [lookupEntry] at h
  | cons e r ih =>
    intro h
    by_cases he : e.1 = k
    · simp only [lookupEntry, he, if_true, Option.some.injEq] at h
      subst h
      subst he
      exact List.mem_cons_self
    · simp only [lookupEntry, he, if_false] at h
      exact List.mem_cons_of_mem _ (ih h)

theorem get?_eq_some_iff {r : Record κ α} {k : κ} {v : α} :
    r.get? k = some v ↔ (k, v) ∈ r.entries :=
  ⟨mem_of_lookupEntry, lookupEntry_of_mem r.nodup⟩

theorem get?_eq_none_iff {r : Record κ α} {k : κ} : r.get? k = none ↔ k ∉ r.keys :=
  lookupEntry_eq_none

theorem exists_get?_of_mem_keys {r : Record κ α} {k : κ} (h : k ∈ r.keys) :
    ∃ v, r.get? k = some v := by
  cases hg : r.get? k with
  | none => exact absurd h (get?_eq_none_iff.mp hg)
  | some v => exact ⟨v, rfl⟩

theorem mem_keys_of_get? {r : Record κ α} {k : κ} {v : α} (h : r.get? k = some v) :
    k ∈ r.keys :=
  List.mem_map.mpr ⟨(k, v), get?_eq_some_iff.mp h, rfl⟩

theorem mem_values {r : Record κ α} {v : α} : v ∈ r.values ↔ ∃ k, r.get? k = some v := by
  constructor
  · intro h
    obtain ⟨e, he, rfl⟩ := List.mem_map.mp h
    exact ⟨e.1, get?_eq_some_iff.mpr he⟩
  · rintro ⟨k, h⟩
    exact List.mem_map.mpr ⟨(k, v), get?_eq_some_iff.mp h, rfl⟩

@[simp] theorem getD_empty (k : κ) (d : α) : (empty : Record κ α).getD k d = d := rfl

/-- Two records with the same keys in the same order and the same lookups are equal. -/
theorem ext_get? {r s : Record κ α} (hk : r.keys = s.keys)
    (hg : ∀ k ∈ r.keys, r.get? k = s.get? k) : r = s := by
  have hmap : ∀ t : Record κ α,
      t.entries.map some = t.keys.map fun k => (t.get? k).map (Prod.mk k) := by
    intro t
    rw [keys, List.map_map]
    refine List.map_congr_left ?_
    rintro ⟨k, v⟩ hm
    simp [get?_eq_some_iff.mpr hm]
  have hsome : r.entries.map some = s.entries.map some := by
    rw [hmap r, hmap s, ← hk]
    exact List.map_congr_left fun k hm => by rw [hg k hm]
  exact ext (List.map_injective_iff.mpr (fun _ _ h => Option.some.inj h) hsome)

end Lookup

section Assign

variable [DecidableEq κ]

theorem map_fst_setEntry {k : κ} {v : α} : ∀ {l : List (κ × α)},
    (setEntry k v l).map Prod.fst
      = if k ∈ l.map Prod.fst then l.map Prod.fst else l.map Prod.fst ++ [k] := by
  intro l
  induction l with
  | nil => simp [setEntry]
  | cons e r ih =>
    by_cases h : e.1 = k
    · simp [setEntry, h]
    · by_cases hk : k ∈ r.map Prod.fst <;> simp_all [setEntry, Ne.symm h]

theorem nodup_setEntry {k : κ} {v : α} {l : List (κ × α)} (h : (l.map Prod.fst).Nodup) :
    ((setEntry k v l).map Prod.fst).Nodup := by
  rw [map_fst_setEntry]
  split
  · exact h
  · next hk =>
    rw [List.nodup_append]
    refine ⟨h, List.nodup_singleton k, ?_⟩
    intro a ha b hb he
    rw [List.mem_singleton] at hb
    exact hk (hb ▸ he ▸ ha)

/-- `r[k] = v`: in place when the key is present, at the end otherwise. -/
def set (r : Record κ α) (k : κ) (v : α) : Record κ α :=
  ⟨setEntry k v r.entries, nodup_setEntry r.nodup⟩

theorem keys_set (r : Record κ α) (k : κ) (v : α) :
    (r.set k v).keys = if k ∈ r.keys then r.keys else r.keys ++ [k] := map_fst_setEntry

theorem keys_set_of_mem {r : Record κ α} {k : κ} (v : α) (h : k ∈ r.keys) :
    (r.set k v).keys = r.keys := by
  rw [keys_set, if_pos h]

theorem setEntry_of_notMem {k : κ} {v : α} : ∀ {l : List (κ × α)},
    k ∉ l.map Prod.fst → setEntry k v l = l ++ [(k, v)] := by
  intro l
  induction l with
  | nil => intro _; rfl
  | cons e l ih =>
    intro h
    rw [List.map_cons, List.mem_cons, not_or] at h
    rw [setEntry, if_neg (Ne.symm h.1), ih h.2, List.cons_append]

theorem entries_set_of_notMem {r : Record κ α} {k : κ} (v : α) (h : k ∉ r.keys) :
    (r.set k v).entries = r.entries ++ [(k, v)] := setEntry_of_notMem h

theorem mem_keys_set {r : Record κ α} {k k' : κ} {v : α} :
    k' ∈ (r.set k v).keys ↔ k' = k ∨ k' ∈ r.keys := by
  rw [keys_set]
  split
  · next h => exact ⟨Or.inr, fun h' => h'.elim (fun e => e ▸ h) id⟩
  · simp [or_comm]

theorem lookupEntry_setEntry {k k' : κ} {v : α} : ∀ {l : List (κ × α)},
    lookupEntry k' (setEntry k v l) = if k' = k then some v else lookupEntry k' l := by
  intro l
  induction l with
  | nil => simp only [setEntry, lookupEntry, eq_comm]
  | cons e r ih =>
    by_cases h : e.1 = k
    · by_cases h' : k' = k
      · simp [setEntry, lookupEntry, h, h']
      · simp [setEntry, lookupEntry, h, h', Ne.symm h']
    · by_cases h' : k' = k
      · subst h'
        simp [setEntry, lookupEntry, h, ih]
      · by_cases h'' : e.1 = k' <;> simp [setEntry, lookupEntry, h, h', h'', ih]

theorem get?_set (r : Record κ α) (k k' : κ) (v : α) :
    (r.set k v).get? k' = if k' = k then some v else r.get? k' := lookupEntry_setEntry

@[simp] theorem get?_set_self (r : Record κ α) (k : κ) (v : α) :
    (r.set k v).get? k = some v := by
  rw [get?_set, if_pos rfl]

theorem get?_set_ne {r : Record κ α} {k k' : κ} {v : α} (h : k' ≠ k) :
    (r.set k v).get? k' = r.get? k' := by
  rw [get?_set, if_neg h]

/-- Writing back what is there changes nothing. -/
theorem set_of_get? {r : Record κ α} {k : κ} {v : α} (h : r.get? k = some v) : r.set k v = r := by
  refine ext_get? (keys_set_of_mem v (mem_keys_of_get? h)) fun k' _ => ?_
  rw [get?_set]
  split
  · next he => rw [he, h]
  · rfl

/-- What holds of every entry and of the value assigned holds of every entry afterwards. -/
theorem forall_set {Q : κ → α → Prop} {r : Record κ α} {k : κ} {v : α}
    (h : ∀ k' u, r.get? k' = some u → Q k' u) (hv : Q k v) :
    ∀ k' u, (r.set k v).get? k' = some u → Q k' u := by
  intro k' u hu
  rw [get?_set] at hu
  split at hu
  · next hk =>
    cases hu
    rw [hk]
    exact hv
  · exact h k' u hu

theorem getD_set (r : Record κ α) (k k' : κ) (v d : α) :
    (r.set k v).getD k' d = if k' = k then v else r.getD k' d := by
  rw [getD, get?_set]
  split <;> rfl

end Assign

section Map

/-- Every value rewritten from its key and itself, the order kept. -/
def map (f : κ → α → β) (r : Record κ α) : Record κ β :=
  ⟨r.entries.map fun e => (e.1, f e.1 e.2), by
    rw [List.map_map]
    exact r.nodup⟩

@[simp] theorem keys_map (f : κ → α → β) (r : Record κ α) : (r.map f).keys = r.keys := by
  simp [keys, map, List.map_map, Function.comp_def]

theorem values_map (f : κ → α → β) (r : Record κ α) :
    (r.map f).values = r.entries.map fun e => f e.1 e.2 := by
  simp [values, map, List.map_map, Function.comp_def]

variable [DecidableEq κ]

@[simp] theorem get?_map (f : κ → α → β) (r : Record κ α) (k : κ) :
    (r.map f).get? k = (r.get? k).map (f k) := by
  have aux : ∀ l : List (κ × α), lookupEntry k (l.map fun e => (e.1, f e.1 e.2))
      = (lookupEntry k l).map (f k) := by
    intro l
    induction l with
    | nil => rfl
    | cons e r ih =>
      by_cases h : e.1 = k
      · simp [lookupEntry, h]
      · simp [lookupEntry, h, ih]
  exact aux r.entries

theorem map_set (f : κ → α → β) (r : Record κ α) (k : κ) (v : α) :
    (r.set k v).map f = (r.map f).set k (f k v) := by
  have aux : ∀ l : List (κ × α), (setEntry k v l).map (fun e => (e.1, f e.1 e.2))
      = setEntry k (f k v) (l.map fun e => (e.1, f e.1 e.2)) := by
    intro l
    induction l with
    | nil => rfl
    | cons e l ih =>
      rw [setEntry, List.map_cons, setEntry]
      split
      · rfl
      · rw [List.map_cons, ih]
  exact ext (aux r.entries)

/-- A sum over the values after an assignment to a key that was there. -/
theorem sum_values_set {M : Type*} [AddCommGroup M] (w : α → M) {r : Record κ α} {k : κ} {u : α}
    (v : α) (h : r.get? k = some u) :
    ((r.set k v).values.map w).sum = (r.values.map w).sum - w u + w v := by
  have aux : ∀ l : List (κ × α), lookupEntry k l = some u →
      (((setEntry k v l).map Prod.snd).map w).sum = ((l.map Prod.snd).map w).sum - w u + w v := by
    intro l
    induction l with
    | nil => intro hl; cases hl
    | cons e l ih =>
      intro hl
      rw [lookupEntry] at hl
      rw [setEntry]
      split at hl
      · next he =>
        cases hl
        rw [if_pos he]
        simp only [List.map_cons, List.sum_cons]
        abel
      · next he =>
        rw [if_neg he]
        simp only [List.map_cons, List.sum_cons, ih hl]
        abel
  exact aux r.entries h

/-- The values are the lookups along the keys. -/
theorem values_eq_filterMap (r : Record κ α) : r.values = r.keys.filterMap r.get? := by
  have h : ∀ e ∈ r.entries, (r.get? ∘ Prod.fst) e = some e.2 :=
    fun e he => get?_eq_some_iff.mpr he
  rw [values, keys, List.filterMap_map, List.filterMap_congr h, List.filterMap_eq_map']

end Map

section Fold

variable [DecidableEq κ]

/-- Rewrite one key, when it is there. -/
def modify (f : κ → α → α) (r : Record κ α) (k : κ) : Record κ α :=
  match r.get? k with
  | none => r
  | some v => r.set k (f k v)

theorem keys_modify (f : κ → α → α) (r : Record κ α) (k : κ) : (r.modify f k).keys = r.keys := by
  unfold modify
  split
  · rfl
  · next v h => exact keys_set_of_mem _ (mem_keys_of_get? h)

theorem get?_modify (f : κ → α → α) (r : Record κ α) (k k' : κ) :
    (r.modify f k).get? k' = if k' = k then (r.get? k').map (f k') else r.get? k' := by
  unfold modify
  split
  · next h =>
    split
    · next e => rw [e, h, Option.map_none]
    · rfl
  · next v h =>
    rw [get?_set]
    split
    · next e => rw [e, h, Option.map_some]
    · rfl

theorem foldl_modify (f : κ → α → α) : ∀ (ks : List κ) (r : Record κ α), ks.Nodup →
    (ks.foldl (modify f) r).keys = r.keys ∧
      ∀ k, (ks.foldl (modify f) r).get? k
        = if k ∈ ks then (r.get? k).map (f k) else r.get? k := by
  intro ks
  induction ks with
  | nil => intro r _; exact ⟨rfl, fun k => by simp⟩
  | cons a ks ih =>
    intro r hn
    obtain ⟨ha, hn⟩ := List.nodup_cons.mp hn
    obtain ⟨hk, hg⟩ := ih (r.modify f a) hn
    refine ⟨hk.trans (keys_modify f r a), fun k => ?_⟩
    rw [List.foldl_cons, hg, get?_modify]
    by_cases hka : k = a
    · subst hka
      simp [ha]
    · simp [hka]

/-- **One key at a time is all at once.**  Rewriting every key of a record in
turn, each from its own value, is mapping over the entries. -/
theorem foldl_modify_keys (f : κ → α → α) (r : Record κ α) :
    r.keys.foldl (modify f) r = r.map f := by
  obtain ⟨hk, hg⟩ := foldl_modify f r.keys r r.nodup_keys
  refine ext_get? (hk.trans (keys_map f r).symm) fun k hm => ?_
  rw [hk] at hm
  rw [hg, if_pos hm, get?_map]

/-- Reading after a run of assignments whose values depend on the key alone. -/
theorem getD_foldl_set (v : κ → α) (k : κ) (d : α) : ∀ (ks : List κ) (s : Record κ α),
    (ks.foldl (fun s k => s.set k (v k)) s).getD k d = if k ∈ ks then v k else s.getD k d := by
  intro ks
  induction ks with
  | nil => intro s; rfl
  | cons a ks ih =>
    intro s
    rw [List.foldl_cons, ih, getD_set]
    by_cases ha : k = a
    · subst ha
      by_cases hk : k ∈ ks <;> simp [hk]
    · by_cases hk : k ∈ ks <;> simp [hk, ha]

/-- Writing the keys of a record into another one, each once, in their order. -/
theorem foldl_set (f : κ → α → β) : ∀ (l : List (κ × α)) (s : Record κ β),
    (l.map Prod.fst).Nodup → (∀ k ∈ l.map Prod.fst, k ∉ s.keys) →
      (l.foldl (fun s e => s.set e.1 (f e.1 e.2)) s).entries
        = s.entries ++ l.map fun e => (e.1, f e.1 e.2) := by
  intro l
  induction l with
  | nil => intro s _ _; simp
  | cons e l ih =>
    intro s hn hk
    obtain ⟨he, hn⟩ := List.nodup_cons.mp hn
    have hes : e.1 ∉ s.keys := hk e.1 List.mem_cons_self
    rw [List.foldl_cons, ih _ hn, entries_set_of_notMem _ hes, List.append_assoc, List.map_cons]
    · rfl
    · intro k hm hks
      rcases mem_keys_set.mp hks with h | h
      · exact he (h ▸ hm)
      · exact hk k (List.mem_cons_of_mem _ hm) h

/-- **Copying is mapping.**  A fresh record filled along the entries of another
one, each value computed from its entry, is the mapped record. -/
theorem foldl_set_empty (f : κ → α → β) (r : Record κ α) :
    r.entries.foldl (fun s e => s.set e.1 (f e.1 e.2)) (empty : Record κ β) = r.map f :=
  ext ((foldl_set f r.entries empty r.nodup fun _ _ h => absurd h List.not_mem_nil).trans
    (List.nil_append _))

end Fold

end Record

end CrownClash.Lib
