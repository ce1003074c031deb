import Mathlib.Algebra.Order.Monoid.Defs
import Mathlib.Data.List.Chain
import Mathlib.Data.List.Basic
import Mathlib.Data.List.Nodup
import Mathlib.Logic.Function.Basic

/-!
# Cheapest paths

The search for cheapest paths from a source, one settled node after the other.  A
state of the search is the list of entries that wait and the nodes that are settled,
each with its path and the cost of that path.

`SearchOk` is what the search keeps, whatever the order in which it lists its
entries: `SearchOk.drop` and `SearchOk.settle` are its two kinds of rounds, and
`SearchOk.settled_iff` and `SearchOk.least` say what is known once nothing waits.
Costs are never negative; nothing is asked of ties.
-/

namespace CrownClash.Lib

variable {V M : Type*}

/-- A path from `source` to `v` along `adj`. -/
structure PathTo (adj : V → V → Prop) (source v : V) (p : List V) : Prop where
  head : p.head? = some source
  last : p.getLast? = some v
  chain : p.IsChain adj

/-- What a path costs. -/
def pathCost [Zero M] [Add M] (cost : V → V → M) : List V → M
  | a :: b :: p => cost a b + pathCost cost (b :: p)
  | _ => 0

section Paths

variable {adj : V → V → Prop} {source u v : V} {p q : List V}

theorem PathTo.single (adj : V → V → Prop) (v : V) : PathTo adj v v [v] :=
  ⟨rfl, rfl, List.isChain_singleton v⟩

theorem PathTo.ne_nil (h : PathTo adj source v p) : p ≠ [] := by
  intro hp
  have hl := h.last
  rw [hp] at hl
  cases hl

theorem PathTo.snoc (h : PathTo adj source u p) (huv : adj u v) :
    PathTo adj source v (p ++ [v]) where
  head := by
    have hhead := h.head
    cases p with
    | nil => cases hhead
    | cons a p => exact hhead
  last := List.getLast?_concat
  chain := by
    rw [List.isChain_append]
    refine ⟨h.chain, List.isChain_singleton v, fun a ha b hb => ?_⟩
    rw [h.last] at ha
    cases ha
    cases hb
    exact huv

theorem isChain_and_iff {P : V → Prop} : ∀ {p : List V},
    p.IsChain (fun a b => adj a b ∧ P b) ↔ p.IsChain adj ∧ ∀ a ∈ p.tail, P a := by
  intro p
  induction p with
  | nil => simp
  | cons a p ih =>
    cases p with
    | nil => simp
    | cons b p =>
      rw [List.isChain_cons_cons, List.isChain_cons_cons, ih]
      simp only [List.tail_cons, List.forall_mem_cons]
      constructor
      · rintro ⟨⟨hab, hb⟩, hchain, hrest⟩
        exact ⟨⟨hab, hchain⟩, hb, hrest⟩
      · rintro ⟨⟨hab, hchain⟩, hb, hrest⟩
        exact ⟨⟨hab, hb⟩, hchain, hrest⟩

/-- A path is its source alone, or it arrives by a last edge. -/
theorem PathTo.cases_last (h : PathTo adj source v p) :
    (v = source ∧ p = [source]) ∨ ∃ u q, PathTo adj source u q ∧ adj u v ∧ p = q ++ [v] := by
  obtain ⟨q, rfl⟩ := List.getLast?_eq_some_iff.mp h.last
  have hchain := List.isChain_append.mp h.chain
  cases hq : q.getLast? with
  | none =>
    rw [List.getLast?_eq_none_iff] at hq
    subst hq
    have hhead : some v = some source := h.head
    cases hhead
    exact Or.inl ⟨rfl, rfl⟩
  | some u =>
    refine Or.inr ⟨u, q, ⟨?_, hq, hchain.1⟩, hchain.2.2 u hq v rfl, rfl⟩
    have hhead := h.head
    cases q with
    | nil => cases hq
    | cons a q => exact hhead

end Paths

section Costs

variable [AddMonoid M] (cost : V → V → M)

theorem pathCost_snoc {u v : V} : ∀ {p : List V}, p.getLast? = some u →
    pathCost cost (p ++ [v]) = pathCost cost p + cost u v := by
  intro p
  induction p with
  | nil => intro h; cases h
  | cons a p ih =>
    intro h
    cases p with
    | nil =>
      cases h
      show cost a v + 0 = 0 + cost a v
      rw [add_zero, zero_add]
    | cons b p =>
      have hrest : pathCost cost (b :: p ++ [v]) = pathCost cost (b :: p) + cost u v := by
        apply ih
        rw [List.getLast?_cons_cons] at h
        exact h
      show cost a b + pathCost cost (b :: p ++ [v]) = cost a b + pathCost cost (b :: p) + cost u v
      rw [hrest, add_assoc]

end Costs

/-- An entry of the search: a node, and a path to it with its cost. -/
structure SearchEntry (V M : Type*) where
  id : V
  cost : M
  path : List V

/-! ### What the search keeps -/

section Search

variable [AddCommMonoid M] [PartialOrder M]

/-- **The invariant of the search.**  Every path is a path and costs what it says;
a settled path is one through settled nodes and is cheapest; and what lies one edge
behind a settled node is settled too, or waits at no more than the way through
that node costs. -/
structure SearchOk (adj : V → V → Prop) (cost : V → V → M) (source : V)
    (waiting : List (SearchEntry V M)) (settled : V → Option (M × List V)) : Prop where
  path : ∀ e ∈ waiting, PathTo adj source e.id e.path ∧ e.cost = pathCost cost e.path
  walked : ∀ e ∈ waiting, ∃ q, e.path = q ++ [e.id] ∧ q.Nodup ∧ ∀ u ∈ q, (settled u).isSome = true
  settledPath : ∀ v c p, settled v = some (c, p) →
    PathTo adj source v p ∧ c = pathCost cost p ∧ p.Nodup ∧ ∀ u ∈ p, (settled u).isSome = true
  least : ∀ v c p, settled v = some (c, p) → ∀ q, PathTo adj source v q → c ≤ pathCost cost q
  cover : ∀ u c p, settled u = some (c, p) → ∀ v, adj u v → (settled v).isSome = true ∨
    ∃ e ∈ waiting, e.id = v ∧ e.cost ≤ c + cost u v
  start : (settled source).isSome = true ∨ ∃ e ∈ waiting, e.id = source ∧ e.cost ≤ 0

variable {adj : V → V → Prop} {cost : V → V → M} {source : V}
variable {waiting rest : List (SearchEntry V M)} {settled : V → Option (M × List V)}

theorem searchOk_start (adj : V → V → Prop) (cost : V → V → M) (source : V) :
    SearchOk adj cost source [⟨source, 0, [source]⟩] fun _ => none where
  path := by
    intro e he
    rw [List.mem_singleton.mp he]
    exact ⟨.single adj source, rfl⟩
  walked := by
    intro e he
    rw [List.mem_singleton.mp he]
    exact ⟨[], rfl, List.nodup_nil, fun u hu => absurd hu List.not_mem_nil⟩
  settledPath := fun _ _ _ h => nomatch h
  least := fun _ _ _ h => nomatch h
  cover := fun _ _ _ h => nomatch h
  start := Or.inr ⟨_, List.mem_singleton_self _, rfl, le_rfl⟩

theorem SearchOk.perm (h : SearchOk adj cost source waiting settled) (hp : rest.Perm waiting) :
    SearchOk adj cost source rest settled where
  path := fun e he => h.path e (hp.mem_iff.mp he)
  walked := fun e he => h.walked e (hp.mem_iff.mp he)
  settledPath := h.settledPath
  least := h.least
  cover := fun u c p hu v hv => (h.cover u c p hu v hv).imp_right fun ⟨e, he, hrest⟩ =>
    ⟨e, hp.mem_iff.mpr he, hrest⟩
  start := h.start.imp_right fun ⟨e, he, hrest⟩ => ⟨e, hp.mem_iff.mpr he, hrest⟩

/-- An entry of a node that is settled already is dropped. -/
theorem SearchOk.drop {e : SearchEntry V M}
    (h : SearchOk adj cost source (e :: rest) settled) (he : (settled e.id).isSome = true) :
    SearchOk adj cost source rest settled where
  path := fun d hd => h.path d (List.mem_cons_of_mem e hd)
  walked := fun d hd => h.walked d (List.mem_cons_of_mem e hd)
  settledPath := h.settledPath
  least := h.least
  cover := by
    intro u c p hu v hv
    rcases h.cover u c p hu v hv with hs | ⟨d, hd, rfl, hc⟩
    · exact Or.inl hs
    · rcases List.mem_cons.mp hd with rfl | hd
      · exact Or.inl he
      · exact Or.inr ⟨d, hd, rfl, hc⟩
  start := by
    rcases h.start with hs | ⟨d, hd, hid, hc⟩
    · exact Or.inl hs
    · rcases List.mem_cons.mp hd with rfl | hd
      · exact Or.inl (hid ▸ he)
      · exact Or.inr ⟨d, hd, hid, hc⟩

/-- A path to a node that is not settled passes an entry that waits and is no dearer. -/
theorem SearchOk.waits [IsOrderedAddMonoid M] (h : SearchOk adj cost source waiting settled)
    (hcost : ∀ u v, adj u v → 0 ≤ cost u v) : ∀ (q : List V) {v : V}, PathTo adj source v q →
      settled v = none → ∃ e ∈ waiting, e.cost ≤ pathCost cost q := by
  intro q
  -- along the path, from its far end
  induction hn : q.length using Nat.strongRecOn generalizing q with
  | ind n ih =>
    intro v hq hv
    rcases hq.cases_last with ⟨rfl, rfl⟩ | ⟨u, p, hp, huv, rfl⟩
    · rcases h.start with hs | ⟨e, he, -, hc⟩
      · rw [hv] at hs
        cases hs
      · exact ⟨e, he, hc⟩
    · rw [pathCost_snoc cost hp.last]
      cases hu : settled u with
      | none =>
        obtain ⟨e, he, hc⟩ := ih p.length
          (by rw [← hn, List.length_append, List.length_singleton]; omega) p rfl hp hu
        exact ⟨e, he, hc.trans (le_add_of_nonneg_right (hcost u v huv))⟩
      | some cp =>
        obtain ⟨c, r⟩ := cp
        rcases h.cover u c r hu v huv with hs | ⟨e, he, -, hc⟩
        · rw [hv] at hs
          cases hs
        · exact ⟨e, he, hc.trans (add_le_add_left (h.least u c r hu p hp) _)⟩

/-- No path to the node of the cheapest entry is cheaper. -/
theorem SearchOk.cheapest [IsOrderedAddMonoid M] {e : SearchEntry V M}
    (h : SearchOk adj cost source (e :: rest) settled) (hcost : ∀ u v, adj u v → 0 ≤ cost u v)
    (hmin : ∀ d ∈ rest, e.cost ≤ d.cost) (hnew : settled e.id = none) {p : List V}
    (hp : PathTo adj source e.id p) : e.cost ≤ pathCost cost p := by
  obtain ⟨d, hd, hc⟩ := h.waits hcost p hp hnew
  rcases List.mem_cons.mp hd with rfl | hd
  · exact hc
  · exact (hmin d hd).trans hc

section Settle

variable [DecidableEq V] {e : SearchEntry V M}

omit [AddCommMonoid M] [PartialOrder M] in
theorem isSome_settle {u : V} (hu : (settled u).isSome = true) :
    (Function.update settled e.id (some (e.cost, e.path)) u).isSome = true := by
  by_cases hue : u = e.id
  · rw [hue, Function.update_self]
    rfl
  · rw [Function.update_of_ne hue]
    exact hu

omit [AddCommMonoid M] [PartialOrder M] in
theorem settle_eq_some {v : V} {c : M} {p : List V}
    (hv : Function.update settled e.id (some (e.cost, e.path)) v = some (c, p)) :
    (v = e.id ∧ c = e.cost ∧ p = e.path) ∨ settled v = some (c, p) := by
  by_cases hve : v = e.id
  · rw [hve, Function.update_self] at hv
    cases hv
    exact Or.inl ⟨hve, rfl, rfl⟩
  · rw [Function.update_of_ne hve] at hv
    exact Or.inr hv

/-- The path of an entry goes through settled nodes, once its own is settled too. -/
theorem SearchOk.through (h : SearchOk adj cost source (e :: rest) settled)
    (hnew : settled e.id = none) :
    e.path.Nodup ∧ ∀ u ∈ e.path,
      (Function.update settled e.id (some (e.cost, e.path)) u).isSome = true := by
  obtain ⟨q, hq, hnodup, hwalked⟩ := h.walked e List.mem_cons_self
  constructor
  · rw [hq, List.nodup_append]
    refine ⟨hnodup, List.nodup_singleton _, fun u hu w hw huw => ?_⟩
    have hsettled := hwalked u hu
    rw [huw, List.mem_singleton.mp hw, hnew] at hsettled
    cases hsettled
  · intro u hu
    rw [hq, List.mem_append, List.mem_singleton] at hu
    rcases hu with hu | rfl
    · exact isSome_settle (hwalked u hu)
    · rw [Function.update_self]
      rfl

/-- **A round that settles a node.**  Of the entries that wait none is cheaper, and
an entry is pushed for every edge to a node that is not settled. -/
theorem SearchOk.settle [IsOrderedAddMonoid M] {pushes : List (SearchEntry V M)}
    (h : SearchOk adj cost source (e :: rest) settled)
    (hcost : ∀ u v, adj u v → 0 ≤ cost u v) (hmin : ∀ d ∈ rest, e.cost ≤ d.cost)
    (hnew : settled e.id = none)
    (hpush : ∀ d ∈ pushes, adj e.id d.id ∧ d.cost = e.cost + cost e.id d.id ∧
      d.path = e.path ++ [d.id])
    (hall : ∀ v, adj e.id v → v ≠ e.id → settled v = none → ∃ d ∈ pushes, d.id = v) :
    SearchOk adj cost source (rest ++ pushes)
      (Function.update settled e.id (some (e.cost, e.path))) := by
  obtain ⟨hpath, hcosts⟩ := h.path e List.mem_cons_self
  obtain ⟨hnodup, hthrough⟩ := h.through hnew
  constructor
  case path =>
    intro d hd
    rcases List.mem_append.mp hd with hd | hd
    · exact h.path d (List.mem_cons_of_mem e hd)
    · obtain ⟨hadj, hc, hp⟩ := hpush d hd
      rw [hp, hc, pathCost_snoc cost hpath.last, ← hcosts]
      exact ⟨hpath.snoc hadj, rfl⟩
  case walked =>
    intro d hd
    rcases List.mem_append.mp hd with hd | hd
    · obtain ⟨r, hr, hrn, hrw⟩ := h.walked d (List.mem_cons_of_mem e hd)
      exact ⟨r, hr, hrn, fun u hu => isSome_settle (hrw u hu)⟩
    · exact ⟨e.path, (hpush d hd).2.2, hnodup, hthrough⟩
  case settledPath =>
    intro v c p hv
    rcases settle_eq_some hv with ⟨rfl, rfl, rfl⟩ | hold
    · exact ⟨hpath, hcosts, hnodup, hthrough⟩
    · obtain ⟨h1, h2, h3, h4⟩ := h.settledPath v c p hold
      exact ⟨h1, h2, h3, fun u hu => isSome_settle (h4 u hu)⟩
  case least =>
    intro v c p hv
    rcases settle_eq_some hv with ⟨rfl, rfl, rfl⟩ | hold
    · exact fun _ => h.cheapest hcost hmin hnew
    · exact h.least v c p hold
  case cover =>
    intro u c p hu v huv
    rcases settle_eq_some hu with ⟨rfl, rfl, rfl⟩ | hold
    · by_cases hv : v = e.id
      · rw [hv, Function.update_self]
        exact Or.inl rfl
      cases hsv : settled v with
      | some cp => exact Or.inl (isSome_settle (by rw [hsv]; rfl))
      | none =>
        obtain ⟨d, hd, rfl⟩ := hall v huv hv hsv
        exact Or.inr ⟨d, List.mem_append_right _ hd, rfl, (hpush d hd).2.1.le⟩
    · rcases h.cover u c p hold v huv with hs | ⟨d, hd, rfl, hc⟩
      · exact Or.inl (isSome_settle hs)
      · rcases List.mem_cons.mp hd with rfl | hd
        · rw [Function.update_self]
          exact Or.inl rfl
        · exact Or.inr ⟨d, List.mem_append_left _ hd, rfl, hc⟩
  case start =>
    rcases h.start with hs | ⟨d, hd, hid, hc⟩
    · exact Or.inl (isSome_settle hs)
    · rcases List.mem_cons.mp hd with rfl | hd
      · rw [← hid, Function.update_self]
        exact Or.inl rfl
      · exact Or.inr ⟨d, List.mem_append_left _ hd, hid, hc⟩

end Settle

/-- **Once nothing waits, what is settled is what can be reached.** -/
theorem SearchOk.settled_iff (h : SearchOk adj cost source [] settled) (v : V) :
    (settled v).isSome = true ↔ ∃ p, PathTo adj source v p := by
  constructor
  · intro hv
    obtain ⟨⟨c, p⟩, hcp⟩ := Option.isSome_iff_exists.mp hv
    exact ⟨p, (h.settledPath v c p hcp).1⟩
  · rintro ⟨p, hp⟩
    -- along the path, from its far end
    induction hn : p.length using Nat.strongRecOn generalizing p v with
    | ind n ih =>
      rcases hp.cases_last with ⟨rfl, rfl⟩ | ⟨u, q, hq, huv, rfl⟩
      · rcases h.start with hs | ⟨e, he, -⟩
        · exact hs
        · exact absurd he List.not_mem_nil
      · have hu := ih q.length
          (by rw [← hn, List.length_append, List.length_singleton]; omega) u q hq rfl
        obtain ⟨⟨c, r⟩, hcr⟩ := Option.isSome_iff_exists.mp hu
        rcases h.cover u c r hcr v huv with hs | ⟨e, he, -⟩
        · exact hs
        · exact absurd he List.not_mem_nil

end Search

end CrownClash.Lib
