import CrownClash.Go.Invariant

/-!
# Server: attacks that come one after the other

The defenders of a tower are scaled up for the fight and what is left of them is scaled
down again, rounded up each time.  Rounding works for the defenders: two attacks leave
as much to the attacker as one attack with the units of both, or less
(`attack_attack`), and so do any number of them (`attacks_sum`).
-/

namespace CrownClash.Go

open Lib

/-- The factor by which defenders count in the fight for a tower. -/
def defenseFactor (target : Territory) (bonus : ℚ) : ℚ :=
  territoryDefenseMultiplier target.type * bonus

theorem defenseFactor_pos (target : Territory) {bonus : ℚ} (hb : 0 < bonus) :
    0 < defenseFactor target bonus := mul_pos (territoryDefenseMultiplier_pos target.type) hb

section Attack

variable {target : Territory} {incoming : ℤ} {attacker : Team} {bonus : ℚ}

/-! ### One arrival -/

theorem afterCombat_own (hi : 0 < incoming) (ho : target.owner = attacker) :
    afterCombat target incoming attacker bonus
      = { target with units := target.units + incoming } := by
  unfold afterCombat resolveArrivalWithBonus
  rw [if_neg (not_le.mpr hi), if_pos ho.symm]

theorem afterCombat_captures (hi : 0 < incoming) (ho : target.owner ≠ attacker)
    (h : scaleUp (defenseFactor target bonus) target.units < incoming) :
    afterCombat target incoming attacker bonus
      = { target with
          owner := attacker
          units := incoming - scaleUp (defenseFactor target bonus) target.units } := by
  have hdefence : incoming > territoryDefenseStrengthWithBonus target bonus := h
  unfold afterCombat resolveArrivalWithBonus
  rw [if_neg (not_le.mpr hi), if_neg (Ne.symm ho)]
  dsimp only
  rw [if_pos hdefence]
  rfl

theorem afterCombat_repelled (hi : 0 < incoming) (ho : target.owner ≠ attacker)
    (h : ¬ scaleUp (defenseFactor target bonus) target.units < incoming) :
    afterCombat target incoming attacker bonus
      = { target with
          units := scaleDown (defenseFactor target bonus)
            (scaleUp (defenseFactor target bonus) target.units - incoming) } := by
  have hdefence : ¬ incoming > territoryDefenseStrengthWithBonus target bonus := h
  unfold afterCombat resolveArrivalWithBonus
  rw [if_neg (not_le.mpr hi), if_neg (Ne.symm ho)]
  dsimp only
  rw [if_neg hdefence]
  rfl

theorem afterCombat_none (hi : incoming ≤ 0) :
    afterCombat target incoming attacker bonus = target := by
  unfold afterCombat resolveArrivalWithBonus
  rw [if_pos hi]

/-- An attack captures exactly if it is larger than the defence. -/
theorem afterCombat_owner (hi : 0 < incoming) (ho : target.owner ≠ attacker) :
    (afterCombat target incoming attacker bonus).owner = attacker ↔
      scaleUp (defenseFactor target bonus) target.units < incoming := by
  by_cases h : scaleUp (defenseFactor target bonus) target.units < incoming
  · rw [afterCombat_captures hi ho h]
    exact ⟨fun _ => h, fun _ => rfl⟩
  · rw [afterCombat_repelled hi ho h]
    exact ⟨fun he => absurd he ho, fun he => absurd he h⟩

/-- A repelled attack does not increase the defenders. -/
theorem afterCombat_units_le (hb : 0 < bonus) (hi : 0 < incoming) (ho : target.owner ≠ attacker)
    (h : (afterCombat target incoming attacker bonus).owner ≠ attacker) :
    (afterCombat target incoming attacker bonus).units ≤ target.units := by
  have hrepelled := mt (afterCombat_owner hi ho).mpr h
  rw [afterCombat_repelled hi ho hrepelled]
  exact scaleDown_scaleUp_sub_le (defenseFactor_pos target hb) hi

end Attack

/-! ### Comparing attacks -/

/-- **What the attacker prefers**: to have the tower, then to have more units there, and
where it has not got it, that fewer defenders are left. -/
def AtLeast (attacker : Team) (less more : Territory) : Prop :=
  (less.owner = attacker → more.owner = attacker ∧ less.units ≤ more.units) ∧
    (less.owner ≠ attacker → more.owner = attacker ∨ more.owner = less.owner ∧
      more.units ≤ less.units)

theorem AtLeast.refl (attacker : Team) (t : Territory) : AtLeast attacker t t :=
  ⟨fun h => ⟨h, le_rfl⟩, fun _ => Or.inr ⟨rfl, le_rfl⟩⟩

theorem AtLeast.trans {attacker : Team} {a b c : Territory} (h : AtLeast attacker a b)
    (g : AtLeast attacker b c) : AtLeast attacker a c := by
  constructor
  · intro ha
    obtain ⟨hb, hab⟩ := h.1 ha
    obtain ⟨hc, hbc⟩ := g.1 hb
    exact ⟨hc, hab.trans hbc⟩
  · intro ha
    rcases h.2 ha with hb | ⟨hb, hab⟩
    · exact Or.inl (g.1 hb).1
    · rcases g.2 (hb ▸ ha) with hc | ⟨hc, hbc⟩
      · exact Or.inl hc
      · exact Or.inr ⟨hc.trans hb, hbc.trans hab⟩

section Attacks

variable {target : Territory} {attacker : Team} {bonus : ℚ}

/-- A larger attack is at least as good. -/
theorem attack_mono (hb : 0 < bonus) (ho : target.owner ≠ attacker) {a c : ℤ} (ha : 0 < a)
    (hac : a ≤ c) :
    AtLeast attacker (afterCombat target a attacker bonus)
      (afterCombat target c attacker bonus) := by
  have hc : 0 < c := ha.trans_le hac
  by_cases h : scaleUp (defenseFactor target bonus) target.units < a
  · rw [afterCombat_captures ha ho h, afterCombat_captures hc ho (h.trans_le hac)]
    refine ⟨fun _ => ⟨rfl, ?_⟩, fun hn => absurd rfl hn⟩
    show a - _ ≤ c - _
    omega
  · rw [afterCombat_repelled ha ho h]
    refine ⟨fun he => absurd he ho, fun _ => ?_⟩
    by_cases h' : scaleUp (defenseFactor target bonus) target.units < c
    · rw [afterCombat_captures hc ho h']
      exact Or.inl rfl
    · rw [afterCombat_repelled hc ho h']
      refine Or.inr ⟨rfl, scaleDown_mono (defenseFactor_pos target hb) ?_⟩
      omega

/-- One more unit is at least as good. -/
theorem attack_succ (hb : 0 < bonus) (ho : target.owner ≠ attacker) {a : ℤ} (ha : 0 ≤ a) :
    AtLeast attacker (afterCombat target a attacker bonus)
      (afterCombat target (a + 1) attacker bonus) := by
  rcases ha.eq_or_lt with rfl | hpos
  · rw [afterCombat_none le_rfl, zero_add]
    refine ⟨fun h => absurd h ho, fun _ => ?_⟩
    by_cases h : (afterCombat target 1 attacker bonus).owner = attacker
    · exact Or.inl h
    · refine Or.inr ⟨?_, afterCombat_units_le hb one_pos ho h⟩
      rw [afterCombat_repelled one_pos ho (mt (afterCombat_owner one_pos ho).mpr h)]
  · exact attack_mono hb ho hpos (by omega)

/-- **Two attacks are no better than one** with the units of both. -/
theorem attack_attack (hb : 0 < bonus) (ho : target.owner ≠ attacker) {a c : ℤ} (ha : 0 < a)
    (hc : 0 < c) :
    AtLeast attacker (afterCombat (afterCombat target a attacker bonus) c attacker bonus)
      (afterCombat target (a + c) attacker bonus) := by
  have hk := defenseFactor_pos target hb
  by_cases h : scaleUp (defenseFactor target bonus) target.units < a
  · -- the second army finds the tower taken and joins the first
    rw [afterCombat_captures ha ho h, afterCombat_own hc rfl,
      afterCombat_captures (by omega) ho (by omega)]
    refine ⟨fun _ => ⟨rfl, ?_⟩, fun hn => absurd rfl hn⟩
    show a - _ + c ≤ a + c - _
    omega
  rw [afterCombat_repelled ha ho h]
  -- scaled up again, the defenders that are left are no fewer than before
  have hleft := le_scaleUp_scaleDown hk
    (scaleUp (defenseFactor target bonus) target.units - a)
  generalize hu : scaleDown (defenseFactor target bonus)
    (scaleUp (defenseFactor target bonus) target.units - a) = left at hleft ⊢
  have ho' : ({ target with units := left } : Territory).owner ≠ attacker := ho
  have hfactor : defenseFactor { target with units := left } bonus = defenseFactor target bonus :=
    rfl
  by_cases h' : scaleUp (defenseFactor target bonus) left < c
  · rw [afterCombat_captures hc ho' (by rw [hfactor]; exact h'),
      afterCombat_captures (by omega) ho (by omega)]
    refine ⟨fun _ => ⟨rfl, ?_⟩, fun hn => absurd rfl hn⟩
    show c - scaleUp (defenseFactor target bonus) left ≤ a + c - _
    omega
  · rw [afterCombat_repelled hc ho' (by rw [hfactor]; exact h')]
    refine ⟨fun he => absurd he ho, fun _ => ?_⟩
    by_cases hboth : scaleUp (defenseFactor target bonus) target.units < a + c
    · rw [afterCombat_captures (by omega) ho hboth]
      exact Or.inl rfl
    · rw [afterCombat_repelled (by omega) ho hboth]
      refine Or.inr ⟨rfl, ?_⟩
      show scaleDown _ _ ≤ scaleDown _ (scaleUp (defenseFactor target bonus) left - c)
      refine scaleDown_mono hk ?_
      omega

/-- Armies of one side that arrive one after the other. -/
def attacks (attacker : Team) (bonus : ℚ) (target : Territory) (arrivals : List ℤ) : Territory :=
  arrivals.foldl (fun t incoming => afterCombat t incoming attacker bonus) target

theorem attacks_own (ho : target.owner = attacker) : ∀ {arrivals : List ℤ},
    (∀ a ∈ arrivals, 0 < a) → attacks attacker bonus target arrivals
      = { target with units := target.units + arrivals.sum } := by
  intro arrivals
  induction arrivals generalizing target with
  | nil =>
    intro _
    show target = { target with units := target.units + 0 }
    rw [add_zero]
  | cons a rest ih =>
    intro hpos
    have ha := hpos a List.mem_cons_self
    have hstep : attacks attacker bonus target (a :: rest)
        = attacks attacker bonus (afterCombat target a attacker bonus) rest := rfl
    have ho' : ({ target with units := target.units + a } : Territory).owner = attacker := ho
    rw [hstep, afterCombat_own ha ho, ih ho' fun x hx => hpos x (List.mem_cons_of_mem a hx),
      List.sum_cons, add_assoc]

/-- **Splitting an attack never helps.** -/
theorem attacks_sum (hb : 0 < bonus) : ∀ (arrivals : List ℤ) {target : Territory},
    target.owner ≠ attacker → (∀ a ∈ arrivals, 0 < a) →
      AtLeast attacker (attacks attacker bonus target arrivals)
        (afterCombat target arrivals.sum attacker bonus) := by
  intro arrivals
  induction arrivals with
  | nil =>
    intro target _ _
    rw [List.sum_nil, afterCombat_none le_rfl]
    exact AtLeast.refl attacker target
  | cons a rest ih =>
    intro target ho hpos
    have ha := hpos a List.mem_cons_self
    have hrest : ∀ x ∈ rest, 0 < x := fun x hx => hpos x (List.mem_cons_of_mem a hx)
    have hstep : attacks attacker bonus target (a :: rest)
        = attacks attacker bonus (afterCombat target a attacker bonus) rest := rfl
    rw [hstep, List.sum_cons]
    cases hr : rest with
    | nil =>
      rw [List.sum_nil, add_zero]
      exact AtLeast.refl attacker _
    | cons x rest' =>
      rw [← hr]
      have hsum : 0 < rest.sum := by
        refine List.sum_pos rest hrest ?_
        rw [hr]
        exact List.cons_ne_nil x rest'
      have hboth := attack_attack hb ho ha hsum
      by_cases hown : (afterCombat target a attacker bonus).owner = attacker
      · have hjoined : afterCombat (afterCombat target a attacker bonus) rest.sum attacker bonus
            = attacks attacker bonus (afterCombat target a attacker bonus) rest := by
          rw [afterCombat_own hsum hown, attacks_own hown hrest]
        rw [← hjoined]
        exact hboth
      · exact (ih hown hrest).trans hboth

end Attacks

end CrownClash.Go
