import CrownClash.Go.BattleRun
import CrownClash.Go.Combat
import CrownClash.Go.March

/-!
# Server: the armies of one order on their way

The armies of an order pass own towers only and end at the same target.  While nobody else
moves, the only owner that may change is that of the target, and of the target a march reads
no more than where it is.  So an army is where it would be on the board of the order
(`OnWay.advance_board`), and arrives when that board says (`OnWay.arrives`).

`Ends` compares two fates of the target: the same owner, and the same garrison as long as it
is not taken.  Where the defenders count once it does not depend on the order of the
arrivals (`attacks_perm`).
-/

namespace CrownClash.Go

open Lib

variable [MathLib]

/-! ### The board of an order -/

omit [MathLib] in
/-- The same tower on the same spot. -/
structure SamePlace (t t' : Territory) : Prop where
  id : t'.id = t.id
  x : t'.x = t.x
  y : t'.y = t.y

/-- Every tower is where it was, and all but the target have the owner they had. -/
def Board (state : GameState) (targetId : String) (territories : Record String Territory) : Prop :=
  ∀ id t, state.territories.get? id = some t →
    ∃ t', territories.get? id = some t' ∧ SamePlace t t' ∧ (id ≠ targetId → t'.owner = t.owner)

section Board

variable {state : GameState} {targetId : String} {territories : Record String Territory}

omit [MathLib] in
theorem board_refl (state : GameState) (targetId : String) :
    Board state targetId state.territories :=
  fun _ t ht => ⟨t, ht, ⟨rfl, rfl, rfl⟩, fun _ => rfl⟩

omit [MathLib] in
/-- A tower is replaced by one on the same spot, of the same owner unless it is the target. -/
theorem Board.set (h : Board state targetId territories) {id : String} {t u : Territory}
    (ht : territories.get? id = some t) (hplace : SamePlace t u)
    (howner : id ≠ targetId → u.owner = t.owner) :
    Board state targetId (territories.set id u) := by
  intro k s hs
  obtain ⟨s', hs', hsame, hso⟩ := h k s hs
  rw [Record.get?_set]
  split
  · next hk =>
    subst hk
    rw [ht] at hs'
    cases hs'
    refine ⟨u, rfl, ⟨?_, ?_, ?_⟩, fun hne => (howner hne).trans (hso hne)⟩
    · exact hplace.id.trans hsame.id
    · exact hplace.x.trans hsame.x
    · exact hplace.y.trans hsame.y
  · exact ⟨s', hs', hsame, hso⟩

omit [MathLib] in
/-- Every tower is replaced so. -/
theorem Board.map (h : Board state targetId territories) {f : String → Territory → Territory}
    (hf : ∀ id t, SamePlace t (f id t) ∧ (f id t).owner = t.owner) :
    Board state targetId (territories.map f) := by
  intro id t ht
  obtain ⟨t', ht', hsame, hso⟩ := h id t ht
  refine ⟨f id t', by rw [Record.get?_map, ht']; rfl, ⟨?_, ?_, ?_⟩, fun hne => ?_⟩
  · exact (hf id t').1.id.trans hsame.id
  · exact (hf id t').1.x.trans hsame.x
  · exact (hf id t').1.y.trans hsame.y
  · exact (hf id t').2.trans (hso hne)

omit [MathLib] in
theorem Board.getD (h : Board state targetId territories) {id : String}
    (hid : ∃ t, state.territories.get? id = some t) :
    SamePlace (state.territory id) (territories.getD id Territory.zero) ∧
      (id ≠ targetId → (territories.getD id Territory.zero).owner = (state.territory id).owner) := by
  obtain ⟨t, ht⟩ := hid
  obtain ⟨t', ht', hsame, howner⟩ := h id t ht
  unfold GameState.territory Record.getD
  rw [ht, ht']
  exact ⟨hsame, howner⟩

end Board

/-- A leg starts and ends where its towers are. -/
theorem setArmyLeg_place (army : MarchingArmy) {a a' b b' : Territory} (leg : ℕ)
    (ha : SamePlace a a') (hb : SamePlace b b') :
    setArmyLeg army a' b' leg = setArmyLeg army a b leg := by
  unfold setArmyLeg
  rw [ha.x, ha.y, hb.id, hb.x, hb.y]

omit [MathLib] in
theorem Heading.board {state : GameState} {targetId : String}
    {territories : Record String Territory} {a : MarchingArmy} {rest : List String}
    (h : Heading state a rest) (hboard : Board state targetId territories) :
    Heading { state with territories := territories } a rest := by
  refine ⟨h.nodup, fun id hid => ?_, h.speed⟩
  obtain ⟨t, ht, he⟩ := h.towers id hid
  obtain ⟨t', ht', hsame, -⟩ := hboard id t ht
  exact ⟨t', ht', hsame.id.trans he⟩

/-- **A march to the target does not read its owner.** -/
theorem advanceLegs_board {state : GameState} {targetId : String}
    {territories : Record String Territory} (hboard : Board state targetId territories) :
    ∀ (rest : List String) {a : MarchingArmy} {t : ℚ}, Heading state a rest →
      (a.targetId :: rest).getLast? = some targetId →
        advanceLegs territories rest a t = advanceLegs state.territories rest a t := by
  intro rest
  induction rest with
  | nil =>
    intro a t h _
    by_cases ht : a.progress + a.speed * t < 1
    · rw [advanceLegs_short ht, advanceLegs_short ht]
    · rw [advanceLegs_stop h ht (Or.inl rfl)]
      exact advanceLegs_stop (h.board hboard) ht (Or.inl rfl)
  | cons next rest ih =>
    intro a t h hlast
    by_cases ht : a.progress + a.speed * t < 1
    · rw [advanceLegs_short ht, advanceLegs_short ht]
    have hbehind : (next :: rest).getLast? = some targetId := by
      rw [List.getLast?_cons_cons] at hlast
      exact hlast
    have hne : a.targetId ≠ targetId := by
      intro he
      have hmem := List.mem_of_getLast? hbehind
      rw [← he] at hmem
      exact (List.nodup_cons.mp h.nodup).1 hmem
    have hexists : ∀ id ∈ a.targetId :: next :: rest, ∃ t, state.territories.get? id = some t :=
      fun id hid => (h.towers id hid).imp fun t ht => ht.1
    have hhere := hboard.getD (hexists a.targetId List.mem_cons_self)
    have hnext := hboard.getD (hexists next (List.mem_cons_of_mem _ List.mem_cons_self))
    by_cases hown : (state.territory a.targetId).owner = a.owner
    · have hpass := advanceLegs_pass (h.board hboard) ht ((hhere.2 hne).trans hown)
      have hleg := setArmyLeg_place a (a.routeLeg + 1) hhere.1 hnext.1
      rw [advanceLegs_pass h ht hown]
      refine hpass.trans ?_
      show advanceLegs territories rest (setArmyLeg a (territories.getD a.targetId Territory.zero)
        (territories.getD next Territory.zero) (a.routeLeg + 1)) _ = _
      rw [hleg]
      refine ih h.next.1 ?_
      rw [h.next.2]
      exact hbehind
    · rw [advanceLegs_stop h ht (Or.inr hown)]
      refine advanceLegs_stop (h.board hboard) ht (Or.inr ?_)
      show (territories.getD a.targetId Territory.zero).owner ≠ a.owner
      rw [hhere.2 hne]
      exact hown

/-- An army that marches on is not at the end of its leg. -/
theorem advanceLegs_onward (territories : Record String Territory) :
    ∀ (rest : List String) (a : MarchingArmy) (t : ℚ),
      (advanceLegs territories rest a t).2 = false →
        (advanceLegs territories rest a t).1.progress < 1 := by
  intro rest
  induction rest with
  | nil =>
    intro a t
    unfold advanceLegs
    dsimp only
    split
    · next ht => exact fun _ => ht
    · intro hf
      cases hf
  | cons next rest ih =>
    intro a t
    unfold advanceLegs
    dsimp only
    split
    · next ht => exact fun _ => ht
    · cases territories.get? a.targetId with
      | none =>
        intro hf
        cases hf
      | some waypoint =>
        dsimp only
        split
        · intro hf
          cases hf
        · exact ih _ _

/-! ### An army of the order -/

/-- An army on its way: it passes own towers and ends at the target. -/
structure OnWay (state : GameState) (targetId : String) (a : MarchingArmy) : Prop where
  route : OnRoute state.territories a
  ok : ArmyOk a
  ends : a.routeIds.getLast? = some targetId
  own : ∀ id ∈ a.routeIds, id ≠ targetId → (state.territory id).owner = a.owner
  hostile : (state.territory targetId).owner ≠ a.owner

section OnWay

variable {state : GameState} {targetId : String} {a : MarchingArmy}

omit [MathLib] in
theorem OnWay.last (h : OnWay state targetId a) :
    (a.targetId :: a.routeIds.drop (a.routeLeg + 2)).getLast? = some targetId := by
  have hne : a.routeIds.drop (a.routeLeg + 1) ≠ [] := by
    rw [h.route.ahead]
    exact List.cons_ne_nil _ _
  rw [← h.route.ahead, List.getLast?_drop, if_neg]
  · exact h.ends
  · exact fun hle => hne (List.drop_eq_nil_of_le hle)

omit [MathLib] in
/-- The first tower on the road that is not its own is the target. -/
theorem OnWay.stop (h : OnWay state targetId a) :
    stopOf state a.owner (a.targetId :: a.routeIds.drop (a.routeLeg + 2)) a.targetId
      = targetId := by
  have hmem := List.mem_of_getLast? h.last
  have hfind : ((a.targetId :: a.routeIds.drop (a.routeLeg + 2)).find? fun id =>
      (state.territory id).owner ≠ a.owner) = some targetId := by
    cases hf : (a.targetId :: a.routeIds.drop (a.routeLeg + 2)).find? fun id =>
      (state.territory id).owner ≠ a.owner with
    | none =>
      have hown := List.find?_eq_none.mp hf targetId hmem
      rw [decide_eq_true_eq, not_not] at hown
      exact absurd hown h.hostile
    | some id =>
      have hother := List.find?_some hf
      rw [decide_eq_true_eq] at hother
      by_contra hne
      refine hother (h.own id (h.route.ahead_mem id (List.mem_of_find?_eq_some hf)) fun he => ?_)
      exact hne (congrArg some he)
  unfold stopOf
  rw [hfind]
  rfl

/-- **On the board of the order an army is where it would be.** -/
theorem OnWay.advance_board (h : OnWay state targetId a) {territories : Record String Territory}
    (hboard : Board state targetId territories) (t : ℚ) :
    advanceRoutedArmy a territories t = advanceRoutedArmy a state.territories t :=
  advanceLegs_board hboard _ h.route.heading h.last

theorem OnWay.arrives (h : OnWay state targetId a) (t : ℚ) :
    (advanceRoutedArmy a state.territories t).2 = true ↔ armyArrivalSeconds a state ≤ t := by
  rw [h.route.seconds]
  exact (advanceLegs_spec _ h.route.heading).arrives

theorem OnWay.place (h : OnWay state targetId a) {t : ℚ}
    (hat : (advanceRoutedArmy a state.territories t).2 = true) :
    (advanceRoutedArmy a state.territories t).1.targetId = targetId :=
  ((advanceLegs_spec _ h.route.heading).place hat).trans h.stop

/-- An army that has not arrived is still on its way, and the time left is what it was less
what has passed. -/
theorem OnWay.onward (h : OnWay state targetId a) {t : ℚ}
    (hon : (advanceRoutedArmy a state.territories t).2 = false) :
    OnWay state targetId (advanceRoutedArmy a state.territories t).1 ∧
      armyArrivalSeconds (advanceRoutedArmy a state.territories t).1 state
        = armyArrivalSeconds a state - t := by
  obtain ⟨passed, left, hrest, -, -, hleg, hids, howner, -⟩ :=
    (advanceLegs_spec _ h.route.heading).onward hon
  have hids' : (advanceRoutedArmy a state.territories t).1.routeIds = a.routeIds := hids
  have howner' : (advanceRoutedArmy a state.territories t).1.owner = a.owner := howner
  refine ⟨⟨h.route.advance hon, advanceLegs_armyOk _ _ a t h.ok, ?_, ?_, ?_⟩,
    h.route.advance_seconds hon⟩
  · rw [hids']
    exact h.ends
  · rw [hids', howner']
    exact h.own
  · rw [howner']
    exact h.hostile

end OnWay

/-! ### The fate of the target -/

/-- A tower ends as another one does: its owner is the same, and if it is not taken then its
garrison is. -/
structure Ends (attacker : Team) (t p : Territory) : Prop where
  type : t.type = p.type
  taken : p.owner = attacker → t.owner = attacker
  held : p.owner ≠ attacker → t.owner = p.owner ∧ t.units = p.units

section Ends

variable {attacker : Team} {t p q : Territory}

omit [MathLib] in
theorem Ends.refl (attacker : Team) (p : Territory) : Ends attacker p p :=
  ⟨rfl, id, fun _ => ⟨rfl, rfl⟩⟩

omit [MathLib] in
theorem Ends.owner (h : Ends attacker t p) : t.owner = p.owner := by
  by_cases hp : p.owner = attacker
  · exact (h.taken hp).trans hp.symm
  · exact (h.held hp).1

omit [MathLib] in
theorem Ends.trans (h : Ends attacker t p) (g : Ends attacker p q) : Ends attacker t q := by
  refine ⟨h.type.trans g.type, fun hq => h.taken (g.taken hq), fun hq => ?_⟩
  obtain ⟨howner, hunits⟩ := g.held hq
  have hp : p.owner ≠ attacker := by rwa [howner]
  exact ⟨(h.held hp).1.trans howner, (h.held hp).2.trans hunits⟩

omit [MathLib] in
theorem attacks_type (attacker : Team) (bonus : ℚ) (arrivals : List ℤ) : ∀ target : Territory,
    (attacks attacker bonus target arrivals).type = target.type := by
  induction arrivals with
  | nil => intro target; rfl
  | cons a rest ih => intro target; exact ih _

omit [MathLib] in
/-- **An arrival keeps the fate.** -/
theorem Ends.attack (h : Ends attacker t p) {incoming : ℤ} (hi : 0 < incoming) (bonus : ℚ) :
    Ends attacker (afterCombat t incoming attacker bonus)
      (afterCombat p incoming attacker bonus) := by
  by_cases hp : p.owner = attacker
  · rw [afterCombat_own hi hp, afterCombat_own hi (h.taken hp)]
    exact ⟨h.type, h.taken, fun hne => absurd hp hne⟩
  obtain ⟨howner, hunits⟩ := h.held hp
  have ht : t.owner ≠ attacker := by rwa [howner]
  have hfactor : defenseFactor t bonus = defenseFactor p bonus := by
    unfold defenseFactor
    rw [h.type]
  have hdefence : scaleUp (defenseFactor t bonus) t.units
      = scaleUp (defenseFactor p bonus) p.units := by rw [hfactor, hunits]
  by_cases hcap : scaleUp (defenseFactor p bonus) p.units < incoming
  · rw [afterCombat_captures hi hp hcap, afterCombat_captures hi ht (by rwa [hdefence])]
    exact ⟨h.type, fun _ => rfl, fun hne => absurd rfl hne⟩
  · rw [afterCombat_repelled hi hp hcap, afterCombat_repelled hi ht (by rwa [hdefence]),
      hfactor, hunits]
    exact ⟨h.type, fun he => absurd he hp, fun _ => ⟨howner, rfl⟩⟩

omit [MathLib] in
/-- Production leaves a tower that nobody holds alone, and changes the garrison of another. -/
theorem Ends.produce (h : Ends attacker t p) (hp : p.owner ≠ attacker → p.owner = .neutral)
    {u : Territory} (htype : u.type = t.type) (howner : u.owner = t.owner)
    (hneutral : t.owner = .neutral → u = t) : Ends attacker u p := by
  refine ⟨htype.trans h.type, fun he => howner.trans (h.taken he), fun hne => ?_⟩
  have ht := h.held hne
  rw [hneutral (ht.1.trans (hp hne))]
  exact ht

omit [MathLib] in
/-- A tower is taken, or its owner is the one it had. -/
theorem attacks_owner (bonus : ℚ) : ∀ (arrivals : List ℤ) (target : Territory),
    (∀ a ∈ arrivals, 0 < a) → (attacks attacker bonus target arrivals).owner ≠ attacker →
      (attacks attacker bonus target arrivals).owner = target.owner := by
  intro arrivals
  induction arrivals with
  | nil => intro target _ _; rfl
  | cons a rest ih =>
    intro target hpos hne
    have ha := hpos a List.mem_cons_self
    have hrest : ∀ x ∈ rest, 0 < x := fun x hx => hpos x (List.mem_cons_of_mem a hx)
    have hstep : Go.attacks attacker bonus target (a :: rest)
        = Go.attacks attacker bonus (afterCombat target a attacker bonus) rest := rfl
    rw [hstep] at hne ⊢
    have howner := ih _ hrest hne
    rw [howner] at hne
    rw [howner]
    by_cases ho : target.owner = attacker
    · rw [afterCombat_own ha ho] at hne
      exact absurd ho hne
    · rw [afterCombat_repelled ha ho (mt (afterCombat_owner ha ho).mpr hne)]

end Ends

/-! ### Defenders that count once -/

section Plain

variable {attacker : Team} {bonus : ℚ}

omit [MathLib] in
/-- Any number of arrivals take a tower exactly if all of them together exceed its garrison;
otherwise they cost it as many defenders as they have. -/
theorem attacks_plain : ∀ (arrivals : List ℤ) {target : Territory},
    defenseFactor target bonus = 1 → target.owner ≠ attacker → (∀ a ∈ arrivals, 0 < a) →
      (arrivals = [] ∨ arrivals.sum ≤ target.units →
        attacks attacker bonus target arrivals
          = { target with units := target.units - arrivals.sum }) ∧
      (¬ (arrivals = [] ∨ arrivals.sum ≤ target.units) →
        (attacks attacker bonus target arrivals).owner = attacker) := by
  intro arrivals
  induction arrivals with
  | nil =>
    intro target _ _ _
    refine ⟨fun _ => ?_, fun hn => absurd (Or.inl rfl) hn⟩
    show target = { target with units := target.units - 0 }
    rw [sub_zero]
  | cons a rest ih =>
    intro target hfactor ho hpos
    have ha := hpos a List.mem_cons_self
    have hrest : ∀ x ∈ rest, 0 < x := fun x hx => hpos x (List.mem_cons_of_mem a hx)
    have hsum : 0 ≤ rest.sum := List.sum_nonneg fun x hx => (hrest x hx).le
    have hup : ∀ u : ℤ, scaleUp 1 u = u := fun u => by
      unfold scaleUp
      rw [mul_one, Int.ceil_intCast]
    have hdown : ∀ u : ℤ, scaleDown 1 u = u := fun u => by
      unfold scaleDown
      rw [div_one, Int.ceil_intCast]
    have hstep : attacks attacker bonus target (a :: rest)
        = attacks attacker bonus (afterCombat target a attacker bonus) rest := rfl
    rw [hstep, List.sum_cons]
    by_cases hcap : target.units < a
    · have howner : (afterCombat target a attacker bonus).owner = attacker :=
        (afterCombat_owner ha ho).mpr (by rwa [hfactor, hup])
      rw [attacks_own howner hrest]
      refine ⟨fun h => ?_, fun _ => howner⟩
      rcases h with h | h
      · cases h
      · omega
    · have hrepelled : ¬ scaleUp (defenseFactor target bonus) target.units < a := by
        rwa [hfactor, hup]
      have hcombat := afterCombat_repelled ha ho hrepelled
      rw [hfactor, hup, hdown] at hcombat
      rw [hcombat]
      generalize hleft : ({ target with units := target.units - a } : Territory) = left
      have hunits : left.units = target.units - a := by rw [← hleft]
      have hleftOwner : left.owner ≠ attacker := by rwa [← hleft]
      have hleftFactor : defenseFactor left bonus = 1 := by rw [← hleft]; exact hfactor
      obtain ⟨hheld, htaken⟩ := ih hleftFactor hleftOwner hrest
      rw [hunits] at hheld htaken
      constructor
      · intro h
        have hle := h.resolve_left (List.cons_ne_nil _ _)
        have hbehind : rest.sum ≤ target.units - a := by omega
        rw [hheld (Or.inr hbehind), ← sub_sub, ← hleft]
      · intro h
        refine htaken fun hbehind => h (Or.inr ?_)
        rcases hbehind with rfl | hle
        · rw [List.sum_nil]
          omega
        · omega

omit [MathLib] in
/-- **Where the defenders count once, the order of the arrivals does not matter.** -/
theorem attacks_perm {target : Territory} (hfactor : defenseFactor target bonus = 1)
    (ho : target.owner ≠ attacker) {a b : List ℤ} (hpos : ∀ x ∈ a, 0 < x) (hperm : a.Perm b) :
    Ends attacker (attacks attacker bonus target a) (attacks attacker bonus target b) := by
  have hpos' : ∀ x ∈ b, 0 < x := fun x hx => hpos x (hperm.mem_iff.mpr hx)
  obtain ⟨hheld, htaken⟩ := attacks_plain a hfactor ho hpos
  obtain ⟨hheld', htaken'⟩ := attacks_plain b hfactor ho hpos'
  have hsum : a.sum = b.sum := hperm.sum_eq
  have hnil : a = [] ↔ b = [] := by
    constructor
    · rintro rfl
      exact List.nil_perm.mp hperm
    · rintro rfl
      exact List.perm_nil.mp hperm
  by_cases h : a = [] ∨ a.sum ≤ target.units
  · have h' : b = [] ∨ b.sum ≤ target.units := by rwa [← hnil, ← hsum]
    rw [hheld h, hheld' h', hsum]
    exact Ends.refl attacker _
  · have h' : ¬ (b = [] ∨ b.sum ≤ target.units) := by rwa [← hnil, ← hsum]
    refine ⟨?_, fun _ => htaken h, fun hne => absurd (htaken' h') hne⟩
    rw [attacks_type, attacks_type]

end Plain

end CrownClash.Go
