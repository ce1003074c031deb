import CrownClash.Go.March
import CrownClash.Parity.Routes
import CrownClash.Parity.Simulation

/-!
# Marching, in both engines

Whether an army arrives, where and when is what was predicted of it, and it does not
matter at which rate the battle is stepped.
-/

namespace CrownClash.Parity

open Lib

section March

variable [MathLib]

theorem advanceRoutedArmy_eq (territories : Record String Territory) (t : ℚ)
    {army : MarchingArmy} (h : Go.ArmyOk army) :
    Ts.advanceRoutedArmy army territories t = Go.advanceRoutedArmy army territories t := by
  unfold Ts.advanceRoutedArmy Go.advanceRoutedArmy
  refine advanceLegs_eq territories _ army t fun hne => h.routed ?_
  intro hr
  rw [hr, List.drop_nil] at hne
  exact hne rfl

theorem advanceRoutedArmy_armyOk (territories : Record String Territory) (t : ℚ)
    {army : MarchingArmy} (h : Go.ArmyOk army) :
    Go.ArmyOk (Go.advanceRoutedArmy army territories t).1 :=
  Go.advanceLegs_armyOk territories _ army t h

/-- What an army makes of a time depends on the sites along its route. -/
theorem advanceRoutedArmy_congr {state moved : GameState} {army : MarchingArmy} {t : ℚ}
    (h : Go.OnRoute state.territories army) (hmoved : Go.SameRoute army.routeIds state moved) :
    Go.advanceRoutedArmy army moved.territories t
      = Go.advanceRoutedArmy army state.territories t :=
  Go.advanceLegs_congr _ h.heading (hmoved.mono h.ahead_mem)

theorem armyArrivalSeconds_congr {state later : GameState} {army : MarchingArmy}
    (h : Go.OnRoute state.territories army) (hlater : Go.SameRoute army.routeIds state later) :
    Go.armyArrivalSeconds army later = Go.armyArrivalSeconds army state := by
  rw [(h.congr hlater).seconds, h.seconds]
  exact Go.arrivalSeconds_same army (hlater.mono h.ahead_mem)

/-- **Arrival prediction is exact**, in both engines.  `state` is the battle in which the
arrival is predicted, `moved` the one that moves the army and `later` the one after; they
agree on the owners and the sites along the route.  The army arrives exactly when the
time predicted is up, at the place predicted, and until then the time predicted is what
it was, less what has passed. -/
theorem arrival_prediction_exact {state moved later : GameState} {army : MarchingArmy}
    (h : Go.OnRoute state.territories army) (hok : Go.ArmyOk army)
    (hmoved : Go.SameRoute army.routeIds state moved)
    (hlater : Go.SameRoute army.routeIds state later) (t : ℚ) :
    (Ts.advanceRoutedArmy army moved.territories t = Go.advanceRoutedArmy army moved.territories t ∧
      Ts.armyDestination army state = Go.armyDestination army state ∧
      Ts.armyArrivalSeconds army state = Go.armyArrivalSeconds army state) ∧
    ((Go.advanceRoutedArmy army moved.territories t).2 = true
      ↔ Go.armyArrivalSeconds army state ≤ t) ∧
    ((Go.advanceRoutedArmy army moved.territories t).2 = true →
      (Go.advanceRoutedArmy army moved.territories t).1.targetId
        = Go.armyDestination army state) ∧
    (t < Go.armyArrivalSeconds army state →
      Go.armyArrivalSeconds (Go.advanceRoutedArmy army moved.territories t).1 later
        = Go.armyArrivalSeconds army state - t ∧
      Ts.armyArrivalSeconds (Go.advanceRoutedArmy army moved.territories t).1 later
        = Go.armyArrivalSeconds army state - t) := by
  have hspec := Go.advanceLegs_spec _ (t := t) h.heading
  have harrives := hspec.arrives
  rw [← h.seconds] at harrives
  refine ⟨⟨advanceRoutedArmy_eq _ t hok, armyDestination_eq hok.owned,
    armyArrivalSeconds_eq state hok⟩, ?_⟩
  rw [advanceRoutedArmy_congr h hmoved]
  refine ⟨harrives, ?_, fun hlt => ?_⟩
  · intro harrived
    rw [h.destination]
    exact hspec.place harrived
  · have hon : (Go.advanceRoutedArmy army state.territories t).2 = false := by
      refine Bool.eq_false_iff.mpr fun harrived => ?_
      exact absurd (harrives.mp harrived) (not_le.mpr hlt)
    have hroute := h.advance hon
    obtain ⟨-, -, -, -, -, -, hids, -, -⟩ := hspec.onward hon
    have hsame : Go.armyArrivalSeconds (Go.advanceRoutedArmy army state.territories t).1 later
        = Go.armyArrivalSeconds army state - t := by
      rw [armyArrivalSeconds_congr hroute]
      · exact h.advance_seconds hon
      · intro id hid
        refine hlater id ?_
        rw [← hids]
        exact hid
    exact ⟨hsame, (armyArrivalSeconds_eq later (advanceRoutedArmy_armyOk _ t hok)).trans hsame⟩

omit [MathLib] in
theorem sameRoute_refl (ids : List String) (state : GameState) : Go.SameRoute ids state state :=
  fun _ _ => rfl

/-- The player's army on its way through the second tower to the enemy. -/
def threeArmy : MarchingArmy where
  routeIds := ["a", "b", "c"]
  routeLeg := 0
  routeSpeedMultiplier := 1
  id := "army"
  sourceId := "a"
  targetId := "b"
  owner := .player
  units := 10
  startX := 0
  startY := 0
  targetX := 0
  targetY := 100
  progress := 0
  speed := 1 / 2
  distance := 100

omit [MathLib] in
theorem threeArmy_onRoute : Go.OnRoute threeTowers.territories threeArmy := by
  refine ⟨rfl, by decide, fun id hid => ?_, by norm_num [threeArmy]⟩
  simp only [threeArmy, List.mem_cons, List.not_mem_nil, or_false] at hid
  rcases hid with rfl | rfl | rfl
  · exact ⟨_, rfl, rfl⟩
  · exact ⟨_, rfl, rfl⟩
  · exact ⟨_, rfl, rfl⟩

omit [MathLib] in
theorem threeArmy_ok : Go.ArmyOk threeArmy := ⟨by decide, fun _ => by norm_num [threeArmy]⟩

omit [MathLib] in
/-- Five seconds suffice for the two legs. -/
theorem arrival_prediction_three :
    (@Go.advanceRoutedArmy decimalHypot threeArmy threeTowers.territories 5).2 = true :=
  (@arrival_prediction_exact decimalHypot threeTowers threeTowers threeTowers threeArmy
    threeArmy_onRoute threeArmy_ok (sameRoute_refl _ _) (sameRoute_refl _ _) 5).2.1.mpr
      (by decide +kernel)

/-- **Marching does not depend on the frame rate**, in either engine.  `first` and
`second` are the battles of the two steps and `once` that of the single one; they agree
on the owners and the sites along the route.  Advancing by `d` and, if the army has not
arrived, by `e` gives the army and the flag that advancing by `d + e` gives; and an army
that has arrived after `d` is the one that arrives in the single step. -/
theorem marching_frame_rate {state first second once : GameState} {army : MarchingArmy}
    (h : Go.OnRoute state.territories army) (hok : Go.ArmyOk army)
    (hfirst : Go.SameRoute army.routeIds state first)
    (hsecond : Go.SameRoute army.routeIds state second)
    (honce : Go.SameRoute army.routeIds state once) (d : ℚ) {e : ℚ} (he : 0 ≤ e) :
    (Ts.advanceRoutedArmy army first.territories d
        = Go.advanceRoutedArmy army first.territories d ∧
      Ts.advanceRoutedArmy (Go.advanceRoutedArmy army first.territories d).1 second.territories e
        = Go.advanceRoutedArmy (Go.advanceRoutedArmy army first.territories d).1
            second.territories e ∧
      Ts.advanceRoutedArmy army once.territories (d + e)
        = Go.advanceRoutedArmy army once.territories (d + e)) ∧
    ((Go.advanceRoutedArmy army first.territories d).2 = false →
      Go.advanceRoutedArmy (Go.advanceRoutedArmy army first.territories d).1 second.territories e
        = Go.advanceRoutedArmy army once.territories (d + e)) ∧
    ((Go.advanceRoutedArmy army first.territories d).2 = true →
      Go.advanceRoutedArmy army first.territories d
        = Go.advanceRoutedArmy army once.territories (d + e)) := by
  refine ⟨⟨advanceRoutedArmy_eq _ d hok,
    advanceRoutedArmy_eq _ e (advanceRoutedArmy_armyOk _ d hok),
    advanceRoutedArmy_eq _ (d + e) hok⟩, ?_⟩
  rw [advanceRoutedArmy_congr h hfirst, advanceRoutedArmy_congr h honce]
  obtain ⟨harrived, honward⟩ := Go.advanceLegs_add _ (d := d) h.heading he
  refine ⟨fun hon => ?_, fun hf => (harrived hf).symm⟩
  obtain ⟨passed, left, hrest, hleg, hids, hadd⟩ := honward hon
  have hsites : Go.SameRoute (Go.advanceRoutedArmy army state.territories d).1.routeIds
      state second := by
    intro id hid
    refine hsecond id ?_
    rw [← hids]
    exact hid
  rw [advanceRoutedArmy_congr (h.advance hon) hsites]
  have hahead : (Go.advanceRoutedArmy army state.territories d).1.routeIds.drop
      ((Go.advanceRoutedArmy army state.territories d).1.routeLeg + 2) = left :=
    Go.drop_ahead hrest hids hleg
  show Go.advanceLegs state.territories _ (Go.advanceRoutedArmy army state.territories d).1 e = _
  rw [hahead]
  exact hadd

omit [MathLib] in
/-- Three seconds and another two are five. -/
theorem marching_frame_rate_three :
    @Go.advanceRoutedArmy decimalHypot
        (@Go.advanceRoutedArmy decimalHypot threeArmy threeTowers.territories 3).1
        threeTowers.territories 2
      = @Go.advanceRoutedArmy decimalHypot threeArmy threeTowers.territories (3 + 2) :=
  (@marching_frame_rate decimalHypot threeTowers threeTowers threeTowers threeTowers threeArmy
    threeArmy_onRoute threeArmy_ok (sameRoute_refl _ _) (sameRoute_refl _ _)
    (sameRoute_refl _ _) 3 2 (by norm_num)).2.1 (by decide +kernel)

end March

end CrownClash.Parity
