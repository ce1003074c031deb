import CrownClash.Go.TacticalAi
import CrownClash.Parity.Simulation
import CrownClash.Ts.TacticalAi

/-!
# The two engines agree on the tactical policy

The client numbers the incoming armies after filtering, the server before; both
then break ties by that number, which is the same as sorting stably by the time
of arrival (`sortBy_index`).  So the lists agree on the armies and times, and
nothing else of an entry is ever used.
-/

namespace CrownClash.Parity

open Lib

/-- What the policy reads of an incoming army. -/
def tsArrival (a : Ts.Incoming) : MarchingArmy × ℚ := (a.army, a.eta)

def goArrival (a : Go.TacticalIncoming) : MarchingArmy × ℚ := (a.army, a.eta)

def moveOf (m : Ts.AiMove) : Go.TacticalMove := ⟨m.fromId, m.toId⟩

theorem pairwise_zipIdx_snd {α : Type} (l : List α) :
    ∀ k, (l.zipIdx k).Pairwise fun a b => a.2 < b.2 := by
  induction l with
  | nil => intro k; exact List.Pairwise.nil
  | cons a l ih =>
    intro k
    rw [List.zipIdx_cons, List.pairwise_cons]
    refine ⟨?_, ih (k + 1)⟩
    rintro ⟨b, i⟩ hb
    have := List.le_snd_of_mem_zipIdx hb
    exact Nat.lt_of_succ_le this

variable [MathLib]

theorem tacticalIncoming_eq {state : GameState} (h : Go.BattleOk state) (id : String) :
    (Ts.tacticalIncoming state id).map tsArrival
      = (Go.tacticalIncomingAt state id).map goArrival := by
  have hdest : ∀ a ∈ state.armies, Ts.armyDestination a state = Go.armyDestination a state :=
    fun a ha => armyDestination_eq (h.armies a ha).owned
  have heta : ∀ a ∈ state.armies, Ts.armyArrivalSeconds a state = Go.armyArrivalSeconds a state :=
    fun a ha => armyArrivalSeconds_eq state (h.armies a ha)
  unfold Ts.tacticalIncoming Go.tacticalIncomingAt
  rw [sortBy_index, sortBy_index]
  · have ht := sortBy_map tsArrival fun a b => decide (a.2 < b.2)
    have hg := sortBy_map goArrival fun a b => decide (a.2 < b.2)
    refine (ht _).trans (Eq.trans ?_ (hg _).symm)
    congr 1
    have hfilter : state.armies.filter (fun a => decide (Ts.armyDestination a state = id))
        = state.armies.filter fun a => decide (Go.armyDestination a state = id) :=
      List.filter_congr fun a ha => by rw [hdest a ha]
    rw [hfilter, List.map_map, List.map_map]
    have hleft : ∀ l : List MarchingArmy, (∀ a ∈ l, a ∈ state.armies) → ∀ k,
        (l.zipIdx k).map (tsArrival ∘ fun e =>
          (⟨e.1, e.2, Ts.armyArrivalSeconds e.1 state⟩ : Ts.Incoming))
            = l.map fun a => (a, Go.armyArrivalSeconds a state) := by
      intro l
      induction l with
      | nil => intro _ k; rfl
      | cons a l ih =>
        intro hl k
        rw [List.zipIdx_cons, List.map_cons, List.map_cons,
          ih (fun b hb => hl b (List.mem_cons_of_mem a hb))]
        simp only [Function.comp_apply, tsArrival, heta a (hl a List.mem_cons_self)]
    have hright : ∀ (l : List MarchingArmy) (k : ℕ),
        ((l.zipIdx k).filter fun e => decide (Go.armyDestination e.1 state = id)).map
          (goArrival ∘ fun e => (⟨e.1, e.2, Go.armyArrivalSeconds e.1 state⟩ :
            Go.TacticalIncoming))
            = (l.filter fun a => decide (Go.armyDestination a state = id)).map
                fun a => (a, Go.armyArrivalSeconds a state) := by
      intro l
      induction l with
      | nil => intro k; rfl
      | cons a l ih =>
        intro k
        rw [List.zipIdx_cons]
        by_cases hd : Go.armyDestination a state = id
        · rw [List.filter_cons_of_pos (by simpa using hd), List.filter_cons_of_pos (by simpa using hd),
            List.map_cons, List.map_cons, ih]
          rfl
        · rw [List.filter_cons_of_neg (by simpa using hd), List.filter_cons_of_neg (by simpa using hd),
            ih]
    rw [hleft _ (fun a ha => (List.mem_filter.mp ha).1), hright]
  · exact List.Pairwise.map _ (fun _ _ hlt => hlt) ((pairwise_zipIdx_snd _ _).filter _)
  · exact List.Pairwise.map _ (fun _ _ hlt => hlt) (pairwise_zipIdx_snd _ _)

theorem hostileIncoming_eq {state : GameState} (h : Go.BattleOk state) (id : String)
    (team : Team) : (Ts.hostileIncoming state id team).map tsArrival
      = (Go.hostileAt state id team).map goArrival := by
  have hts : (Ts.hostileIncoming state id team).map tsArrival
      = ((Ts.tacticalIncoming state id).map tsArrival).filter fun a => a.1.owner ≠ team := by
    rw [List.filter_map]
    rfl
  have hgo : (Go.hostileAt state id team).map goArrival
      = ((Go.tacticalIncomingAt state id).map goArrival).filter fun a => a.1.owner ≠ team := by
    rw [List.filter_map]
    rfl
  rw [hts, hgo, tacticalIncoming_eq h]

omit [MathLib] in
/-- The time of the last entry of a list, read off its arrivals. -/
theorem getLast?_eta {α β : Type} {f : α → MarchingArmy × ℚ} {g : β → MarchingArmy × ℚ}
    {l : List α} {k : List β} (h : l.map f = k.map g) :
    (l.getLast?).map (fun a => (f a).2) = (k.getLast?).map fun b => (g b).2 := by
  have hl := congrArg List.getLast? h
  rw [List.getLast?_map, List.getLast?_map] at hl
  have h2 := congrArg (Option.map Prod.snd) hl
  rw [Option.map_map, Option.map_map] at h2
  exact h2

omit [MathLib] in
theorem head?_eta {α β : Type} {f : α → MarchingArmy × ℚ} {g : β → MarchingArmy × ℚ}
    {l : List α} {k : List β} (h : l.map f = k.map g) :
    (l.head?).map (fun a => (f a).2) = (k.head?).map fun b => (g b).2 := by
  have hl := congrArg List.head? h
  rw [List.head?_map, List.head?_map] at hl
  have h2 := congrArg (Option.map Prod.snd) hl
  rw [Option.map_map, Option.map_map] at h2
  exact h2

theorem tacticalForecast_eq {state : GameState} (h : Go.BattleOk state) (t : Territory)
    (seconds : ℚ) (units : ℤ) (bonus : ℚ) : Ts.tacticalForecast state t seconds units bonus
      = Go.tacticalForecastWithDefense state t seconds units bonus := by
  -- Both loops fold the same step over the arrivals.
  let step : Territory → MarchingArmy × ℚ → Territory := fun t a =>
    if a.2 ≤ seconds + 1 / 10 ^ 9 then
      { t with
        owner := (Go.resolveArrivalWithBonus t a.1.units a.1.owner bonus).newOwner
        units := (Go.resolveArrivalWithBonus t a.1.units a.1.owner bonus).remaining }
    else t
  have hts : Ts.tacticalForecast state t seconds units bonus
      = ((Ts.tacticalIncoming state t.id).map tsArrival).foldl step { t with units := units } := by
    rw [List.foldl_map]
    unfold Ts.tacticalForecast
    refine List.foldl_ext _ _ _ fun t a _ => ?_
    dsimp only
    rw [newOwner_resolveArrival, remainingUnits_resolveArrival]
    rfl
  have hgo : Go.tacticalForecastWithDefense state t seconds units bonus
      = ((Go.tacticalIncomingAt state t.id).map goArrival).foldl step
          { t with units := units } := by
    rw [List.foldl_map]
    rfl
  rw [hts, hgo, tacticalIncoming_eq h]

theorem tacticalForecast_one {state : GameState} (h : Go.BattleOk state) (t : Territory)
    (seconds : ℚ) (units : ℤ) :
    Ts.tacticalForecast state t seconds units 1 = Go.tacticalForecast state t seconds units :=
  tacticalForecast_eq h t seconds units 1

/-! ### Candidates -/

omit [MathLib] in
theorem sortedTowers_eq {state : GameState} (h : Go.BattleOk state) :
    Ts.sortedTowers state = (Go.sortedIds state).map state.territory := by
  have hids : state.territories.values.map Territory.id = state.territories.keys := by
    rw [Record.values, Record.keys, List.map_map]
    exact List.map_congr_left fun e he => h.ids e.1 e.2 (Record.get?_eq_some_iff.mpr he)
  have hsort := sortBy_map Territory.id (fun a b : String => decide (a < b))
    state.territories.values
  unfold Go.sortedIds Go.sortStrings Ts.sortedTowers
  rw [← hids, ← hsort, List.map_map]
  refine ((List.map_congr_left ?_).trans (List.map_id _)).symm
  intro t ht
  obtain ⟨k, hk⟩ := Record.mem_values.mp (mem_sortBy.mp ht)
  have hid : t.id = k := h.ids k t hk
  rw [Function.comp_apply, GameState.territory, Record.getD, hid, hk, Option.getD_some, id]

/-- A client candidate in the server's words. -/
def candidateOf (c : Ts.Candidate) : Go.TacticalCandidate := ⟨c.source, c.army, c.eta⟩

/-- **Trying out a source is checking it.**  Under the tactical rules a dispatch
from a source with four units fails only where there is no route. -/
theorem dispatchArmy_candidate {state : GameState} (h : Go.BattleOk state)
    (hv : Go.usesTacticalRules state.gameplayRulesVersion = true) {source target : Territory}
    {team : Team} {multiplier : ℚ} (hm : 0 < multiplier) (ho : source.owner = team)
    (hu : 4 ≤ source.units) (hne : source.id ≠ target.id) :
    match Go.findDispatchRoute state source.id target.id team with
    | none => ∃ reason, Ts.dispatchArmy source target team 0.5 "candidate" multiplier (some state)
        = .error reason
    | some route => Ts.dispatchArmy source target team 0.5 "candidate" multiplier (some state)
        = .ok ⟨{ source with units := source.units - Go.calculateDispatchUnits source.units },
            Go.candidateArmy state source route team (Go.calculateDispatchUnits source.units)
              multiplier⟩ := by
  unfold Ts.dispatchArmy
  rw [if_neg hne, if_neg (not_not.mpr ho)]
  dsimp only
  rw [findDispatchRoute_eq h.known]
  cases Go.findDispatchRoute state source.id target.id team with
  | none => exact ⟨_, rfl⟩
  | some route =>
    have hpos : ¬ Ts.calculateDispatchUnits source.units 0.5 ≤ 0 := by
      unfold Ts.calculateDispatchUnits
      rw [if_neg (by omega)]
      exact not_le.mpr (lt_of_lt_of_le one_pos (le_max_left _ _))
    have hspeed : 0 < multiplier * Go.territoryArmySpeedMultiplier source.type :=
      mul_pos hm (by cases source.type <;> norm_num [Go.territoryArmySpeedMultiplier,
        Go.stableArmySpeedMultiplier])
    dsimp only
    rw [if_neg hpos, if_pos (by rw [usesTacticalRules_eq]; exact hv), if_pos hm,
      getTerritoryArmySpeedMultiplier_eq, setArmyLeg_eq hspeed]
    rfl

theorem candidateArmy_ok (state : GameState) (s : Territory) (route : List String) {team : Team}
    (hteam : team ≠ .neutral) (units : ℤ) {multiplier : ℚ} (hm : 0 < multiplier) :
    Go.ArmyOk (Go.candidateArmy state s route team units multiplier) where
  owned := hteam
  routed _ := mul_pos hm (by cases s.type <;> norm_num [Go.territoryArmySpeedMultiplier,
    Go.stableArmySpeedMultiplier])

theorem candidate_eq {state : GameState} (h : Go.BattleOk state)
    (hv : Go.usesTacticalRules state.gameplayRulesVersion = true) (target : Territory)
    {team : Team} (hteam : team ≠ .neutral) {multiplier : ℚ} (hm : 0 < multiplier)
    (id : String) : (if (state.territory id).owner = team ∧ 4 ≤ (state.territory id).units ∧
        (state.territory id).id ≠ target.id then
      (Ts.candidate state target team multiplier (state.territory id)).map candidateOf else none)
      = Go.tacticalCandidate state target team multiplier id := by
  unfold Go.tacticalCandidate Ts.candidate
  generalize state.territory id = s
  dsimp only
  by_cases hs : s.owner = team ∧ 4 ≤ s.units ∧ s.id ≠ target.id
  · obtain ⟨ho, hu, hne⟩ := hs
    have hn : ¬ (s.owner ≠ team ∨ s.units < 4 ∨ s.id = target.id) := by
      rintro (h1 | h1 | h1)
      · exact h1 ho
      · omega
      · exact hne h1
    rw [if_pos ⟨ho, hu, hne⟩, if_neg hn]
    have hd := dispatchArmy_candidate h hv hm ho hu hne
    cases hr : Go.findDispatchRoute state s.id target.id team with
    | none =>
      rw [hr] at hd
      obtain ⟨reason, hd⟩ := hd
      rw [hd]
      rfl
    | some route =>
      rw [hr] at hd
      dsimp only at hd
      rw [hd]
      have heta := armyArrivalSeconds_eq state
        (candidateArmy_ok state s route hteam (Go.calculateDispatchUnits s.units) hm)
      have hl := getLast?_eta (hostileIncoming_eq h s.id team)
      dsimp only
      cases hts : (Ts.hostileIncoming state s.id team).getLast? with
      | none =>
        cases hgo : (Go.hostileAt state s.id team).getLast? with
        | some last =>
          rw [hts, hgo] at hl
          cases hl
        | none =>
          dsimp only
          rw [heta]
          simp [Go.candidateSafe, hgo, candidateOf]
      | some last =>
        cases hgo : (Go.hostileAt state s.id team).getLast? with
        | none =>
          rw [hts, hgo] at hl
          cases hl
        | some last' =>
          rw [hts, hgo] at hl
          have he : last.eta = last'.eta := Option.some.inj hl
          dsimp only
          rw [tacticalForecast_one h, he, heta]
          by_cases hsafe : (Go.tacticalForecast state s last'.eta
              (s.units - Go.calculateDispatchUnits s.units)).owner = team
          · simp [Go.candidateSafe, hgo, hsafe, candidateOf]
          · simp [Go.candidateSafe, hgo, hsafe]
  · have hn : s.owner ≠ team ∨ s.units < 4 ∨ s.id = target.id := by
      by_contra hc
      rw [not_or, not_or, not_not] at hc
      exact hs ⟨hc.1, by omega, hc.2.2⟩
    rw [if_neg hs, if_pos hn]

theorem candidates_eq {state : GameState} (h : Go.BattleOk state)
    (hv : Go.usesTacticalRules state.gameplayRulesVersion = true) (target : Territory)
    {team : Team} (hteam : team ≠ .neutral) {multiplier : ℚ} (hm : 0 < multiplier) :
    (Ts.candidates state target team multiplier).map candidateOf
      = Go.tacticalCandidates state target team multiplier := by
  unfold Ts.candidates Go.tacticalCandidates
  have hsort := sortBy_map candidateOf fun a b : Go.TacticalCandidate =>
    a.eta < b.eta || (a.eta == b.eta && a.source.id < b.source.id)
  refine (hsort _).trans ?_
  congr 1
  rw [sortedTowers_eq h, List.filterMap_filter, List.filterMap_map, List.map_filterMap]
  refine List.filterMap_congr fun id _ => ?_
  rw [← candidate_eq h hv target hteam hm id, Function.comp_apply]
  by_cases hs : (state.territory id).owner = team ∧ 4 ≤ (state.territory id).units ∧
      (state.territory id).id ≠ target.id
  · rw [if_pos hs, if_pos (by simpa [and_assoc] using hs)]
  · rw [if_neg hs, if_neg (by simpa [and_assoc] using hs)]
    rfl

/-! ### The three rules -/

theorem rescueLoop_eq {state : GameState} (h : Go.BattleOk state) (t : Territory) (team : Team)
    (horizon : ℚ) : ∀ (cs : List Ts.Candidate) (units : ℤ) (moves : List Ts.AiMove),
      (Ts.rescueLoop state t team horizon cs units moves).map (List.map moveOf)
        = Go.rescueLoop state t t.id team horizon (cs.map candidateOf) units
            (moves.map moveOf) := by
  intro cs
  induction cs with
  | nil => intro units moves; rfl
  | cons c cs ih =>
    intro units moves
    rw [List.map_cons, Ts.rescueLoop, Go.rescueLoop, tacticalForecast_one h]
    have hmoves : (moves ++ [(⟨c.source.id, t.id⟩ : Ts.AiMove)]).map moveOf
        = moves.map moveOf ++ [⟨(candidateOf c).source.id, t.id⟩] := by
      rw [List.map_append]
      rfl
    have hunits : units + (candidateOf c).army.units = units + c.army.units := rfl
    rw [hunits]
    split
    · rw [Option.map_some, hmoves]
    · rw [ih, hmoves]

theorem rescueMoves_eq {state : GameState} (h : Go.BattleOk state)
    (hv : Go.usesTacticalRules state.gameplayRulesVersion = true) {team : Team}
    (hteam : team ≠ .neutral) {multiplier : ℚ} (hm : 0 < multiplier) {id : String}
    (hid : (state.territory id).id = id) :
    (if (state.territory id).owner = team then
      (Ts.rescueMoves state team multiplier (state.territory id)).map (List.map moveOf) else none)
      = Go.rescueMoves state team multiplier id := by
  unfold Go.rescueMoves Ts.rescueMoves
  dsimp only
  by_cases ho : (state.territory id).owner = team
  · rw [if_pos ho, if_neg (not_not.mpr ho), hid]
    have hlist := hostileIncoming_eq h id team
    have hf := head?_eta hlist
    have hl := getLast?_eta hlist
    cases hts : (Ts.hostileIncoming state id team).head? with
    | none =>
      cases hgo : (Go.hostileAt state id team).head? with
      | none => rfl
      | some first =>
        rw [hts, hgo] at hf
        cases hf
    | some first =>
      cases hgo : (Go.hostileAt state id team).head? with
      | none =>
        rw [hts, hgo] at hf
        cases hf
      | some first' =>
        rw [hts, hgo] at hf
        have hef : first.eta = first'.eta := Option.some.inj hf
        cases htl : (Ts.hostileIncoming state id team).getLast? with
        | none =>
          rw [List.getLast?_eq_none_iff] at htl
          rw [htl] at hts
          cases hts
        | some last =>
          cases hgl : (Go.hostileAt state id team).getLast? with
          | none =>
            rw [htl, hgl] at hl
            cases hl
          | some last' =>
            rw [htl, hgl] at hl
            have hel : last.eta = last'.eta := Option.some.inj hl
            dsimp only
            rw [tacticalForecast_one h, hel, hef]
            split
            · rfl
            · rw [rescueLoop_eq h, hid, ← candidates_eq h hv _ hteam hm, List.filter_map]
              rfl
  · rw [if_neg ho, if_pos ho]

/-- An attack in the server's words. -/
def attackOf (a : ℤ × List Ts.AiMove) : ℤ × List Go.TacticalMove := (a.1, a.2.map moveOf)

omit [MathLib] in
theorem captureLoop_eq (t : Territory) (team : Team) :
    ∀ (cs : List Ts.Candidate) (projected : Territory) (moves : List Ts.AiMove),
      (∀ c ∈ cs, 0 ≤ c.eta) →
        (Ts.captureLoop t team cs projected moves).map attackOf
          = Go.captureLoop t t.id team (cs.map candidateOf) projected (moves.map moveOf) := by
  intro cs
  induction cs with
  | nil => intro projected moves _; rfl
  | cons c cs ih =>
    intro projected moves heta
    rw [List.map_cons, Ts.captureLoop, Go.captureLoop]
    dsimp only
    have hmoves : (moves ++ [(⟨c.source.id, t.id⟩ : Ts.AiMove)]).map moveOf
        = moves.map moveOf ++ [⟨(candidateOf c).source.id, t.id⟩] := by
      rw [List.map_append]
      rfl
    have hscore : ∀ u : Territory, Ts.captureScore t u c.eta = Go.captureScore t u c.eta := by
      intro u
      unfold Ts.captureScore Go.captureScore
      have hround := roundHalfAway_of_nonneg
        (mul_nonneg (heta c List.mem_cons_self) (by norm_num : (0 : ℚ) ≤ 10))
      cases t.type <;> rw [hround] <;> rfl
    rw [newOwner_resolveArrival, remainingUnits_resolveArrival]
    change Option.map attackOf (if (Go.resolveArrival projected c.army.units team).newOwner = team
        then _ else _) = if (Go.resolveArrival projected c.army.units team).newOwner = team
        then _ else _
    split
    · rw [Option.map_some, attackOf, hmoves, hscore]
      rfl
    · rw [ih _ _ fun d hd => heta d (List.mem_cons_of_mem c hd), hmoves]
      rfl

theorem setArmyLeg_speed_pos (army : MarchingArmy) (source target : Territory) (leg : ℕ) :
    0 < (Go.setArmyLeg army source target leg).speed :=
  div_pos one_pos (lt_of_lt_of_le two_pos (le_max_left _ _))

theorem remainingLegSeconds_nonneg (a : MarchingArmy) (state : GameState) (destination : String) :
    ∀ (legs : List String) (i : ℕ), 0 ≤ Go.remainingLegSeconds a state destination i legs := by
  intro legs
  induction legs with
  | nil => intro i; exact le_refl _
  | cons id legs ih =>
    intro i
    cases legs with
    | nil => exact le_refl _
    | cons next legs =>
      rw [Go.remainingLegSeconds]
      split
      · exact le_refl _
      · exact add_nonneg (div_nonneg zero_le_one (setArmyLeg_speed_pos _ _ _ _).le) (ih (i + 1))

/-- A source never needs negative time. -/
theorem candidate_eta_nonneg {state : GameState} {target : Territory} {team : Team}
    {multiplier : ℚ} {c : Go.TacticalCandidate}
    (hc : c ∈ Go.tacticalCandidates state target team multiplier) : 0 ≤ c.eta := by
  obtain ⟨id, -, hid⟩ := List.mem_filterMap.mp (mem_sortBy.mp hc)
  obtain ⟨-, -, -, -, route, -, harmy, heta⟩ := Go.tacticalCandidate_some hid
  rw [heta, harmy]
  refine add_nonneg ?_ (remainingLegSeconds_nonneg _ _ _ _ _)
  exact div_nonneg (by norm_num [Go.candidateArmy, Go.setArmyLeg])
    (setArmyLeg_speed_pos _ _ _ _).le

theorem captureMoves_eq {state : GameState} (h : Go.BattleOk state)
    (hv : Go.usesTacticalRules state.gameplayRulesVersion = true) {team : Team}
    (hteam : team ≠ .neutral) {multiplier : ℚ} (hm : 0 < multiplier) {id : String}
    (hid : (state.territory id).id = id) :
    (if (state.territory id).owner ≠ team then
      (Ts.captureMoves state team multiplier (state.territory id)).map attackOf else none)
      = Go.captureMoves state team multiplier id := by
  unfold Go.captureMoves Ts.captureMoves
  dsimp only
  by_cases ho : (state.territory id).owner = team
  · rw [if_neg (not_not.mpr ho), if_pos ho]
  · rw [if_pos ho, if_neg ho]
    have hc := candidates_eq h hv (state.territory id) hteam hm
    have heta : ∀ c ∈ Ts.candidates state (state.territory id) team multiplier, 0 ≤ c.eta := by
      intro c hmem
      have hmem' := List.mem_map_of_mem (f := candidateOf) hmem
      rw [hc] at hmem'
      exact candidate_eta_nonneg hmem'
    rw [← hc, List.getLast?_map]
    cases (Ts.candidates state (state.territory id) team multiplier).getLast? with
    | none => rfl
    | some last =>
      dsimp only [Option.map_some]
      rw [tacticalForecast_one h]
      change Option.map attackOf (if (Go.tacticalForecast state (state.territory id) last.eta
        (state.territory id).units).owner = team then _ else _) = if (Go.tacticalForecast state
        (state.territory id) last.eta (state.territory id).units).owner = team then _ else _
      split
      · rfl
      · rw [captureLoop_eq _ _ _ _ _ heta, hid, getTerritoryProductionMultiplier_eq, ite_not]
        rfl

omit [MathLib] in
theorem frontier_eq {state : GameState} (h : Go.BattleOk state) (team : Team) (t : Territory) :
    Ts.frontier state team t = Go.frontier state team t := by
  unfold Ts.frontier Go.frontier
  rw [tacticalNeighbors_eq h.known]

omit [MathLib] in
theorem maxOf_cons_cons (a b : ℤ) (l : List ℤ) :
    Ts.maxOf (a :: b :: l) = max a (Ts.maxOf (b :: l)) := rfl

omit [MathLib] in
/-- `Math.max` of numbers that are not negative, starting from zero. -/
theorem foldl_max_eq : ∀ (l : List ℤ), l ≠ [] → ∀ b : ℤ, l.foldl max b = max b (Ts.maxOf l) := by
  intro l
  induction l with
  | nil => intro h; exact absurd rfl h
  | cons a l ih =>
    intro _ b
    cases l with
    | nil => rfl
    | cons c l =>
      rw [List.foldl_cons, ih (List.cons_ne_nil c l), maxOf_cons_cons, max_assoc]

omit [MathLib] in
theorem le_maxOf {b : ℤ} : ∀ {l : List ℤ}, l ≠ [] → (∀ x ∈ l, b ≤ x) → b ≤ Ts.maxOf l := by
  intro l
  induction l with
  | nil => intro h; exact absurd rfl h
  | cons a l ih =>
    intro _ hx
    cases l with
    | nil => exact hx a List.mem_cons_self
    | cons c l =>
      rw [maxOf_cons_cons]
      exact le_max_of_le_left (hx a List.mem_cons_self)

omit [MathLib] in
theorem territory_units_nonneg {state : GameState} (h : Go.UnitsOk state) (id : String) :
    0 ≤ (state.territory id).units := by
  unfold GameState.territory Record.getD
  cases hg : state.territories.get? id with
  | none => exact le_refl _
  | some t => exact h id t hg

omit [MathLib] in
theorem defenseStrength_nonneg {t : Territory} (h : 0 ≤ t.units) :
    0 ≤ Go.territoryDefenseStrength t :=
  Int.ceil_nonneg (mul_nonneg (Int.cast_nonneg h)
    (mul_nonneg (Go.territoryDefenseMultiplier_pos t.type).le zero_le_one))

omit [MathLib] in
theorem strongestNeighbor_eq {state : GameState} (h : Go.BattleOk state) (hu : Go.UnitsOk state)
    {team : Team} {t : Territory} (hf : Go.frontier state team t = true) :
    Ts.maxOf (((Ts.tacticalNeighbors state t.id).filter fun id =>
        (state.territory id).owner ≠ team).map fun id =>
          Ts.getTerritoryDefenseStrength (state.territory id) 1)
      = Go.strongestNeighbor state team t := by
  rw [tacticalNeighbors_eq h.known]
  unfold Go.strongestNeighbor
  have hstr : (fun id => Ts.getTerritoryDefenseStrength (state.territory id) 1)
      = fun id => Go.territoryDefenseStrength (state.territory id) := by
    funext id
    exact getTerritoryDefenseStrength_eq _ _
  rw [hstr]
  obtain ⟨id, hid, ho⟩ := List.any_eq_true.mp hf
  have hne : ((Go.tacticalNeighbors state t.id).filter fun id =>
      (state.territory id).owner ≠ team).map
        (fun id => Go.territoryDefenseStrength (state.territory id)) ≠ [] := by
    intro hnil
    rw [List.map_eq_nil_iff] at hnil
    have hmem : id ∈ (Go.tacticalNeighbors state t.id).filter fun id =>
        (state.territory id).owner ≠ team := List.mem_filter.mpr ⟨hid, ho⟩
    rw [hnil] at hmem
    exact List.not_mem_nil hmem
  have hnonneg : ∀ x ∈ ((Go.tacticalNeighbors state t.id).filter fun id =>
      (state.territory id).owner ≠ team).map
        (fun id => Go.territoryDefenseStrength (state.territory id)), 0 ≤ x := by
    intro x hx
    obtain ⟨k, -, rfl⟩ := List.mem_map.mp hx
    exact defenseStrength_nonneg (territory_units_nonneg hu k)
  rw [← max_eq_right (le_maxOf hne hnonneg), ← foldl_max_eq _ hne, List.foldl_map,
    List.foldl_filter]
  refine List.foldl_ext _ _ _ fun s k _ => ?_
  by_cases hk : (state.territory k).owner = team <;> simp [hk]

theorem supplyMove_eq {state : GameState} (h : Go.BattleOk state) (hu : Go.UnitsOk state)
    (hv : Go.usesTacticalRules state.gameplayRulesVersion = true) {team : Team}
    (hteam : team ≠ .neutral) {multiplier : ℚ} (hm : 0 < multiplier) {id : String}
    (hid : (state.territory id).id = id) :
    (if (state.territory id).owner = team ∧ Ts.frontier state team (state.territory id) = true then
      (Ts.supplyMove state team multiplier (state.territory id)).map (List.map moveOf) else none)
      = Go.supplyMove state team multiplier id := by
  unfold Go.supplyMove Ts.supplyMove
  dsimp only
  rw [frontier_eq h]
  by_cases ho : (state.territory id).owner = team ∧
      Go.frontier state team (state.territory id) = true
  · have hn : ¬ ((state.territory id).owner ≠ team ∨
        Go.frontier state team (state.territory id) = false) := by
      rintro (h1 | h1)
      · exact h1 ho.1
      · rw [ho.2] at h1
        cases h1
    have hcommitted : (((Ts.tacticalIncoming state id).filter fun a => a.army.owner = team).map
        fun a => a.army.units) = ((Go.tacticalIncomingAt state id).filter fun a =>
          a.army.owner = team).map fun a => a.army.units := by
      have hp := congrArg (fun l => (l.filter fun a : MarchingArmy × ℚ => a.1.owner = team).map
        fun a => a.1.units) (tacticalIncoming_eq h id)
      rw [List.filter_map, List.filter_map, List.map_map, List.map_map] at hp
      exact hp
    have hfr : Ts.frontier state team = Go.frontier state team := by
      funext t
      exact frontier_eq h team t
    rw [if_pos ho, if_neg hn, strongestNeighbor_eq h hu ho.2, hid, hcommitted, hfr,
      ← candidates_eq h hv _ hteam hm, List.find?_map]
    change Option.map (List.map moveOf) (if Go.calculateDispatchUnits _ > _ then _ else _) = _
    split
    · rfl
    · rw [Option.map_map, Option.map_map]
      rfl
  · have hn : (state.territory id).owner ≠ team ∨
        Go.frontier state team (state.territory id) = false := by
      by_contra hc
      rw [not_or, not_not, Bool.not_eq_false] at hc
      exact ho hc
    rw [if_neg ho, if_pos hn]

omit [MathLib] in
theorem keepBest_eq (best attack : Option (ℤ × List Ts.AiMove)) :
    (Ts.keepBest best attack).map attackOf
      = Go.keepBest (best.map attackOf) (attack.map attackOf) := by
  cases attack with
  | none => cases best <;> rfl
  | some a =>
    cases best with
    | none => rfl
    | some b =>
      simp only [Ts.keepBest, Go.keepBest, Option.map_some]
      change Option.map attackOf (if a.1 > b.1 then _ else _) = if a.1 > b.1 then _ else _
      split <;> rfl

omit [MathLib] in
/-- Every id of the map is the id of its tower. -/
theorem territory_id {state : GameState} (h : Go.BattleOk state) {id : String}
    (hid : id ∈ Go.sortedIds state) : (state.territory id).id = id := by
  obtain ⟨t, ht⟩ := Record.exists_get?_of_mem_keys (mem_sortBy.mp hid)
  rw [GameState.territory, Record.getD, ht, Option.getD_some]
  exact h.ids id t ht

/-- **Both engines play the same tactical moves.** -/
theorem evaluateTacticalMoves_eq {state : GameState} (h : Go.BattleOk state) (hu : Go.UnitsOk state)
    (hv : Go.usesTacticalRules state.gameplayRulesVersion = true) {team : Team}
    (hteam : team ≠ .neutral) {multiplier : ℚ} (hm : 0 < multiplier) :
    (Ts.evaluateTacticalMoves state team multiplier).map moveOf
      = Go.evaluateTacticalMoves state team multiplier := by
  unfold Ts.evaluateTacticalMoves Go.evaluateTacticalMoves
  by_cases hp : state.status ≠ .playing
  · rw [if_pos hp, if_pos hp]
    rfl
  rw [if_neg hp, if_neg hp]
  have hrescue : (((Ts.sortedTowers state).filter fun t => t.owner = team).findSome?
      (Ts.rescueMoves state team multiplier)).map (List.map moveOf)
        = (Go.sortedIds state).findSome? (Go.rescueMoves state team multiplier) := by
    rw [sortedTowers_eq h, findSome?_filter, List.findSome?_map, map_findSome?]
    refine findSome?_congr fun id hid => ?_
    rw [← rescueMoves_eq h hv hteam hm (territory_id h hid), Function.comp_apply]
    by_cases ho : (state.territory id).owner = team <;> simp [ho]
  have hcapture : (((Ts.sortedTowers state).filter fun t => t.owner ≠ team).foldl
      (fun best target => Ts.keepBest best (Ts.captureMoves state team multiplier target))
        none).map attackOf
      = (Go.sortedIds state).foldl (fun best id =>
          Go.keepBest best (Go.captureMoves state team multiplier id)) none := by
    rw [sortedTowers_eq h, List.foldl_filter, List.foldl_map]
    refine foldl_lockstep (R := fun (a : Option (ℤ × List Ts.AiMove)) b =>
      a.map attackOf = b) ?_ rfl
    intro a b id hid hab
    rw [← hab, ← captureMoves_eq h hv hteam hm (territory_id h hid)]
    by_cases ho : (state.territory id).owner = team
    · have hd : decide ((state.territory id).owner ≠ team) = false := by simp [ho]
      rw [hd, if_neg (not_not.mpr ho)]
      cases a <;> rfl
    · have hd : decide ((state.territory id).owner ≠ team) = true := by simp [ho]
      rw [hd, if_pos ho]
      exact keepBest_eq _ _
  have hsupply : ((((Ts.sortedTowers state).filter fun t => t.owner = team).filter fun t =>
      Ts.frontier state team t).findSome? (Ts.supplyMove state team multiplier)).map
        (List.map moveOf)
      = (Go.sortedIds state).findSome? (Go.supplyMove state team multiplier) := by
    rw [List.filter_filter, sortedTowers_eq h, findSome?_filter, List.findSome?_map,
      map_findSome?]
    refine findSome?_congr fun id hid => ?_
    rw [← supplyMove_eq h hu hv hteam hm (territory_id h hid), Function.comp_apply]
    by_cases ho : (state.territory id).owner = team <;>
      by_cases hf : Ts.frontier state team (state.territory id) = true <;> simp [ho, hf]
  dsimp only
  rw [← hrescue]
  cases ((Ts.sortedTowers state).filter fun t => t.owner = team).findSome?
      (Ts.rescueMoves state team multiplier) with
  | some moves => rfl
  | none =>
    dsimp only [Option.map_none]
    rw [← hcapture]
    cases ((Ts.sortedTowers state).filter fun t => t.owner ≠ team).foldl
      (fun best target => Ts.keepBest best (Ts.captureMoves state team multiplier target))
        none with
    | none =>
      dsimp only [Option.map_none]
      rw [← hsupply]
      cases (((Ts.sortedTowers state).filter fun t => t.owner = team).filter fun t =>
        Ts.frontier state team t).findSome? (Ts.supplyMove state team multiplier) <;> rfl
    | some attack =>
      obtain ⟨score, moves⟩ := attack
      cases moves with
      | nil =>
        dsimp only [Option.map_some, attackOf, List.map_nil]
        rw [← hsupply]
        cases (((Ts.sortedTowers state).filter fun t => t.owner = team).filter fun t =>
          Ts.frontier state team t).findSome? (Ts.supplyMove state team multiplier) <;> rfl
      | cons m ms => rfl

end CrownClash.Parity
