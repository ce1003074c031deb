import CrownClash.Lib.Carry
import CrownClash.Parity.Simulation

/-!
# Parity: production loses nothing

A tower that a side holds and that stays below its capacity produces its rate, whatever the
lengths of the ticks and the multipliers are: what a tick cannot hand out as a whole unit is
carried to the next, and the snap onto an integer is wrong by less than its distance.  Both
engines make the tick of one tower by the same function (`generateUnits_eq`), so that
`generateUnits_carries` is proved once.

A tower whose rate is not positive does not produce at all, and drops what was left over.
-/

namespace CrownClash.Parity

open Lib

/-! ### One tower -/

theorem territoryProductionMultiplier_nonneg (type : TerritoryType) :
    0 ≤ Go.territoryProductionMultiplier type := by
  cases type <;> norm_num [Go.territoryProductionMultiplier, Go.barracksProductionMultiplier]

/-- What a tower gains in a tick. -/
def gainOf (t : Territory) (multiplier delta : ℚ) : ℚ :=
  t.productionRate * Go.territoryProductionMultiplier t.type * multiplier * delta

/-- **The tick of one tower hands out what it gains**, up to the snap. -/
theorem generateUnits_carries {t : Territory} {accumulator multiplier delta : ℚ}
    (ho : t.owner ≠ .neutral) (hr : 0 < t.productionRate) (hm : 0 ≤ multiplier) (hd : 0 ≤ delta)
    (ha : 0 ≤ accumulator ∧ accumulator < 1)
    (hbelow : (Go.generateUnits t accumulator multiplier delta).1.units < t.maxUnits) :
    (0 ≤ (Go.generateUnits t accumulator multiplier delta).2 ∧
        (Go.generateUnits t accumulator multiplier delta).2 < 1) ∧
      |((((Go.generateUnits t accumulator multiplier delta).1.units - t.units : ℤ) : ℚ)
          + (Go.generateUnits t accumulator multiplier delta).2)
          - (accumulator + gainOf t multiplier delta)| < Go.productionAccumulatorEpsilon := by
  have hunits := Go.le_generateUnits_units t accumulator multiplier delta
  have hopen : ¬ (t.owner = .neutral ∨ t.productionRate ≤ 0 ∨ t.units ≥ t.maxUnits) := by
    rintro (hn | hz | hu)
    · exact ho hn
    · exact absurd hr (not_lt.mpr hz)
    · omega
  have hgain : 0 ≤ gainOf t multiplier delta :=
    mul_nonneg (mul_nonneg (mul_nonneg hr.le (territoryProductionMultiplier_nonneg t.type)) hm) hd
  have hraw : 0 ≤ accumulator + gainOf t multiplier delta := add_nonneg ha.1 hgain
  have hε : (0 : ℚ) < Go.productionAccumulatorEpsilon := by
    norm_num [Go.productionAccumulatorEpsilon]
  unfold Go.generateUnits at hbelow ⊢
  rw [if_neg hopen] at hbelow ⊢
  dsimp only at hbelow ⊢
  rw [show accumulator + t.productionRate * Go.territoryProductionMultiplier t.type * multiplier
    * delta = accumulator + gainOf t multiplier delta from rfl] at hbelow ⊢
  rw [roundHalfAway_of_nonneg hraw] at hbelow ⊢
  have herr := abs_snap_sub_lt hε (roundHalfUp (accumulator + gainOf t multiplier delta))
    (accumulator + gainOf t multiplier delta)
  have hpos : 0 ≤ snap Go.productionAccumulatorEpsilon
      (roundHalfUp (accumulator + gainOf t multiplier delta))
      (accumulator + gainOf t multiplier delta) := snapped_nonneg hraw
  generalize snap Go.productionAccumulatorEpsilon
    (roundHalfUp (accumulator + gainOf t multiplier delta))
    (accumulator + gainOf t multiplier delta) = current at herr hpos hbelow ⊢
  by_cases hwhole : ⌊current⌋ > 0
  · rw [if_pos hwhole] at hbelow ⊢
    dsimp only at hbelow ⊢
    have hroom : max 0 (t.maxUnits - t.units) = t.maxUnits - t.units := by omega
    rw [hroom] at hbelow ⊢
    have hall : min ⌊current⌋ (t.maxUnits - t.units) = ⌊current⌋ := by omega
    rw [hall, add_sub_cancel_left, add_sub_cancel]
    exact ⟨sub_floor_fraction current, herr⟩
  · rw [if_neg hwhole, sub_self, Int.cast_zero, zero_add]
    exact ⟨⟨hpos, lt_one_of_floor hwhole⟩, herr⟩

/-- **No tick raises a tower above its capacity.** -/
theorem generateUnits_cap (t : Territory) (accumulator multiplier delta : ℚ) :
    (Go.generateUnits t accumulator multiplier delta).1.units ≤ max t.units t.maxUnits := by
  unfold Go.generateUnits
  dsimp only
  split
  · exact le_max_left _ _
  · split
    · show t.units + min _ (max 0 (t.maxUnits - t.units)) ≤ _
      omega
    · exact le_max_left _ _

/-! ### The ticks of the client -/

/-- A call of `tickUnitGeneration`; between the calls the towers may change. -/
structure GenerationTick where
  territories : Record String Territory
  deltaSeconds : ℚ
  productionMultipliers : Option (Record String ℚ)

def GenerationTick.result (c : GenerationTick) (accumulators : Accumulators) :
    Ts.GenerationUpdateResult :=
  Ts.tickUnitGeneration c.territories accumulators c.deltaSeconds c.productionMultipliers

/-- The accumulators are carried from call to call. -/
def clientTick (accumulators : Accumulators) (c : GenerationTick) : Accumulators :=
  (c.result accumulators).accumulators

/-- The tower as a call finds it. -/
def GenerationTick.tower (c : GenerationTick) (id : String) : Territory :=
  c.territories.getD id Territory.zero

def clientGranted (id : String) (accumulators : Accumulators) (c : GenerationTick) : ℤ :=
  ((c.result accumulators).territories.getD id Territory.zero).units - (c.tower id).units

def clientGain (id : String) (c : GenerationTick) : ℚ :=
  gainOf (c.tower id) (tsMultiplier c.productionMultipliers id) c.deltaSeconds

/-- A side holds the tower, the call takes no negative time or multiplier, and the tower stays
below its capacity. -/
structure ClientHolds (id : String) (accumulators : Accumulators) (c : GenerationTick) : Prop where
  present : id ∈ c.territories.keys
  owned : (c.tower id).owner ≠ .neutral
  delta : 0 ≤ c.deltaSeconds
  multiplier : 0 ≤ tsMultiplier c.productionMultipliers id
  below : ((c.result accumulators).territories.getD id Territory.zero).units < (c.tower id).maxUnits

/-- The call as the tick of the one tower. -/
theorem clientTick_tower {id : String} {c : GenerationTick} (accumulators : Accumulators)
    (h : id ∈ c.territories.keys) :
    (c.result accumulators).territories.getD id Territory.zero
        = (Go.generateUnits (c.tower id) (accumulators.getD id 0)
            (tsMultiplier c.productionMultipliers id) c.deltaSeconds).1 ∧
      (clientTick accumulators c).getD id 0
        = (Go.generateUnits (c.tower id) (accumulators.getD id 0)
            (tsMultiplier c.productionMultipliers id) c.deltaSeconds).2 := by
  obtain ⟨t, ht⟩ := Record.exists_get?_of_mem_keys h
  have htower : c.tower id = t := by
    rw [GenerationTick.tower, Record.getD, ht, Option.getD_some]
  have hsame := generateUnits_eq t (accumulators.getD id 0)
    (tsMultiplier c.productionMultipliers id) c.deltaSeconds
  constructor
  · rw [htower, ← hsame, GenerationTick.result, tickUnitGeneration_territories, Record.getD,
      Record.get?_map, ht, Option.map_some, Option.getD_some]
    rfl
  · rw [clientTick, GenerationTick.result, tickUnitGeneration_getD _ _ _ _ h]
    show (tsGenerated c.productionMultipliers accumulators c.deltaSeconds id
      (c.tower id)).accumulator = _
    rw [htower, ← hsame]
    rfl

/-! ### The ticks of the server -/

/-- A call of `tickGeneration`. -/
structure ServerTick where
  state : GameState
  delta : ℚ

def serverTick (accumulators : Accumulators) (c : ServerTick) : Accumulators :=
  (Go.tickGeneration c.state accumulators c.delta).2

def serverGranted (id : String) (accumulators : Accumulators) (c : ServerTick) : ℤ :=
  ((Go.tickGeneration c.state accumulators c.delta).1.territory id).units
    - (c.state.territory id).units

def serverGain (id : String) (c : ServerTick) : ℚ :=
  gainOf (c.state.territory id) (Go.productionMultiplier c.state id) c.delta

/-- The same of the server, whose towers are those of the map. -/
structure ServerHolds (id : String) (accumulators : Accumulators) (c : ServerTick) : Prop where
  keys : c.state.territories.keys = Go.territoryOrderForBattlefield c.state.battlefieldId
  present : id ∈ c.state.territories.keys
  owned : (c.state.territory id).owner ≠ .neutral
  delta : 0 ≤ c.delta
  multiplier : 0 ≤ Go.productionMultiplier c.state id
  below : ((Go.tickGeneration c.state accumulators c.delta).1.territory id).units
    < (c.state.territory id).maxUnits

theorem serverTick_tower {id : String} {c : ServerTick} (accumulators : Accumulators)
    (hk : c.state.territories.keys = Go.territoryOrderForBattlefield c.state.battlefieldId)
    (h : id ∈ c.state.territories.keys) :
    (Go.tickGeneration c.state accumulators c.delta).1.territory id
        = (Go.generateUnits (c.state.territory id) (accumulators.getD id 0)
            (Go.productionMultiplier c.state id) c.delta).1 ∧
      (serverTick accumulators c).getD id 0
        = (Go.generateUnits (c.state.territory id) (accumulators.getD id 0)
            (Go.productionMultiplier c.state id) c.delta).2 := by
  obtain ⟨t, ht⟩ := Record.exists_get?_of_mem_keys h
  have htower : c.state.territory id = t := by
    rw [GameState.territory, Record.getD, ht, Option.getD_some]
  refine ⟨?_, Go.tickGeneration_accumulator accumulators c.delta hk h⟩
  rw [GameState.territory, Record.getD, Go.tickGeneration_territories accumulators c.delta hk,
    Record.get?_map, ht, Option.map_some, Option.getD_some, htower]
  rfl

theorem clientTick_carries {id : String} {accumulators : Accumulators} {c : GenerationTick}
    (h : ClientHolds id accumulators c) (hr : 0 < (c.tower id).productionRate)
    (ha : 0 ≤ accumulators.getD id 0 ∧ accumulators.getD id 0 < 1) :
    (0 ≤ (clientTick accumulators c).getD id 0 ∧ (clientTick accumulators c).getD id 0 < 1) ∧
      |(clientGranted id accumulators c + (clientTick accumulators c).getD id 0)
          - (accumulators.getD id 0 + clientGain id c)| < Go.productionAccumulatorEpsilon := by
  obtain ⟨htower, hleft⟩ := clientTick_tower accumulators h.present
  have hbelow := h.below
  rw [htower] at hbelow
  rw [hleft, clientGranted, htower]
  exact generateUnits_carries h.owned hr h.multiplier h.delta ha hbelow

theorem serverTick_carries {id : String} {accumulators : Accumulators} {c : ServerTick}
    (h : ServerHolds id accumulators c) (hr : 0 < (c.state.territory id).productionRate)
    (ha : 0 ≤ accumulators.getD id 0 ∧ accumulators.getD id 0 < 1) :
    (0 ≤ (serverTick accumulators c).getD id 0 ∧ (serverTick accumulators c).getD id 0 < 1) ∧
      |(serverGranted id accumulators c + (serverTick accumulators c).getD id 0)
          - (accumulators.getD id 0 + serverGain id c)| < Go.productionAccumulatorEpsilon := by
  obtain ⟨htower, hleft⟩ := serverTick_tower accumulators h.keys h.present
  have hbelow := h.below
  rw [htower] at hbelow
  rw [hleft, serverGranted, htower]
  exact generateUnits_carries h.owned hr h.multiplier h.delta ha hbelow

/-! ### Every run -/

/-- The fraction stays a fraction, and what the run hands out is what the tower gains, up to
less than a snap for each tick. -/
def CarriesAll {C : Type} (step : Accumulators → C → Accumulators) (id : String)
    (granted : Accumulators → C → ℤ) (gain : C → ℚ) (accumulators : Accumulators)
    (calls : List C) : Prop :=
  Always step (fun a => 0 ≤ a.getD id 0 ∧ a.getD id 0 < 1) accumulators calls ∧
    (calls ≠ [] → |(handedOut step granted accumulators calls
        + (calls.foldl step accumulators).getD id 0)
        - (accumulators.getD id 0 + (calls.map gain).sum)|
      < calls.length * Go.productionAccumulatorEpsilon)

/-- **Production loses nothing**, on either engine, at a tower that a side holds, whose rate is
positive and that stays below its capacity; and no tick of either engine raises any tower above
its capacity. -/
theorem production_loses_nothing {id : String} {accumulators : Accumulators}
    (ha : 0 ≤ accumulators.getD id 0 ∧ accumulators.getD id 0 < 1) :
    (∀ calls : List GenerationTick,
        EachStep clientTick (fun a c => ClientHolds id a c ∧ 0 < (c.tower id).productionRate)
          accumulators calls →
            CarriesAll clientTick id (clientGranted id) (clientGain id) accumulators calls) ∧
      (∀ calls : List ServerTick,
        EachStep serverTick
          (fun a c => ServerHolds id a c ∧ 0 < (c.state.territory id).productionRate)
          accumulators calls →
            CarriesAll serverTick id (serverGranted id) (serverGain id) accumulators calls) ∧
      (∀ (c : GenerationTick) (a : Accumulators), id ∈ c.territories.keys →
        ((c.result a).territories.getD id Territory.zero).units
          ≤ max (c.tower id).units (c.tower id).maxUnits) ∧
      (∀ (c : ServerTick) (a : Accumulators),
        c.state.territories.keys = Go.territoryOrderForBattlefield c.state.battlefieldId →
        id ∈ c.state.territories.keys →
          ((Go.tickGeneration c.state a c.delta).1.territory id).units
            ≤ max (c.state.territory id).units (c.state.territory id).maxUnits) := by
  refine ⟨fun calls hcalls => ?_, fun calls hcalls => ?_, fun c a hid => ?_, fun c a hk hid => ?_⟩
  · have hrun := @carry_run _ _ clientTick (clientGranted id) (fun a => a.getD id 0)
      (clientGain id) (fun a c => ClientHolds id a c ∧ 0 < (c.tower id).productionRate)
      Go.productionAccumulatorEpsilon
      (fun a c hc hfraction => clientTick_carries hc.1 hc.2 hfraction) calls accumulators ha hcalls
    exact ⟨hrun.1, hrun.2.2⟩
  · have hrun := @carry_run _ _ serverTick (serverGranted id) (fun a => a.getD id 0)
      (serverGain id) (fun a c => ServerHolds id a c ∧ 0 < (c.state.territory id).productionRate)
      Go.productionAccumulatorEpsilon
      (fun a c hc hfraction => serverTick_carries hc.1 hc.2 hfraction) calls accumulators ha hcalls
    exact ⟨hrun.1, hrun.2.2⟩
  · rw [(clientTick_tower a hid).1]
    exact generateUnits_cap _ _ _ _
  · rw [(serverTick_tower a hk hid).1]
    exact generateUnits_cap _ _ _ _


/-! ### Fixed towers -/

/-- A tower of the client by itself, a fiftieth of a second long. -/
def loneTick (rate : ℚ) : GenerationTick where
  territories := (Record.empty : Record String Territory).set "keep"
    { Territory.zero with
      id := "keep"
      owner := .player
      units := 5
      maxUnits := 40
      productionRate := rate }
  deltaSeconds := 1 / 50
  productionMultipliers := none

/-- Half a unit at the tower. -/
def halfUnit : Accumulators := (Record.empty : Accumulators).set "keep" (1 / 2)

theorem loneTick_holds (rate : ℚ) (a : Accumulators)
    (h : ((loneTick rate).result a |>.territories.getD "keep" Territory.zero).units < 40) :
    ClientHolds "keep" a (loneTick rate) where
  present := List.mem_cons_self
  owned := fun h => nomatch h
  delta := by norm_num [loneTick]
  multiplier := by norm_num [loneTick, tsMultiplier]
  below := h

theorem production_loses_nothing_keep :
    CarriesAll clientTick "keep" (clientGranted "keep") (clientGain "keep") halfUnit
      [loneTick 1, loneTick 1] := by
  refine (@production_loses_nothing "keep" halfUnit (by decide +kernel)).1
    [loneTick 1, loneTick 1] (eachStep_cons.mpr ⟨⟨loneTick_holds 1 _ ?_, ?_⟩,
      eachStep_cons.mpr ⟨⟨loneTick_holds 1 _ ?_, ?_⟩, eachStep_nil⟩⟩)
  · decide +kernel
  · decide +kernel
  · decide +kernel
  · decide +kernel

/-- A tower that does not produce drops the half unit that was left over. -/
theorem production_drops_fraction :
    (0 ≤ halfUnit.getD "keep" 0 ∧ halfUnit.getD "keep" 0 < 1) ∧
      EachStep clientTick (ClientHolds "keep") halfUnit [loneTick 0] ∧
      ¬ CarriesAll clientTick "keep" (clientGranted "keep") (clientGain "keep") halfUnit
        [loneTick 0] := by
  refine ⟨by decide +kernel, eachStep_cons.mpr ⟨loneTick_holds 0 _ (by decide +kernel),
    eachStep_nil⟩, ?_⟩
  rintro ⟨-, hless⟩
  have hlt := hless (List.cons_ne_nil _ _)
  have hgranted : handedOut clientTick (clientGranted "keep") halfUnit [loneTick 0] = 0 := by
    decide +kernel
  have hend : ([loneTick 0].foldl clientTick halfUnit).getD "keep" 0 = 0 := by decide +kernel
  have hstart : halfUnit.getD "keep" 0 = 1 / 2 := by decide +kernel
  have hgain : ([loneTick 0].map (clientGain "keep")).sum = 0 := by decide +kernel
  rw [hgranted, hend, hstart, hgain] at hlt
  norm_num [Go.productionAccumulatorEpsilon, abs_of_neg] at hlt

end CrownClash.Parity
