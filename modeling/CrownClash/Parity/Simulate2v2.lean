import CrownClash.Go.Simulate2v2
import CrownClash.Go.BotRun
import CrownClash.Parity.Abilities
import CrownClash.Ts.Pvp2v2

/-!
# Where the two 2v2 replays agree

The engines run the same replay, but the client tests its input differently in
two places.  It refuses a tick or a server sequence from `2 ^ 53` on, which the
server reads; and it takes a name that every object inherits for a territory,
where the server finds none.  `StaysClear` says that a replay meets neither: no
action that is checked has such a number, no spawn that is looked up and no
source or target that an action reaches in the course of the battle has such a
name.  `simulate2v2Battle_eq` is the agreement of the engines under it.
-/

namespace CrownClash.Parity

open Lib

/-! ### The log -/

/-- The client can count up to the numbers that it gets to check. -/
def NumbersSafe (action : CanonicalTwoVTwoAction) : Prop :=
  action.schemaVersion = matchSchemaVersion2 →
    action.tick < 2 ^ 53 ∧ (0 ≤ action.tick → action.serverSeq < 2 ^ 53)

/-- Every action that the check of the log gets to is `NumbersSafe`. -/
def LogSafe : LogCheck → List CanonicalTwoVTwoAction → Prop
  | _, [] => True
  | c, action :: rest =>
    NumbersSafe action ∧ (Go.checkAction c action = .ok () → LogSafe (c.add action) rest)

theorem compareCanonicalActions_neg (a b : CanonicalTwoVTwoAction) :
    decide (Ts.compareCanonicalActions a b < 0) = Go.canonicalBefore a b := by
  unfold Ts.compareCanonicalActions Go.canonicalBefore
  simp only [ne_eq, sub_eq_zero]
  by_cases h1 : a.tick = b.tick
  · rw [if_neg (not_not.mpr h1), if_neg (not_not.mpr h1)]
    by_cases h2 : a.serverSeq = b.serverSeq
    · rw [if_neg (not_not.mpr h2), if_neg (not_not.mpr h2)]
      by_cases h3 : a.slot = b.slot
      · rw [if_neg (not_not.mpr h3), if_neg (not_not.mpr h3)]
        exact decide_eq_decide.mpr sub_neg
      · rw [if_pos h3, if_pos h3]
        exact decide_eq_decide.mpr sub_neg
    · rw [if_pos h2, if_pos h2]
      exact decide_eq_decide.mpr sub_neg
  · rw [if_pos h1, if_pos h1]
    exact decide_eq_decide.mpr sub_neg

theorem mem_twoVTwoSlots {slot : ℤ} :
    slot ∉ Ts.twoVTwoSlots ↔ slot < 0 ∨ slot ≥ Go.twoVTwoSlotCount := by
  unfold Ts.twoVTwoSlots Go.twoVTwoSlotCount
  simp only [List.mem_cons, List.not_mem_nil, or_false]
  omega

/-- The counters of the check stay small. -/
def CountersBelow (n : ℤ) (c : LogCheck) : Prop :=
  ∀ slot, 0 ≤ c.nextClientSequence slot ∧ c.nextClientSequence slot ≤ n

theorem CountersBelow.add {n : ℤ} {c : LogCheck} (h : CountersBelow n c)
    (action : CanonicalTwoVTwoAction) : CountersBelow (n + 1) (c.add action) := by
  intro slot
  have hs := h slot
  unfold LogCheck.add
  dsimp only
  split <;> omega

theorem isSafeInteger_iff {n : ℤ} :
    Ts.isSafeInteger n = true ↔ -(2 ^ 53 - 1) ≤ n ∧ n ≤ 2 ^ 53 - 1 := by
  unfold Ts.isSafeInteger
  rw [Bool.and_eq_true, decide_eq_true_iff, decide_eq_true_iff]

/-- **Both engines check an action alike** when the client can count its numbers. -/
theorem checkAction_eq {n : ℤ} {c : LogCheck} (hc : CountersBelow n c) (hn : n ≤ 2 ^ 53 - 1)
    {action : CanonicalTwoVTwoAction} (h : NumbersSafe action) :
    Ts.checkAction c action = Go.checkAction c action := by
  have hb : ∀ {p q : Prop} [Decidable p] [Decidable q] {b : Bool},
      ((!b || decide q) = true ↔ p) → ∀ x y : Except TwoVTwoErrorCode Unit,
        (if (!b || decide q) = true then x else y) = if p then x else y := by
    intro p q _ _ b hiff x y
    by_cases hp : p
    · rw [if_pos hp, if_pos (hiff.mpr hp)]
    · rw [if_neg hp, if_neg fun hq => hp (hiff.mp hq)]
  unfold Ts.checkAction Go.checkAction
  by_cases hv : action.schemaVersion ≠ matchSchemaVersion2
  · rw [if_pos hv, if_pos hv]
  rw [if_neg hv, if_neg hv]
  obtain ⟨htick, hseq⟩ := h (not_not.mp hv)
  have h1 : (!Ts.isSafeInteger action.tick || decide (action.tick < 0)) = true
      ↔ action.tick < 0 := by
    rw [Bool.or_eq_true, Bool.not_eq_true', ← Bool.not_eq_true, isSafeInteger_iff,
      decide_eq_true_iff]
    omega
  rw [hb h1]
  by_cases ht : action.tick < 0
  · rw [if_pos ht, if_pos ht]
  rw [if_neg ht, if_neg ht]
  have hseq' := hseq (by omega)
  have h2 : (!Ts.isSafeInteger action.serverSeq || decide (action.serverSeq < 0)) = true
      ↔ action.serverSeq < 0 := by
    rw [Bool.or_eq_true, Bool.not_eq_true', ← Bool.not_eq_true, isSafeInteger_iff,
      decide_eq_true_iff]
    omega
  rw [hb h2]
  by_cases hs : action.serverSeq < 0
  · rw [if_pos hs, if_pos (Or.inl hs)]
  by_cases hm : action.serverSeq ∈ c.seenServerSequences
  · rw [if_neg hs, if_pos hm, if_pos (Or.inr hm)]
  rw [if_neg hs, if_neg hm, if_neg (not_or.mpr ⟨hs, hm⟩)]
  by_cases hslot : action.slot ∉ Ts.twoVTwoSlots
  · rw [if_pos hslot, if_pos (mem_twoVTwoSlots.mp hslot)]
  rw [if_neg hslot, if_neg fun hq => hslot (mem_twoVTwoSlots.mpr hq)]
  have h3 : (!Ts.isSafeInteger action.clientSeq
      || decide (action.clientSeq ≠ c.nextClientSequence action.slot)) = true
        ↔ action.clientSeq ≠ c.nextClientSequence action.slot := by
    have hcount := hc action.slot
    rw [Bool.or_eq_true, Bool.not_eq_true', ← Bool.not_eq_true, isSafeInteger_iff,
      decide_eq_true_iff]
    omega
  rw [hb h3]

theorem checkActions_eq : ∀ (actions : List CanonicalTwoVTwoAction) {n : ℤ} {c : LogCheck},
    CountersBelow n c → n + actions.length ≤ 2 ^ 53 - 1 → LogSafe c actions →
      Ts.checkActions c actions = Go.checkActions c actions := by
  intro actions
  induction actions with
  | nil => intro n c _ _ _; rfl
  | cons action rest ih =>
    intro n c hc hn h
    rw [List.length_cons] at hn
    push_cast at hn
    unfold Ts.checkActions Go.checkActions
    rw [checkAction_eq hc (by omega) h.1]
    cases ha : Go.checkAction c action with
    | error e => rfl
    | ok u => exact ih (hc.add action) (by omega) (h.2 ha)

/-- **Both engines put the log into the same order and check it alike.** -/
theorem canonicalizeActions_eq {actions : List CanonicalTwoVTwoAction}
    (h : actions.length ≤ Go.twoVTwoDefaultMaxActions →
      LogSafe .start (sortBy Go.canonicalBefore actions)) :
    Ts.canonicalizeTwoVTwoActions actions Ts.defaultMaxActions
      = Go.canonicalizeActions actions Go.twoVTwoDefaultMaxActions := by
  unfold Ts.canonicalizeTwoVTwoActions Go.canonicalizeActions
  have hmax : Ts.defaultMaxActions = Go.twoVTwoDefaultMaxActions := rfl
  have hcmp : (fun a b => decide (Ts.compareCanonicalActions a b < 0)) = Go.canonicalBefore := by
    funext a b
    exact compareCanonicalActions_neg a b
  rw [hmax, hcmp]
  by_cases hl : actions.length > Go.twoVTwoDefaultMaxActions
  · rw [if_pos hl, if_pos hl]
    rfl
  · rw [if_neg hl, if_neg hl]
    dsimp only
    rw [checkActions_eq (n := 0) _ (fun _ => ⟨le_refl _, le_refl _⟩) ?_ (h (not_lt.mp hl))]
    rw [length_sortBy]
    have hle : actions.length ≤ 480 := not_lt.mp hl
    omega

/-! ### The order of arrival -/

theorem weakOrder_canonicalBefore : WeakOrder Go.canonicalBefore :=
  WeakOrder.lex CanonicalTwoVTwoAction.tick
    (WeakOrder.lex CanonicalTwoVTwoAction.serverSeq
      (weakOrder_lex CanonicalTwoVTwoAction.slot CanonicalTwoVTwoAction.clientSeq))

/-- Actions of which neither comes before the other share their server sequence. -/
theorem serverSeq_of_tie {a b : CanonicalTwoVTwoAction} (hab : Go.canonicalBefore a b = false)
    (hba : Go.canonicalBefore b a = false) : a.serverSeq = b.serverSeq := by
  unfold Go.canonicalBefore at hab hba
  by_cases htick : a.tick = b.tick
  · rw [if_neg (not_not.mpr htick)] at hab
    rw [if_neg (not_not.mpr htick.symm)] at hba
    by_contra hseq
    rw [if_pos hseq] at hab
    rw [if_pos (Ne.symm hseq)] at hba
    have h1 := of_decide_eq_false hab
    have h2 := of_decide_eq_false hba
    omega
  · rw [if_pos htick] at hab
    rw [if_pos (Ne.symm htick)] at hba
    have h1 := of_decide_eq_false hab
    have h2 := of_decide_eq_false hba
    omega

/-- A check that goes along a log and refuses a server sequence it has seen. -/
def RefusesRepeats (check : LogCheck → List CanonicalTwoVTwoAction → Except TwoVTwoErrorCode Unit) :
    Prop :=
  ∀ c action rest, check c (action :: rest) = .ok () →
    action.serverSeq ∉ c.seenServerSequences ∧ check (c.add action) rest = .ok ()

theorem RefusesRepeats.distinct
    {check : LogCheck → List CanonicalTwoVTwoAction → Except TwoVTwoErrorCode Unit}
    (h : RefusesRepeats check) : ∀ (actions : List CanonicalTwoVTwoAction) (c : LogCheck),
      check c actions = .ok () → (actions.map CanonicalTwoVTwoAction.serverSeq).Nodup ∧
        ∀ a ∈ actions, a.serverSeq ∉ c.seenServerSequences := by
  intro actions
  induction actions with
  | nil =>
    intro c _
    exact ⟨List.nodup_nil, fun a ha => absurd ha List.not_mem_nil⟩
  | cons action rest ih =>
    intro c hok
    obtain ⟨hnew, hrest⟩ := h c action rest hok
    obtain ⟨hnodup, hseen⟩ := ih (c.add action) hrest
    constructor
    · rw [List.map_cons, List.nodup_cons]
      refine ⟨fun hmem => ?_, hnodup⟩
      obtain ⟨a, ha, he⟩ := List.mem_map.mp hmem
      exact hseen a ha (he ▸ List.mem_cons_self)
    · intro a ha
      rcases List.mem_cons.mp ha with rfl | ha
      · exact hnew
      · exact fun hmem => hseen a ha (List.mem_cons_of_mem _ hmem)

theorem refusesRepeats_go : RefusesRepeats Go.checkActions := by
  intro c action rest h
  unfold Go.checkActions at h
  cases ha : Go.checkAction c action with
  | error e =>
    rw [ha] at h
    cases h
  | ok u =>
    rw [ha] at h
    refine ⟨fun hmem => ?_, h⟩
    unfold Go.checkAction at ha
    rw [if_pos (Or.inr hmem)] at ha
    split at ha
    · cases ha
    · split at ha
      · cases ha
      · cases ha

theorem refusesRepeats_ts : RefusesRepeats Ts.checkActions := by
  intro c action rest h
  unfold Ts.checkActions at h
  cases ha : Ts.checkAction c action with
  | error e =>
    rw [ha] at h
    cases h
  | ok u =>
    rw [ha] at h
    refine ⟨fun hmem => ?_, h⟩
    unfold Ts.checkAction at ha
    rw [if_pos hmem] at ha
    split at ha
    · cases ha
    · split at ha
      · cases ha
      · split at ha
        · cases ha
        · cases ha

/-- Sort the log, check it along the order, and give it back. -/
def canonicalize (check : LogCheck → List CanonicalTwoVTwoAction → Except TwoVTwoErrorCode Unit)
    (actions : List CanonicalTwoVTwoAction) (maxActions : ℕ) :
    Except TwoVTwoErrorCode (List CanonicalTwoVTwoAction) :=
  if actions.length > maxActions then .error .tooManyActions
  else (check .start (sortBy Go.canonicalBefore actions)).map fun _ =>
    sortBy Go.canonicalBefore actions

theorem canonicalize_ok
    {check : LogCheck → List CanonicalTwoVTwoAction → Except TwoVTwoErrorCode Unit}
    {actions canonical : List CanonicalTwoVTwoAction} {maxActions : ℕ} :
    canonicalize check actions maxActions = .ok canonical ↔
      actions.length ≤ maxActions ∧
        check .start (sortBy Go.canonicalBefore actions) = .ok () ∧
          canonical = sortBy Go.canonicalBefore actions := by
  unfold canonicalize
  by_cases hl : actions.length > maxActions
  · rw [if_pos hl]
    exact ⟨fun h => (nomatch h), fun h => absurd h.1 (not_le.mpr hl)⟩
  · rw [if_neg hl]
    cases hk : check .start (sortBy Go.canonicalBefore actions) with
    | error e => exact ⟨fun h => (nomatch h), fun h => (nomatch h.2.1)⟩
    | ok u =>
      constructor
      · intro h
        exact ⟨not_lt.mp hl, rfl, (Except.ok.inj h).symm⟩
      · intro h
        rw [h.2.2]
        rfl

section Arrival

variable {check : LogCheck → List CanonicalTwoVTwoAction → Except TwoVTwoErrorCode Unit}
variable {actions arrived canonical : List CanonicalTwoVTwoAction} {maxActions : ℕ}

/-- A log that is accepted is accepted in every order of arrival, and sorted alike. -/
theorem canonicalize_perm (hcheck : RefusesRepeats check) (hperm : actions.Perm arrived)
    (h : canonicalize check actions maxActions = .ok canonical) :
    canonicalize check arrived maxActions = .ok canonical := by
  obtain ⟨hl, hk, rfl⟩ := canonicalize_ok.mp h
  have hnodup : (actions.map CanonicalTwoVTwoAction.serverSeq).Nodup :=
    ((perm_sortBy Go.canonicalBefore actions).map _).nodup_iff.mp
      (hcheck.distinct _ _ hk).1
  have hsame : sortBy Go.canonicalBefore actions = sortBy Go.canonicalBefore arrived := by
    refine sortBy_perm_of_separates weakOrder_canonicalBefore hperm fun a ha b hb hab hba => ?_
    exact List.inj_on_of_nodup_map hnodup ha hb (serverSeq_of_tie hab hba)
  rw [hsame] at hk ⊢
  exact canonicalize_ok.mpr ⟨hperm.length_eq ▸ hl, hk, rfl⟩

/-- The canonical log is canonical. -/
theorem canonicalize_canonical (h : canonicalize check actions maxActions = .ok canonical) :
    canonicalize check canonical maxActions = .ok canonical := by
  obtain ⟨hl, hk, rfl⟩ := canonicalize_ok.mp h
  have hsorted : sortBy Go.canonicalBefore (sortBy Go.canonicalBefore actions)
      = sortBy Go.canonicalBefore actions :=
    sortBy_of_pairwise (pairwise_sortBy weakOrder_canonicalBefore actions)
  refine canonicalize_ok.mpr ⟨?_, ?_, hsorted.symm⟩
  · rw [length_sortBy]
    exact hl
  · rw [hsorted]
    exact hk

/-- Both refused, or both accepted with the same log. -/
theorem canonicalize_either (hcheck : RefusesRepeats check) (hperm : actions.Perm arrived) :
    ((∃ e, canonicalize check actions maxActions = .error e) ∧
      ∃ e, canonicalize check arrived maxActions = .error e) ∨
    ∃ canonical, canonicalize check actions maxActions = .ok canonical ∧
      canonicalize check arrived maxActions = .ok canonical := by
  cases h : canonicalize check actions maxActions with
  | ok canonical => exact Or.inr ⟨canonical, rfl, canonicalize_perm hcheck hperm h⟩
  | error e =>
    cases h' : canonicalize check arrived maxActions with
    | ok canonical =>
      rw [canonicalize_perm hcheck hperm.symm h'] at h
      cases h
    | error e' => exact Or.inl ⟨⟨e, rfl⟩, ⟨e', rfl⟩⟩

end Arrival

theorem canonicalizeActions_go (actions : List CanonicalTwoVTwoAction) (maxActions : ℕ) :
    Go.canonicalizeActions actions maxActions = canonicalize Go.checkActions actions maxActions := by
  unfold Go.canonicalizeActions canonicalize
  split
  · rfl
  · dsimp only
    cases Go.checkActions .start (sortBy Go.canonicalBefore actions) <;> rfl

theorem canonicalizeTwoVTwoActions_ts (actions : List CanonicalTwoVTwoAction) (maxActions : ℕ) :
    Ts.canonicalizeTwoVTwoActions actions maxActions
      = canonicalize Ts.checkActions actions maxActions := by
  have hcmp : (fun a b => decide (Ts.compareCanonicalActions a b < 0)) = Go.canonicalBefore := by
    funext a b
    exact compareCanonicalActions_neg a b
  unfold Ts.canonicalizeTwoVTwoActions canonicalize
  rw [hcmp]
  split
  · rfl
  · dsimp only
    cases Ts.checkActions .start (sortBy Go.canonicalBefore actions) <;> rfl

/-- **The canonical order does not depend on the order of arrival**, in either engine: a
log and a rearrangement of it are both refused or both give the same canonical log, and
the canonical log gives itself. -/
theorem canonical_order {actions arrived : List CanonicalTwoVTwoAction}
    (hperm : actions.Perm arrived) (maxActions : ℕ) :
    (((∃ e, Go.canonicalizeActions actions maxActions = .error e) ∧
        ∃ e, Go.canonicalizeActions arrived maxActions = .error e) ∨
      ∃ canonical, Go.canonicalizeActions actions maxActions = .ok canonical ∧
        Go.canonicalizeActions arrived maxActions = .ok canonical) ∧
    (((∃ e, Ts.canonicalizeTwoVTwoActions actions maxActions = .error e) ∧
        ∃ e, Ts.canonicalizeTwoVTwoActions arrived maxActions = .error e) ∨
      ∃ canonical, Ts.canonicalizeTwoVTwoActions actions maxActions = .ok canonical ∧
        Ts.canonicalizeTwoVTwoActions arrived maxActions = .ok canonical) ∧
    (∀ canonical, Go.canonicalizeActions actions maxActions = .ok canonical →
      Go.canonicalizeActions canonical maxActions = .ok canonical) ∧
    ∀ canonical, Ts.canonicalizeTwoVTwoActions actions maxActions = .ok canonical →
      Ts.canonicalizeTwoVTwoActions canonical maxActions = .ok canonical := by
  simp only [canonicalizeActions_go, canonicalizeTwoVTwoActions_ts]
  exact ⟨canonicalize_either refusesRepeats_go hperm,
    canonicalize_either refusesRepeats_ts hperm, fun canonical h => canonicalize_canonical h,
    fun canonical h => canonicalize_canonical h⟩

/-- Two actions of one tick, whichever arrives first. -/
theorem canonical_order_two : ∃ canonical,
    Go.canonicalizeActions [⟨2, 5, 1, 2, 0, "b", "a"⟩, ⟨2, 5, 0, 0, 0, "a", "b"⟩] 480
      = .ok canonical ∧
    Go.canonicalizeActions [⟨2, 5, 0, 0, 0, "a", "b"⟩, ⟨2, 5, 1, 2, 0, "b", "a"⟩] 480
      = .ok canonical := by
  refine (canonical_order (List.Perm.swap ⟨2, 5, 0, 0, 0, "a", "b"⟩ ⟨2, 5, 1, 2, 0, "b", "a"⟩ [])
    480).1.resolve_left ?_
  rintro ⟨⟨e, he⟩, -⟩
  have hok : Go.canonicalizeActions [⟨2, 5, 1, 2, 0, "b", "a"⟩, ⟨2, 5, 0, 0, 0, "a", "b"⟩] 480
      = .ok [⟨2, 5, 0, 0, 0, "a", "b"⟩, ⟨2, 5, 1, 2, 0, "b", "a"⟩] := rfl
  rw [hok] at he
  cases he

/-! ### The start -/

/-- No spawn that is looked up is an inherited name. -/
def SpawnsReal (territories : Record String Territory) :
    List ℤ → List String → List TwoVTwoSpawnAssignment → Prop
  | _, _, [] => True
  | seenSlots, seenTerritories, assignment :: rest =>
    (0 ≤ assignment.slot → assignment.slot < Go.twoVTwoSlotCount →
      assignment.slot ∉ seenSlots → assignment.territoryId ∉ seenTerritories →
        Ts.lookup territories assignment.territoryId ≠ .inherited) ∧
    (Go.checkSpawn territories seenSlots seenTerritories assignment = .ok () →
      SpawnsReal territories (assignment.slot :: seenSlots)
        (assignment.territoryId :: seenTerritories) rest)

theorem lookup_of_none_of_ne {α : Type} {r : Record String α} {key : String}
    (h : r.get? key = none) (hne : Ts.lookup r key ≠ .inherited) : Ts.lookup r key = .missing :=
  (lookup_of_none h).resolve_left hne

theorem checkSpawns_eq (territories : Record String Territory) :
    ∀ (assignments : List TwoVTwoSpawnAssignment) (seenSlots : List ℤ)
      (seenTerritories : List String), SpawnsReal territories seenSlots seenTerritories assignments →
        Ts.validateSpawns territories seenSlots seenTerritories assignments
          = Go.checkSpawns territories seenSlots seenTerritories assignments := by
  intro assignments
  induction assignments with
  | nil => intro seenSlots seenTerritories _; rfl
  | cons assignment rest ih =>
    intro seenSlots seenTerritories h
    have hone : Ts.validateSpawn territories seenSlots seenTerritories assignment
        = Go.checkSpawn territories seenSlots seenTerritories assignment := by
      unfold Ts.validateSpawn Go.checkSpawn
      by_cases hslot : assignment.slot ∉ Ts.twoVTwoSlots
      · rw [if_pos hslot, if_pos (mem_twoVTwoSlots.mp hslot)]
      have hrange : ¬ (assignment.slot < 0 ∨ assignment.slot ≥ Go.twoVTwoSlotCount) :=
        fun hq => hslot (mem_twoVTwoSlots.mpr hq)
      rw [if_neg hslot, if_neg hrange]
      by_cases hseen : assignment.slot ∈ seenSlots ∨ assignment.territoryId ∈ seenTerritories
      · rw [if_pos hseen, if_pos hseen]
      rw [if_neg hseen, if_neg hseen]
      rw [not_or] at hrange hseen
      cases hg : territories.get? assignment.territoryId with
      | none =>
        rw [lookup_of_none_of_ne hg (h.1 (not_lt.mp hrange.1) (not_le.mp hrange.2) hseen.1 hseen.2)]
      | some t =>
        rw [lookup_of_some hg]
        rfl
    unfold Ts.validateSpawns Go.checkSpawns
    rw [hone]
    cases ha : Go.checkSpawn territories seenSlots seenTerritories assignment with
    | error e => rfl
    | ok u => exact ih _ _ (h.2 ha)

/-- **Both engines start the replay alike.** -/
theorem createInitial2v2GameState_eq {o : TwoVTwoSimulationOptions}
    (ht : 0 < o.timeLimitSeconds) (hv : o.gameplayRulesVersion = 1 ∨ o.gameplayRulesVersion = 2)
    (h : o.spawnAssignments.length = 4 → SpawnsReal o.territories [] [] o.spawnAssignments) :
    Ts.createInitial2v2GameState o = Go.initialState2v2 o := by
  unfold Ts.createInitial2v2GameState Go.initialState2v2 Go.createInitial2v2GameState
  by_cases hl : o.spawnAssignments.length = 4
  · have h1 : ¬ o.spawnAssignments.length ≠ Ts.twoVTwoSlots.length := not_not.mpr hl
    have h2 : ¬ (o.spawnAssignments.length : ℤ) ≠ Go.twoVTwoSlotCount := by
      rw [hl]
      exact not_not.mpr rfl
    have h3 : ¬ o.timeLimitSeconds ≤ 0 := not_le.mpr ht
    rw [if_neg h1, if_neg h2, if_neg h3, checkSpawns_eq o.territories _ _ _ (h hl)]
    cases Go.checkSpawns o.territories [] [] o.spawnAssignments with
    | error e => rfl
    | ok u => rcases hv with hv | hv <;> (rw [hv]; rfl)
  · have h1 : o.spawnAssignments.length ≠ Ts.twoVTwoSlots.length := hl
    have h2 : (o.spawnAssignments.length : ℤ) ≠ Go.twoVTwoSlotCount := by
      unfold Go.twoVTwoSlotCount
      omega
    rw [if_pos h1, if_pos h2]
    rfl

/-! ### The battle -/

/-- Both replays hold the same battle, on a map without tactical rules. -/
structure Twin2v2 (t : Ts.Replay2v2) (g : Go.Replay2v2) : Prop where
  ok : Go.BattleOk g.state
  rules : Go.usesTacticalRules g.state.gameplayRulesVersion = false
  state : t.state = g.state
  accumulators : AccEq g.state.territories.keys t.accumulators g.accumulators
  currentTick : t.currentTick = g.currentTick
  actionsProcessed : t.actionsProcessed = g.actionsProcessed

theorem Twin2v2.playing {t : Ts.Replay2v2} {g : Go.Replay2v2} (h : Twin2v2 t g) :
    t.playing = g.playing := by
  rw [Ts.Replay2v2.playing, Go.Replay2v2.playing, h.state]

section Battle

variable [MathLib]

/-- The keys and the rules of a state are those it has after a step. -/
theorem stepSimulation_frame {state : GameState} (h : Go.BattleOk state)
    (accumulators : Accumulators) {delta : ℚ} (hδ : 0 ≤ delta) :
    (Go.stepSimulation state accumulators delta).1.territories.keys = state.territories.keys ∧
      (Go.stepSimulation state accumulators delta).1.gameplayRulesVersion
        = state.gameplayRulesVersion := by
  by_cases hp : state.status = .playing
  · obtain ⟨hb, hv, -, -, -⟩ := Go.stepSimulation_clock h hp accumulators hδ
    refine ⟨?_, hv⟩
    rw [(Go.stepSimulation_ok h hδ).keys, hb, h.keys]
  · unfold Go.stepSimulation
    rw [if_pos hp]
    exact ⟨rfl, rfl⟩

theorem Twin2v2.step {t : Ts.Replay2v2} {g : Go.Replay2v2} (h : Twin2v2 t g) {delta delta' : ℚ}
    (hd : delta = delta') (hδ : 0 ≤ delta') : Twin2v2 (t.step delta) (g.step delta') := by
  subst hd
  obtain ⟨hs, ha⟩ := stepSimulation_eq h.ok hδ h.accumulators
  obtain ⟨hk, hv⟩ := stepSimulation_frame h.ok g.accumulators hδ
  unfold Ts.Replay2v2.step Go.Replay2v2.step
  rw [h.state]
  exact
    { ok := Go.stepSimulation_ok h.ok hδ
      rules := hv.symm ▸ h.rules
      state := hs
      accumulators := hk.symm ▸ ha
      currentTick := h.currentTick
      actionsProcessed := h.actionsProcessed }

/-- **Both clocks stop together.** -/
theorem stepUntil_twin {t : Ts.Replay2v2} {g : Go.Replay2v2} (h : Twin2v2 t g) (targetTick : ℤ) :
    Twin2v2 (Ts.stepUntil targetTick t) (Go.stepUntil targetTick g) := by
  unfold Ts.stepUntil Go.stepUntil
  rw [h.currentTick]
  refine whileLoop_lockstep (R := Twin2v2)
    (fun t g hr => by rw [hr.playing, hr.currentTick]) (fun t g _ hr => ?_) _ h
  have hs := hr.step (rfl : Ts.pvpSimulationTickSeconds = Go.pvpSimulationTick)
    Go.pvpSimulationTick_pos.le
  exact
    { ok := hs.ok
      rules := hs.rules
      state := hs.state
      accumulators := hs.accumulators
      currentTick := congrArg (· + 1) hr.currentTick
      actionsProcessed := hr.actionsProcessed }

/-- Without tactical rules there is a route between any two towers. -/
theorem dispatchArmy_none_eq {state : GameState} (h : Go.BattleOk state)
    (hv : Go.usesTacticalRules state.gameplayRulesVersion = false) {sourceId targetId : String}
    {source target : Territory} (hs : state.territories.get? sourceId = some source)
    (ht : state.territories.get? targetId = some target) (owner : Team) (ratio : ℚ)
    (armyId : String) (multiplier : ℚ) :
    Ts.dispatchArmy source target owner ratio armyId multiplier none
      = Ts.dispatchArmy source target owner ratio armyId multiplier (some state) := by
  obtain rfl : source.id = sourceId := h.ids sourceId source hs
  obtain rfl : target.id = targetId := h.ids targetId target ht
  unfold Ts.dispatchArmy
  by_cases hne : source.id = target.id
  · rw [if_pos hne, if_pos hne]
  by_cases ho : source.owner ≠ owner
  · rw [if_neg hne, if_neg hne, if_pos ho, if_pos ho]
  rw [if_neg hne, if_neg hne, if_neg ho, if_neg ho]
  have hroute : Ts.findDispatchRoute state source.id target.id owner
      = some [source.id, target.id] := by
    unfold Ts.findDispatchRoute
    simp only [hs, ht]
    rw [if_neg (not_or.mpr ⟨hne, ho⟩), usesTacticalRules_eq, hv]
    rfl
  have hv' : ¬ Ts.usesTacticalRules state.gameplayRulesVersion = true := by
    rw [usesTacticalRules_eq, hv]
    exact Bool.false_ne_true
  dsimp only
  rw [hroute]
  dsimp only
  rw [if_neg hv']

/-- Between two towers of the map a dispatch is refused in one way only. -/
theorem dispatchArmy_error {state : GameState} {sourceId targetId : String}
    {source target : Territory} (hs : state.territories.get? sourceId = some source)
    (ht : state.territories.get? targetId = some target) {owner : Team} {multiplier : ℚ}
    {armyId : String} {e : Go.DispatchError}
    (h : Go.dispatchArmy state sourceId targetId owner multiplier armyId = .error e) :
    e = .invalidDispatch := by
  unfold Go.dispatchArmy Go.dispatchArmyWithRatio at h
  simp only [hs, ht] at h
  split at h
  · cases h; rfl
  · split at h
    · cases h; rfl
    · split at h
      · cases h; rfl
      · cases h

/-- The client writes the source back under its own id. -/
theorem dispatchArmy_source_id {source target : Territory} {owner : Team} {ratio : ℚ}
    {armyId : String} {multiplier : ℚ} {state : Option GameState} {d : Ts.Dispatched}
    (h : Ts.dispatchArmy source target owner ratio armyId multiplier state = .ok d) :
    d.sourceTerritory.id = source.id := by
  unfold Ts.dispatchArmy at h
  by_cases hne : source.id = target.id
  · rw [if_pos hne] at h
    cases h
  by_cases ho : source.owner ≠ owner
  · rw [if_neg hne, if_pos ho] at h
    cases h
  rw [if_neg hne, if_neg ho] at h
  by_cases hu : Ts.calculateDispatchUnits source.units ratio ≤ 0
  · cases state with
    | none =>
      dsimp only at h
      rw [if_pos hu] at h
      cases h
    | some state =>
      dsimp only at h
      cases hr : Ts.findDispatchRoute state source.id target.id owner with
      | none => rw [hr] at h; cases h
      | some route =>
        rw [hr] at h
        dsimp only at h
        rw [if_pos hu] at h
        cases h
  · cases state with
    | none =>
      dsimp only at h
      rw [if_neg hu] at h
      cases h
      rfl
    | some state =>
      dsimp only at h
      cases hr : Ts.findDispatchRoute state source.id target.id owner with
      | none => rw [hr] at h; cases h
      | some route =>
        rw [hr] at h
        dsimp only at h
        rw [if_neg hu] at h
        cases h
        rfl

omit [MathLib] in
theorem simulationOwnerForSlot_ne (slot : ℤ) : Go.simulationOwnerForSlot slot ≠ .neutral := by
  unfold Go.simulationOwnerForSlot
  split <;> decide

/-- What both engines do to the replay when an action is sent. -/
theorem Twin2v2.dispatched {t : Ts.Replay2v2} {g : Go.Replay2v2} (h : Twin2v2 t g)
    {sourceId targetId : String} {owner : Team} (ho : owner ≠ .neutral) {multiplier : ℚ}
    {armyId : String} {state : GameState}
    (hd : Go.dispatchArmy g.state sourceId targetId owner multiplier armyId = .ok state) :
    Twin2v2 { t with state := state, actionsProcessed := t.actionsProcessed + 1 }
      { g with state := state, actionsProcessed := g.actionsProcessed + 1 } := by
  have hok := Go.dispatchArmyWithRatio_battleOk h.ok ho hd
  have hclock := Go.dispatchArmy_sameClock ho hd
  have hkeys : state.territories.keys = g.state.territories.keys := by
    rw [hok.keys, hclock.battlefieldId, h.ok.keys]
  exact
    { ok := hok
      rules := by
        change Go.usesTacticalRules state.gameplayRulesVersion = false
        rw [hclock.version]
        exact h.rules
      state := rfl
      accumulators := by
        change AccEq state.territories.keys _ _
        rw [hkeys]
        exact h.accumulators
      currentTick := h.currentTick
      actionsProcessed := congrArg (· + 1) h.actionsProcessed }

/-- The names an action is looked up by, in the state it arrives in. -/
def NamesReal (state : GameState) (action : CanonicalTwoVTwoAction) : Prop :=
  Ts.lookup state.territories action.sourceId ≠ .inherited ∧
    ((state.territories.get? action.sourceId).isSome →
      Ts.lookup state.territories action.targetId ≠ .inherited)

/-- **Both engines take an action alike** when its names are real or unknown. -/
theorem applyAction_twin {t : Ts.Replay2v2} {g : Go.Replay2v2} (h : Twin2v2 t g)
    (modifiersBySlot : ℤ → PlayerUpgradeModifiers) {action : CanonicalTwoVTwoAction}
    (hn : NamesReal g.state action) :
    match Go.applyAction modifiersBySlot g action with
    | .error e => Ts.applyAction modifiersBySlot t action = .error e
    | .ok g' => ∃ t', Ts.applyAction modifiersBySlot t action = .ok t' ∧ Twin2v2 t' g' := by
  unfold Go.applyAction Ts.applyAction
  dsimp only
  rw [h.state]
  cases hs : g.state.territories.get? action.sourceId with
  | none => rw [lookup_of_none_of_ne hs hn.1]
  | some source =>
    have hn2 := hn.2 (by rw [hs]; rfl)
    rw [lookup_of_some hs]
    cases ht : g.state.territories.get? action.targetId with
    | none => rw [lookup_of_none_of_ne ht hn2]
    | some target =>
      have howner : Ts.simulationOwnerForSlot action.slot
          = Go.simulationOwnerForSlot action.slot := rfl
      rw [lookup_of_some ht, howner]
      dsimp only
      by_cases ho : source.owner ≠ Go.simulationOwnerForSlot action.slot
      · rw [if_pos ho, if_pos ho]
      rw [if_neg ho, if_neg ho, dispatchArmy_none_eq h.ok h.rules hs ht]
      have hid : Ts.twoVTwoArmyId action = Go.twoVTwoArmyId action := rfl
      have hsid : source.id = action.sourceId := h.ok.ids action.sourceId source hs
      have hne := simulationOwnerForSlot_ne action.slot
      have hd := dispatchArmy_eq h.ok hs ht (Go.simulationOwnerForSlot action.slot) 0.5
        (Go.twoVTwoArmyId action) (modifiersBySlot action.slot).armySpeedMultiplier
      rw [hid]
      cases hgo : Go.dispatchArmy g.state action.sourceId action.targetId
          (Go.simulationOwnerForSlot action.slot)
          (modifiersBySlot action.slot).armySpeedMultiplier (Go.twoVTwoArmyId action) with
      | error e =>
        rw [dispatchArmy_error hs ht hgo]
        unfold Go.dispatchArmy at hgo
        rw [hgo] at hd
        cases hts : Ts.dispatchArmy source target (Go.simulationOwnerForSlot action.slot) 0.5
            (Go.twoVTwoArmyId action) (modifiersBySlot action.slot).armySpeedMultiplier
            (some g.state) with
        | error e' => rfl
        | ok d => rw [hts] at hd; cases hd
      | ok state =>
        have htwin := h.dispatched hne hgo
        unfold Go.dispatchArmy at hgo
        rw [hgo] at hd
        cases hts : Ts.dispatchArmy source target (Go.simulationOwnerForSlot action.slot) 0.5
            (Go.twoVTwoArmyId action) (modifiersBySlot action.slot).armySpeedMultiplier
            (some g.state) with
        | error e' => rw [hts] at hd; cases hd
        | ok d =>
          rw [hts] at hd
          have hstate : dispatched g.state action.sourceId
              (Go.simulationOwnerForSlot action.slot) d = state := Option.some.inj hd
          have hdsrc := dispatchArmy_source_id hts
          have hwith : Ts.withDispatch g.state (Go.simulationOwnerForSlot action.slot) d
              = state := by
            rw [← hstate]
            unfold Ts.withDispatch dispatched
            rw [hdsrc, hsid]
            unfold Go.addUnitsDispatched
            cases hteam : Go.simulationOwnerForSlot action.slot with
            | neutral => exact absurd hteam hne
            | player => rfl
            | enemy => rfl
          dsimp only
          rw [hwith]
          exact ⟨_, rfl, htwin⟩

/-- No action of the replay reaches the battle with an inherited name. -/
def IdsReal (modifiersBySlot : ℤ → PlayerUpgradeModifiers) (maxTick : ℤ) :
    List CanonicalTwoVTwoAction → Go.Replay2v2 → Prop
  | [], _ => True
  | action :: rest, r =>
    action.tick ≤ maxTick → (Go.stepUntil action.tick r).playing = true →
      NamesReal (Go.stepUntil action.tick r).state action ∧
      ∀ r', Go.applyAction modifiersBySlot (Go.stepUntil action.tick r) action = .ok r' →
        IdsReal modifiersBySlot maxTick rest r'

/-- **Both engines play the log alike.** -/
theorem runActions_twin (modifiersBySlot : ℤ → PlayerUpgradeModifiers) (maxTick : ℤ) :
    ∀ (actions : List CanonicalTwoVTwoAction) {t : Ts.Replay2v2} {g : Go.Replay2v2},
      Twin2v2 t g → IdsReal modifiersBySlot maxTick actions g →
        match Go.runActions modifiersBySlot maxTick actions g with
        | .error e => Ts.runActions modifiersBySlot maxTick actions t = .error e
        | .ok g' => ∃ t', Ts.runActions modifiersBySlot maxTick actions t = .ok t' ∧
            Twin2v2 t' g' := by
  intro actions
  induction actions with
  | nil => intro t g h _; exact ⟨t, rfl, h⟩
  | cons action rest ih =>
    intro t g h hids
    unfold Go.runActions Ts.runActions
    by_cases htick : action.tick > maxTick
    · rw [if_pos htick, if_pos htick]
    rw [if_neg htick, if_neg htick]
    have hstep := stepUntil_twin h action.tick
    dsimp only
    rw [hstep.playing]
    by_cases hp : (!(Go.stepUntil action.tick g).playing) = true
    · rw [if_pos hp, if_pos hp]
    rw [if_neg hp, if_neg hp]
    have hplay : (Go.stepUntil action.tick g).playing = true := by
      rw [Bool.not_eq_true', Bool.not_eq_false] at hp
      exact hp
    obtain ⟨hnames, hrest⟩ := hids (not_lt.mp htick) hplay
    have hact := applyAction_twin hstep modifiersBySlot hnames
    cases ha : Go.applyAction modifiersBySlot (Go.stepUntil action.tick g) action with
    | error e =>
      rw [ha] at hact
      dsimp only at hact
      rw [hact]
      rfl
    | ok g' =>
      rw [ha] at hact
      obtain ⟨t', ht', htwin⟩ := hact
      rw [ht']
      exact ih htwin (hrest g' ha)

theorem finish2v2_twin {t : Ts.Replay2v2} {g : Go.Replay2v2} (h : Twin2v2 t g) (maxTick : ℤ) :
    Twin2v2 (Ts.finish2v2 maxTick t) (Go.finish2v2 maxTick g) := by
  have hs := stepUntil_twin h maxTick
  unfold Ts.finish2v2 Go.finish2v2
  dsimp only
  rw [hs.playing, hs.state]
  split
  · exact hs.step rfl (le_max_left _ _)
  · exact hs

/-! ### The whole replay -/

/-- **What a replay must not meet** for the engines to agree on it. -/
structure StaysClear (o : TwoVTwoSimulationOptions) : Prop where
  numbers : o.actions.length ≤ Go.twoVTwoDefaultMaxActions →
    LogSafe .start (sortBy Go.canonicalBefore o.actions)
  spawns : (∃ canonical, Go.canonicalizeActions o.actions Go.twoVTwoDefaultMaxActions
      = .ok canonical) → o.spawnAssignments.length = 4 →
    SpawnsReal o.territories [] [] o.spawnAssignments
  names : ∀ canonical state, Go.canonicalizeActions o.actions Go.twoVTwoDefaultMaxActions
      = .ok canonical → Go.initialState2v2 o = .ok state →
    IdsReal o.modifiersBySlot (Go.maximumTick state) canonical ⟨state, .empty, 0, 0⟩

/-- **The two 2v2 replays agree** on the territories of a shipped map, whatever
the spawns, modifiers, time limit and log, unless the replay meets a number from
`2 ^ 53` on or a name that every object inherits. -/
theorem simulate2v2Battle_eq {o : TwoVTwoSimulationOptions} {b : BattlefieldDefinition}
    (hb : b ∈ battlefields) (ht : o.territories = b.templates) (hm : o.battlefieldId = b.id)
    (hlimit : 0 < o.timeLimitSeconds)
    (hv : o.gameplayRulesVersion = 1 ∨ o.gameplayRulesVersion = 2) (h : StaysClear o) :
    Ts.simulate2v2Battle o = Go.simulate2v2Battle o := by
  unfold Ts.simulate2v2Battle Go.simulate2v2Battle
  rw [canonicalizeActions_eq h.numbers]
  cases hc : Go.canonicalizeActions o.actions Go.twoVTwoDefaultMaxActions with
  | error e => rfl
  | ok canonical =>
    dsimp only [bind, Except.bind]
    rw [createInitial2v2GameState_eq hlimit hv (h.spawns ⟨canonical, hc⟩)]
    cases hs : Go.initialState2v2 o with
    | error e => rfl
    | ok state =>
      obtain ⟨hok, hrules⟩ := Go.initialState2v2_ok hb ht hm hs
      have hstart : Twin2v2 ⟨state, .empty, 0, 0⟩ ⟨state, .empty, 0, 0⟩ :=
        ⟨hok, hrules, rfl, fun _ _ => rfl, rfl, rfl⟩
      have hrun := runActions_twin o.modifiersBySlot (Go.maximumTick state) canonical hstart
        (h.names canonical state hc hs)
      have hmax : Ts.maximumTick state = Go.maximumTick state := rfl
      dsimp only
      rw [hmax]
      cases hr : Go.runActions o.modifiersBySlot (Go.maximumTick state) canonical
          ⟨state, .empty, 0, 0⟩ with
      | error e =>
        rw [hr] at hrun
        dsimp only at hrun
        rw [hrun]
      | ok g =>
        rw [hr] at hrun
        obtain ⟨t, hts, htwin⟩ := hrun
        have hend := finish2v2_twin htwin (Go.maximumTick state)
        rw [hts]
        dsimp only
        rw [hend.state, hend.actionsProcessed]

/-! ### Inputs that meet neither -/

omit [MathLib] in
theorem logSafe_of_forall : ∀ {actions : List CanonicalTwoVTwoAction} (c : LogCheck),
    (∀ a ∈ actions, NumbersSafe a) → LogSafe c actions := by
  intro actions
  induction actions with
  | nil => intro c _; exact trivial
  | cons a rest ih =>
    intro c h
    exact ⟨h a List.mem_cons_self, fun _ => ih _ fun b hb => h b (List.mem_cons_of_mem a hb)⟩

omit [MathLib] in
theorem lookup_ne_inherited {α : Type} (r : Record String α) {key : String}
    (h : key ∉ Ts.objectPrototypeKeys) : Ts.lookup r key ≠ .inherited := by
  cases hg : r.get? key with
  | some v =>
    rw [lookup_of_some hg]
    intro he
    cases he
  | none =>
    rw [Ts.lookup, hg]
    dsimp only
    rw [if_neg h]
    intro he
    cases he

omit [MathLib] in
theorem spawnsReal_of_forall (territories : Record String Territory) :
    ∀ {assignments : List TwoVTwoSpawnAssignment} (seenSlots : List ℤ)
      (seenTerritories : List String),
      (∀ a ∈ assignments, a.territoryId ∉ Ts.objectPrototypeKeys) →
        SpawnsReal territories seenSlots seenTerritories assignments := by
  intro assignments
  induction assignments with
  | nil => intro _ _ _; exact trivial
  | cons a rest ih =>
    intro seenSlots seenTerritories h
    exact ⟨fun _ _ _ _ => lookup_ne_inherited territories (h a List.mem_cons_self),
      fun _ => ih _ _ fun b hb => h b (List.mem_cons_of_mem a hb)⟩

theorem idsReal_of_forall (modifiersBySlot : ℤ → PlayerUpgradeModifiers) (maxTick : ℤ) :
    ∀ {actions : List CanonicalTwoVTwoAction} (r : Go.Replay2v2),
      (∀ a ∈ actions, a.sourceId ∉ Ts.objectPrototypeKeys ∧
        a.targetId ∉ Ts.objectPrototypeKeys) → IdsReal modifiersBySlot maxTick actions r := by
  intro actions
  induction actions with
  | nil => intro _ _; exact trivial
  | cons a rest ih =>
    intro r h _ _
    obtain ⟨hs, ht⟩ := h a List.mem_cons_self
    exact ⟨⟨lookup_ne_inherited _ hs, fun _ => lookup_ne_inherited _ ht⟩,
      fun r' _ => ih r' fun b hb => h b (List.mem_cons_of_mem a hb)⟩

/-- A log without such numbers and names stays clear. -/
theorem staysClear_of_forall {o : TwoVTwoSimulationOptions}
    (hn : ∀ a ∈ o.actions, a.tick < 2 ^ 53 ∧ a.serverSeq < 2 ^ 53)
    (hs : ∀ a ∈ o.spawnAssignments, a.territoryId ∉ Ts.objectPrototypeKeys)
    (hi : ∀ a ∈ o.actions, a.sourceId ∉ Ts.objectPrototypeKeys ∧
      a.targetId ∉ Ts.objectPrototypeKeys) : StaysClear o where
  numbers _ := logSafe_of_forall .start fun a ha _ =>
    ⟨(hn a (mem_sortBy.mp ha)).1, fun _ => (hn a (mem_sortBy.mp ha)).2⟩
  spawns _ _ := spawnsReal_of_forall o.territories [] [] hs
  names canonical state hc _ := by
    unfold Go.canonicalizeActions at hc
    by_cases hl : o.actions.length > Go.twoVTwoDefaultMaxActions
    · rw [if_pos hl] at hc
      cases hc
    rw [if_neg hl] at hc
    dsimp only [bind, Except.bind, pure, Except.pure] at hc
    cases hk : Go.checkActions .start (sortBy Go.canonicalBefore o.actions) with
    | error e => rw [hk] at hc; cases hc
    | ok u =>
      rw [hk] at hc
      cases hc
      exact idsReal_of_forall _ _ _ fun a ha => hi a (mem_sortBy.mp ha)

end Battle

/-- A match on the shipped 2v2 map with one action. -/
def sampleOptions (sourceId : String) : TwoVTwoSimulationOptions where
  territories := quadCitadel.templates
  spawnAssignments := [⟨0, "a_base_w"⟩, ⟨1, "a_base_e"⟩, ⟨2, "b_base_w"⟩, ⟨3, "b_base_e"⟩]
  modifiersBySlot _ := ⟨20, 1, 1⟩
  timeLimitSeconds := 120
  battlefieldId := "quad_citadel"
  actions := [⟨2, 0, 0, 0, 0, sourceId, "a_gate_w"⟩]
  gameplayRulesVersion := 2

theorem simulate2v2Battle_eq_sample :
    @Ts.simulate2v2Battle decimalHypot (sampleOptions "a_base_w")
      = @Go.simulate2v2Battle decimalHypot (sampleOptions "a_base_w") :=
  @simulate2v2Battle_eq decimalHypot (sampleOptions "a_base_w") quadCitadel quadCitadel_mem rfl rfl
    (by norm_num [sampleOptions]) (Or.inr rfl)
    (@staysClear_of_forall decimalHypot _ (by decide) (by decide) (by decide))

/-- **A source that every object inherits.**  The client finds it and misses its
owner, the server does not find it. -/
theorem simulate2v2Battle_constructor :
    @Ts.simulate2v2Battle decimalHypot (sampleOptions "constructor") = .error .slotNotPermitted ∧
      @Go.simulate2v2Battle decimalHypot (sampleOptions "constructor") = .error .invalidSource ∧
      @Ts.simulate2v2Battle decimalHypot (sampleOptions "constructor")
        ≠ @Go.simulate2v2Battle decimalHypot (sampleOptions "constructor") := by
  have hts : @Ts.simulate2v2Battle decimalHypot (sampleOptions "constructor")
      = .error .slotNotPermitted := by decide +kernel
  have hgo : @Go.simulate2v2Battle decimalHypot (sampleOptions "constructor")
      = .error .invalidSource := by decide +kernel
  refine ⟨hts, hgo, ?_⟩
  rw [hts, hgo]
  decide

end CrownClash.Parity
