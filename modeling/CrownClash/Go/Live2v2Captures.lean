import CrownClash.Go.Live2v2Run

/-!
# Server: who is credited with a capture

The envelope of a 2v2 match counts captures by slot.  It does so after the step,
by comparing the owners before with the owners after; but the state it keeps as
the one before shares its territories with the one after (`simulate`), so both
have the same owner and no slot is ever credited (`creditCapture_same`).

`CapturesCredited` is what the count is meant to say of one call of the loop.
`credited_iff` settles it: the count is right exactly if no tower falls in the
step of that call.
-/

namespace CrownClash.Go

open Lib Live2v2MatchState

variable [MathLib]

/-- The step of a live match. -/
def liveDelta : ℚ := 1 / live2v2TickRate

/-- The army arrives and takes its target, in the battle as the armies before it
left it. -/
def takesTarget (m : Marching) (army : MarchingArmy) : Bool :=
  let r := advanceArmy m.state liveDelta army
  r.2 &&
    match m.state.territories.get? r.1.targetId with
    | none => false
    | some target =>
      (resolveArrivalWithBonus target r.1.units r.1.owner (defenseBonus m.state target)).captured

/-- The armies of a list that reach their target in one step. -/
def arrivals : Marching → List MarchingArmy → List MarchingArmy
  | _, [] => []
  | m, army :: rest =>
    let r := advanceArmy m.state liveDelta army
    (if r.2 then [r.1] else []) ++ arrivals (moveArmy liveDelta m army) rest

/-- The armies of a list that take their target in one step. -/
def captors : Marching → List MarchingArmy → List MarchingArmy
  | _, [] => []
  | m, army :: rest =>
    (if takesTarget m army then [(advanceArmy m.state liveDelta army).1] else [])
      ++ captors (moveArmy liveDelta m army) rest

/-- The armies of a match before they move. -/
def marchOf (s : Live2v2MatchState) : Marching := ⟨startStep s.state liveDelta, s.accumulators, []⟩

/-- The state in which a call of the loop takes a step of the battle, if it does. -/
def steppedFrom (s : Live2v2MatchState) (tick : ℕ) (now : ℤ) (messages : List Live2v2Message)
    (answers : Answers) : Option Live2v2MatchState :=
  let graced := { s with tick := tick }.enforceReconnectGrace now answers
  let handled := graced.handleMessages messages answers
  if graced.phase = .playing ∧ handled.phase = .playing ∧ handled.state.status = .playing then
    some handled
  else none

local instance fourSlots : NeZero 4 := ⟨by decide⟩

/-- What the slots of a team are credited with. -/
def creditOf (stats : MatchStats2v2) : TeamId → ℤ
  | .a => stats.territoriesCapturedBySlot 0 + stats.territoriesCapturedBySlot 1
  | .b => stats.territoriesCapturedBySlot 2 + stats.territoriesCapturedBySlot 3

/-- What the simulation counts for a team. -/
def capturedOf (stats : MatchStats) : TeamId → ℤ
  | .a => stats.territoriesCapturedByPlayer
  | .b => stats.territoriesCapturedByEnemy

/-- **What the count by slot is meant to say of one call.**  What the slots of a
team gain is what the team gains, and every capture is credited to a slot one of
whose armies arrived at that tower in that step. -/
structure CapturesCredited (before after : Live2v2MatchState) (arrived captured : List MarchingArmy) :
    Prop where
  team : ∀ team, creditOf after.stats team - creditOf before.stats team
    = capturedOf after.state.stats team - capturedOf before.state.stats team
  credit : ∃ slots : List Slot,
    List.Forall₂ (fun army slot => ∃ a ∈ arrived, a.targetId = army.targetId ∧
      slotFrom2v2ArmyId a.id = some slot) captured slots ∧
    ∀ slot, after.stats.territoriesCapturedBySlot slot
      - before.stats.territoriesCapturedBySlot slot = slots.count slot

/-- The count is right for a call of the loop in a running match. -/
def Credited (r : Live2v2Run) : Live2v2Event → Prop
  | .loop tick now messages answers =>
    r.running = true → r.live.phase = .playing →
      match steppedFrom r.live tick now messages answers with
      | none => CapturesCredited r.live (r.step (.loop tick now messages answers)).live [] []
      | some t =>
        CapturesCredited r.live (r.step (.loop tick now messages answers)).live
          (arrivals (marchOf t) t.state.armies) (captors (marchOf t) t.state.armies)
  | _ => True

/-- No army that arrives in the step of a call takes its target. -/
def NoTowerFalls (r : Live2v2Run) : Live2v2Event → Prop
  | .loop tick now messages answers =>
    r.running = true → r.live.phase = .playing →
      ∀ t, steppedFrom r.live tick now messages answers = some t →
        EachStep (moveArmy liveDelta) (fun m army => takesTarget m army = false) (marchOf t)
          t.state.armies
  | _ => True

/-! ### No slot is credited -/

omit [MathLib] in
theorem creditCapture_same {previous state : GameState}
    (h : previous.territories = state.territories) (captured : Slot → ℤ)
    (e : String × MarchingArmy) : creditCapture previous state captured e = captured := by
  unfold creditCapture
  rw [h]
  cases state.territories.get? e.1 with
  | none => rfl
  | some territory =>
    dsimp only
    by_cases ho : territory.owner ≠ e.2.owner
    · rw [if_pos ho]
    · rw [if_neg ho, Option.map_some, not_not.mp ho, if_pos rfl]

/-- **A step credits no slot.** -/
theorem simulate_captured (s : Live2v2MatchState) :
    s.simulate.stats.territoriesCapturedBySlot = s.stats.territoriesCapturedBySlot := by
  unfold simulate trackPerSlotCaptures
  dsimp only
  exact foldl_preserves (P := fun c => c = s.stats.territoriesCapturedBySlot)
    (fun c e _ hc => (creditCapture_same rfl c e).trans hc) rfl

/-! ### What the simulation counts -/

/-- All captures of a match. -/
def capturedTotal (stats : MatchStats) : ℤ :=
  stats.territoriesCapturedByPlayer + stats.territoriesCapturedByEnemy

omit [MathLib] in
theorem addCapture_counts (stats : MatchStats) {team : Team} (h : team ≠ .neutral) :
    capturedTotal (addCapture stats team) = capturedTotal stats + 1 ∧
      ∀ id, capturedOf stats id ≤ capturedOf (addCapture stats team) id := by
  cases team with
  | player =>
    refine ⟨by simp only [capturedTotal, addCapture]; ring, fun id => ?_⟩
    cases id with
    | a => exact le_add_of_nonneg_right (by decide)
    | b => exact le_refl _
  | enemy =>
    refine ⟨by simp only [capturedTotal, addCapture]; ring, fun id => ?_⟩
    cases id with
    | a => exact le_refl _
    | b => exact le_add_of_nonneg_right (by decide)
  | neutral => exact absurd rfl h

omit [MathLib] in
theorem newOwner_of_captured {target : Territory} {incoming : ℤ} {attacker : Team} {bonus : ℚ}
    (h : (resolveArrivalWithBonus target incoming attacker bonus).captured = true) :
    (resolveArrivalWithBonus target incoming attacker bonus).newOwner = attacker := by
  unfold resolveArrivalWithBonus at h ⊢
  dsimp only at h ⊢
  split
  · next h1 =>
    rw [if_pos h1] at h
    cases h
  next h1 =>
  rw [if_neg h1] at h
  split
  · next h2 =>
    rw [if_pos h2] at h
    cases h
  next h2 =>
  rw [if_neg h2] at h
  split
  · rfl
  · next h3 =>
    rw [if_neg h3] at h
    cases h

/-- What one army does to the count: nothing, or one capture more. -/
theorem moveArmy_counts (m : Marching) {army : MarchingArmy} (ha : ArmyOk army) :
    (takesTarget m army = false →
      (moveArmy liveDelta m army).state.stats = m.state.stats) ∧
    (takesTarget m army = true →
      capturedTotal (moveArmy liveDelta m army).state.stats = capturedTotal m.state.stats + 1 ∧
        ∀ id, capturedOf m.state.stats id
          ≤ capturedOf (moveArmy liveDelta m army).state.stats id) := by
  have hadv := (advanceArmy_armyOk m.state liveDelta ha).owned
  unfold takesTarget moveArmy
  dsimp only
  generalize advanceArmy m.state liveDelta army = r at hadv
  cases hr : r.2 with
  | false => exact ⟨fun _ => rfl, fun h => nomatch h⟩
  | true =>
    rw [Bool.true_and, if_pos rfl]
    unfold arriveArmy
    cases hg : m.state.territories.get? r.1.targetId with
    | none => exact ⟨fun _ => rfl, fun h => nomatch h⟩
    | some target =>
      dsimp only
      cases hc : (resolveArrivalWithBonus target r.1.units r.1.owner
          (defenseBonus m.state target)).captured with
      | false => exact ⟨fun _ => rfl, fun h => nomatch h⟩
      | true =>
        rw [if_pos rfl, newOwner_of_captured hc]
        exact ⟨(fun h => nomatch h), fun _ => addCapture_counts m.state.stats hadv⟩

/-- What a list of armies does to the count: it never falls, and it stays as it is
exactly if none of them takes its target. -/
theorem march_counts : ∀ {armies : List MarchingArmy} (m : Marching),
    (∀ a ∈ armies, ArmyOk a) →
      (∀ id, capturedOf m.state.stats id
        ≤ capturedOf (armies.foldl (moveArmy liveDelta) m).state.stats id) ∧
      (EachStep (moveArmy liveDelta) (fun m army => takesTarget m army = false) m armies ↔
        capturedTotal (armies.foldl (moveArmy liveDelta) m).state.stats
          = capturedTotal m.state.stats) := by
  intro armies
  induction armies with
  | nil => intro m _; exact ⟨fun id => le_refl _, fun _ => rfl, fun _ => eachStep_nil⟩
  | cons army armies ih =>
    intro m h
    obtain ⟨hkeep, htake⟩ := moveArmy_counts m (h army List.mem_cons_self)
    obtain ⟨hmono, hiff⟩ := ih (moveArmy liveDelta m army) fun a ha =>
      h a (List.mem_cons_of_mem army ha)
    rw [eachStep_cons, List.foldl_cons, hiff]
    cases ht : takesTarget m army with
    | false =>
      have hs := hkeep ht
      rw [hs] at hmono ⊢
      exact ⟨hmono, fun h => h.2, fun h => ⟨rfl, h⟩⟩
    | true =>
      obtain ⟨hone, hle⟩ := htake ht
      refine ⟨fun id => (hle id).trans (hmono id), (fun h => nomatch h.1), fun htotal => ?_⟩
      have ha := hmono .a
      have hb := hmono .b
      unfold capturedTotal at htotal hone
      unfold capturedOf at ha hb
      dsimp only at ha hb
      omega

theorem captors_eq_nil : ∀ {armies : List MarchingArmy} {m : Marching},
    EachStep (moveArmy liveDelta) (fun m army => takesTarget m army = false) m armies →
      captors m armies = [] := by
  intro armies
  induction armies with
  | nil => intro m _; rfl
  | cons army armies ih =>
    intro m h
    obtain ⟨h1, h2⟩ := eachStep_cons.mp h
    unfold captors
    rw [h1, if_neg Bool.false_ne_true, ih h2]
    rfl

/-- **What a step counts.** -/
theorem simulate_counts {s : Live2v2MatchState} (hok : BattleOk s.state)
    (hp : s.state.status = .playing) :
    (∀ id, capturedOf s.state.stats id ≤ capturedOf s.simulate.state.stats id) ∧
      (EachStep (moveArmy liveDelta) (fun m army => takesTarget m army = false) (marchOf s)
          s.state.armies ↔
        capturedTotal s.simulate.state.stats = capturedTotal s.state.stats) := by
  have hstats : s.simulate.state.stats
      = (s.state.armies.foldl (moveArmy liveDelta) (marchOf s)).state.stats := by
    unfold simulate stepSimulation
    rw [if_neg (not_not.mpr hp)]
    rfl
  rw [hstats]
  exact march_counts (marchOf s) hok.armies

/-! ### The rest of a call -/

/-- Neither count moves. -/
structure SameCaptures (s s' : Live2v2MatchState) : Prop where
  slots : s'.stats.territoriesCapturedBySlot = s.stats.territoriesCapturedBySlot
  teams : ∀ id, capturedOf s'.state.stats id = capturedOf s.state.stats id

/-- The match has begun, and both counts stand where they stood in `s`. -/
structure CountsStand (s s' : Live2v2MatchState) : Prop extends SameCaptures s s' where
  begun : s'.phase ≠ .waiting ∧ s'.phase ≠ .countdown

theorem CountsStand.change {s t t' : Live2v2MatchState} (hc : Change t t')
    (h : CountsStand s t) : CountsStand s t' := by
  cases hc with
  | keep hk =>
    refine ⟨⟨?_, fun id => ?_⟩, ?_⟩
    · rw [hk.stats]
      exact h.slots
    · rw [hk.state]
      exact h.teams id
    · rw [hk.phase]
      exact h.begun
  | send messages hm => exact { h with }
  | countdown hw => exact absurd hw h.begun.1
  | cancel hn => exact ⟨⟨h.slots, h.teams⟩, (fun h => nomatch h), fun h => nomatch h⟩
  | start hcount hs => exact absurd hcount h.begun.2
  | accept message slot payload serverSeq hp hseq hlog ho =>
    obtain ⟨source, army, -, -, -, -, -, -, -, -, -, -, hstate⟩ :=
      dispatchArmyWithRatio_ok_cases (simulationOwnerForSlot_ne_neutral slot.val) ho
    subst hstate
    refine ⟨⟨h.slots, fun id => ?_⟩, h.begun⟩
    rw [← h.teams id]
    change capturedOf (addUnitsDispatched t.state.stats _ _) id = capturedOf t.state.stats id
    unfold addUnitsDispatched
    cases id with
    | a => split <;> rfl
    | b => split <;> rfl
  | decide status hp hs hd => exact ⟨⟨h.slots, h.teams⟩, h.begun⟩
  | finish hp hs => exact ⟨⟨h.slots, h.teams⟩, (fun h => nomatch h), fun h => nomatch h⟩
  | settle hf => exact { h with }

theorem CountsStand.changes {s t t' : Live2v2MatchState} (hc : Changes t t')
    (h : CountsStand s t) : CountsStand s t' :=
  changes_preserve (fun _ _ hc h => CountsStand.change hc h) hc h

omit [MathLib] in
theorem CountsStand.refl {s : Live2v2MatchState} (h : s.phase = .playing) : CountsStand s s :=
  ⟨⟨rfl, fun _ => rfl⟩, by rw [h]; decide, by rw [h]; decide⟩

theorem loop_counts {s : Live2v2MatchState} (hp : s.phase = .playing) (tick : ℕ) (now : ℤ)
    (messages : List Live2v2Message) (answers : Answers) :
    match steppedFrom s tick now messages answers with
    | none => SameCaptures s (s.matchLoop tick now messages answers).1
    | some t => Changes s t ∧ t.phase = .playing ∧ t.state.status = .playing ∧
        SameCaptures s t ∧ SameCaptures t.simulate (s.matchLoop tick now messages answers).1 := by
  have hgrace : Changes s ({ s with tick := tick }.enforceReconnectGrace now answers) :=
    (changes_tick s tick).trans (enforceReconnectGrace_changes { s with tick := tick } now answers hp)
  have hloop : s.matchLoop tick now messages answers
      = if ({ s with tick := tick }.enforceReconnectGrace now answers).phase ≠ .playing then
          ({ s with tick := tick }.enforceReconnectGrace now answers, true)
        else (({ s with tick := tick }.enforceReconnectGrace now answers).handleMessages messages
          answers).afterMessages tick now answers := by
    unfold Live2v2MatchState.matchLoop
    dsimp only
    rw [hp]
    rfl
  rw [hloop]
  unfold steppedFrom
  dsimp only
  generalize hgdef : { s with tick := tick }.enforceReconnectGrace now answers = graced at *
  have hgs := (CountsStand.refl hp).changes hgrace
  by_cases hg : graced.phase = .playing
  · rw [if_neg (not_not.mpr hg)]
    have hhandle := hgrace.trans (handleMessages_changes graced messages answers)
    generalize graced.handleMessages messages answers = handled at *
    have hhs := (CountsStand.refl hp).changes hhandle
    unfold afterMessages
    by_cases hfin : handled.phase = .finished
    · rw [if_pos hfin, if_neg (by rw [hfin]; exact fun h => nomatch h.2.1)]
      dsimp only
      split
      · dsimp only
        split
        · exact hhs.toSameCaptures
        · exact (hhs.changes (changes_send handled _ .closed)).toSameCaptures
      · exact hhs.toSameCaptures
    · rw [if_neg hfin, advancePhase_begun hhs.begun]
      dsimp only
      by_cases hplay : handled.phase = .playing
      · rw [if_pos hplay]
        have hafter := playTick_changes handled now answers hplay
        by_cases hstatus : handled.state.status = .playing
        · rw [if_pos ⟨hg, hplay, hstatus⟩]
          have hst : handled.stepped = handled.simulate := if_pos hstatus
          rw [hst] at hafter
          have hsim : handled.simulate.phase = .playing := hplay
          exact ⟨hhandle, hplay, hstatus, hhs.toSameCaptures,
            ((CountsStand.refl hsim).changes hafter).toSameCaptures⟩
        · rw [if_neg fun h => hstatus h.2.2]
          have hst : handled.stepped = handled := if_neg hstatus
          rw [hst] at hafter
          exact (hhs.changes hafter).toSameCaptures
      · rw [if_neg hplay, if_neg fun h => hplay h.2.1]
        exact hhs.toSameCaptures
  · rw [if_pos hg, if_neg fun h => hg h.1]
    exact hgs.toSameCaptures

/-! ### Every run -/

omit [MathLib] in
theorem SameCaptures.credited {s s' : Live2v2MatchState} (h : SameCaptures s s')
    (arrived : List MarchingArmy) : CapturesCredited s s' arrived [] := by
  refine ⟨fun team => ?_, [], List.Forall₂.nil, fun slot => ?_⟩
  · unfold creditOf
    rw [h.slots, h.teams, sub_self, sub_self]
  · rw [h.slots, sub_self]
    rfl

/-- **The count by slot is right for a call exactly if no tower falls in it.** -/
theorem credited_iff {r : Live2v2Run} (h : PlayOk r.live) (e : Live2v2Event) :
    Credited r e ↔ NoTowerFalls r e := by
  cases e with
  | attempt presence => exact Iff.rfl
  | join arrivals tick => exact Iff.rfl
  | leave presences now => exact Iff.rfl
  | terminate => exact Iff.rfl
  | loop tick now messages answers =>
    refine imp_congr_right fun hr => imp_congr_right fun hp => ?_
    have hstep : (r.step (.loop tick now messages answers)).live
        = (r.live.matchLoop tick now messages answers).1 := by
      unfold Live2v2Run.step
      rw [hr]
      rfl
    rw [hstep]
    have hcounts := loop_counts hp tick now messages answers
    cases ht : steppedFrom r.live tick now messages answers with
    | none =>
      rw [ht] at hcounts
      exact ⟨fun _ t h => (nomatch h), fun _ => hcounts.credited []⟩
    | some t =>
      rw [ht] at hcounts
      obtain ⟨hchanges, hplay, hstatus, hbefore, hafter⟩ := hcounts
      have hok : PlayOk t := changes_preserve (fun _ _ hc hs => PlayOk.change hc hs) hchanges h
      obtain ⟨hmono, hiff⟩ := simulate_counts (hok.battle hplay) hstatus
      have hslots : (r.live.matchLoop tick now messages answers).1.stats.territoriesCapturedBySlot
          = r.live.stats.territoriesCapturedBySlot := by
        rw [hafter.slots, simulate_captured, hbefore.slots]
      constructor
      · rintro ⟨hteam, -⟩ t' ht'
        cases ht'
        refine hiff.mpr ?_
        have hnone : ∀ team, capturedOf t.simulate.state.stats team
            = capturedOf t.state.stats team := by
          intro team
          have hd := hteam team
          unfold creditOf at hd
          rw [hslots, sub_self, hafter.teams, ← hbefore.teams team] at hd
          omega
        have ha := hnone .a
        have hb := hnone .b
        unfold capturedOf at ha hb
        unfold capturedTotal
        dsimp only at ha hb
        omega
      · intro hquiet
        have hq := hquiet t rfl
        have htotal := hiff.mp hq
        dsimp only
        rw [captors_eq_nil hq]
        have hsame : SameCaptures r.live (r.live.matchLoop tick now messages answers).1 := by
          refine ⟨hslots, fun team => ?_⟩
          have ha := hmono .a
          have hb := hmono .b
          rw [hafter.teams, ← hbefore.teams team]
          unfold capturedTotal at htotal
          unfold capturedOf at ha hb ⊢
          dsimp only at ha hb
          cases team with
          | a => dsimp only; omega
          | b => dsimp only; omega
        exact hsame.credited _

theorem not_credited {start before after : Live2v2Run} {events : List Live2v2Event}
    {e : Live2v2Event} {tick : ℕ} {now : ℤ} {messages : List Live2v2Message} {answers : Answers}
    {team : TeamId} (he : e = .loop tick now messages answers)
    (hb : events.foldl Live2v2Run.step start = before)
    (ha : (events ++ [e]).foldl Live2v2Run.step start = after)
    (hrun : before.running = true) (hplay : before.live.phase = .playing)
    (hcredit : creditOf after.live.stats team = creditOf before.live.stats team)
    (hcount : capturedOf after.live.state.stats team
      = capturedOf before.live.state.stats team + 1) :
    ¬ EachStep Live2v2Run.step Credited start (events ++ [e]) := by
  intro h
  have hcall := h.last
  subst he
  rw [List.foldl_append, hb] at ha
  rw [hb] at hcall
  subst ha
  have hcredited := hcall hrun hplay
  have hteam : creditOf (before.step (.loop tick now messages answers)).live.stats team
        - creditOf before.live.stats team
      = capturedOf (before.step (.loop tick now messages answers)).live.state.stats team
        - capturedOf before.live.state.stats team := by
    split at hcredited
    · exact hcredited.team team
    · exact hcredited.team team
  change creditOf (before.step (.loop tick now messages answers)).live.stats team = _ at hcredit
  change capturedOf (before.step (.loop tick now messages answers)).live.state.stats team = _
    at hcount
  rw [hcredit, hcount, sub_self] at hteam
  omega

/-- **When captures are credited.**  In every run of a 2v2 match the count by slot
is right for every call of the loop if and only if no tower falls in any of them. -/
theorem captures_credited {enable2v2 equalPower : Bool} {params : Live2v2Params}
    {lookup : String → SeatLookup} {randomHex : Option String} {startedAt : ℤ}
    {s : Live2v2MatchState}
    (h : live2v2MatchInit enable2v2 equalPower params lookup randomHex startedAt = some s)
    (events : List Live2v2Event) :
    EachStep Live2v2Run.step Credited (.start s) events ↔
      EachStep Live2v2Run.step NoTowerFalls (.start s) events :=
  eachStep_congr (I := fun r => PlayOk r.live)
    (fun _ e hr => step_preserves (fun _ _ hm hs => PlayOk.move hm hs) e hr)
    (fun _ e hr => credited_iff hr e) (live2v2MatchInit_new h).playOk

/-! ### A capture -/

section Capture

omit [MathLib]

/-- Anna sends half of her garrison to the tower next to her base, where it arrives
a second later. -/
def cornerTaken : List Live2v2Event :=
  fourReady ++ [.loop 2 0 [messageOf "anna" "dispatch" 0 "a_base_w" "n_corner_sw"] settlingAnswers]
    ++ (List.range 18).map fun k => .loop (3 + k) 0 [] settlingAnswers

/-- The call in which it arrives. -/
def cornerFalls : Live2v2Event := .loop 21 0 [] settlingAnswers

theorem captures_credited_corner :
    EachStep (@Live2v2Run.step decimalHypot) (@Credited decimalHypot) (.start fourMatch)
        (cornerTaken ++ [cornerFalls]) ↔
      EachStep (@Live2v2Run.step decimalHypot) (@NoTowerFalls decimalHypot) (.start fourMatch)
        (cornerTaken ++ [cornerFalls]) :=
  @captures_credited decimalHypot _ _ _ _ _ _ _ fourMatch_init (cornerTaken ++ [cornerFalls])

/-- The match before the army arrives. -/
def beforeFall : Live2v2Run := cornerTaken.foldl (@Live2v2Run.step decimalHypot) (.start fourMatch)

/-- The match once it has arrived. -/
def afterFall : Live2v2Run :=
  (cornerTaken ++ [cornerFalls]).foldl (@Live2v2Run.step decimalHypot) (.start fourMatch)

theorem beforeFall_counts : beforeFall.running = true ∧ beforeFall.live.phase = .playing ∧
    creditOf beforeFall.live.stats .a = 0 ∧ capturedOf beforeFall.live.state.stats .a = 0 := by
  decide +kernel

theorem afterFall_counts :
    creditOf afterFall.live.stats .a = 0 ∧ capturedOf afterFall.live.state.stats .a = 1 := by
  decide +kernel

/-- **A capture is credited to nobody.** -/
theorem captures_uncredited :
    ¬ EachStep (@Live2v2Run.step decimalHypot) (@Credited decimalHypot) (.start fourMatch)
      (cornerTaken ++ [cornerFalls]) := by
  obtain ⟨hrun, hplay, hcredit, hcount⟩ := beforeFall_counts
  refine @not_credited decimalHypot _ beforeFall afterFall cornerTaken cornerFalls 21 0 []
    settlingAnswers .a rfl rfl rfl hrun hplay ?_ ?_
  · rw [afterFall_counts.1, hcredit]
  · rw [afterFall_counts.2, hcount]
    rfl

end Capture

end CrownClash.Go
