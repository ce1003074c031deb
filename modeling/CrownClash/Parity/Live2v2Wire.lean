import CrownClash.Go.Live2v2Run
import CrownClash.Go.Live2v2Wire
import CrownClash.Ts.Pvp2v2Wire

/-!
# Parity: the messages of a live 2v2 match

The server writes its messages from records and maps, and the client reads them
with a validator of its own.  `Sound` is what the server keeps true of whatever it
sends: `sent_sound` is an invariant of the runs of a match.  `parse_json` says what
the validator makes of a sound message: it hands on the same values (`view`) or
refuses it, and it refuses the result of a draw, whose winner is an empty text,
and numbers it does not take for sequences or ticks.
-/

namespace CrownClash.Parity

open Lib
open Go (Slot Live2v2ServerMessage Live2v2MatchState)
open Ts (TwoVTwoServerMessage parseTwoVTwoServerMessage twoVTwoSlots)

/-! ### The same values -/

def viewRosterEntry (e : Go.RosterEntry) : Ts.TwoVTwoRosterEntry :=
  ⟨e.slot, e.teamId, e.userId, e.displayName⟩

def viewParticipant (p : Go.TwoVTwoParticipantOutcome × Store.MatchSettlement) :
    Ts.TwoVTwoParticipantResult where
  slot := p.1.slot.val
  teamId := p.1.teamId
  userId := p.1.userId
  status := p.1.status
  stats := some (Go.jsonStats p.1.stats)
  abandoned := some p.1.abandoned
  settlement := some (Go.jsonSettlement p.2)

/-- A message of the server as the client has it. -/
def view : Live2v2ServerMessage → TwoVTwoServerMessage
  | .matchStarted matchId slot teamId nextSequence players state =>
    .matchStarted ⟨matchId, slot.val, teamId, nextSequence, players.map viewRosterEntry,
      Go.jsonGameState state⟩
  | .state tick state => .state tick (Go.jsonGameState state)
  | .commandAccepted sequence slot => .commandAccepted sequence slot.val
  | .commandRejected code sequence => .commandRejected sequence code.text
  | .rematchStarted matchId => .rematchStarted matchId
  | .matchResult matchId winnerTeamId participants =>
    .matchResult ⟨matchId, winnerTeamId, false, some (participants.map viewParticipant)⟩
  | .matchCancelled matchId => .matchResult ⟨matchId, none, true, none⟩
  | .matchClosed matchId => .matchClosed matchId
  | .settlementFailed => .error "settlement_failed"

/-- A number that passes for a sequence or a tick. -/
def FiniteInt (n : ℤ) : Prop := 0 ≤ n ∧ n ≤ Json.maxSafeInteger

/-- The messages that the validator takes: no result of a draw, and no number that
is negative or beyond the safe integers. -/
def Readable : Live2v2ServerMessage → Prop
  | .state tick _ => FiniteInt tick
  | .commandRejected _ sequence => FiniteInt sequence
  | .matchResult _ winnerTeamId _ => winnerTeamId ≠ none
  | _ => True

/-! ### What the server sends -/

/-- What the server keeps true of the messages it sends. -/
def Sound : Live2v2ServerMessage → Prop
  | .matchStarted matchId slot teamId nextSequence players _ =>
    matchId ≠ "" ∧ teamId = Go.teamIdForSlot slot.val ∧ 0 ≤ nextSequence ∧
      nextSequence ≤ Go.live2v2MaxActionsPerMatch ∧ ∃ user name : Slot → String,
        (∀ k, user k ≠ "") ∧
        players = Slot.all.map fun k => ⟨k.val, Go.teamIdForSlot k.val, user k, name k⟩
  | .commandAccepted sequence _ => 0 ≤ sequence ∧ sequence ≤ Go.live2v2MaxActionsPerMatch
  | .rematchStarted matchId => matchId ≠ ""
  | .matchResult matchId _ participants =>
    matchId ≠ "" ∧ ∃ outcome : Slot → Go.TwoVTwoParticipantOutcome × Store.MatchSettlement,
      participants = Slot.all.map outcome ∧ (Function.Injective fun k => (outcome k).1.userId) ∧
      ∀ k, (outcome k).1.slot = k ∧ (outcome k).1.teamId = Go.teamIdForSlot k.val ∧
        (outcome k).1.userId ≠ "" ∧ (outcome k).1.status ≠ .playing
  | .matchCancelled matchId => matchId ≠ ""
  | .matchClosed matchId => matchId ≠ ""
  | _ => True

/-- A match whose messages are sound. -/
structure WireOk (s : Live2v2MatchState) : Prop where
  matchId : s.matchId ≠ ""
  users : Go.UsersOk fun slot => (s.slots slot).userId
  team : ∀ slot, (s.slots slot).teamId = Go.teamIdForSlot slot.val
  counted : ∀ slot, 0 ≤ (s.slots slot).nextSeq ∧ (s.slots slot).nextSeq ≤ s.actionLog.length
  capped : s.actionLog.length ≤ Go.live2v2MaxActionsPerMatch
  ended : s.phase = .finished → s.state.status ≠ .playing
  sound : ∀ m ∈ s.sent, Sound m.2

/-- The roster shows each user in its own slot. -/
theorem slotIndex_user {s : Live2v2MatchState} (h : Go.UsersOk fun slot => (s.slots slot).userId)
    (k : Slot) : s.slotIndex (s.slots k).userId = k.val := by
  unfold Live2v2MatchState.slotIndex
  have hfind : Slot.all.find? (fun slot => (s.slots slot).userId = (s.slots k).userId) =
      some k := by
    have hother : ∀ j : Slot, decide ((s.slots j).userId = (s.slots k).userId) = decide (j = k) :=
      fun j => decide_eq_decide.mpr ⟨fun he => h.distinct he, fun he => he ▸ rfl⟩
    rw [funext hother]
    clear hother
    revert k
    decide
  rw [hfind]

theorem statusForRole_ne_playing {status : MatchStatus} (h : status ≠ .playing) (role : Team) :
    Go.statusForRole status role ≠ .playing := by
  cases status <;> cases role <;> first | exact absurd rfl h | decide

/-- **A match only says what is sound.** -/
theorem WireOk.says {s : Live2v2MatchState} (h : WireOk s) {m : Live2v2ServerMessage}
    (hm : Go.MaySend s m) : Sound m := by
  cases hm with
  | started slot =>
    refine ⟨h.matchId, h.team slot, (h.counted slot).1, ?_, fun k => (s.slots k).userId,
      fun k => (s.slots k).displayName, h.users.named, ?_⟩
    · have hle := (h.counted slot).2
      have hcap := h.capped
      change (s.slots slot).nextSeq ≤ _
      omega
    · refine List.map_congr_left fun k _ => ?_
      rw [slotIndex_user h.users, h.team]
  | state slot => trivial
  | rejected code sequence => trivial
  | rematch id hid => exact hid
  | result settlements hphase =>
    refine ⟨h.matchId, _, rfl, h.users.distinct, fun k => ⟨rfl, h.team k, h.users.named k, ?_⟩⟩
    change (if _ then MatchStatus.defeat else _) ≠ MatchStatus.playing
    split
    · decide
    · exact statusForRole_ne_playing (h.ended hphase) _
  | cancelled hphase => exact h.matchId
  | closed => exact h.matchId
  | failed => trivial

section Run

variable [MathLib]

theorem WireOk.change {s s' : Live2v2MatchState} (hc : Go.Change s s') (h : WireOk s) :
    WireOk s' := by
  cases hc with
  | keep hk =>
    have husers : (fun slot => (s'.slots slot).userId) = fun slot => (s.slots slot).userId :=
      funext fun slot => (hk.slots slot).userId
    refine ⟨?_, ?_, fun slot => ?_, fun slot => ?_, ?_, ?_, ?_⟩
    · rw [hk.matchId]
      exact h.matchId
    · rw [husers]
      exact h.users
    · rw [(hk.slots slot).teamId]
      exact h.team slot
    · rw [(hk.slots slot).nextSeq, hk.actionLog]
      exact h.counted slot
    · rw [hk.actionLog]
      exact h.capped
    · rw [hk.phase, hk.state]
      exact h.ended
    · rw [hk.sent]
      exact h.sound
  | send messages hm =>
    refine { h with sound := fun m hmem => ?_ }
    rcases List.mem_append.mp hmem with hold | hnew
    · exact h.sound m hold
    · exact h.says (hm m hnew)
  | countdown hp => exact { h with ended := fun he => by cases he }
  | cancel hp => exact { h with ended := fun he => by cases he }
  | start hp hs => exact { h with ended := fun he => by cases he }
  | accept message slot payload serverSeq hp hseq hlog ho =>
    have hle := h.counted slot
    rw [hseq] at hle
    have husers : (fun k => (Function.update s.slots slot
        { s.slots slot with nextSeq := (s.slots slot).nextSeq + 1 } k).userId) =
          fun k => (s.slots k).userId := by
      funext k
      by_cases hk : k = slot
      · rw [hk, Function.update_self]
      · rw [Function.update_of_ne hk]
    refine ⟨h.matchId, ?_, fun k => ?_, fun k => ?_, ?_, fun he => ?_, fun m hmem => ?_⟩
    · exact husers ▸ h.users
    · change (Function.update s.slots slot _ k).teamId = _
      by_cases hk : k = slot
      · rw [hk, Function.update_self]
        exact h.team slot
      · rw [Function.update_of_ne hk]
        exact h.team k
    · change 0 ≤ (Function.update s.slots slot _ k).nextSeq ∧
        (Function.update s.slots slot _ k).nextSeq ≤ ((s.actionLog ++ [_]).length : ℤ)
      rw [List.length_append]
      have hk := h.counted k
      by_cases hks : k = slot
      · rw [hks, Function.update_self]
        rw [hks] at hk
        dsimp only [List.length_singleton]
        omega
      · rw [Function.update_of_ne hks]
        dsimp only [List.length_singleton]
        omega
    · change (s.actionLog ++ [_]).length ≤ _
      rw [List.length_append]
      exact hlog
    · have hfin : s.phase = .finished := he
      rw [hp] at hfin
      cases hfin
    · rcases List.mem_append.mp hmem with hold | hnew
      · exact h.sound m hold
      · rw [List.mem_singleton.mp hnew]
        have hcap := h.capped
        exact ⟨hle.1, by omega⟩
  | decide status hp hs hd => exact { h with ended := fun _ => hd }
  | finish hp hs => exact { h with ended := fun _ => hs }
  | settle hp => exact { h with }

theorem WireOk.move {s s' : Live2v2MatchState} (hm : Go.Move s s') (h : WireOk s) : WireOk s' := by
  cases hm with
  | change hc => exact h.change hc
  | simulate hp hs =>
    refine { h with ended := fun he => ?_ }
    have hfin : s.phase = .finished := he
    rw [hp] at hfin
    cases hfin

end Run

theorem wireOk_new {s : Live2v2MatchState} (h : Go.NewMatch s) : WireOk s := by
  have hslot : ∀ slot, (s.slots slot).teamId = Go.teamIdForSlot slot.val ∧
      (s.slots slot).nextSeq = 0 := by
    intro slot
    obtain ⟨userId, career, hs⟩ := h.slots slot
    rw [hs]
    exact ⟨rfl, rfl⟩
  refine ⟨h.matchId, h.users, fun slot => (hslot slot).1, fun slot => ?_, ?_, fun he => ?_, ?_⟩
  · rw [(hslot slot).2, h.actionLog]
    exact ⟨le_refl 0, le_refl 0⟩
  · rw [h.actionLog]
    exact Nat.zero_le _
  · rw [h.phase] at he
    cases he
  · rw [h.sent]
    exact fun m hm => (List.not_mem_nil hm).elim

/-! ### What the validator makes of it -/

section Parse

open Ts

theorem teamIdText_eq (t : TeamId) : Ts.teamIdText t = Go.teamIdText t := by cases t <;> rfl

theorem teamIdForSlot_eq (slot : ℤ) : Ts.teamIdForSlot slot = Go.teamIdForSlot slot := rfl

theorem finiteInt?_ofInt {n : ℤ} (h : FiniteInt n) : finiteInt? (some (.ofInt n)) = some n := by
  have habs : |n| ≤ Json.maxSafeInteger := by
    rw [abs_of_nonneg h.1]
    exact h.2
  unfold finiteInt?
  rw [Option.bind_some, Json.safeInteger?_ofInt, if_pos habs, Option.filter_some,
    if_pos (decide_eq_true h.1)]

theorem finiteInt?_ofInt_none {n : ℤ} (h : ¬ FiniteInt n) :
    finiteInt? (some (.ofInt n)) = none := by
  unfold finiteInt?
  rw [Option.bind_some, Json.safeInteger?_ofInt]
  by_cases habs : |n| ≤ Json.maxSafeInteger
  · have hneg : ¬ 0 ≤ n := fun hn => h ⟨hn, (le_abs_self n).trans habs⟩
    rw [if_pos habs, Option.filter_some, if_neg (by simpa using hneg)]
  · rw [if_neg habs]
    rfl

theorem finiteInt_slot (slot : Slot) : FiniteInt slot.val := by
  have hlt := slot.isLt
  unfold FiniteInt Json.maxSafeInteger
  omega

theorem parseSlot_val (slot : Slot) : parseSlot (some (.ofInt slot.val)) = some (slot.val : ℤ) := by
  unfold parseSlot
  rw [finiteInt?_ofInt (finiteInt_slot slot), Option.filter_some]
  have hmem : ((slot.val : ℕ) : ℤ) ∈ twoVTwoSlots := by
    revert slot
    decide
  rw [if_pos (decide_eq_true hmem)]

theorem text?_str {s : String} (h : s ≠ "") : text? (some (.str s)) = some s := by
  unfold text?
  rw [Option.bind_some, Json.str?_str, Option.filter_some, if_pos (decide_eq_true h)]

theorem isTeamOfSlot_val (slot : Slot) :
    isTeamOfSlot (some (.str (Go.teamIdText (Go.teamIdForSlot slot.val)))) slot.val = true := by
  unfold isTeamOfSlot
  rw [Option.bind_some, Json.str?_str, teamIdText_eq, teamIdForSlot_eq]
  exact decide_eq_true rfl

/-- A state that is sent passes for a state. -/
theorem isGameState_json (state : GameState) : isGameState (Go.jsonGameState state) = true := by
  by_cases h : state.battlefieldId = "" <;>
    simp [isGameState, Go.jsonGameState, Json.get?, Json.isObj, Go.omitEmpty, h, List.lookup_cons,
      Go.jsonRecord]

theorem parseRosterFrom_json (user name : Slot → String) (hu : ∀ k, user k ≠ "") :
    ∀ {slots : List Slot} {seen : List ℤ}, slots.Nodup → (∀ k ∈ slots, (k.val : ℤ) ∉ seen) →
      parseRosterFrom seen ((slots.map fun k =>
          (⟨k.val, Go.teamIdForSlot k.val, user k, name k⟩ : Go.RosterEntry)).map
            Go.jsonRosterEntry) =
        some ((slots.map fun k =>
          (⟨k.val, Go.teamIdForSlot k.val, user k, name k⟩ : Go.RosterEntry)).map
            viewRosterEntry) := by
  intro slots
  induction slots with
  | nil => intro seen _ _; rfl
  | cons k slots ih =>
    intro seen hnodup hseen
    obtain ⟨hk, hnodup⟩ := List.nodup_cons.mp hnodup
    have hnew : ∀ j ∈ slots, (j.val : ℤ) ∉ ((k.val : ℕ) : ℤ) :: seen := by
      intro j hj hmem
      rcases List.mem_cons.mp hmem with heq | hold
      · have hval : j = k := Fin.ext (by exact_mod_cast heq)
        exact hk (hval ▸ hj)
      · exact hseen j (List.mem_cons_of_mem k hj) hold
    have hslot : (Go.jsonRosterEntry
        ⟨k.val, Go.teamIdForSlot k.val, user k, name k⟩).get? "slot" = some (.ofInt k.val) := rfl
    have huser : (Go.jsonRosterEntry
        ⟨k.val, Go.teamIdForSlot k.val, user k, name k⟩).get? "userId" = some (.str (user k)) := rfl
    have hname : (Go.jsonRosterEntry ⟨k.val, Go.teamIdForSlot k.val, user k, name k⟩).get?
        "displayName" = some (.str (name k)) := rfl
    have hteam : (Go.jsonRosterEntry ⟨k.val, Go.teamIdForSlot k.val, user k, name k⟩).get?
        "teamId" = some (.str (Go.teamIdText (Go.teamIdForSlot k.val))) := rfl
    rw [List.map_cons, List.map_cons, parseRosterFrom, hslot, huser, hname, hteam, parseSlot_val,
      text?_str (hu k)]
    simp only [Option.bind_eq_bind, Option.bind_some, if_neg (hseen k List.mem_cons_self),
      Json.str?_str, isTeamOfSlot_val, ih hnodup hnew]
    rfl

theorem parseParticipantsFrom_json
    {outcome : Slot → Go.TwoVTwoParticipantOutcome × Store.MatchSettlement}
    (hinj : Function.Injective fun k => (outcome k).1.userId)
    (ho : ∀ k, (outcome k).1.slot = k ∧ (outcome k).1.teamId = Go.teamIdForSlot k.val ∧
      (outcome k).1.userId ≠ "" ∧ (outcome k).1.status ≠ .playing) :
    ∀ {slots : List Slot} {seen : List ℤ} {users : List String}, slots.Nodup →
      (∀ k ∈ slots, (k.val : ℤ) ∉ seen ∧ (outcome k).1.userId ∉ users) →
        parseParticipantsFrom seen users ((slots.map outcome).map Go.jsonParticipant) =
          some ((slots.map outcome).map viewParticipant) := by
  intro slots
  induction slots with
  | nil => intro seen users _ _; rfl
  | cons k slots ih =>
    intro seen users hnodup hseen
    obtain ⟨hk, hnodup⟩ := List.nodup_cons.mp hnodup
    obtain ⟨hslot, hteam, huser, hstatus⟩ := ho k
    have hnew : ∀ j ∈ slots, (j.val : ℤ) ∉ ((k.val : ℕ) : ℤ) :: seen ∧
        (outcome j).1.userId ∉ (outcome k).1.userId :: users := by
      intro j hj
      have hold := hseen j (List.mem_cons_of_mem k hj)
      refine ⟨fun hmem => ?_, fun hmem => ?_⟩
      · rcases List.mem_cons.mp hmem with heq | hmem
        · have hval : j = k := Fin.ext (by exact_mod_cast heq)
          exact hk (hval ▸ hj)
        · exact hold.1 hmem
      · rcases List.mem_cons.mp hmem with heq | hmem
        · exact hk (hinj heq ▸ hj)
        · exact hold.2 hmem
    have hslotField : (Go.jsonParticipant (outcome k)).get? "slot" = some (.ofInt k.val) := by
      change some (Json.ofInt (outcome k).1.slot.val) = _
      rw [hslot]
    have hteamField : (Go.jsonParticipant (outcome k)).get? "teamId" =
        some (.str (Go.teamIdText (Go.teamIdForSlot k.val))) := by
      change some (Json.str (Go.teamIdText (outcome k).1.teamId)) = _
      rw [hteam]
    have huserId : (Go.jsonParticipant (outcome k)).get? "userId" =
        some (.str (outcome k).1.userId) := rfl
    have hstats : parseMatchStats ((Go.jsonParticipant (outcome k)).get? "stats") =
        some (Go.jsonStats (outcome k).1.stats) := rfl
    have hsettlement : parseSettlement ((Go.jsonParticipant (outcome k)).get? "settlement") =
        some (Go.jsonSettlement (outcome k).2) := rfl
    have habandoned : ((Go.jsonParticipant (outcome k)).get? "abandoned").bind Json.bool? =
        some (outcome k).1.abandoned := rfl
    have hplayed : participantStatus? ((Go.jsonParticipant (outcome k)).get? "status") =
        some (outcome k).1.status := by
      change participantStatus? (some (.str (Go.statusText (outcome k).1.status))) = _
      cases hcase : (outcome k).1.status with
      | playing => exact absurd hcase hstatus
      | victory => rfl
      | defeat => rfl
      | draw => rfl
    have hfree : ¬ ((k.val : ℤ) ∈ seen ∨ (outcome k).1.userId ∈ users) := by
      rw [not_or]
      exact hseen k List.mem_cons_self
    have hview : viewParticipant (outcome k) =
        { slot := k.val
          teamId := Ts.teamIdForSlot k.val
          userId := (outcome k).1.userId
          status := (outcome k).1.status
          stats := some (Go.jsonStats (outcome k).1.stats)
          abandoned := some (outcome k).1.abandoned
          settlement := some (Go.jsonSettlement (outcome k).2) } := by
      unfold viewParticipant
      rw [hslot, hteam, teamIdForSlot_eq]
    rw [List.map_cons, List.map_cons, parseParticipantsFrom, hslotField, hteamField, huserId,
      hplayed, hstats, hsettlement, habandoned, parseSlot_val, text?_str huser]
    simp only [Option.bind_eq_bind, Option.bind_some, isTeamOfSlot_val, if_neg hfree,
      ih hnodup hnew]
    rw [List.map_cons, hview]
    rfl

theorem parseRoster_json (user name : Slot → String) (hu : ∀ k, user k ≠ "") :
    parseRoster (some (.arr ((Slot.all.map fun k =>
      (⟨k.val, Go.teamIdForSlot k.val, user k, name k⟩ : Go.RosterEntry)).map
        Go.jsonRosterEntry))) = some ((Slot.all.map fun k =>
      (⟨k.val, Go.teamIdForSlot k.val, user k, name k⟩ : Go.RosterEntry)).map viewRosterEntry) :=
  @parseRosterFrom_json user name hu Slot.all [] (by decide) fun _ _ => List.not_mem_nil

/-- The validator takes the winner of a result, unless it is an empty text. -/
theorem parseWinner_json (winner : Option TeamId) :
    parseWinner (some (.str (winner.elim "" Go.teamIdText))) =
      if winner = none then none else some winner := by
  cases winner with
  | none => rfl
  | some t => cases t <;> rfl

theorem parse_matchResult {matchId : String} (hid : matchId ≠ "") (winner : Option TeamId)
    {outcome : Slot → Go.TwoVTwoParticipantOutcome × Store.MatchSettlement}
    (hinj : Function.Injective fun k => (outcome k).1.userId)
    (ho : ∀ k, (outcome k).1.slot = k ∧ (outcome k).1.teamId = Go.teamIdForSlot k.val ∧
      (outcome k).1.userId ≠ "" ∧ (outcome k).1.status ≠ .playing) :
    parseTwoVTwoServerMessage
        (Live2v2ServerMessage.matchResult matchId winner (Slot.all.map outcome)).json =
      if winner = none then none
      else some (view (.matchResult matchId winner (Slot.all.map outcome))) := by
  have hparticipants := @parseParticipantsFrom_json outcome hinj ho Slot.all [] [] (by decide)
    fun _ _ => ⟨List.not_mem_nil, List.not_mem_nil⟩
  have hparse : parseTwoVTwoServerMessage
      (Live2v2ServerMessage.matchResult matchId winner (Slot.all.map outcome)).json = (do
        let matchId ← text? (some (.str matchId))
        let participants ← parseParticipantsFrom [] [] ((Slot.all.map outcome).map Go.jsonParticipant)
        let winnerTeamId ← parseWinner (some (.str (winner.elim "" Go.teamIdText)))
        some (⟨matchId, winnerTeamId, false, some participants⟩ : TwoVTwoMatchResultPayload)).map
          .matchResult := rfl
  rw [hparse, text?_str hid, hparticipants, parseWinner_json]
  cases winner <;> rfl

theorem parse_matchStarted {matchId : String} (hid : matchId ≠ "") (slot : Slot)
    {nextSequence : ℤ} (hseq : FiniteInt nextSequence) (user name : Slot → String)
    (hu : ∀ k, user k ≠ "") (state : GameState) :
    let players := Slot.all.map fun k =>
      (⟨k.val, Go.teamIdForSlot k.val, user k, name k⟩ : Go.RosterEntry)
    let m := Live2v2ServerMessage.matchStarted matchId slot (Go.teamIdForSlot slot.val) nextSequence
      players state
    parseTwoVTwoServerMessage m.json = some (view m) := by
  intro players m
  have hparse : parseTwoVTwoServerMessage m.json = (do
      let matchId ← text? (some (.str matchId))
      let slot' ← parseSlot (some (.ofInt slot.val))
      if !isTeamOfSlot (some (.str (Go.teamIdText (Go.teamIdForSlot slot.val)))) slot' then none
      let nextSequence ← finiteInt? (some (.ofInt nextSequence))
      let players ← parseRoster (some (.arr (players.map Go.jsonRosterEntry)))
      let state ← (some (Go.jsonGameState state)).filter isGameState
      some (⟨matchId, slot', Ts.teamIdForSlot slot', nextSequence, players, state⟩ :
        TwoVTwoMatchStartedPayload)).map .matchStarted := rfl
  rw [hparse, text?_str hid, parseSlot_val, finiteInt?_ofInt hseq, parseRoster_json user name hu,
    Option.filter_some, if_pos (isGameState_json state)]
  simp only [Option.bind_eq_bind, Option.bind_some, isTeamOfSlot_val]
  rfl

/-- **What the validator makes of a sound message**: the same values, or nothing. -/
theorem parse_json {m : Live2v2ServerMessage} (h : Sound m) :
    (Readable m → parseTwoVTwoServerMessage m.json = some (view m)) ∧
      (¬ Readable m → parseTwoVTwoServerMessage m.json = none) := by
  cases m with
  | matchStarted matchId slot teamId nextSequence players state =>
    obtain ⟨hid, hteam, hnonneg, hle, user, name, hu, hplayers⟩ := h
    have hseq : FiniteInt nextSequence := by
      refine ⟨hnonneg, hle.trans ?_⟩
      decide
    rw [hteam, hplayers]
    exact ⟨fun _ => parse_matchStarted hid slot hseq user name hu state,
      fun hr => absurd trivial hr⟩
  | state tick state =>
    have hparse : parseTwoVTwoServerMessage (Live2v2ServerMessage.state tick state).json = (do
        let tick ← finiteInt? (some (.ofInt tick))
        let state ← (some (Go.jsonGameState state)).filter isGameState
        some (.state tick state)) := rfl
    rw [hparse, Option.filter_some, if_pos (isGameState_json state)]
    refine ⟨fun hr => ?_, fun hr => ?_⟩
    · rw [finiteInt?_ofInt hr]
      rfl
    · rw [finiteInt?_ofInt_none hr]
      rfl
  | commandAccepted sequence slot =>
    have hseq : FiniteInt sequence := by
      refine ⟨h.1, h.2.trans ?_⟩
      decide
    have hparse : parseTwoVTwoServerMessage
        (Live2v2ServerMessage.commandAccepted sequence slot).json = (do
          let sequence ← finiteInt? (some (.ofInt sequence))
          let slot ← parseSlot (some (.ofInt slot.val))
          some (.commandAccepted sequence slot)) := rfl
    rw [hparse, finiteInt?_ofInt hseq, parseSlot_val]
    exact ⟨fun _ => rfl, fun hr => absurd trivial hr⟩
  | commandRejected code sequence =>
    have hcode : code.text ≠ "" := by cases code <;> decide
    have hparse : parseTwoVTwoServerMessage
        (Live2v2ServerMessage.commandRejected code sequence).json = (do
          let sequence ← finiteInt? (some (.ofInt sequence))
          let code ← text? (some (.str code.text))
          some (.commandRejected sequence code)) := rfl
    rw [hparse, text?_str hcode]
    refine ⟨fun hr => ?_, fun hr => ?_⟩
    · rw [finiteInt?_ofInt hr]
      rfl
    · rw [finiteInt?_ofInt_none hr]
      rfl
  | rematchStarted matchId =>
    have hparse : parseTwoVTwoServerMessage (Live2v2ServerMessage.rematchStarted matchId).json =
        (text? (some (.str matchId))).map .rematchStarted := rfl
    rw [hparse, text?_str h]
    exact ⟨fun _ => rfl, fun hr => absurd trivial hr⟩
  | matchResult matchId winner participants =>
    obtain ⟨hid, outcome, rfl, hinj, ho⟩ := h
    rw [parse_matchResult hid winner hinj ho]
    exact ⟨fun hr => if_neg hr, fun hr => if_pos (not_not.mp hr)⟩
  | matchCancelled matchId =>
    have hparse : parseTwoVTwoServerMessage (Live2v2ServerMessage.matchCancelled matchId).json =
        (do
          let matchId ← text? (some (.str matchId))
          some (⟨matchId, none, true, none⟩ : TwoVTwoMatchResultPayload)).map .matchResult := rfl
    rw [hparse, text?_str h]
    exact ⟨fun _ => rfl, fun hr => absurd trivial hr⟩
  | matchClosed matchId =>
    have hparse : parseTwoVTwoServerMessage (Live2v2ServerMessage.matchClosed matchId).json =
        (text? (some (.str matchId))).map .matchClosed := rfl
    rw [hparse, text?_str h]
    exact ⟨fun _ => rfl, fun hr => absurd trivial hr⟩
  | settlementFailed => exact ⟨fun _ => rfl, fun hr => absurd trivial hr⟩

end Parse

/-! ### Every message of every run -/

section Run

variable [MathLib]

/-- In every run the match keeps to what is sound. -/
theorem wireOk_run {s : Live2v2MatchState} (h : Go.NewMatch s) (events : List Go.Live2v2Event) :
    WireOk (events.foldl Go.Live2v2Run.step (.start s)).live :=
  (Go.run_preserves (fun _ _ hm hs => WireOk.move hm hs) (wireOk_new h) events).last

/-- **The client reads what the server sends, except a draw and odd numbers.**  Whatever
the calls of a match, each message it has sent is read as the same message with the same
values exactly if it is readable: a result has a winner, and the sequence of a refused
command and the tick of a state are safe integers from zero on. -/
theorem server_messages {enable2v2 equalPower : Bool} {params : Go.Live2v2Params}
    {lookup : String → Go.SeatLookup} {randomHex : Option String} {startedAt : ℤ}
    {s : Live2v2MatchState}
    (h : Go.live2v2MatchInit enable2v2 equalPower params lookup randomHex startedAt = some s)
    (events : List Go.Live2v2Event) :
    ∀ m ∈ (events.foldl Go.Live2v2Run.step (.start s)).live.sent,
      parseTwoVTwoServerMessage m.2.json = some (view m.2) ↔ Readable m.2 := by
  intro m hm
  have hsound := (wireOk_run (Go.live2v2MatchInit_new h) events).sound m hm
  constructor
  · intro hread
    by_contra hr
    rw [(parse_json hsound).2 hr] at hread
    cases hread
  · exact (parse_json hsound).1

end Run

/-- The four come in and play. -/
theorem server_messages_fourReady :
    ∃ m ∈ (Go.fourReady.foldl (@Go.Live2v2Run.step decimalHypot) (.start Go.fourMatch)).live.sent,
      parseTwoVTwoServerMessage m.2.json = some (view m.2) ↔ Readable m.2 := by
  have hsent : (Go.fourReady.foldl (@Go.Live2v2Run.step decimalHypot)
      (.start Go.fourMatch)).live.sent ≠ [] := by
    decide +kernel
  exact ⟨_, List.head_mem hsent,
    @server_messages decimalHypot _ _ _ _ _ _ _ Go.fourMatch_init Go.fourReady _
      (List.head_mem hsent)⟩

/-- The four play until the deadline of the match is over. -/
def drawn : List Go.Live2v2Event :=
  Go.fourReady ++ [.loop 2 (121 * Go.second) [] Go.settlingAnswers]

/-- **The result of a draw is refused**, and with it the end of the match. -/
theorem server_messages_drawn : ¬ ∀ (events : List Go.Live2v2Event),
    ∀ m ∈ (events.foldl (@Go.Live2v2Run.step decimalHypot) (.start Go.fourMatch)).live.sent,
      parseTwoVTwoServerMessage m.2.json = some (view m.2) := by
  intro h
  have hsome : ∀ m ∈ (drawn.foldl (@Go.Live2v2Run.step decimalHypot)
      (.start Go.fourMatch)).live.sent, (parseTwoVTwoServerMessage m.2.json).isSome = true := by
    intro m hm
    rw [h drawn m hm]
    rfl
  revert hsome
  decide +kernel

end CrownClash.Parity
