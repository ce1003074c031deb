import CrownClash.Parity.LiveOrders

/-!
# Parity: the orders of a 2v2 client

The handler of a 2v2 match checks more than that of a duel: who sits in the slot,
how long the message is, whether the log has room.  While the client stays and orders
nothing but dispatches, all of that holds of an order that is legal and expected, so
the handler takes numbered orders too (`team_numbered`).
-/

namespace CrownClash.Parity

open Lib
open Go (Presence Live2v2MatchState Live2v2Message LegalDispatch Slot Answers)
open Ts (LiveMatchClient DispatchMessage createTwoVTwoDispatchMessage)

/-- `taken` counts the orders of the client that the handler is done with. -/
structure TeamLink where
  server : Live2v2MatchState
  client : LiveMatchClient
  taken : ℕ

inductive TeamEvent
  /-- The client sends an order. -/
  | send (sourceId targetId : String)
  /-- The handler reads the client's next order. -/
  | take (serverSeq : ℤ) (answers : Answers)
  /-- The handler reads a message of somebody else. -/
  | other (message : Live2v2Message) (serverSeq : ℤ) (answers : Answers)
  /-- A call of the loop, up to its messages. -/
  | opens (tick : ℕ) (now : ℤ) (answers : Answers)
  /-- The rest of the call, which has read so many messages. -/
  | closes (read tick : ℕ) (now : ℤ) (answers : Answers)

/-- An order as the handler gets it. -/
def teamMessage (me : Presence) (d : DispatchMessage) : Live2v2Message where
  sender := me
  oversize := (createTwoVTwoDispatchMessage d.sequence d.sourceId d.targetId).utf8ByteSize
    > Go.live2v2MaxPayloadBytes
  payload := some ⟨matchSchemaVersion2, "dispatch", d.sequence, d.sourceId, d.targetId⟩

namespace TeamLink

/-- The client's next order. -/
def next (l : TeamLink) : Option DispatchMessage := l.client.sent[l.taken]?

variable [MathLib]

def take (me : Presence) (l : TeamLink) (serverSeq : ℤ) (answers : Answers) : TeamLink :=
  match l.next with
  | none => l
  | some d =>
    { l with
      server := l.server.handleMessage (teamMessage me d) serverSeq answers
      taken := l.taken + 1 }

/-- A call that does not read its messages ends at once. -/
def opened (s : Live2v2MatchState) (tick : ℕ) (now : ℤ) (answers : Answers) :
    Live2v2MatchState :=
  match Go.messagesFrom s tick now answers with
  | some t => t
  | none => (s.matchLoop tick now [] answers).1

def step (me : Presence) (l : TeamLink) : TeamEvent → TeamLink
  | .send sourceId targetId => { l with client := l.client.sendDispatch sourceId targetId }
  | .take serverSeq answers => l.take me serverSeq answers
  | .other message serverSeq answers =>
    if message.sender.userId = me.userId then l
    else { l with server := l.server.handleMessage message serverSeq answers }
  | .opens tick now answers => { l with server := opened l.server tick now answers }
  | .closes read tick now answers =>
    { l with
      server := ({ l.server with serverSeq := l.server.serverSeq + read }.afterMessages tick now
        answers).1 }

omit [MathLib] in
/-- The handler reads an order of the client. -/
def Reads (l : TeamLink) (e : TeamEvent) : Prop :=
  (∃ serverSeq answers, e = .take serverSeq answers) ∧ l.next.isSome = true

/-- The match is played, its log has room, and the client's next order is legal. -/
def Legal (slot : Slot) (l : TeamLink) : Prop :=
  l.server.phase = .playing ∧ l.server.actionLog.length < Go.live2v2MaxActionsPerMatch ∧
    ∃ d, l.next = some d ∧ LegalDispatch l.server.state d.sourceId d.targetId
      (Go.simulationOwnerForSlot slot.val)

/-- An order that is legal when it is read is accepted. -/
def AcceptsLegal (me : Presence) (slot : Slot) (l : TeamLink) (e : TeamEvent) : Prop :=
  Reads l e → l.Legal slot → ∃ d, l.next = some d ∧
    (l.step me e).server.sent = l.server.sent ++ [([me], .commandAccepted d.sequence slot)]

end TeamLink

/-! ### What stays as it is -/

/-- The client is in its match, its orders are numbered, and it sits in its slot. -/
structure TeamOk (me : Presence) (slot : Slot) (base : ℤ) (l : TeamLink) : Prop where
  v2 : l.client.v2 = some 0
  active : (l.client.sessions 0).phase = .active
  numbers : Numbers base (l.client.sessions 0).nextSequence l.client.sent
  seat : Go.SitsIn me slot l.server.lobby
  play : Go.PlayOk l.server
  seqs : Go.SeqsOk l.server

section Steps

variable [MathLib] {me : Presence} {slot : Slot} {base : ℤ} {l : TeamLink}

theorem serverOk_moves {s s' : Live2v2MatchState} (hm : Go.Moves s s') (hplay : Go.PlayOk s)
    (hseqs : Go.SeqsOk s) : Go.PlayOk s' ∧ Go.SeqsOk s' := by
  induction hm with
  | refl => exact ⟨hplay, hseqs⟩
  | tail _ hlast ih => exact ⟨ih.1.move hlast, Go.seqsOk_move hlast ih.2⟩

theorem opened_spec (s : Live2v2MatchState) (tick : ℕ) (now : ℤ) (answers : Answers) :
    Go.Moves s (TeamLink.opened s tick now answers) ∧
      Go.LobbyMoves (.loop tick now [] answers) s.lobby
        (TeamLink.opened s tick now answers).lobby ∧
      (TeamLink.opened s tick now answers).logView = { s.logView with tick := tick } := by
  have hloop := Go.matchLoop_messages s tick now [] answers
  unfold TeamLink.opened
  cases hm : Go.messagesFrom s tick now answers with
  | some t =>
    rw [hm] at hloop
    exact ⟨Go.moves_of_changes (Go.messagesFrom_changes hm), Go.messagesFrom_lobby hm, hloop.1⟩
  | none =>
    rw [hm] at hloop
    exact ⟨Go.matchLoop_moves s tick now [] answers, Go.matchLoop_lobby s, hloop⟩

omit [MathLib] in
theorem sequence_text : ∀ n ∈ List.range Go.twoVTwoDefaultMaxActions,
    (toString (n : ℤ)).utf8ByteSize ≤ 5 := by decide +kernel

omit [MathLib] in
theorem territory_text : ∀ b ∈ battlefields, ∀ id ∈ b.order, (Json.quote id).utf8ByteSize ≤ 40 := by
  decide +kernel

/-- **The message of a legal order is short.** -/
theorem teamMessage_short (hplay : Go.PlayOk l.server) (hphase : l.server.phase = .playing)
    {d : DispatchMessage} (hnonneg : 0 ≤ d.sequence)
    (hless : d.sequence < Go.live2v2MaxActionsPerMatch) {owner : Team}
    (hlegal : LegalDispatch l.server.state d.sourceId d.targetId owner) :
    (teamMessage me d).oversize = false := by
  have hkey : ∀ id, (∃ t, l.server.state.territories.get? id = some t) →
      (Json.quote id).utf8ByteSize ≤ 40 := by
    rintro id ⟨t, ht⟩
    have hmem := Record.mem_keys_of_get? ht
    rw [(hplay.battle hphase).keys] at hmem
    exact territory_text _ (battlefieldOf_mem l.server.state.battlefieldId) id hmem
  obtain ⟨source, hsource, -⟩ := hlegal.source
  have hfrom := hkey d.sourceId ⟨source, hsource⟩
  have hto := hkey d.targetId hlegal.target
  have hnumber : (toString d.sequence).utf8ByteSize ≤ 5 := by
    have htext := sequence_text d.sequence.toNat (List.mem_range.mpr (by
      have : (Go.live2v2MaxActionsPerMatch : ℤ) = Go.twoVTwoDefaultMaxActions := rfl
      omega))
    rwa [Int.toNat_of_nonneg hnonneg] at htext
  have hpieces : ("\x7b\"schemaVersion\":2,\"type\":\"dispatch\",\"sequence\":").utf8ByteSize ≤ 60 ∧
      (",\"sourceId\":").utf8ByteSize ≤ 20 ∧ (",\"targetId\":").utf8ByteSize ≤ 20 ∧
      ("\x7d").utf8ByteSize ≤ 1 := by decide +kernel
  refine decide_eq_false ?_
  unfold createTwoVTwoDispatchMessage Go.live2v2MaxPayloadBytes
  rw [String.utf8ByteSize_append, String.utf8ByteSize_append, String.utf8ByteSize_append,
    String.utf8ByteSize_append, String.utf8ByteSize_append, String.utf8ByteSize_append]
  omega

theorem handleMessage_order (h : TeamOk me slot base l) (d : DispatchMessage) (serverSeq : ℤ)
    (answers : Answers) :
    l.server.handleMessage (teamMessage me d) serverSeq answers =
      if (teamMessage me d).oversize then
        l.server.rejectCommand (teamMessage me d) .invalidPayload
      else l.server.handleDispatch (teamMessage me d)
        ⟨matchSchemaVersion2, "dispatch", d.sequence, d.sourceId, d.targetId⟩ slot serverSeq := by
  have hsender : l.server.senderSlot (teamMessage me d) = some slot :=
    Go.senderSlot_of_holds h.seat.holds
  unfold Live2v2MatchState.handleMessage Live2v2MatchState.readPayload
  rw [hsender]
  dsimp only
  cases (teamMessage me d).oversize with
  | true => rfl
  | false => rfl

/-- **The client's next order is legal and expected, or nothing is counted for it.** -/
theorem team_take_cases (h : TeamOk me slot base l) {d : DispatchMessage} (serverSeq : ℤ)
    (answers : Answers) (hd : l.next = some d) :
    (l.Legal slot ∧ (l.server.slots slot).nextSeq = d.sequence ∧ ∃ payload state,
        payload.sequence = d.sequence ∧
        l.server.handleMessage (teamMessage me d) serverSeq answers
          = l.server.acceptDispatch (teamMessage me d) slot payload serverSeq state) ∨
      (¬ (l.Legal slot ∧ (l.server.slots slot).nextSeq = d.sequence) ∧ ∃ code,
        l.server.handleMessage (teamMessage me d) serverSeq answers
          = l.server.rejectCommand (teamMessage me d) code) := by
  rw [handleMessage_order h]
  by_cases hgood : l.Legal slot ∧ (l.server.slots slot).nextSeq = d.sequence
  · left
    obtain ⟨⟨hphase, hroom, d', hd', hlegal⟩, hseq⟩ := hgood
    rw [hd] at hd'
    cases hd'
    have hseqs := h.seqs slot
    have hroom' : (l.server.actionLog.length : ℤ) < Go.live2v2MaxActionsPerMatch := by
      exact_mod_cast hroom
    have hshort : (teamMessage me d).oversize = false :=
      teamMessage_short h.play hphase (by omega) (by omega) hlegal
    obtain ⟨state, haccepts⟩ : ∃ state, Go.Accepts l.server slot
        ⟨matchSchemaVersion2, "dispatch", d.sequence, d.sourceId, d.targetId⟩ serverSeq state :=
      Go.accepts_of_legal serverSeq hphase hroom hlegal h.seat.standing h.seat.connected hseq
    refine ⟨⟨hphase, hroom, d, hd, hlegal⟩, hseq, _, state, ?_,
      by rw [hshort, if_neg Bool.false_ne_true]; exact Go.handleDispatch_accept _ haccepts⟩
    rfl
  · right
    refine ⟨hgood, ?_⟩
    split
    · exact ⟨_, rfl⟩
    rcases Go.handleDispatch_cases l.server (teamMessage me d)
      ⟨matchSchemaVersion2, "dispatch", d.sequence, d.sourceId, d.targetId⟩ slot serverSeq with
      hreject | ⟨state, haccepts, -⟩
    · exact hreject
    · exact absurd ⟨⟨haccepts.phase, haccepts.room, d, hd, haccepts.legal⟩, haccepts.sequence⟩
        hgood

theorem take_lobby (h : TeamOk me slot base l) (d : DispatchMessage) (serverSeq : ℤ)
    (answers : Answers) :
    (l.server.handleMessage (teamMessage me d) serverSeq answers).lobby = l.server.lobby := by
  rw [handleMessage_order h]
  split
  · rfl
  · exact Go.handleDispatch_lobby _ _ _ _ _

omit [MathLib] in
theorem sendDispatch_team {c : LiveMatchClient} (hv : c.v2 = some 0)
    (ha : (c.sessions 0).phase = .active) (sourceId targetId : String) :
    (c.sendDispatch sourceId targetId).v2 = some 0 ∧
      ((c.sendDispatch sourceId targetId).sessions 0).phase = .active ∧
      ((c.sendDispatch sourceId targetId).sessions 0).nextSequence
        = (c.sessions 0).nextSequence + 1 ∧
      (c.sendDispatch sourceId targetId).sent
        = c.sent ++ [⟨some 2, (c.sessions 0).nextSequence, sourceId, targetId⟩] := by
  unfold LiveMatchClient.sendDispatch
  rw [hv]
  dsimp only
  rw [if_neg (not_not.mpr ha)]
  unfold LiveMatchClient.setSession
  dsimp only
  rw [Function.update_self]
  exact ⟨rfl, ha, rfl, rfl⟩

/-- **What happens in a match keeps the numbering and the seat.** -/
theorem TeamOk.step (h : TeamOk me slot base l) (e : TeamEvent) :
    TeamOk me slot base (l.step me e) := by
  cases e with
  | send sourceId targetId =>
    obtain ⟨hv, ha, hnext, hsent⟩ := sendDispatch_team h.v2 h.active sourceId targetId
    refine ⟨hv, ha, ?_, h.seat, h.play, h.seqs⟩
    show Numbers base ((l.client.sendDispatch sourceId targetId).sessions 0).nextSequence
      (l.client.sendDispatch sourceId targetId).sent
    rw [hnext, hsent]
    exact h.numbers.snoc rfl
  | take serverSeq answers =>
    show TeamOk me slot base (l.take me serverSeq answers)
    unfold TeamLink.take
    split
    · exact h
    · next d hd =>
      obtain ⟨hplay, hseqs⟩ := serverOk_moves (Go.moves_of_changes
        (Go.handleMessage_changes l.server (teamMessage me d) serverSeq answers)) h.play h.seqs
      refine ⟨h.v2, h.active, h.numbers, ?_, hplay, hseqs⟩
      show Go.SitsIn me slot (l.server.handleMessage (teamMessage me d) serverSeq answers).lobby
      rw [take_lobby h]
      exact h.seat
  | other message serverSeq answers =>
    unfold TeamLink.step
    dsimp only
    split
    · exact h
    · next hne =>
      obtain ⟨hplay, hseqs⟩ := serverOk_moves (Go.moves_of_changes
        (Go.handleMessage_changes l.server message serverSeq answers)) h.play h.seqs
      have hmoves : Go.LobbyMoves (.loop 0 0 [message] answers) l.server.lobby
          (l.server.handleMessage message serverSeq answers).lobby :=
        Go.handleMessage_lobby serverSeq List.mem_cons_self
      have hforeign : Go.Foreign me (.loop 0 0 [message] answers) := by
        intro m hm
        rw [List.mem_singleton.mp hm]
        exact hne
      exact ⟨h.v2, h.active, h.numbers, h.seat.moves hforeign hmoves, hplay, hseqs⟩
  | opens tick now answers =>
    obtain ⟨hmoves, hlobby, -⟩ := opened_spec l.server tick now answers
    obtain ⟨hplay, hseqs⟩ := serverOk_moves hmoves h.play h.seqs
    have hforeign : Go.Foreign me (.loop tick now [] answers) :=
      fun m hm => absurd hm List.not_mem_nil
    exact ⟨h.v2, h.active, h.numbers, h.seat.moves hforeign hlobby, hplay, hseqs⟩
  | closes read tick now answers =>
    have hplay : Go.PlayOk { l.server with serverSeq := l.server.serverSeq + read } :=
      { h.play with }
    obtain ⟨hplay, hseqs⟩ := serverOk_moves
      (Go.afterMessages_moves { l.server with serverSeq := l.server.serverSeq + read } tick now
        answers) hplay h.seqs
    have hforeign : Go.Foreign me (.loop tick now [] answers) :=
      fun m hm => absurd hm List.not_mem_nil
    have hlobby : Go.LobbyMoves (.loop tick now [] answers) l.server.lobby
        ({ l.server with serverSeq := l.server.serverSeq + read }.afterMessages tick now
          answers).1.lobby :=
      Go.afterMessages_lobby { l.server with serverSeq := l.server.serverSeq + read }
    exact ⟨h.v2, h.active, h.numbers, h.seat.moves hforeign hlobby, hplay, hseqs⟩

omit [MathLib] in
theorem nextSeq_accept (s : Live2v2MatchState) (message : Live2v2Message) (k slot : Slot)
    (payload : Go.Live2v2ClientMessage) (serverSeq : ℤ) (state : GameState) :
    ((s.acceptDispatch message k payload serverSeq state).slots slot).nextSeq
      = if k = slot then (s.slots slot).nextSeq + 1 else (s.slots slot).nextSeq := by
  show (Function.update s.slots k { s.slots k with nextSeq := (s.slots k).nextSeq + 1 }
    slot).nextSeq = _
  split
  · next he =>
    rw [← he, Function.update_self]
  · next hne => rw [Function.update_of_ne (Ne.symm hne)]

theorem TeamOk.nextSeq_step (h : TeamOk me slot base l) {e : TeamEvent} (he : ¬ l.Reads e) :
    (l.step me e).taken = l.taken ∧
      ((l.step me e).server.slots slot).nextSeq = (l.server.slots slot).nextSeq := by
  cases e with
  | send sourceId targetId => exact ⟨rfl, rfl⟩
  | take serverSeq answers =>
    have hempty : l.next = none := by
      rw [← Option.not_isSome_iff_eq_none]
      exact fun hs => he ⟨⟨serverSeq, answers, rfl⟩, hs⟩
    show (l.take me serverSeq answers).taken = _ ∧
      ((l.take me serverSeq answers).server.slots slot).nextSeq = _
    unfold TeamLink.take
    rw [hempty]
    exact ⟨rfl, rfl⟩
  | other message serverSeq answers =>
    unfold TeamLink.step
    dsimp only
    split
    · exact ⟨rfl, rfl⟩
    next hne =>
    refine ⟨rfl, ?_⟩
    rcases Go.handleMessage_log l.server message serverSeq answers with
      hsame | ⟨k, payload, state, hsender, -, -, -, haccept⟩
    · exact congrFun (congrArg Go.LogView.nextSeq hsame) slot
    · have hholds := Go.senderSlot_holds hsender
      have hk : k ≠ slot := h.seat.alone (h.seat.ok.bound _ k hholds.1) hne
      rw [haccept, nextSeq_accept, if_neg hk]
  | opens tick now answers =>
    obtain ⟨-, -, hlog⟩ := opened_spec l.server tick now answers
    exact ⟨rfl, congrFun (congrArg Go.LogView.nextSeq hlog) slot⟩
  | closes read tick now answers =>
    have hlog := Go.afterMessages_logView
      { l.server with serverSeq := l.server.serverSeq + read } tick now answers
    exact ⟨rfl, congrFun (congrArg Go.LogView.nextSeq hlog) slot⟩

omit [MathLib] in
theorem TeamOk.number (h : TeamOk me slot base l) {d : DispatchMessage} (hd : l.next = some d) :
    d.sequence = base + l.taken :=
  h.numbers.sequence l.taken d hd

theorem take_next {serverSeq : ℤ} {answers : Answers} {d : DispatchMessage}
    (hd : l.next = some d) :
    l.step me (.take serverSeq answers)
      = { l with
          server := l.server.handleMessage (teamMessage me d) serverSeq answers
          taken := l.taken + 1 } := by
  show l.take me serverSeq answers = _
  unfold TeamLink.take
  rw [hd]

/-- **A 2v2 match takes numbered orders.** -/
theorem team_numbered (me : Presence) (slot : Slot) (base : ℤ) :
    Numbered (TeamLink.step me) (TeamOk me slot base) TeamLink.Reads (fun l _ => l.Legal slot)
      (fun l => base + l.taken) (fun l => (l.server.slots slot).nextSeq) := by
  refine ⟨fun l e h => h.step e, ?_, ?_, ?_, ?_⟩
  · rintro l e h ⟨⟨serverSeq, answers, rfl⟩, hnext⟩
    obtain ⟨d, hd⟩ := Option.isSome_iff_exists.mp hnext
    rw [take_next hd]
    push_cast
    ring
  · rintro l e h ⟨⟨serverSeq, answers, rfl⟩, hnext⟩ hlegal hseq
    obtain ⟨d, hd⟩ := Option.isSome_iff_exists.mp hnext
    rw [take_next hd]
    rcases team_take_cases h serverSeq answers hd with
      ⟨-, -, payload, state, -, haccept⟩ | ⟨hno, -⟩
    · show ((l.server.handleMessage (teamMessage me d) serverSeq answers).slots slot).nextSeq = _
      rw [haccept, nextSeq_accept, if_pos rfl]
    · exact absurd ⟨hlegal, by rw [h.number hd]; exact hseq.symm⟩ hno
  · rintro l e h ⟨⟨serverSeq, answers, rfl⟩, hnext⟩ hno
    obtain ⟨d, hd⟩ := Option.isSome_iff_exists.mp hnext
    rw [take_next hd]
    rcases team_take_cases h serverSeq answers hd with
      ⟨hlegal, hseq, -⟩ | ⟨-, code, hreject⟩
    · exact absurd ⟨hlegal, by rw [hseq]; exact (h.number hd).symm⟩ hno
    · show ((l.server.handleMessage (teamMessage me d) serverSeq answers).slots slot).nextSeq = _
      rw [hreject]
      rfl
  · intro l e h hno
    obtain ⟨htaken, hsame⟩ := h.nextSeq_step hno
    rw [htaken, hsame]
    exact ⟨rfl, rfl⟩

/-- An order that is legal is accepted exactly when its number is the expected one. -/
theorem team_acceptsLegal_iff (h : TeamOk me slot base l) (e : TeamEvent) :
    l.AcceptsLegal me slot e ↔ Numbered.InStep TeamLink.Reads (fun l _ => l.Legal slot)
      (fun l => base + l.taken) (fun l => (l.server.slots slot).nextSeq) l e := by
  refine forall_congr' fun hreads => forall_congr' fun hlegal => ?_
  obtain ⟨⟨serverSeq, answers, rfl⟩, hnext⟩ := hreads
  obtain ⟨d, hd⟩ := Option.isSome_iff_exists.mp hnext
  show _ ↔ base + (l.taken : ℤ) = (l.server.slots slot).nextSeq
  rw [← h.number hd, take_next hd]
  constructor
  · rintro ⟨d', hd', hsent⟩
    rw [hd] at hd'
    cases hd'
    rcases team_take_cases h serverSeq answers hd with ⟨-, hseq, -⟩ | ⟨-, code, hreject⟩
    · exact hseq.symm
    · have hsent' : (l.server.rejectCommand (teamMessage me d) code).sent
          = l.server.sent ++ [([me], .commandAccepted d.sequence slot)] := by
        rw [← hreject]
        exact hsent
      have hlast := List.append_cancel_left hsent'
      cases hlast
  · intro hseq
    rcases team_take_cases h serverSeq answers hd with
      ⟨-, -, payload, state, hpayload, haccept⟩ | ⟨hno, -⟩
    · refine ⟨d, hd, ?_⟩
      show (l.server.handleMessage (teamMessage me d) serverSeq answers).sent = _
      rw [haccept, ← hpayload]
      rfl
    · exact absurd ⟨hlegal, hseq.symm⟩ hno

end Steps

/-! ### The start of a match -/

/-- The match starts, and a client that joined it is told so. -/
def teamLink (s : Live2v2MatchState) (now : ℤ) (slot : Slot) (rawMatchId : String)
    (lastSettledMatchId : Option String) (reconnectTransport : Bool) : TeamLink where
  server := s.startMatch now
  client := (LiveMatchClient.matched rawMatchId lastSettledMatchId
    reconnectTransport).applyTwoVTwoMessage 0 (view ((s.startMatch now).matchStartedPayload slot))
  taken := 0

theorem startMatch_seat {me : Presence} {slot : Slot} {s : Live2v2MatchState} (now : ℤ)
    (hphase : s.phase = .countdown) (hok : Go.LobbyOk s.lobby) (hholds : s.lobby.Holds slot me) :
    Go.SitsIn me slot (s.startMatch now).lobby := by
  have hstanding := hok.fresh (Or.inr hphase) slot
  unfold Live2v2MatchState.startMatch
  cases s.createInitial2v2State with
  | none =>
    exact ⟨{ hok with fresh := fun hw => by rcases hw with hw | hw <;> cases hw }, hholds,
      hstanding⟩
  | some initialState =>
    exact ⟨{ hok with fresh := fun hw => by rcases hw with hw | hw <;> cases hw }, hholds,
      hstanding⟩

theorem teamLink_ok [MathLib] {me : Presence} {slot : Slot} {s : Live2v2MatchState} (now : ℤ)
    (rawMatchId : String) (lastSettledMatchId : Option String) (reconnectTransport : Bool)
    (hphase : s.phase = .countdown) (hok : Go.LobbyOk s.lobby) (hholds : s.lobby.Holds slot me)
    (hplay : Go.PlayOk s) (hseqs : Go.SeqsOk s) :
    TeamOk me slot ((s.startMatch now).slots slot).nextSeq
      (teamLink s now slot rawMatchId lastSettledMatchId reconnectTransport) := by
  obtain ⟨hplay', hseqs'⟩ := serverOk_moves
    (Go.moves_of_changes (Go.startMatch_changes s now hphase)) hplay hseqs
  refine ⟨rfl, rfl, ⟨fun i d hd => ?_, ?_⟩, startMatch_seat now hphase hok hholds, hplay', hseqs'⟩
  · have hempty : (teamLink s now slot rawMatchId lastSettledMatchId
        reconnectTransport).client.sent = [] := rfl
    rw [hempty, List.getElem?_nil] at hd
    cases hd
  · show ((s.startMatch now).slots slot).nextSeq = _ + (0 : ℤ)
    rw [add_zero]

/-- **In a 2v2 match every legal order is accepted exactly when none follows a refused
one.** -/
theorem team_inStep [MathLib] {me : Presence} {slot : Slot} {s : Live2v2MatchState} (now : ℤ)
    (rawMatchId : String) (lastSettledMatchId : Option String) (reconnectTransport : Bool)
    (hphase : s.phase = .countdown) (hok : Go.LobbyOk s.lobby) (hholds : s.lobby.Holds slot me)
    (hplay : Go.PlayOk s) (hseqs : Go.SeqsOk s) (events : List TeamEvent) :
    EachStep (TeamLink.step me) (TeamLink.AcceptsLegal me slot)
        (teamLink s now slot rawMatchId lastSettledMatchId reconnectTransport) events
      ↔ NeverAfter (TeamLink.step me) (fun l e => l.Reads e ∧ ¬ l.Legal slot)
        (fun l e => l.Reads e ∧ l.Legal slot)
        (teamLink s now slot rawMatchId lastSettledMatchId reconnectTransport) events := by
  have hlink := teamLink_ok now rawMatchId lastSettledMatchId reconnectTransport hphase hok hholds
    hplay hseqs
  rw [eachStep_congr (I := TeamOk me slot ((s.startMatch now).slots slot).nextSeq)
    (fun l e hl => hl.step e) (fun l e hl => team_acceptsLegal_iff hl e) hlink]
  refine (team_numbered me slot _).inStep_iff hlink ?_
  show _ + ((0 : ℕ) : ℤ) = _
  rw [Nat.cast_zero, add_zero]
  rfl

/-- **Numbers stay in step exactly as long as no refused order precedes a legal one.**
For every duel and for every 2v2 match, from its start on and whatever the others
send, every order of the client that is legal when the handler reads it is accepted,
if and only if no such order is read after one of the client's orders that was not. -/
theorem orders_inStep [MathLib] :
    (∀ (equalPower : Bool) (params : Go.LiveMatchParams) (newLiveJoinCode battlefieldId : String)
      (first second : Go.Arrival) (t₁ t₂ : ℤ) (me : Presence) (matchId : String)
      (events : List DuelEvent),
      let l := duelLink (duelStart equalPower params newLiveJoinCode battlefieldId first second
        t₁ t₂) matchId
      EachStep (DuelLink.step me) (DuelLink.AcceptsLegal me) l events
        ↔ NeverAfter (DuelLink.step me) (fun l e => l.Reads e ∧ ¬ l.Legal me)
          (fun l e => l.Reads e ∧ l.Legal me) l events) ∧
    ∀ (enable2v2 equalPower : Bool) (params : Go.Live2v2Params) (lookup : String → Go.SeatLookup)
      (randomHex : Option String) (startedAt : ℤ) (s : Live2v2MatchState)
      (before : List Go.Live2v2Event) (me : Presence) (slot : Slot) (now : ℤ)
      (rawMatchId : String) (lastSettledMatchId : Option String) (reconnectTransport : Bool)
      (events : List TeamEvent),
      Go.live2v2MatchInit enable2v2 equalPower params lookup randomHex startedAt = some s →
      (before.foldl Go.Live2v2Run.step (.start s)).live.phase = .countdown →
      (before.foldl Go.Live2v2Run.step (.start s)).live.lobby.Holds slot me →
      let l := teamLink (before.foldl Go.Live2v2Run.step (.start s)).live now slot rawMatchId
        lastSettledMatchId reconnectTransport
      (EachStep (TeamLink.step me) (TeamLink.AcceptsLegal me slot) l events
        ↔ NeverAfter (TeamLink.step me) (fun l e => l.Reads e ∧ ¬ l.Legal slot)
          (fun l e => l.Reads e ∧ l.Legal slot) l events) := by
  constructor
  · intro equalPower params newLiveJoinCode battlefieldId first second t₁ t₂ me matchId events
    exact duel_inStep (duelStart_fresh equalPower params newLiveJoinCode battlefieldId first second
      t₁ t₂) me matchId events
  · intro enable2v2 equalPower params lookup randomHex startedAt s before me slot now rawMatchId
      lastSettledMatchId reconnectTransport events hinit hphase hholds
    have hnew := Go.live2v2MatchInit_new hinit
    have hseqs : Go.SeqsOk s := by
      intro k
      obtain ⟨userId, career, hslot⟩ := hnew.slots k
      rw [hslot, hnew.actionLog]
      exact ⟨le_refl _, le_refl _⟩
    have hplay := (Go.run_preserves (fun _ _ hm h => Go.PlayOk.move hm h) hnew.playOk before).last
    have hrun := (Go.run_preserves (fun _ _ hm h => Go.seqsOk_move hm h) hseqs before).last
    have hlobby : Go.LobbyOk (before.foldl Go.Live2v2Run.step (.start s)).live.lobby :=
      foldl_preserves (P := fun r : Go.Live2v2Run => Go.LobbyOk r.live.lobby)
        (fun r e _ hr => Go.step_keepsLobby (fun _ _ _ => Go.LobbyOk.move) e hr) hnew.lobbyOk
    exact team_inStep now rawMatchId lastSettledMatchId reconnectTransport hphase hlobby hholds
      hplay hrun events

/-- The four are in the lobby and have joined. -/
def fourJoined : List Go.Live2v2Event := Go.fourReady.take 5

/-- The match starts and the first of the four sends an order. -/
def firstOrder : List TeamEvent :=
  [.closes 0 1 0 Go.settlingAnswers, .send "a_base_w" "a_base_e", .opens 2 0 Go.settlingAnswers,
   .take 1 Go.settlingAnswers]

theorem orders_inStep_four :
    let l := teamLink (fourJoined.foldl (@Go.Live2v2Run.step decimalHypot)
      (.start Go.fourMatch)).live 0 0 "raw" none false
    EachStep (@TeamLink.step decimalHypot (Go.guest "anna"))
        (@TeamLink.AcceptsLegal decimalHypot (Go.guest "anna") 0) l firstOrder
      ↔ NeverAfter (@TeamLink.step decimalHypot (Go.guest "anna"))
        (fun l e => l.Reads e ∧ ¬ @TeamLink.Legal decimalHypot 0 l)
        (fun l e => l.Reads e ∧ @TeamLink.Legal decimalHypot 0 l) l firstOrder :=
  (@orders_inStep decimalHypot).2 true false Go.fourUsers Go.freshLookup none 0 Go.fourMatch
    fourJoined (Go.guest "anna") 0 0 "raw" none false firstOrder Go.fourMatch_init (by decide +kernel)
    ⟨by decide +kernel, Go.guest "anna", by decide +kernel, rfl⟩

/-- A duel of two fresh careers. -/
def freshDuel : DuelLink :=
  duelLink (duelStart false ⟨false, none, []⟩ "" "crown_cross"
    ⟨Go.guest "anna", Go.freshLookup "anna"⟩ ⟨Go.guest "bert", Go.freshLookup "bert"⟩ 0 0) "raw"

/-- The first player orders an army out of the enemy's base, and then a legal one. -/
def wrongSource : List DuelEvent :=
  [.send "e_base" "p_base", .take, .send "p_base" "n_bot_left"]

def isAccepted : Presence × Go.LiveServerMessage → Bool
  | (_, .commandAccepted _) => true
  | _ => false

/-- The first order is refused and its number is used up, so the handler refuses the
second, which is legal. -/
theorem orders_outOfStep :
    ¬ EachStep (@DuelLink.step decimalHypot (Go.guest "anna"))
      (@DuelLink.AcceptsLegal decimalHypot (Go.guest "anna")) freshDuel (wrongSource ++ [.take]) := by
  intro h
  have hlast := h.last
  let l := wrongSource.foldl (@DuelLink.step decimalHypot (Go.guest "anna")) freshDuel
  have hnext : l.next = some ⟨none, 1, "p_base", "n_bot_left"⟩ := by decide +kernel
  have hplayer : (l.server.playerOf "anna").map (fun p => (p.1, p.2.role)) = some (0, .player) := by
    decide +kernel
  obtain ⟨p, hp, hrole⟩ := Option.map_eq_some_iff.mp hplayer
  have hdispatch : (@Go.dispatchArmy decimalHypot l.server.state "p_base" "n_bot_left" .player 1
      "").toOption.isSome = true := by decide +kernel
  have hrole' : p.2.role = .player := (Prod.ext_iff.mp hrole).2
  have hlegal : @LegalDispatch decimalHypot l.server.state "p_base" "n_bot_left" p.2.role := by
    obtain ⟨state, hstate⟩ := Option.isSome_iff_exists.mp hdispatch
    rw [hrole']
    refine (@Go.dispatchArmy_ok_iff decimalHypot _ _ _ _ 1 "").mp ⟨state, ?_⟩
    cases hd : @Go.dispatchArmy decimalHypot l.server.state "p_base" "n_bot_left" .player 1 "" with
    | error e =>
      rw [hd] at hstate
      cases hstate
    | ok state' =>
      rw [hd] at hstate
      cases hstate
      rfl
  obtain ⟨d, hd, hsent⟩ := hlast ⟨rfl, by rw [hnext]; rfl⟩
    ⟨by decide +kernel, by decide +kernel, _, p.1, p.2, hnext, hp, hlegal⟩
  have hrefused : ((@DuelLink.step decimalHypot (Go.guest "anna") l .take).server.sent.getLast?.map
      isAccepted) = some false := by decide +kernel
  rw [hsent, List.getLast?_append] at hrefused
  cases hrefused

end CrownClash.Parity
