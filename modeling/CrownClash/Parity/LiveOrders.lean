import CrownClash.Go.LiveOrders
import CrownClash.Lib.Numbered
import CrownClash.Parity.Live2v2Wire
import CrownClash.Ts.LiveMatchClient

/-!
# Parity: the orders of a live client

A client, the channel that brings its orders to the match handler one after the
other, and the handler.  The client numbers an order when it sends it, the handler
counts an order when it accepts it (`Numbered`), so the two stay in step exactly as
long as no order of the client is refused: `inStep_iff` of the library, for the
handler of a duel and for the handler of a 2v2 match.
-/

namespace CrownClash.Parity

open Lib
open Go (Presence LiveMatchState LiveMessage LiveClientMessage LegalDispatch Slot)
open Ts (LiveMatchClient DispatchMessage)

/-! ### The orders of a client -/

/-- The orders a client has sent are numbered one after the other from `base`. -/
structure Numbers (base next : ℤ) (sent : List DispatchMessage) : Prop where
  sequence : ∀ (i : ℕ) (d : DispatchMessage), sent[i]? = some d → d.sequence = base + i
  next : next = base + sent.length

theorem Numbers.snoc {base next : ℤ} {sent : List DispatchMessage} (h : Numbers base next sent)
    {d : DispatchMessage} (hd : d.sequence = next) : Numbers base (next + 1) (sent ++ [d]) := by
  refine ⟨fun i e he => ?_, ?_⟩
  · rcases Nat.lt_or_ge i sent.length with hi | hi
    · rw [List.getElem?_append_left hi] at he
      exact h.sequence i e he
    · rw [List.getElem?_append_right hi] at he
      have hlast : i - sent.length = 0 := by
        by_contra hne
        rw [List.getElem?_eq_none (by rw [List.length_singleton]; omega)] at he
        cases he
      rw [hlast] at he
      cases he
      rw [hd, h.next]
      omega
  · rw [List.length_append, List.length_singleton, h.next]
    push_cast
    ring

/-! ### A duel -/

section Duel

/-- `taken` counts the orders of the client that the handler is done with. -/
structure DuelLink where
  server : LiveMatchState
  client : LiveMatchClient
  taken : ℕ

inductive DuelEvent
  /-- The client sends an order. -/
  | send (sourceId targetId : String)
  /-- The handler reads the client's next order. -/
  | take
  /-- The handler reads a message of somebody else. -/
  | other (message : LiveMessage)
  /-- The rest of a call of the loop, once its messages are read. -/
  | rest (now : ℤ) (settled : String → Bool)

/-- An order as the handler decodes it. -/
def duelMessage (me : Presence) (d : DispatchMessage) : LiveMessage :=
  ⟨me, some ⟨"dispatch", d.sequence, d.sourceId, d.targetId⟩⟩

namespace DuelLink

/-- The client's next order. -/
def next (l : DuelLink) : Option DispatchMessage := l.client.sent[l.taken]?

def take [MathLib] (me : Presence) (l : DuelLink) : DuelLink :=
  match l.next with
  | none => l
  | some d =>
    { l with
      server := l.server.onMessage (duelMessage me d)
      taken := l.taken + 1 }

def step [MathLib] (me : Presence) (l : DuelLink) : DuelEvent → DuelLink
  | .send sourceId targetId => { l with client := l.client.sendDispatch sourceId targetId }
  | .take => l.take me
  | .other message =>
    if message.sender.userId = me.userId then l
    else { l with server := l.server.onMessage message }
  | .rest now settled => { l with server := Go.matchLoop l.server [] now settled }

/-- The handler reads an order of the client. -/
def Reads (l : DuelLink) (e : DuelEvent) : Prop := e = .take ∧ l.next.isSome = true

/-- The match is played, and the client's next order is legal. -/
def Legal [MathLib] (me : Presence) (l : DuelLink) : Prop :=
  l.server.started = true ∧ l.server.finished = false ∧
    ∃ d seat player, l.next = some d ∧ l.server.playerOf me.userId = some (seat, player) ∧
      LegalDispatch l.server.state d.sourceId d.targetId player.role

/-- An order that is legal when it is read is accepted. -/
def AcceptsLegal [MathLib] (me : Presence) (l : DuelLink) (e : DuelEvent) : Prop :=
  Reads l e → l.Legal me → ∃ d, l.next = some d ∧
    (l.step me e).server.sent = l.server.sent ++ [(me, .commandAccepted d.sequence)]

end DuelLink

/-- The client of a duel once it has joined its match. -/
def duelClient (matchId : String) : LiveMatchClient :=
  { LiveMatchClient.matched matchId none false with
    v2 := none
    matchId := some matchId }

/-- A duel of the two players who joined one after the other. -/
def duelStart (equalPower : Bool) (params : Go.LiveMatchParams)
    (newLiveJoinCode battlefieldId : String) (first second : Go.Arrival) (t₁ t₂ : ℤ) :
    LiveMatchState :=
  Go.matchJoin (Go.matchJoin (Go.liveMatchInit equalPower params newLiveJoinCode battlefieldId)
    [first] t₁) [second] t₂

/-! What stays as it is in a duel. -/

/-- No two users have one seat. -/
def Apart (s : LiveMatchState) : Prop :=
  ∀ u v seat, s.presenceById u = some seat → s.presenceById v = some seat → u = v

structure DuelOk (l : DuelLink) : Prop where
  v2 : l.client.v2 = none
  matchId : l.client.matchId.isSome = true
  numbers : Numbers 0 l.client.nextSequence l.client.sent
  apart : Apart l.server

/-- The number the handler expects of a user. -/
def expectedOf (userId : String) (s : LiveMatchState) : ℤ :=
  (s.playerOf userId).elim 0 fun p => p.2.nextSeq

theorem expectedOf_congr {s s' : LiveMatchState} (userId : String)
    (hplayers : s'.players = s.players) (hseats : s'.presenceById = s.presenceById) :
    expectedOf userId s' = expectedOf userId s := by
  unfold expectedOf LiveMatchState.playerOf
  rw [hplayers, hseats]

theorem playerOf_eq_some {s : LiveMatchState} {userId : String} {seat : Go.Seat}
    {player : Go.LivePlayerState} (h : s.playerOf userId = some (seat, player)) :
    s.presenceById userId = some seat ∧ s.players seat = some player := by
  unfold LiveMatchState.playerOf at h
  obtain ⟨k, hk, hp⟩ := Option.bind_eq_some_iff.mp h
  obtain ⟨p, hp, he⟩ := Option.map_eq_some_iff.mp hp
  cases he
  exact ⟨hk, hp⟩

section Steps

variable [MathLib] {me : Presence} {l : DuelLink}

/-- The seats stay whatever message is read. -/
theorem onMessage_presenceById (s : LiveMatchState) (message : LiveMessage) :
    (s.onMessage message).presenceById = s.presenceById := by
  rcases Go.onMessage_cases s message with
    he | ⟨code, he⟩ | ⟨-, -, _, _, _, _, -, -, -, -, he⟩
  · rw [he]
  · rw [he]
    rfl
  · rw [he]

/-- An accepted dispatch is counted for the user who sent it, and for no other. -/
theorem expectedOf_takes {s s' : LiveMatchState} (hapart : Apart s) {message : LiveMessage}
    (h : s.Takes message s') (userId : String) :
    expectedOf userId s'
      = if message.sender.userId = userId then expectedOf userId s + 1 else expectedOf userId s := by
  obtain ⟨payload, seat, player, state, -, hplayer, -, -, rfl⟩ := h
  obtain ⟨hseat, hheld⟩ := playerOf_eq_some hplayer
  split
  · next he =>
    rw [he] at hseat hplayer
    unfold expectedOf
    rw [hplayer]
    show ((s.presenceById userId).bind fun k =>
      (Function.update s.players seat _ k).map fun p => (k, p)).elim 0 _ = _
    rw [hseat, Option.bind_some, Function.update_self]
    rfl
  · next hne =>
    show ((s.presenceById userId).bind fun k =>
      (Function.update s.players seat _ k).map fun p => (k, p)).elim 0 _
        = ((s.presenceById userId).bind fun k => (s.players k).map fun p => (k, p)).elim 0 _
    cases hk : s.presenceById userId with
    | none => rfl
    | some k =>
      have hother : k ≠ seat := by
        rintro rfl
        exact hne (hapart _ _ k hseat hk)
      rw [Option.bind_some, Option.bind_some, Function.update_of_ne hother]

/-- Only the client's own orders can move what the handler expects of it. -/
theorem expectedOf_other {s : LiveMatchState} (hapart : Apart s) {message : LiveMessage}
    (hne : message.sender.userId ≠ me.userId) :
    expectedOf me.userId (s.onMessage message) = expectedOf me.userId s := by
  rcases Go.onMessage_cases s message with he | ⟨code, he⟩ | ⟨-, -, htakes⟩
  · rw [he]
  · rw [he]
    exact expectedOf_congr _ rfl rfl
  · rw [expectedOf_takes hapart htakes, if_neg hne]

/-- **The client's next order is legal and expected, or nothing is counted for it.** -/
theorem take_cases (me : Presence) {d : DispatchMessage} (hd : l.next = some d) :
    (l.Legal me ∧ expectedOf me.userId l.server = d.sequence ∧
        l.server.Takes (duelMessage me d) (l.take me).server) ∨
      (¬ (l.Legal me ∧ expectedOf me.userId l.server = d.sequence) ∧
        expectedOf me.userId (l.take me).server = expectedOf me.userId l.server ∧
        (l.take me).server.sent ≠ l.server.sent ++ [(me, .commandAccepted d.sequence)]) := by
  have htake : (l.take me).server = l.server.onMessage (duelMessage me d) := by
    unfold DuelLink.take
    rw [hd]
  rw [htake]
  by_cases hgood : l.Legal me ∧ expectedOf me.userId l.server = d.sequence
  · left
    obtain ⟨⟨hstarted, hfinished, d', seat, player, hd', hplayer, hlegal⟩, hseq⟩ := hgood
    rw [hd] at hd'
    cases hd'
    have hnext : player.nextSeq = d.sequence := by
      rw [← hseq]
      unfold expectedOf
      rw [hplayer]
      rfl
    have htakes : l.server.Takes (duelMessage me d) (l.server.handle (duelMessage me d)) :=
      Go.handle_takes rfl rfl hplayer hnext hlegal
    have hread : l.server.onMessage (duelMessage me d)
        = l.server.handle (duelMessage me d) := by
      unfold LiveMatchState.onMessage
      rw [hfinished, hstarted]
      rfl
    rw [hread]
    exact ⟨⟨hstarted, hfinished, d, seat, player, hd, hplayer, hlegal⟩, hseq, htakes⟩
  · right
    refine ⟨hgood, ?_⟩
    rcases Go.onMessage_cases l.server (duelMessage me d) with he | ⟨code, he⟩ | ⟨hs, hf, htakes⟩
    · rw [he]
      exact ⟨rfl, fun h => by simpa using congrArg List.length h⟩
    · rw [he]
      refine ⟨expectedOf_congr _ rfl rfl, fun h => ?_⟩
      have hlast := List.append_cancel_left h
      cases hlast
    · obtain ⟨payload, seat, player, state, hpayload, hplayer, hseq, hlegal, -⟩ := htakes
      cases hpayload
      refine absurd ⟨⟨hs, hf, d, seat, player, hd, hplayer, hlegal⟩, ?_⟩ hgood
      unfold expectedOf
      have hplayer' : l.server.playerOf me.userId = some (seat, player) := hplayer
      rw [hplayer']
      exact hseq

omit [MathLib] in
theorem sendDispatch_duel {c : LiveMatchClient} (hv : c.v2 = none) (hm : c.matchId.isSome = true)
    (sourceId targetId : String) :
    c.sendDispatch sourceId targetId
      = { c with
          sent := c.sent ++ [⟨none, c.nextSequence, sourceId, targetId⟩]
          nextSequence := c.nextSequence + 1 } := by
  unfold LiveMatchClient.sendDispatch
  rw [hv]
  dsimp only
  rw [if_neg]
  rw [Option.isNone_iff_eq_none]
  intro hn
  rw [hn] at hm
  cases hm

/-- **What happens in a duel keeps the numbering and the seats.** -/
theorem DuelOk.step (h : DuelOk l) (e : DuelEvent) : DuelOk (l.step me e) := by
  have hread : ∀ message, Apart (l.server.onMessage message) := by
    intro message u v seat
    rw [onMessage_presenceById]
    exact h.apart u v seat
  cases e with
  | send sourceId targetId =>
    have hsend := sendDispatch_duel h.v2 h.matchId sourceId targetId
    have hnumbers : Numbers 0 (l.client.nextSequence + 1)
        (l.client.sent ++ [⟨none, l.client.nextSequence, sourceId, targetId⟩]) :=
      h.numbers.snoc rfl
    show DuelOk { l with client := l.client.sendDispatch sourceId targetId }
    rw [hsend]
    exact ⟨h.v2, h.matchId, hnumbers, h.apart⟩
  | take =>
    show DuelOk (l.take me)
    unfold DuelLink.take
    split
    · exact h
    · exact ⟨h.v2, h.matchId, h.numbers, hread _⟩
  | other message =>
    unfold DuelLink.step
    dsimp only
    split
    · exact h
    · exact ⟨h.v2, h.matchId, h.numbers, hread message⟩
  | rest now settled =>
    refine ⟨h.v2, h.matchId, h.numbers, ?_⟩
    show Apart (Go.matchLoop l.server [] now settled)
    unfold Apart
    rw [(Go.matchLoop_players l.server now settled).2]
    exact h.apart

/-- **A duel takes numbered orders.** -/
theorem duel_numbered (me : Presence) :
    Numbered (DuelLink.step me) DuelOk DuelLink.Reads (fun l _ => l.Legal me)
      (fun l => (l.taken : ℤ)) (fun l => expectedOf me.userId l.server) := by
  have hnumber : ∀ {l : DuelLink} {d : DispatchMessage}, DuelOk l → l.next = some d →
      d.sequence = (l.taken : ℤ) := by
    intro l d h hd
    rw [h.numbers.sequence l.taken d hd, zero_add]
  refine ⟨fun l e h => h.step e, ?_, ?_, ?_, ?_⟩
  · rintro l e h ⟨rfl, hnext⟩
    obtain ⟨d, hd⟩ := Option.isSome_iff_exists.mp hnext
    show ((l.take me).taken : ℤ) = _
    unfold DuelLink.take
    rw [hd]
    exact Nat.cast_succ l.taken
  · rintro l e h ⟨rfl, hnext⟩ hlegal hseq
    obtain ⟨d, hd⟩ := Option.isSome_iff_exists.mp hnext
    rcases take_cases me hd with ⟨-, -, htakes⟩ | ⟨hno, -, -⟩
    · show expectedOf me.userId (l.take me).server = _
      rw [expectedOf_takes h.apart htakes]
      exact if_pos rfl
    · exact absurd ⟨hlegal, by rw [hnumber h hd]; exact hseq.symm⟩ hno
  · rintro l e h ⟨rfl, hnext⟩ hno
    obtain ⟨d, hd⟩ := Option.isSome_iff_exists.mp hnext
    rcases take_cases me hd with ⟨hlegal, hseq, -⟩ | ⟨-, hsame, -⟩
    · exact absurd ⟨hlegal, by rw [hseq]; exact (hnumber h hd).symm⟩ hno
    · exact hsame
  · intro l e h hno
    cases e with
    | send sourceId targetId => exact ⟨rfl, rfl⟩
    | take =>
      have hempty : l.next = none := by
        rw [← Option.not_isSome_iff_eq_none]
        exact fun hs => hno ⟨rfl, hs⟩
      show ((l.take me).taken : ℤ) = _ ∧ expectedOf me.userId (l.take me).server = _
      unfold DuelLink.take
      rw [hempty]
      exact ⟨rfl, rfl⟩
    | other message =>
      unfold DuelLink.step
      dsimp only
      split
      · exact ⟨rfl, rfl⟩
      · next hne => exact ⟨rfl, expectedOf_other h.apart hne⟩
    | rest now settled =>
      obtain ⟨hplayers, hseats⟩ := Go.matchLoop_players l.server now settled
      exact ⟨rfl, expectedOf_congr me.userId hplayers hseats⟩

/-- An order that is legal is accepted exactly when its number is the expected one. -/
theorem acceptsLegal_iff (me : Presence) (h : DuelOk l) (e : DuelEvent) :
    l.AcceptsLegal me e ↔ Numbered.InStep DuelLink.Reads (fun l _ => l.Legal me)
      (fun l => (l.taken : ℤ)) (fun l => expectedOf me.userId l.server) l e := by
  refine forall_congr' fun hreads => forall_congr' fun hlegal => ?_
  obtain ⟨rfl, hnext⟩ := hreads
  obtain ⟨d, hd⟩ := Option.isSome_iff_exists.mp hnext
  have hnumber : d.sequence = (l.taken : ℤ) := by
    rw [h.numbers.sequence l.taken d hd, zero_add]
  show _ ↔ (l.taken : ℤ) = expectedOf me.userId l.server
  rw [← hnumber]
  constructor
  · rintro ⟨d', hd', hsent⟩
    rw [hd] at hd'
    cases hd'
    rcases take_cases me hd with ⟨-, hseq, -⟩ | ⟨-, -, hno⟩
    · exact hseq.symm
    · exact absurd hsent hno
  · intro hseq
    rcases take_cases me hd with ⟨-, -, htakes⟩ | ⟨hno, -, -⟩
    · obtain ⟨payload, seat, player, state, hpayload, -, -, -, hs⟩ := htakes
      cases hpayload
      refine ⟨d, hd, ?_⟩
      show (l.take me).server.sent = _
      rw [hs]
      rfl
    · exact absurd ⟨hlegal, hseq.symm⟩ hno

end Steps

/-! The start of a duel. -/

/-- Whoever comes in takes a free seat, or none. -/
theorem joinOne_apart (s : LiveMatchState) (a : Go.Arrival) :
    (s.joinOne a).presenceById = s.presenceById ∧ (s.joinOne a).players = s.players ∨
      s.presenceById a.presence.userId = none ∧
        (s.joinOne a).presenceById
          = Function.update s.presenceById a.presence.userId (some s.nextSeat) ∧
        ∃ player, player.nextSeq = 0 ∧
          (s.joinOne a).players = Function.update s.players s.nextSeat (some player) := by
  unfold LiveMatchState.joinOne
  split
  · exact Or.inl ⟨rfl, rfl⟩
  next hnone =>
  cases a.lookup.liveCareer s.equalPower with
  | none => exact Or.inl ⟨rfl, rfl⟩
  | some career =>
    refine Or.inr ⟨?_, rfl, _, rfl, rfl⟩
    rwa [Option.not_isSome_iff_eq_none] at hnone

theorem matchJoin_one (s : LiveMatchState) (a : Go.Arrival) (now : ℤ) :
    (Go.matchJoin s [a] now).presenceById = (s.joinOne a).presenceById ∧
      (Go.matchJoin s [a] now).players = (s.joinOne a).players := by
  unfold Go.matchJoin LiveMatchState.startIfFull
  rw [List.foldl_cons, List.foldl_nil]
  split <;> exact ⟨rfl, rfl⟩

/-- Nobody has ordered anything, and whoever has a seat has it alone. -/
structure FreshSeats (s : LiveMatchState) : Prop where
  nextSeq : ∀ seat player, s.players seat = some player → player.nextSeq = 0
  held : ∀ u seat, s.presenceById u = some seat → (s.players seat).isSome = true
  apart : Apart s

theorem FreshSeats.join {s : LiveMatchState} (h : FreshSeats s) (a : Go.Arrival) (now : ℤ)
    (hfree : s.players s.nextSeat = none) : FreshSeats (Go.matchJoin s [a] now) := by
  obtain ⟨hseats, hplayers⟩ := matchJoin_one s a now
  rcases joinOne_apart s a with ⟨hs, hp⟩ | ⟨hnone, hs, player, hseq, hp⟩
  · rw [hs] at hseats
    rw [hp] at hplayers
    refine ⟨?_, ?_, ?_⟩
    · rw [hplayers]
      exact h.nextSeq
    · rw [hseats, hplayers]
      exact h.held
    · unfold Apart
      rw [hseats]
      exact h.apart
  · rw [hs] at hseats
    rw [hp] at hplayers
    -- the seat was free, so nobody was bound to it
    have hunbound : ∀ u, s.presenceById u ≠ some s.nextSeat := by
      intro u hu
      have := h.held u s.nextSeat hu
      rw [hfree] at this
      cases this
    refine ⟨fun seat p hseat => ?_, fun u seat hu => ?_, fun u v seat hu hv => ?_⟩
    · rw [hplayers] at hseat
      by_cases he : seat = s.nextSeat
      · rw [he, Function.update_self] at hseat
        cases hseat
        exact hseq
      · rw [Function.update_of_ne he] at hseat
        exact h.nextSeq seat p hseat
    · rw [hseats] at hu
      rw [hplayers]
      by_cases he : seat = s.nextSeat
      · rw [he, Function.update_self]
        rfl
      · rw [Function.update_of_ne he]
        by_cases hme : u = a.presence.userId
        · rw [hme, Function.update_self] at hu
          cases hu
          exact absurd rfl he
        · rw [Function.update_of_ne hme] at hu
          exact h.held u seat hu
    · rw [hseats] at hu hv
      by_cases hmu : u = a.presence.userId
      · by_cases hmv : v = a.presence.userId
        · rw [hmu, hmv]
        · rw [hmu, Function.update_self] at hu
          rw [Function.update_of_ne hmv] at hv
          cases hu
          exact absurd hv (hunbound v)
      · rw [Function.update_of_ne hmu] at hu
        by_cases hmv : v = a.presence.userId
        · rw [hmv, Function.update_self] at hv
          cases hv
          exact absurd hu (hunbound u)
        · rw [Function.update_of_ne hmv] at hv
          exact h.apart u v seat hu hv

theorem duelStart_fresh (equalPower : Bool) (params : Go.LiveMatchParams)
    (newLiveJoinCode battlefieldId : String) (first second : Go.Arrival) (t₁ t₂ : ℤ) :
    FreshSeats (duelStart equalPower params newLiveJoinCode battlefieldId first second t₁ t₂) := by
  let empty := Go.liveMatchInit equalPower params newLiveJoinCode battlefieldId
  have hempty : FreshSeats empty :=
    ⟨fun _ _ h => (nomatch h), fun _ _ h => (nomatch h), fun _ _ _ h => (nomatch h)⟩
  have hone : FreshSeats (Go.matchJoin empty [first] t₁) := hempty.join first t₁ rfl
  refine hone.join second t₂ ?_
  obtain ⟨-, hplayers⟩ := matchJoin_one empty first t₁
  rcases joinOne_apart empty first with ⟨-, hp⟩ | ⟨-, -, player, -, hp⟩
  · rw [hp] at hplayers
    rw [hplayers]
    rfl
  · rw [hp] at hplayers
    have hnext : (Go.matchJoin empty [first] t₁).nextSeat = 1 := by
      unfold LiveMatchState.nextSeat
      rw [hplayers]
      rfl
    rw [hnext, hplayers]
    rfl

/-- A duel as it starts, nothing sent. -/
def duelLink (s : LiveMatchState) (matchId : String) : DuelLink := ⟨s, duelClient matchId, 0⟩

theorem duelLink_ok {s : LiveMatchState} (h : FreshSeats s) (matchId : String) :
    DuelOk (duelLink s matchId) ∧ ∀ userId, expectedOf userId s = 0 := by
  refine ⟨⟨rfl, rfl, ⟨fun i d hd => ?_, rfl⟩, h.apart⟩, fun userId => ?_⟩
  · rw [show (duelLink s matchId).client.sent = [] from rfl, List.getElem?_nil] at hd
    cases hd
  · unfold expectedOf
    cases hp : s.playerOf userId with
    | none => rfl
    | some p => exact h.nextSeq p.1 p.2 (playerOf_eq_some hp).2

/-- **In a duel every legal order is accepted exactly when none follows a refused one.** -/
theorem duel_inStep [MathLib] {s : LiveMatchState} (h : FreshSeats s) (me : Presence)
    (matchId : String) (events : List DuelEvent) :
    EachStep (DuelLink.step me) (DuelLink.AcceptsLegal me) (duelLink s matchId) events
      ↔ NeverAfter (DuelLink.step me) (fun l e => l.Reads e ∧ ¬ l.Legal me)
        (fun l e => l.Reads e ∧ l.Legal me) (duelLink s matchId) events := by
  obtain ⟨hok, hzero⟩ := duelLink_ok h matchId
  rw [eachStep_congr (I := DuelOk) (fun l e hl => hl.step e)
    (fun l e hl => acceptsLegal_iff me hl e) hok]
  exact (duel_numbered me).inStep_iff hok (hzero me.userId).symm

end Duel

end CrownClash.Parity
