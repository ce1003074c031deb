import CrownClash.Lib.Run
import CrownClash.Ts.LiveMatchClient

/-!
# Client: a session that plays has its socket

A 2v2 session that is active should sit on a socket that is connected and whose
handlers are the client's (`Attached`).  Most of what the client does moves timers and
reconnect records only (`Quiet`), and whatever binds a socket does so for the session
of the client (`Wired`).

What breaks it is an answer that comes late.  Once the resync has made the session
active, its reconnect record is null, and the attempt that is answered then fails on it
and closes the very socket the session plays on: `attached_runs` says that nothing else
does.
-/

namespace CrownClash.Ts

open Lib LiveMatchClient

/-- An active session hears its socket. -/
def Attached (c : LiveMatchClient) : Prop :=
  ∀ i, c.v2 = some i → (c.sessions i).phase = .active → c.hears (c.sessions i).socket = true

/-- The join on the socket of an active session is answered.  The attempt fails unless
the answer is good and its session still has a reconnect record. -/
def AnswersLate (c : LiveMatchClient) : ClientEvent → Prop
  | .joined k result => ∃ i j, c.v2 = some i ∧ (c.sessions i).phase = .active ∧
      c.attempts[k]? = some (.join j (c.sessions i).socket) ∧
      (result.toBool = true → (c.sessions j).reconnect = none)
  | _ => False

/-- Whoever hears a socket is the session of the client, on its own socket. -/
structure Wired (c : LiveMatchClient) : Prop where
  heard : ∀ i j, c.v2 = some i → (c.sockets j).handlers = some c.socketEpoch →
    (c.sessions i).socket = j
  epochs : ∀ j e, (c.sockets j).handlers = some e → e ≤ c.socketEpoch
  opened : ∀ i, c.v2 = some i → (c.sessions i).socket < c.socketCount
  closed : c.intentionallyClosed = true → c.v2 = none

theorem hears_iff {c : LiveMatchClient} {j : ℕ} : c.hears j = true ↔
    (c.sockets j).connected = true ∧ (c.sockets j).handlers = some c.socketEpoch := by
  unfold hears
  rw [Bool.and_eq_true, beq_iff_eq]

/-! ### What only moves timers and records -/

/-- Sockets and sessions stay where they are, and no session becomes active. -/
structure Quiet (c c' : LiveMatchClient) : Prop where
  sockets : c'.sockets = c.sockets
  socketCount : c'.socketCount = c.socketCount
  socketEpoch : c'.socketEpoch = c.socketEpoch
  v2 : c'.v2 = c.v2
  intentionallyClosed : c'.intentionallyClosed = c.intentionallyClosed
  socket : ∀ i, (c'.sessions i).socket = (c.sessions i).socket
  phase : ∀ i, (c'.sessions i).phase = .active → (c.sessions i).phase = .active

theorem Quiet.refl (c : LiveMatchClient) : Quiet c c :=
  ⟨rfl, rfl, rfl, rfl, rfl, fun _ => rfl, fun _ h => h⟩

theorem Quiet.trans {c c' c'' : LiveMatchClient} (h : Quiet c c') (h' : Quiet c' c'') :
    Quiet c c'' where
  sockets := h'.sockets.trans h.sockets
  socketCount := h'.socketCount.trans h.socketCount
  socketEpoch := h'.socketEpoch.trans h.socketEpoch
  v2 := h'.v2.trans h.v2
  intentionallyClosed := h'.intentionallyClosed.trans h.intentionallyClosed
  socket i := (h'.socket i).trans (h.socket i)
  phase i ha := h.phase i (h'.phase i ha)

theorem Quiet.hears {c c' : LiveMatchClient} (h : Quiet c c') (j : ℕ) : c'.hears j = c.hears j := by
  unfold LiveMatchClient.hears
  rw [h.sockets, h.socketEpoch]

theorem Quiet.attached {c c' : LiveMatchClient} (h : Quiet c c') (ha : Attached c) :
    Attached c' := by
  intro i hv hp
  rw [h.hears, h.socket]
  exact ha i (h.v2 ▸ hv) (h.phase i hp)

theorem Quiet.wired {c c' : LiveMatchClient} (h : Quiet c c') (hw : Wired c) : Wired c' where
  heard i j hv hj := by
    rw [h.socket]
    exact hw.heard i j (h.v2 ▸ hv) (h.socketEpoch ▸ h.sockets ▸ hj)
  epochs j e hj := by
    rw [h.socketEpoch]
    exact hw.epochs j e (h.sockets ▸ hj)
  opened i hv := by
    rw [h.socket, h.socketCount]
    exact hw.opened i (h.v2 ▸ hv)
  closed hc := by
    rw [h.v2]
    exact hw.closed (h.intentionallyClosed ▸ hc)

theorem quiet_setTimeout (c : LiveMatchClient) (callback : TimerCallback) :
    Quiet c (c.setTimeout callback) := ⟨rfl, rfl, rfl, rfl, rfl, fun _ => rfl, fun _ h => h⟩

@[simp] theorem sessions_clearTimeout (c : LiveMatchClient) (id : Option ℕ) :
    (c.clearTimeout id).sessions = c.sessions := by
  cases id <;> rfl

theorem quiet_clearTimeout (c : LiveMatchClient) (id : Option ℕ) : Quiet c (c.clearTimeout id) := by
  cases id with
  | none => exact .refl c
  | some id => exact ⟨rfl, rfl, rfl, rfl, rfl, fun _ => rfl, fun _ h => h⟩

/-- A session changes in what is not its socket, and does not become active. -/
theorem quiet_setSession {c : LiveMatchClient} {i : ℕ} {session : TwoVTwoSession}
    (hs : session.socket = (c.sessions i).socket)
    (hp : session.phase = .active → (c.sessions i).phase = .active) :
    Quiet c (c.setSession i session) := by
  have hsession : ∀ k, ((c.setSession i session).sessions k).socket = (c.sessions k).socket ∧
      (((c.setSession i session).sessions k).phase = .active → (c.sessions k).phase = .active) := by
    intro k
    change (Function.update c.sessions i session k).socket = _ ∧
      ((Function.update c.sessions i session k).phase = .active → _)
    by_cases hk : k = i
    · rw [hk, Function.update_self]
      exact ⟨hs, hp⟩
    · rw [Function.update_of_ne hk]
      exact ⟨rfl, fun h => h⟩
  exact ⟨rfl, rfl, rfl, rfl, rfl, fun k => (hsession k).1, fun k => (hsession k).2⟩

theorem quiet_schedule (c : LiveMatchClient) : Quiet c c.scheduleTwoVTwoReconnectAttempt := by
  unfold scheduleTwoVTwoReconnectAttempt
  split
  · exact .refl c
  next i hi =>
  split
  · exact (quiet_setTimeout c _).trans (quiet_setSession rfl fun h => h)
  · exact .refl c

theorem quiet_begin (c : LiveMatchClient) : Quiet c c.beginTwoVTwoReconnect := by
  unfold beginTwoVTwoReconnect
  split
  · exact .refl c
  next i hi =>
  split
  · exact .refl c
  · refine Quiet.trans ?_ (quiet_schedule _)
    exact (quiet_setTimeout c .deadline).trans (quiet_setSession (by rfl) fun h => by cases h)

theorem schedule_phase (c : LiveMatchClient) (k : ℕ) :
    (c.scheduleTwoVTwoReconnectAttempt.sessions k).phase = (c.sessions k).phase := by
  unfold scheduleTwoVTwoReconnectAttempt
  split
  · rfl
  next i hi =>
  split
  · change (Function.update c.sessions i _ k).phase = _
    by_cases hk : k = i
    · rw [hk, Function.update_self]
    · rw [Function.update_of_ne hk]
  · rfl

/-- A session that plays goes on to reconnect. -/
theorem begin_phase {c : LiveMatchClient} {i : ℕ} (hv : c.v2 = some i)
    (hp : (c.sessions i).phase = .active) (hopen : c.intentionallyClosed = false) :
    (c.beginTwoVTwoReconnect.sessions i).phase = .reconnecting := by
  unfold beginTwoVTwoReconnect
  rw [hv]
  dsimp only
  have hgo : ¬ ((c.sessions i).phase ≠ .active ∨ c.intentionallyClosed = true) := by
    rw [hp, hopen]
    decide
  rw [if_neg hgo, schedule_phase]
  change (Function.update c.sessions i _ i).phase = _
  rw [Function.update_self]

theorem quiet_teardown (c : LiveMatchClient) : Quiet c c.teardownTwoVTwoReconnectTimers := by
  unfold teardownTwoVTwoReconnectTimers
  split
  · exact .refl c
  next i hi =>
  split
  · exact .refl c
  next reconnect hr =>
  have hclear := ((quiet_clearTimeout c reconnect.attemptTimer).trans
    (quiet_clearTimeout _ reconnect.resyncTimer)).trans
      (quiet_clearTimeout _ reconnect.deadlineTimer)
  refine hclear.trans (quiet_setSession ?_ ?_)
  · rw [sessions_clearTimeout, sessions_clearTimeout, sessions_clearTimeout]
  · rw [sessions_clearTimeout, sessions_clearTimeout, sessions_clearTimeout]
    exact fun h => h

theorem quiet_finish (c : LiveMatchClient) : Quiet c c.finishTwoVTwoReconnect := by
  unfold finishTwoVTwoReconnect
  split
  · exact .refl c
  next i hi =>
  split
  · exact .refl c
  · exact (quiet_teardown c).trans
      (quiet_setSession ((quiet_teardown c).socket i).symm fun h => by cases h)

theorem quiet_scheduleNext (c : LiveMatchClient) :
    Quiet c c.scheduleNextTwoVTwoReconnectAttempt := by
  unfold scheduleNextTwoVTwoReconnectAttempt
  split
  · exact .refl c
  next i hi =>
  split
  · refine Quiet.trans ?_ (quiet_schedule _)
    exact quiet_setSession rfl fun h => h
  · exact .refl c

theorem quiet_attempt (c : LiveMatchClient) : Quiet c c.attemptTwoVTwoReconnect := by
  unfold attemptTwoVTwoReconnect
  split
  · exact .refl c
  next i hi =>
  split
  · split
    · exact quiet_finish c
    · exact ⟨rfl, rfl, rfl, rfl, rfl, fun _ => rfl, fun _ h => h⟩
  · exact .refl c

theorem quiet_attemptFailed (c : LiveMatchClient) (i : ℕ) (code : String) :
    Quiet c (c.attemptFailed i code) := by
  unfold attemptFailed
  split
  · exact .refl c
  split
  · exact quiet_finish c
  · exact quiet_scheduleNext c

theorem quiet_attempts (c : LiveMatchClient) (attempts : List Attempt) :
    Quiet c { c with attempts := attempts } :=
  ⟨rfl, rfl, rfl, rfl, rfl, fun _ => rfl, fun _ h => h⟩

theorem quiet_settled (c : LiveMatchClient) (matchId : Option String) :
    Quiet c { c with lastSettledMatchId := matchId } :=
  ⟨rfl, rfl, rfl, rfl, rfl, fun _ => rfl, fun _ h => h⟩

theorem quiet_sendDispatch (c : LiveMatchClient) (sourceId targetId : String) :
    Quiet c (c.sendDispatch sourceId targetId) := by
  unfold sendDispatch
  split
  next i hi =>
    dsimp only
    split
    · exact .refl c
    · refine Quiet.trans ?_ (quiet_setSession (by rfl) fun h => h)
      exact ⟨rfl, rfl, rfl, rfl, rfl, fun _ => rfl, fun _ h => h⟩
  next =>
    split
    · exact .refl c
    · exact ⟨rfl, rfl, rfl, rfl, rfl, fun _ => rfl, fun _ h => h⟩

/-! ### Sockets that are given up -/

theorem hears_dropSocket (c : LiveMatchClient) (j k : ℕ) :
    (c.dropSocket j).hears k = if k = j then false else c.hears k := by
  unfold LiveMatchClient.hears dropSocket LiveMatchClient.disconnect detachSocketHandlers setSocket
  dsimp only
  by_cases hk : k = j
  · rw [if_pos hk, hk, Function.update_self]
    rfl
  · rw [if_neg hk, Function.update_of_ne hk, Function.update_of_ne hk]

/-- A socket changes, and has no handlers that it did not have. -/
theorem handlers_setSocket {c : LiveMatchClient} {j : ℕ} {socket : ClientSocket}
    (hs : ∀ e, socket.handlers = some e → (c.sockets j).handlers = some e) {k e : ℕ}
    (hk : ((c.setSocket j socket).sockets k).handlers = some e) :
    (c.sockets k).handlers = some e := by
  change (Function.update c.sockets j socket k).handlers = some e at hk
  by_cases hkj : k = j
  · rw [hkj, Function.update_self] at hk
    rw [hkj]
    exact hs e hk
  · rw [Function.update_of_ne hkj] at hk
    exact hk

theorem wired_setSocket {c : LiveMatchClient} (h : Wired c) {j : ℕ} {socket : ClientSocket}
    (hs : ∀ e, socket.handlers = some e → (c.sockets j).handlers = some e) :
    Wired (c.setSocket j socket) :=
  ⟨fun i k hv hk => h.heard i k hv (handlers_setSocket hs hk),
    fun k e hk => h.epochs k e (handlers_setSocket hs hk), h.opened, h.closed⟩

theorem handlers_detach {c : LiveMatchClient} {j k e : ℕ}
    (hk : ((c.detachSocketHandlers j).sockets k).handlers = some e) :
    (c.sockets k).handlers = some e :=
  handlers_setSocket (fun e he => by cases he) hk

theorem wired_detach {c : LiveMatchClient} (h : Wired c) (j : ℕ) :
    Wired (c.detachSocketHandlers j) :=
  wired_setSocket h fun e he => by cases he

theorem wired_dropSocket {c : LiveMatchClient} (h : Wired c) (j : ℕ) : Wired (c.dropSocket j) :=
  wired_setSocket (wired_detach h j) fun _ he => he

/-- A socket is given up that no active session sits on. -/
theorem attached_dropSocket {c : LiveMatchClient} (h : Attached c) {j : ℕ}
    (hj : ∀ i, c.v2 = some i → (c.sessions i).phase = .active → (c.sessions i).socket ≠ j) :
    Attached (c.dropSocket j) := by
  intro i hv hp
  rw [hears_dropSocket]
  exact (if_neg (hj i hv hp)).trans (h i hv hp)

/-- The socket of an attempt is given up, and the attempt goes on with its error. -/
theorem attached_giveUp {c : LiveMatchClient} (h : Attached c) {j : ℕ} (k : ℕ) (code : String)
    (hj : ∀ i, c.v2 = some i → (c.sessions i).phase = .active → (c.sessions i).socket ≠ j) :
    Attached ((c.dropSocket j).attemptFailed k code) :=
  (quiet_attemptFailed _ k code).attached (attached_dropSocket h hj)

/-- The session that plays loses its socket. -/
theorem not_attached_giveUp {c : LiveMatchClient} {i : ℕ} (hv : c.v2 = some i)
    (hp : (c.sessions i).phase = .active) (k : ℕ) (code : String) :
    ¬ Attached ((c.dropSocket (c.sessions i).socket).attemptFailed k code) := by
  have hkeep : (c.dropSocket (c.sessions i).socket).attemptFailed k code =
      c.dropSocket (c.sessions i).socket := by
    unfold attemptFailed
    refine if_pos ?_
    have hnot : (c.dropSocket (c.sessions i).socket).isIn k .reconnecting = false := by
      unfold isIn
      refine decide_eq_false ?_
      rintro ⟨hk, hphase⟩
      have hki : i = k := Option.some.inj (hv.symm.trans hk)
      rw [← hki] at hphase
      exact absurd (hp.symm.trans hphase) (by decide)
    rw [hnot]
    rfl
  rw [hkeep]
  intro h
  have hears := h i hv hp
  have hsocket : ((c.dropSocket (c.sessions i).socket).sessions i).socket =
      (c.sessions i).socket := rfl
  rw [hsocket, hears_dropSocket, if_pos rfl] at hears
  cases hears

/-! ### What binds a socket -/

theorem wired_openSocket {c : LiveMatchClient} (h : Wired c) : Wired c.openSocket := by
  have hhandlers : ∀ k e, (c.openSocket.sockets k).handlers = some e →
      (c.sockets k).handlers = some e := by
    intro k e hk
    change (Function.update c.sockets c.socketCount _ k).handlers = some e at hk
    by_cases hkc : k = c.socketCount
    · rw [hkc, Function.update_self] at hk
      cases hk
    · rw [Function.update_of_ne hkc] at hk
      exact hk
  refine ⟨fun i k hv hk => h.heard i k hv (hhandlers k _ hk),
    fun k e hk => h.epochs k e (hhandlers k e hk), fun i hv => ?_, h.closed⟩
  exact (h.opened i hv).trans (Nat.lt_succ_self _)

theorem attached_openSocket {c : LiveMatchClient} (h : Attached c) (hw : Wired c) :
    Attached c.openSocket := by
  intro i hv hp
  have hne : (c.sessions i).socket ≠ c.socketCount := Nat.ne_of_lt (hw.opened i hv)
  have hears := h i hv hp
  rw [hears_iff] at hears ⊢
  change (Function.update c.sockets c.socketCount _ (c.sessions i).socket).connected = true ∧
    (Function.update c.sockets c.socketCount _ (c.sessions i).socket).handlers = _
  rw [Function.update_of_ne hne]
  exact hears

/-- A client whose session does not play. -/
theorem attached_of_phase {c : LiveMatchClient} {i : ℕ} (hv : c.v2 = some i)
    (hp : (c.sessions i).phase ≠ .active) : Attached c := by
  intro i' hv' hp'
  have hi : i = i' := Option.some.inj (hv.symm.trans hv')
  exact absurd (hi ▸ hp') hp

theorem attached_of_none {c : LiveMatchClient} (hv : c.v2 = none) : Attached c := by
  intro i hi
  rw [hv] at hi
  cases hi

/-! ### The events -/

/-- Wired, and the session that plays has its socket. -/
structure Sound (c : LiveMatchClient) : Prop where
  wired : Wired c
  attached : Attached c

theorem Quiet.sound {c c' : LiveMatchClient} (h : Quiet c c') (hs : Sound c) : Sound c' :=
  ⟨h.wired hs.wired, h.attached hs.attached⟩

/-- An attempt adopts its fresh socket for the session of the client, which reconnects. -/
theorem sound_adopt {c : LiveMatchClient} (hw : Wired c) {i fresh : ℕ} (hv : c.v2 = some i)
    (hp : (c.sessions i).phase = .reconnecting) (hfresh : fresh < c.socketCount) :
    Sound ((c.setSession i { c.sessions i with socket := fresh }).bindSocketHandlers fresh) := by
  have hself : (Function.update c.sessions i { c.sessions i with socket := fresh } i).socket =
      fresh := by
    rw [Function.update_self]
  have hphase : (Function.update c.sessions i { c.sessions i with socket := fresh } i).phase =
      .reconnecting := by
    rw [Function.update_self]
    exact hp
  constructor
  · have hhandlers : ∀ k e, (((c.setSession i { c.sessions i with
        socket := fresh }).bindSocketHandlers fresh).sockets k).handlers = some e →
          (k = fresh ∧ e = c.socketEpoch + 1) ∨ e ≤ c.socketEpoch := by
      intro k e hk
      change (Function.update c.sockets fresh _ k).handlers = some e at hk
      by_cases hkf : k = fresh
      · rw [hkf, Function.update_self] at hk
        exact Or.inl ⟨hkf, (Option.some.inj hk).symm⟩
      · rw [Function.update_of_ne hkf] at hk
        exact Or.inr (hw.epochs k e hk)
    refine ⟨fun i' k hv' hk => ?_, fun k e hk => ?_, fun i' hv' => ?_, hw.closed⟩
    · have hi : i = i' := Option.some.inj (hv.symm.trans hv')
      subst hi
      rcases hhandlers k _ hk with ⟨hkf, -⟩ | hle
      · rw [hkf]
        exact hself
      · change c.socketEpoch + 1 ≤ c.socketEpoch at hle
        omega
    · change e ≤ c.socketEpoch + 1
      rcases hhandlers k e hk with ⟨-, he⟩ | hle
      · omega
      · omega
    · have hi : i = i' := Option.some.inj (hv.symm.trans hv')
      subst hi
      change (Function.update c.sessions i _ i).socket < c.socketCount
      rw [hself]
      exact hfresh
  · refine attached_of_phase (show _ = some i from hv) ?_
    change (Function.update c.sessions i _ i).phase ≠ .active
    rw [hphase]
    decide

theorem isIn_iff {c : LiveMatchClient} {i : ℕ} {phase : TwoVTwoSessionPhase} :
    c.isIn i phase = true ↔ c.v2 = some i ∧ (c.sessions i).phase = phase := by
  unfold isIn
  exact decide_eq_true_iff

theorem sound_onTransport {c : LiveMatchClient} (h : Sound c) (k : ℕ)
    (result : Except String Unit) : Sound (c.onTransport k result) := by
  unfold onTransport
  split
  next i hi =>
    dsimp only
    have hc : Sound { c with attempts := c.attempts.set k .ended } :=
      (quiet_attempts c _).sound h
    cases result with
    | error code => exact (quiet_attemptFailed _ i code).sound hc
    | ok _ =>
      dsimp only
      have hopened := wired_openSocket hc.wired
      split
      · refine ⟨wired_dropSocket hopened _,
          attached_dropSocket (attached_openSocket hc.attached hc.wired) ?_⟩
        intro i' hv _
        exact Nat.ne_of_lt (hc.wired.opened i' hv)
      next hin =>
      rw [Bool.or_eq_true, not_or, Bool.not_eq_true', Bool.not_eq_false, isIn_iff] at hin
      exact (quiet_attempts _ _).sound
        (sound_adopt (wired_detach hopened _) hin.1.1 hin.1.2 (Nat.lt_succ_self _))
  · exact h

/-- Giving up a socket does harm exactly if an active session sits on it. -/
theorem sound_giveUp_iff {c : LiveMatchClient} (h : Sound c) (j k : ℕ) (code : String) :
    Sound ((c.dropSocket j).attemptFailed k code) ↔
      ¬ ∃ i, c.v2 = some i ∧ (c.sessions i).phase = .active ∧ (c.sessions i).socket = j := by
  constructor
  · rintro hs ⟨i, hv, hp, rfl⟩
    exact not_attached_giveUp hv hp k code hs.attached
  · intro hno
    refine ⟨(quiet_attemptFailed _ k code).wired (wired_dropSocket h.wired j),
      attached_giveUp h.attached k code fun i hv hp hj => hno ⟨i, hv, hp, hj⟩⟩

theorem wired_onJoined {c : LiveMatchClient} (h : Wired c) (k : ℕ)
    (result : Except String Unit) : Wired (c.onJoined k result) := by
  unfold onJoined
  split
  next j fresh hk =>
    have hover := (quiet_attempts c (c.attempts.set k .ended)).wired h
    cases result with
    | error code => exact (quiet_attemptFailed _ j code).wired (wired_dropSocket hover fresh)
    | ok _ =>
      dsimp only
      have htimer := (quiet_setTimeout _ (.resync j fresh)).wired hover
      split
      · exact (quiet_attemptFailed _ j _).wired (wired_dropSocket htimer fresh)
      · exact Quiet.wired (quiet_setSession rfl fun hp => hp) htimer
  · exact h

/-- **An answer to a join does harm exactly if it comes late.** -/
theorem sound_onJoined_iff {c : LiveMatchClient} (h : Sound c) (k : ℕ)
    (result : Except String Unit) :
    Sound (c.onJoined k result) ↔ ¬ AnswersLate c (.joined k result) := by
  have hover : Sound { c with attempts := c.attempts.set k .ended } := (quiet_attempts c _).sound h
  have hnone : (∀ i j, c.attempts[k]? ≠ some (.join i j)) →
      (Sound (c.onJoined k result) ↔ ¬ AnswersLate c (.joined k result)) := by
    intro hno
    have hsame : c.onJoined k result = c := by
      unfold onJoined
      split
      next i j hj => exact absurd hj (hno i j)
      · rfl
    rw [hsame]
    refine ⟨fun _ => ?_, fun _ => h⟩
    rintro ⟨i, j, -, -, hj, -⟩
    exact hno _ _ hj
  cases hk : c.attempts[k]? with
  | none => exact hnone fun i j hj => by rw [hk] at hj; cases hj
  | some attempt =>
    cases attempt with
    | transport i => exact hnone fun i j hj => by rw [hk] at hj; cases hj
    | ended => exact hnone fun i j hj => by rw [hk] at hj; cases hj
    | join j fresh =>
      have hlate : AnswersLate c (.joined k result) ↔
          (∃ i, c.v2 = some i ∧ (c.sessions i).phase = .active ∧ (c.sessions i).socket = fresh) ∧
            (result.toBool = true → (c.sessions j).reconnect = none) := by
        constructor
        · rintro ⟨i, j', hv, hp, hj, hr⟩
          rw [hk] at hj
          cases hj
          exact ⟨⟨i, hv, hp, rfl⟩, hr⟩
        · rintro ⟨⟨i, hv, hp, rfl⟩, hr⟩
          exact ⟨i, j, hv, hp, hk, hr⟩
      rw [hlate]
      cases result with
      | error code =>
        have hstep : c.onJoined k (.error code) =
            ({ c with attempts := c.attempts.set k .ended }.dropSocket fresh).attemptFailed j
              code := by
          unfold onJoined
          rw [hk]
        rw [hstep, sound_giveUp_iff hover]
        exact not_congr ⟨fun hi => ⟨hi, fun hr => by cases hr⟩, fun hi => hi.1⟩
      | ok _ =>
        cases hr : (c.sessions j).reconnect with
        | none =>
          have hstep : c.onJoined k (.ok ()) =
              (({ c with attempts := c.attempts.set k .ended }.setTimeout
                (.resync j fresh)).dropSocket fresh).attemptFailed j "TypeError" := by
            unfold onJoined
            rw [hk]
            dsimp only
            rw [hr]
          rw [hstep, sound_giveUp_iff ((quiet_setTimeout _ _).sound hover)]
          exact not_congr ⟨fun hi => ⟨hi, fun _ => rfl⟩, fun hi => hi.1⟩
        | some reconnect =>
          have hsound : Sound (c.onJoined k (.ok ())) := by
            unfold onJoined
            rw [hk]
            dsimp only
            rw [hr]
            refine Quiet.sound (quiet_setSession ?_ ?_) ((quiet_setTimeout _ _).sound hover)
            · rfl
            · exact fun hp => hp
          refine ⟨fun _ hl => ?_, fun _ => hsound⟩
          cases hl.2 rfl

theorem sound_onTimer {c : LiveMatchClient} (h : Sound c) (id : ℕ) : Sound (c.onTimer id) := by
  unfold onTimer
  split
  · exact h
  next callback hcallback =>
  dsimp only
  have hc := (quiet_clearTimeout c (some id)).sound h
  cases callback with
  | attempt => exact (quiet_attempt _).sound hc
  | deadline => exact (quiet_finish _).sound hc
  | resync i fresh =>
    dsimp only
    unfold onResyncTimeout
    split
    · exact hc
    next hin =>
    rw [Bool.not_eq_true', Bool.not_eq_false, isIn_iff] at hin
    split
    · refine (quiet_scheduleNext _).sound ⟨wired_dropSocket hc.wired fresh, ?_⟩
      have hphase : ((c.clearTimeout (some id)).sessions i).phase ≠ .active := by
        rw [hin.2]
        decide
      exact attached_of_phase hin.1 hphase
    · exact (quiet_scheduleNext _).sound hc

/-- A session of the client that changes, on the socket it has. -/
theorem sound_setSession {c : LiveMatchClient} (h : Sound c) {i : ℕ} (hv : c.v2 = some i)
    {session : TwoVTwoSession} (hs : session.socket = (c.sessions i).socket)
    (hears : c.hears (c.sessions i).socket = true) : Sound (c.setSession i session) := by
  have hself : Function.update c.sessions i session i = session := Function.update_self ..
  constructor
  · refine ⟨fun i' k hv' hk => ?_, h.wired.epochs, fun i' hv' => ?_, h.wired.closed⟩
    · have hi : i = i' := Option.some.inj (hv.symm.trans hv')
      subst hi
      change (Function.update c.sessions i session i).socket = k
      rw [hself, hs]
      exact h.wired.heard i k hv hk
    · have hi : i = i' := Option.some.inj (hv.symm.trans hv')
      subst hi
      change (Function.update c.sessions i session i).socket < c.socketCount
      rw [hself, hs]
      exact h.wired.opened i hv
  · intro i' hv' _
    have hi : i = i' := Option.some.inj (hv.symm.trans hv')
    subst hi
    change c.hears (Function.update c.sessions i session i).socket = true
    rw [hself, hs]
    exact hears

/-- The session of a rematch opens on the socket of the one before. -/
theorem sound_rematch {c : LiveMatchClient} (h : Sound c) {i : ℕ} (hv : c.v2 = some i)
    (rawMatchId : String) :
    Sound { c.setSession c.sessionCount (.opened rawMatchId (c.sessions i).socket) with
      sessionCount := c.sessionCount + 1
      v2 := some c.sessionCount } := by
  have hself : Function.update c.sessions c.sessionCount
      (.opened rawMatchId (c.sessions i).socket) c.sessionCount =
        .opened rawMatchId (c.sessions i).socket := Function.update_self ..
  constructor
  · refine ⟨fun i' k hv' hk => ?_, h.wired.epochs, fun i' hv' => ?_, fun hc => ?_⟩
    · cases hv'
      change (Function.update c.sessions c.sessionCount _ c.sessionCount).socket = k
      rw [hself]
      exact h.wired.heard i k hv hk
    · cases hv'
      change (Function.update c.sessions c.sessionCount _ c.sessionCount).socket < c.socketCount
      rw [hself]
      exact h.wired.opened i hv
    · have hnone := h.wired.closed hc
      rw [hv] at hnone
      cases hnone
  · intro i' hv' hp
    cases hv'
    change (Function.update c.sessions c.sessionCount _ c.sessionCount).phase = .active at hp
    rw [hself] at hp
    cases hp

theorem sound_applyMessage {c : LiveMatchClient} (h : Sound c) {i : ℕ} (hv : c.v2 = some i)
    (hears : c.hears (c.sessions i).socket = true) (message : TwoVTwoServerMessage) :
    Sound (c.applyTwoVTwoMessage i message) := by
  unfold applyTwoVTwoMessage
  cases message with
  | matchStarted payload =>
    dsimp only
    unfold handleTwoVTwoMatchStarted
    dsimp only
    split
    next hp =>
      split
      · exact h
      · have hquiet := quiet_teardown c
        refine sound_setSession (hquiet.sound h) (hquiet.v2.trans hv) (hquiet.socket i).symm ?_
        rw [hquiet.hears, hquiet.socket]
        exact hears
    next hp => exact sound_setSession h hv rfl hears
    · exact h
  | state tick state =>
    dsimp only
    split
    · exact h
    · exact sound_setSession h hv rfl hears
  | commandAccepted sequence slot =>
    dsimp only
    split
    · exact h
    · exact sound_setSession h hv rfl hears
  | commandRejected sequence code => exact sound_setSession h hv rfl hears
  | matchResult payload =>
    dsimp only
    split
    · exact h
    split
    · exact h
    · refine sound_setSession ((quiet_settled c (some payload.matchId)).sound h) hv ?_ hears
      rfl
  | rematchStarted matchId =>
    dsimp only
    split
    · exact h
    · unfold beginTwoVTwoRematch
      rw [hv]
      dsimp only
      split
      · exact h
      · exact sound_rematch h hv matchId
  | matchClosed matchId =>
    dsimp only
    split
    · exact h
    · exact sound_setSession h hv rfl hears
  | error code => exact h

theorem sound_data {c : LiveMatchClient} (h : Sound c) {j : ℕ} (hj : c.hears j = true)
    (opCode : ℤ) (payload : Json) : Sound (c.handleMatchData opCode payload) := by
  unfold handleMatchData
  split
  · unfold handleTwoVTwoPayload
    split
    · exact h
    split
    · exact h
    split
    · exact h
    next i hv =>
    have hsocket := h.wired.heard i j hv (hears_iff.mp hj).2
    exact sound_applyMessage h hv (hsocket ▸ hj) _
  · split
    · exact h
    split
    · split
      · exact h
      · exact (quiet_settled c _).sound h
    · exact h

theorem sound_onLost {c : LiveMatchClient} (h : Sound c) (j : ℕ) : Sound (c.onLost j) := by
  have hwired : Wired (c.disconnect j) := wired_setSocket h.wired fun _ he => he
  unfold onLost
  split
  next hj =>
    split
    next hclosed => exact ⟨hwired, attached_of_none (h.wired.closed hclosed)⟩
    next hopen =>
    have hquiet := quiet_begin (c.disconnect j)
    refine ⟨hquiet.wired hwired, ?_⟩
    -- The session that played on the socket reconnects.
    cases hv : c.v2 with
    | none => exact attached_of_none (hquiet.v2.trans hv)
    | some i =>
      refine attached_of_phase (hquiet.v2.trans hv) fun hp => ?_
      have hactive : (c.sessions i).phase = .active := hquiet.phase i hp
      have hbegun : ((c.disconnect j).beginTwoVTwoReconnect.sessions i).phase = .reconnecting :=
        begin_phase hv hactive (Bool.eq_false_iff.mpr hopen)
      rw [hbegun] at hp
      cases hp
  next hj =>
    refine ⟨hwired, fun i hv hp => ?_⟩
    have hears := h.attached i hv hp
    have hne : (c.sessions i).socket ≠ j := by
      rintro rfl
      exact hj hears
    rw [hears_iff] at hears ⊢
    change (Function.update c.sockets j _ (c.sessions i).socket).connected = true ∧
      (Function.update c.sockets j _ (c.sessions i).socket).handlers = _
    rw [Function.update_of_ne hne]
    exact hears

theorem detachCurrent_epochs {c : LiveMatchClient}
    (h : ∀ j e, (c.sockets j).handlers = some e → e ≤ c.socketEpoch) (j e : ℕ)
    (he : (c.detachCurrentSocketHandlers.sockets j).handlers = some e) :
    e ≤ c.detachCurrentSocketHandlers.socketEpoch := by
  have hbound : ∀ j e, (({ c with
      socketEpoch := c.socketEpoch + 1 }.detachSocketHandlers 0).sockets j).handlers = some e →
        e ≤ c.socketEpoch + 1 := by
    intro j e he
    exact (h j e (handlers_detach he)).trans (Nat.le_succ _)
  cases hv : c.v2 with
  | none =>
    have hdetached : c.detachCurrentSocketHandlers =
        { c with socketEpoch := c.socketEpoch + 1 }.detachSocketHandlers 0 := by
      unfold detachCurrentSocketHandlers
      split
      · rfl
      next i hi =>
        rw [hv] at hi
        cases hi
    rw [hdetached] at he ⊢
    exact hbound j e he
  | some i =>
    have hdetached : c.detachCurrentSocketHandlers =
        ({ c with socketEpoch := c.socketEpoch + 1 }.detachSocketHandlers 0).detachSocketHandlers
          (c.sessions i).socket := by
      unfold detachCurrentSocketHandlers
      split
      next hi =>
        rw [hv] at hi
        cases hi
      next k hi =>
        rw [hv] at hi
        cases hi
        rfl
    rw [hdetached] at he ⊢
    exact hbound j e (handlers_detach he)

theorem sound_close {c : LiveMatchClient} (h : Sound c) : Sound c.close := by
  have hquiet := quiet_teardown { c with intentionallyClosed := true }
  have hepochs : ∀ j e, (c.close.sockets j).handlers = some e → e ≤ c.close.socketEpoch := by
    refine detachCurrent_epochs fun j e he => ?_
    rw [hquiet.sockets] at he
    rw [hquiet.socketEpoch]
    exact h.wired.epochs j e he
  refine ⟨⟨fun i j hv => ?_, hepochs, fun i hv => ?_, fun _ => rfl⟩, attached_of_none rfl⟩
  · cases hv
  · cases hv

/-- **One event does harm exactly if it is an answer that comes late.** -/
theorem sound_step_iff {c : LiveMatchClient} (h : Sound c) (e : ClientEvent) :
    Sound (c.step e) ↔ ¬ AnswersLate c e := by
  have hother : ∀ {c'}, Sound c' → (Sound c' ↔ ¬ False) := fun hc' =>
    ⟨fun _ hf => hf, fun _ => hc'⟩
  cases e with
  | data j opCode payload =>
    refine hother ?_
    unfold step
    dsimp only
    split
    next hj => exact sound_data h hj opCode payload
    · exact h
  | lost j => exact hother (sound_onLost h j)
  | timer id => exact hother (sound_onTimer h id)
  | transport k result => exact hother (sound_onTransport h k result)
  | joined k result => exact sound_onJoined_iff h k result
  | dispatch sourceId targetId => exact hother ((quiet_sendDispatch c _ _).sound h)
  | sendFailed i =>
    refine hother ?_
    unfold step
    dsimp only
    split
    · exact (quiet_begin c).sound h
    · exact h
  | close => exact hother (sound_close h)

/-! ### Runs -/

theorem sound_matched (rawMatchId : String) (lastSettledMatchId : Option String)
    (reconnectTransport : Bool) :
    Sound (matched rawMatchId lastSettledMatchId reconnectTransport) := by
  constructor
  · refine ⟨fun i j hv hj => ?_, fun j e he => ?_, fun i hv => ?_, fun hc => ?_⟩
    · change (if j = 0 then some 1 else none) = some 1 at hj
      by_cases hj0 : j = 0
      · exact hj0.symm
      · rw [if_neg hj0] at hj
        cases hj
    · change (if j = 0 then some 1 else none) = some e at he
      by_cases hj0 : j = 0
      · rw [if_pos hj0] at he
        exact (Option.some.inj he).symm.le
      · rw [if_neg hj0] at he
        cases he
    · exact Nat.zero_lt_one
    · cases hc
  · intro i hv hp
    cases hp

/-- **A session plays on a live socket exactly if no answer to its join comes late.**
Whatever arrives, fails and fires in whatever order, a 2v2 session of a client that is
active has its socket, connected and with the handlers of the client, if and only if no
join on the socket of an active session is answered after the resync. -/
theorem attached_runs (rawMatchId : String) (lastSettledMatchId : Option String)
    (reconnectTransport : Bool) (events : List ClientEvent) :
    Always step Attached (matched rawMatchId lastSettledMatchId reconnectTransport) events ↔
      EachStep step (fun c e => ¬ AnswersLate c e)
        (matched rawMatchId lastSettledMatchId reconnectTransport) events := by
  have hsound := sound_matched rawMatchId lastSettledMatchId reconnectTransport
  have hwired : ∀ c e, Wired c → Attached c → Wired (c.step e) := by
    intro c e hw ha
    by_cases hlate : AnswersLate c e
    · cases e with
      | joined k result => exact wired_onJoined hw k result
      | _ => exact hlate.elim
    · exact ((sound_step_iff ⟨hw, ha⟩ e).mpr hlate).wired
  refine always_iff_eachStep (I := Wired) (E := fun _ => True) (fun c e _ hw ha _ => hwired c e hw ha)
    (fun c e _ hw ha => ?_) (fun _ _ => trivial) hsound.wired hsound.attached
  rw [← sound_step_iff ⟨hw, ha⟩ e]
  exact ⟨fun h => ⟨hwired c e hw ha, h⟩, fun h => h.attached⟩

/-! ### The resync before the answer -/

/-- The start of a match as slot 0 gets it. -/
def startedEnvelope : Json :=
  .obj [("schemaVersion", .ofInt 2), ("type", .str "match_started"), ("matchId", .str "live2v2"),
    ("mode", .str "2v2"), ("slot", .ofInt 0), ("teamId", .str "a"), ("nextSequence", .ofInt 0),
    ("players", .arr ([("anna", "a"), ("bert", "a"), ("carl", "b"), ("dora", "b")].zipIdx.map
      fun p => .obj [("slot", .ofInt p.2), ("teamId", .str p.1.2), ("userId", .str p.1.1),
        ("displayName", .str p.1.1)])),
    ("state", .obj [("status", .str "playing"), ("territories", .obj []), ("armies", .arr [])])]

/-- The client plays, loses its socket and gets a fresh one. -/
def reconnects : List ClientEvent :=
  [.data 0 2 startedEnvelope, .lost 0, .timer 1, .transport 0 (.ok ())]

/-- The resync comes first and the answer to the join after it. -/
def answeredLate : List ClientEvent :=
  reconnects ++ [.data 1 2 startedEnvelope, .joined 0 (.ok ())]

/-- The other order. -/
def answeredInTime : List ClientEvent :=
  reconnects ++ [.joined 0 (.ok ()), .data 1 2 startedEnvelope]

example : (answeredInTime.foldl step (matched "match" none true)).hears 1 = true := by
  decide +kernel

/-- **The client closes the socket it plays on.**  The session is active, and the fresh
socket it was resynced on is closed by the attempt that opened it. -/
theorem attached_answeredLate : ¬ ∀ events : List ClientEvent,
    Always step Attached (matched "match" none true) events := by
  intro h
  have hv : (answeredLate.foldl step (matched "match" none true)).v2 = some 0 := by decide +kernel
  have hp : ((answeredLate.foldl step (matched "match" none true)).sessions 0).phase =
      .active := by
    decide +kernel
  have hears := (h answeredLate).last 0 hv hp
  revert hears
  decide +kernel

end CrownClash.Ts
