import CrownClash.Go.LiveSeats

/-!
# Server: who forfeits a live match

The runtime joins and leaves sessions, and a user may have several of them joined
to one match: a second device, or a reconnect that comes in before the leave of
the session it replaces.  The handler knows users only.  A leave of any session of
a seated user ends a running match as a forfeit of that user (`leaveAll_seated`),
whether or not the user is still joined with another one.

`NoStaleLeave` is the condition under which that is right, and
`forfeit_departures` says so of every run of a started match.
-/

namespace CrownClash.Go

open Lib

/-- A match and the sessions that are joined to it. -/
structure Attendance where
  live : LiveMatchState
  sessions : List Presence

inductive AttendanceEvent
  | join (arrivals : List Arrival) (now : ℤ)
  | leave (presences : List Presence) (settled : String → Bool)
  | loop (messages : List LiveMessage) (now : ℤ) (settled : String → Bool)

/-- The sessions that stay. -/
def staying (sessions presences : List Presence) : List Presence :=
  sessions.filter fun p => !presences.contains p

def Attendance.step [MathLib] (r : Attendance) : AttendanceEvent → Attendance
  | .join arrivals now =>
    { live := matchJoin r.live arrivals now
      sessions := r.sessions ++ arrivals.map Arrival.presence }
  | .leave presences settled =>
    { live := matchLeave r.live presences settled
      sessions := staying r.sessions presences }
  | .loop messages now settled => { r with live := matchLoop r.live messages now settled }

/-- A match that two users have started. -/
structure StartedMatch (users : Seat → String) (s : LiveMatchState) : Prop where
  started : s.started = true
  held : ∀ seat, s.holder seat = some (users seat)
  known : ∀ u seat, s.presenceById u = some seat ↔ users seat = u

/-- Only sessions of the two come in. -/
def OfSeated (users : Seat → String) : AttendanceEvent → Prop
  | .join arrivals _ => ∀ a ∈ arrivals, ∃ seat, a.presence.userId = users seat
  | _ => True

/-- A leave that ends a running match by taking a user's seat away leaves that user
without a joined session. -/
def ForfeitsRightly [MathLib] (r : Attendance) : AttendanceEvent → Prop
  | .leave presences settled =>
    r.live.finished = false → (r.step (.leave presences settled)).live.finished = true →
      ∀ seat u, r.live.holder seat = some u →
        (r.step (.leave presences settled)).live.holder seat = none →
          ∀ p ∈ (r.step (.leave presences settled)).sessions, p.userId ≠ u
  | _ => True

/-- The first session of a seated user that a leave of a running match names is not
outlived by another session of that user. -/
def NoStaleLeave (r : Attendance) : AttendanceEvent → Prop
  | .leave presences _ =>
    r.live.finished = false →
      ∀ p, (presences.find? fun p => (r.live.presenceById p.userId).isSome) = some p →
        ∀ q ∈ staying r.sessions presences, q.userId ≠ p.userId
  | _ => True

/-! ### A leave -/

/-- **What a leave does to a started match.**  The first session of a seated user
forfeits for that user; the others are not looked at any more. -/
theorem leaveAll_seated {users : Seat → String} {s : LiveMatchState} (h : StartedMatch users s)
    (settled : String → Bool) : ∀ presences : List Presence,
      match presences.find? fun p => (s.presenceById p.userId).isSome with
      | none => s.leaveAll settled presences = (s, false)
      | some p => ∃ seat player, users seat = p.userId ∧
          s.leaveAll settled presences = (s.forfeit p.userId seat player settled, true) := by
  intro presences
  induction presences with
  | nil => rfl
  | cons p rest ih =>
    unfold LiveMatchState.leaveAll
    cases hk : s.presenceById p.userId with
    | none =>
      rw [List.find?_cons_of_neg (by rw [hk]; exact Bool.false_ne_true)]
      exact ih
    | some seat =>
      rw [List.find?_cons_of_pos (by rw [hk]; rfl)]
      obtain ⟨player, hplayer, -⟩ := Option.map_eq_some_iff.mp (h.held seat)
      dsimp only
      rw [hplayer, h.started]
      exact ⟨seat, player, (h.known _ seat).mp hk, rfl⟩

theorem forfeit_holder (s : LiveMatchState) (userId : String) (seat : Seat)
    (player : LivePlayerState) (settled : String → Bool) :
    (s.forfeit userId seat player settled).finished = true ∧
      (s.forfeit userId seat player settled).holder = Function.update s.holder seat none := by
  refine ⟨rfl, ?_⟩
  funext k
  unfold LiveMatchState.holder LiveMatchState.forfeit
  dsimp only
  by_cases hk : k = seat
  · rw [hk, Function.update_self, Function.update_self]
    rfl
  · rw [Function.update_of_ne hk, Function.update_of_ne hk]
    rfl

theorem matchLeave_seated {users : Seat → String} {s : LiveMatchState} (h : StartedMatch users s)
    (hf : s.finished = false) (presences : List Presence) (settled : String → Bool) :
    match presences.find? fun p => (s.presenceById p.userId).isSome with
    | none => matchLeave s presences settled = s
    | some p => ∃ seat, users seat = p.userId ∧
        (matchLeave s presences settled).finished = true ∧
        (matchLeave s presences settled).holder = Function.update s.holder seat none := by
  have hleave := leaveAll_seated h settled presences
  unfold matchLeave
  rw [hf, if_neg Bool.false_ne_true]
  dsimp only
  cases hfind : presences.find? fun p => (s.presenceById p.userId).isSome with
  | none =>
    rw [hfind] at hleave
    have hseat : (s.players 0).isNone = false := by
      obtain ⟨player, hplayer, -⟩ := Option.map_eq_some_iff.mp (h.held 0)
      rw [hplayer]
      rfl
    rw [hleave, if_neg Bool.false_ne_true, if_neg]
    rintro ⟨hnone, -⟩
    rw [hseat] at hnone
    cases hnone
  | some p =>
    rw [hfind] at hleave
    obtain ⟨seat, player, huser, hresult⟩ := hleave
    rw [hresult, if_pos rfl]
    exact ⟨seat, huser, forfeit_holder s p.userId seat player settled⟩

section Runs

variable [MathLib]

/-- **One step.**  A leave forfeits rightly exactly if no stale session leaves. -/
theorem forfeitsRightly_iff {users : Seat → String} {r : Attendance}
    (h : r.live.finished = true ∨ StartedMatch users r.live) (e : AttendanceEvent) :
    ForfeitsRightly r e ↔ NoStaleLeave r e := by
  cases e with
  | join arrivals now => exact Iff.rfl
  | loop messages now settled => exact Iff.rfl
  | leave presences settled =>
    refine imp_congr_right fun hf => ?_
    have hs : StartedMatch users r.live := by
      rcases h with h | h
      · rw [hf] at h
        cases h
      · exact h
    have hleave := matchLeave_seated hs hf presences settled
    change (matchLeave r.live presences settled).finished = true → _ ↔ _
    cases hfind : presences.find? fun p => (r.live.presenceById p.userId).isSome with
    | none =>
      rw [hfind] at hleave
      rw [hleave, hf]
      constructor
      · intro _ p hp
        cases hp
      · intro _ hover
        cases hover
    | some p =>
      rw [hfind] at hleave
      obtain ⟨seat, huser, hover, hholder⟩ := hleave
      constructor
      · intro hright p' hp'
        cases hp'
        refine fun q hq => hright hover seat p.userId (huser ▸ hs.held seat) ?_ q hq
        change (matchLeave r.live presences settled).holder seat = none
        rw [hholder, Function.update_self]
      · intro hstale _ k u hu hk q hq
        change (matchLeave r.live presences settled).holder k = none at hk
        rw [hholder] at hk
        by_cases hseat : k = seat
        · have hname : u = p.userId := by
            rw [hseat, hs.held seat] at hu
            rw [← huser]
            exact (Option.some.inj hu).symm
          rw [hname]
          exact hstale p rfl q hq
        · rw [Function.update_of_ne hseat, hu] at hk
          cases hk

omit [MathLib] in
theorem foldl_joinOne_finished : ∀ (arrivals : List Arrival) (s : LiveMatchState),
    (arrivals.foldl LiveMatchState.joinOne s).finished = s.finished := by
  intro arrivals
  induction arrivals with
  | nil => intro s; rfl
  | cons a arrivals ih =>
    intro s
    have hone : (s.joinOne a).finished = s.finished := by
      unfold LiveMatchState.joinOne
      split
      · rfl
      · split
        · rfl
        · rfl
    rw [List.foldl_cons, ih, hone]

omit [MathLib] in
theorem matchJoin_seated {users : Seat → String} {s : LiveMatchState} (h : StartedMatch users s)
    {arrivals : List Arrival} (ha : ∀ a ∈ arrivals, ∃ seat, a.presence.userId = users seat)
    (now : ℤ) : matchJoin s arrivals now = s := by
  have hjoin : arrivals.foldl LiveMatchState.joinOne s = s := by
    induction arrivals with
    | nil => rfl
    | cons a arrivals ih =>
      obtain ⟨seat, hseat⟩ := ha a List.mem_cons_self
      have hone : s.joinOne a = s := by
        unfold LiveMatchState.joinOne
        rw [(h.known _ seat).mpr hseat.symm]
        rfl
      rw [List.foldl_cons, hone]
      exact ih fun b hb => ha b (List.mem_cons_of_mem a hb)
  unfold matchJoin LiveMatchState.startIfFull
  rw [hjoin, h.started]
  split
  · next heq => cases heq
  · rfl

theorem Attendance.stays {users : Seat → String} {r : Attendance}
    (h : r.live.finished = true ∨ StartedMatch users r.live) {e : AttendanceEvent}
    (he : OfSeated users e) :
    (r.step e).live.finished = true ∨ StartedMatch users (r.step e).live := by
  cases e with
  | join arrivals now =>
    rcases h with h | h
    · refine Or.inl ?_
      have hseats : (matchJoin r.live arrivals now).finished = r.live.finished := by
        unfold matchJoin LiveMatchState.startIfFull
        split
        · exact foldl_joinOne_finished arrivals r.live
        · exact foldl_joinOne_finished arrivals r.live
      exact hseats.trans h
    · refine Or.inr ?_
      change StartedMatch users (matchJoin r.live arrivals now)
      rw [matchJoin_seated h he now]
      exact h
  | leave presences settled =>
    cases hf : r.live.finished with
    | true =>
      refine Or.inl ?_
      change (matchLeave r.live presences settled).finished = true
      unfold matchLeave
      rw [hf]
      exact hf
    | false =>
      have hs : StartedMatch users r.live := by
        rcases h with h | h
        · rw [hf] at h
          cases h
        · exact h
      have hleave := matchLeave_seated hs hf presences settled
      change (matchLeave r.live presences settled).finished = true ∨
        StartedMatch users (matchLeave r.live presences settled)
      cases hfind : presences.find? fun p => (r.live.presenceById p.userId).isSome with
      | none =>
        rw [hfind] at hleave
        rw [hleave]
        exact Or.inr hs
      | some p =>
        rw [hfind] at hleave
        obtain ⟨seat, -, hover, -⟩ := hleave
        exact Or.inl hover
  | loop messages now settled =>
    have hsame := matchLoop_sameSeats r.live messages now settled
    rcases h with h | h
    · refine Or.inl ?_
      change (matchLoop r.live messages now settled).finished = true
      unfold matchLoop
      rw [if_pos h]
      exact h
    · exact Or.inr ⟨hsame.started.trans h.started, fun seat => hsame.holder ▸ h.held seat,
        fun u seat => by
          change (matchLoop r.live messages now settled).presenceById u = some seat ↔ _
          rw [hsame.presenceById]
          exact h.known u seat⟩

/-- **Who forfeits a started match.**  In every run of a match that two users have
started, with sessions of the two joining and leaving in any order, a user forfeits
only with the last joined session gone, exactly if no call of `MatchLeave` begins
with a session that another one of its user outlives. -/
theorem forfeit_departures {users : Seat → String} {r : Attendance}
    (h : StartedMatch users r.live) {events : List AttendanceEvent}
    (he : ∀ e ∈ events, OfSeated users e) :
    EachStep Attendance.step ForfeitsRightly r events ↔
      EachStep Attendance.step NoStaleLeave r events := by
  let R : Attendance → Attendance → Prop := fun a b =>
    a = b ∧ (a.live.finished = true ∨ StartedMatch users a.live)
  refine eachStep_lockstep (R := R) (E := OfSeated users) ?_ ?_ he ⟨rfl, Or.inr h⟩
  · rintro a b e hE ⟨rfl, ha⟩
    exact ⟨rfl, Attendance.stays ha hE⟩
  · rintro a b e ⟨rfl, ha⟩
    exact forfeitsRightly_iff ha e

end Runs

/-! ### A second device -/

local instance twoSeats : NeZero 2 := ⟨by decide⟩

def duelUsers (seat : Seat) : String := if seat = 0 then "anna" else "bert"

/-- A match that has started. -/
def duel : LiveMatchState :=
  matchJoin (liveMatchInit false ⟨false, none, []⟩ "00000000" "crown_cross")
    [arrivalOf "anna", arrivalOf "bert"] 0

theorem duel_started : StartedMatch duelUsers duel := by
  refine ⟨by decide +kernel, by decide +kernel, fun u seat => ?_⟩
  have hknown : duel.presenceById =
      Function.update (Function.update (fun _ => none) "anna" (some 0)) "bert" (some 1) := by
    rfl
  rw [hknown]
  by_cases hb : u = "bert"
  · subst hb
    rw [Function.update_self]
    revert seat
    decide
  · rw [Function.update_of_ne hb]
    by_cases ha : u = "anna"
    · subst ha
      rw [Function.update_self]
      revert seat
      decide
    · rw [Function.update_of_ne ha]
      constructor
      · intro hnone
        cases hnone
      · intro hu
        unfold duelUsers at hu
        split at hu
        · exact absurd hu.symm ha
        · exact absurd hu.symm hb

/-- Anna joins with a second device and leaves with the first. -/
def secondDevice : List AttendanceEvent :=
  [.join [⟨⟨"anna", "session_2", "anna"⟩, freshLookup "anna"⟩] 1000,
   .leave [guest "anna"] fun _ => true]

theorem forfeit_departures_duel :
    EachStep (@Attendance.step decimalHypot) (@ForfeitsRightly decimalHypot)
        ⟨duel, [guest "anna", guest "bert"]⟩ secondDevice ↔
      EachStep (@Attendance.step decimalHypot) NoStaleLeave
        ⟨duel, [guest "anna", guest "bert"]⟩ secondDevice :=
  @forfeit_departures decimalHypot duelUsers ⟨duel, [guest "anna", guest "bert"]⟩ duel_started
    secondDevice (by
      intro e he
      rcases List.mem_pair.mp he with rfl | rfl
      · intro a ha
        rw [List.mem_singleton.mp ha]
        exact ⟨0, rfl⟩
      · trivial)

/-- **A user who is still there forfeits.**  The leave of Anna's first device ends
the match although her second device is in it. -/
theorem forfeit_departures_second :
    ¬ EachStep (@Attendance.step decimalHypot) (@ForfeitsRightly decimalHypot)
        ⟨duel, [guest "anna", guest "bert"]⟩ secondDevice := by
  intro h
  have hleave := eachStep_cons.mp (eachStep_cons.mp h).2
  exact hleave.1 (by decide +kernel) (by decide +kernel) 0 "anna" (by decide +kernel)
    (by decide +kernel) ⟨"anna", "session_2", "anna"⟩ (by decide +kernel) rfl

end CrownClash.Go
