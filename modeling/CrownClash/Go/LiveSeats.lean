import CrownClash.Go.Live
import CrownClash.Lib.Fold
import CrownClash.Lib.Run

/-!
# Server: the seats of a live match

Admission is decided by `matchJoinAttempt` and the seat is taken later by
`matchJoin`, so several admissions can be outstanding at once.  A `Room` is the
match together with what the calls around it remember: the presences that were
let in and have not joined yet, and every user who was ever placed into a seat.

`SeatsOk` is what the two seats are meant to keep.  Leaving and playing always
keep it (`leave_ok`, `loop_ok`); a join keeps it exactly if each of its
presences still finds a free seat (`joinAll_iff`), which the handler does not ask
again.  `liveSeats` says so of every run.
-/

namespace CrownClash.Go

open Lib

/-- Who holds a seat. -/
def LiveMatchState.holder (s : LiveMatchState) (seat : Seat) : Option String :=
  (s.players seat).map LivePlayerState.userId

/-- A match and everyone who was ever placed into one of its seats. -/
structure Seating where
  live : LiveMatchState
  placements : List (Seat × String)

structure Room extends Seating where
  admitted : List Presence

/-- One presence joins. -/
def Seating.joinOne (c : Seating) (a : Arrival) : Seating where
  live := c.live.joinOne a
  placements :=
    if (c.live.presenceById a.presence.userId).isSome then c.placements
    else
      match a.lookup.liveCareer c.live.equalPower with
      | none => c.placements
      | some _ => c.placements ++ [(c.live.nextSeat, a.presence.userId)]

inductive RoomEvent
  | attempt (presence : Presence) (code : Option String)
  | join (arrivals : List Arrival) (now : ℤ)
  | leave (presences : List Presence) (settled : String → Bool)
  | loop (messages : List LiveMessage) (now : ℤ) (settled : String → Bool)

/-- Only presences that were let in join, and each admission is used once. -/
def Room.mayJoin (r : Room) (arrivals : List Arrival) : Bool :=
  arrivals.all fun a => r.admitted.contains a.presence

section Step

variable [MathLib]

def Room.step (r : Room) : RoomEvent → Room
  | .attempt presence code =>
    match matchJoinAttempt r.live presence code with
    | .error _ => r
    | .ok _ => { r with admitted := presence :: r.admitted }
  | .join arrivals now =>
    if r.mayJoin arrivals then
      { live := matchJoin r.live arrivals now
        placements := (arrivals.foldl Seating.joinOne r.toSeating).placements
        admitted := r.admitted.diff (arrivals.map Arrival.presence) }
    else r
  | .leave presences settled => { r with live := matchLeave r.live presences settled }
  | .loop messages now settled => { r with live := matchLoop r.live messages now settled }

end Step

/-- A room before anyone came. -/
def Room.start (equalPower : Bool) (params : LiveMatchParams) (newLiveJoinCode : String)
    (battlefieldId : String) : Room where
  live := liveMatchInit equalPower params newLiveJoinCode battlefieldId
  placements := []
  admitted := []

/-- **What the seats are meant to keep.** -/
structure SeatsOk (c : Seating) : Prop where
  /-- At most two users are bound. -/
  two : ∀ users : List String, users.Nodup →
    (∀ u ∈ users, (c.live.presenceById u).isSome) → users.length ≤ 2
  /-- The map and the seats agree. -/
  agree : ∀ u seat, c.live.presenceById u = some seat ↔ c.live.holder seat = some u
  /-- A seat that a user held never goes to another. -/
  kept : ∀ seat u v, (seat, u) ∈ c.placements → (seat, v) ∈ c.placements → u = v

/-- The presence is skipped, or it finds its seat free; and in a match that is
over, that seat was not held by another user before. -/
def FindsSeat (c : Seating) (a : Arrival) : Prop :=
  (c.live.presenceById a.presence.userId).isSome = false →
    (a.lookup.liveCareer c.live.equalPower).isSome →
      c.live.holder c.live.nextSeat = none ∧
        (c.live.finished = true →
          ∀ u, (c.live.nextSeat, u) ∈ c.placements → u = a.presence.userId)

/-- Every presence of a join finds a seat, after the ones before it. -/
def JoinFits (r : Room) : RoomEvent → Prop
  | .join arrivals _ =>
    r.mayJoin arrivals = true → EachStep Seating.joinOne FindsSeat r.toSeating arrivals
  | _ => True

/-! ### What every room keeps -/

/-- The log of placements tells who sits where; while the match runs, no seat
that was ever taken is free. -/
structure SeatLog (c : Seating) : Prop where
  held : ∀ seat u, c.live.holder seat = some u → (seat, u) ∈ c.placements
  taken : c.live.finished = false → ∀ seat u, (seat, u) ∈ c.placements →
    c.live.holder seat ≠ none
  order : c.live.holder 1 ≠ none → c.live.started = false → c.live.finished = false →
    c.live.holder 0 ≠ none

structure RoomOk (r : Room) : Prop extends SeatLog r.toSeating where
  waiting : r.live.started = false → r.live.finished = false → r.live.holder 1 = none

/-- Where the map and the seats agree there is room for two. -/
theorem two_of_agree {c : Seating}
    (h : ∀ u seat, c.live.presenceById u = some seat ↔ c.live.holder seat = some u)
    (users : List String) (hn : users.Nodup)
    (hb : ∀ u ∈ users, (c.live.presenceById u).isSome) : users.length ≤ 2 := by
  have hinj : ∀ u ∈ users, ∀ v ∈ users, c.live.presenceById u = c.live.presenceById v → u = v := by
    intro u hu v hv he
    obtain ⟨seat, hs⟩ := Option.isSome_iff_exists.mp (hb u hu)
    have h1 := (h u seat).mp hs
    have h2 := (h v seat).mp (he ▸ hs)
    rw [h1] at h2
    exact Option.some.inj h2
  have hmap : (users.map c.live.presenceById).Nodup := hn.map_on hinj
  have hsub : users.map c.live.presenceById ⊆ [some 0, some 1] := by
    intro o ho
    obtain ⟨u, hu, rfl⟩ := List.mem_map.mp ho
    obtain ⟨seat, hs⟩ := Option.isSome_iff_exists.mp (hb u hu)
    rw [hs]
    match seat with
    | 0 => exact List.mem_cons_self
    | 1 => exact List.mem_cons_of_mem _ List.mem_cons_self
  have hlen := (hmap.subperm hsub).length_le
  rw [List.length_map] at hlen
  exact hlen

/-! ### Joining -/

theorem holder_seat (s : LiveMatchState) (a : Arrival) (career : PlayerCareer) :
    (s.seat a career).holder
      = Function.update s.holder s.nextSeat (some a.presence.userId) := by
  funext seat
  unfold LiveMatchState.holder LiveMatchState.seat
  by_cases h : seat = s.nextSeat
  · subst h
    simp
  · simp [h]

/-- The second seat is given out when the first is taken, and only then. -/
theorem nextSeat_eq (s : LiveMatchState) :
    s.nextSeat = if (s.holder 0).isSome then 1 else 0 := by
  unfold LiveMatchState.nextSeat LiveMatchState.holder
  rw [Option.isSome_map]

/-- What one presence does: nothing, or it takes the next seat. -/
theorem joinOne_cases (c : Seating) (a : Arrival) :
    (c.joinOne a = c ∧
      ((c.live.presenceById a.presence.userId).isSome ∨
        (a.lookup.liveCareer c.live.equalPower).isSome = false)) ∨
    ((c.live.presenceById a.presence.userId).isSome = false ∧
      (a.lookup.liveCareer c.live.equalPower).isSome ∧
      ∃ career, c.joinOne a
        = ⟨c.live.seat a career, c.placements ++ [(c.live.nextSeat, a.presence.userId)]⟩) := by
  unfold Seating.joinOne LiveMatchState.joinOne
  by_cases hm : (c.live.presenceById a.presence.userId).isSome
  · left
    rw [if_pos hm, if_pos hm]
    exact ⟨rfl, Or.inl hm⟩
  · rw [if_neg hm, if_neg hm]
    cases hc : a.lookup.liveCareer c.live.equalPower with
    | none => exact Or.inl ⟨rfl, Or.inr rfl⟩
    | some career => exact Or.inr ⟨Bool.eq_false_iff.mpr hm, rfl, career, rfl⟩

theorem placements_joinOne (c : Seating) (a : Arrival) :
    c.placements ⊆ (c.joinOne a).placements := by
  rcases joinOne_cases c a with ⟨h, -⟩ | ⟨-, -, career, h⟩
  · rw [h]
    exact List.Subset.refl _
  · rw [h]
    exact List.subset_append_left _ _

theorem placements_foldl : ∀ (arrivals : List Arrival) (c : Seating),
    c.placements ⊆ (arrivals.foldl Seating.joinOne c).placements := by
  intro arrivals
  induction arrivals with
  | nil => intro c; exact List.Subset.refl _
  | cons a arrivals ih =>
    intro c
    exact List.Subset.trans (placements_joinOne c a) (ih (c.joinOne a))

/-- The room's bookkeeping follows the handler's loop. -/
theorem foldl_joinOne_live : ∀ (arrivals : List Arrival) (c : Seating),
    (arrivals.foldl Seating.joinOne c).live = arrivals.foldl LiveMatchState.joinOne c.live := by
  intro arrivals
  induction arrivals with
  | nil => intro c; rfl
  | cons a arrivals ih => intro c; exact ih (c.joinOne a)

theorem SeatLog.joinOne {c : Seating} (h : SeatLog c) (a : Arrival) : SeatLog (c.joinOne a) := by
  rcases joinOne_cases c a with ⟨he, -⟩ | ⟨-, -, career, he⟩
  · rw [he]
    exact h
  rw [he]
  have hkeep : ∀ seat, c.live.holder seat ≠ none →
      (c.live.seat a career).holder seat ≠ none := by
    intro seat hs
    rw [holder_seat]
    by_cases hseat : seat = c.live.nextSeat
    · rw [hseat, Function.update_self]
      exact Option.some_ne_none _
    · rw [Function.update_of_ne hseat]
      exact hs
  have hnew : (c.live.seat a career).holder c.live.nextSeat ≠ none := by
    rw [holder_seat, Function.update_self]
    exact Option.some_ne_none _
  refine ⟨fun seat u hu => ?_, fun hf seat u hu => ?_, fun _ _ _ => ?_⟩
  · change (c.live.seat a career).holder seat = some u at hu
    rw [holder_seat] at hu
    by_cases hseat : seat = c.live.nextSeat
    · rw [hseat, Function.update_self] at hu
      cases hu
      rw [hseat]
      exact List.mem_append_right _ List.mem_cons_self
    · rw [Function.update_of_ne hseat] at hu
      exact List.mem_append_left _ (h.held seat u hu)
  · rcases List.mem_append.mp hu with hu | hu
    · exact hkeep seat (h.taken hf seat u hu)
    · cases List.mem_singleton.mp hu
      exact hnew
  · -- the first seat is taken before the second one is given out
    by_cases h0 : c.live.holder 0 = none
    · have hseat : c.live.nextSeat = 0 := by
        rw [nextSeat_eq, h0]
        rfl
      rw [hseat] at hnew
      exact hnew
    · exact hkeep 0 h0

/-- Whoever is placed without taking a seat from another found it free. -/
theorem findsSeat_of_kept {c : Seating} {a : Arrival} (hl : SeatLog c) (hs : SeatsOk c)
    (h : ∀ seat u v, (seat, u) ∈ (c.joinOne a).placements →
      (seat, v) ∈ (c.joinOne a).placements → u = v) : FindsSeat c a := by
  intro hm hc
  rcases joinOne_cases c a with ⟨-, hd⟩ | ⟨-, -, career, he⟩
  · rcases hd with hd | hd
    · rw [hm] at hd
      cases hd
    · rw [hc] at hd
      cases hd
  rw [he] at h
  have hnew : ∀ u, (c.live.nextSeat, u) ∈ c.placements → u = a.presence.userId := fun u hu =>
    h c.live.nextSeat u a.presence.userId (List.mem_append_left _ hu)
      (List.mem_append_right _ List.mem_cons_self)
  refine ⟨?_, fun _ => hnew⟩
  cases hh : c.live.holder c.live.nextSeat with
  | none => rfl
  | some u =>
    have hu := hnew u (hl.held _ u hh)
    rw [hu] at hh
    rw [(hs.agree _ _).mpr hh] at hm
    cases hm

/-- A presence that finds its seat free may take it. -/
theorem SeatsOk.joinOne {c : Seating} {a : Arrival} (hl : SeatLog c) (hs : SeatsOk c)
    (h : FindsSeat c a) : SeatsOk (c.joinOne a) := by
  rcases joinOne_cases c a with ⟨he, -⟩ | ⟨hm, hc, career, he⟩
  · rw [he]
    exact hs
  obtain ⟨hfree, hold⟩ := h hm hc
  rw [he]
  have hagree : ∀ u seat, (c.live.seat a career).presenceById u = some seat ↔
      (c.live.seat a career).holder seat = some u := by
    intro u seat
    rw [holder_seat]
    change Function.update c.live.presenceById a.presence.userId (some c.live.nextSeat) u
      = some seat ↔ _
    by_cases hu : u = a.presence.userId <;> by_cases hseat : seat = c.live.nextSeat
    · rw [hu, hseat, Function.update_self, Function.update_self]
      exact ⟨fun _ => rfl, fun _ => rfl⟩
    · rw [hu, Function.update_self, Function.update_of_ne hseat]
      constructor
      · intro he'
        exact absurd (Option.some.inj he').symm hseat
      · intro hh
        rw [(hs.agree _ _).mpr hh] at hm
        cases hm
    · rw [hseat, Function.update_of_ne hu, Function.update_self, hs.agree, hfree]
      constructor
      · intro he'
        cases he'
      · intro he'
        exact absurd (Option.some.inj he').symm hu
    · rw [Function.update_of_ne hu, Function.update_of_ne hseat]
      exact hs.agree u seat
  refine ⟨two_of_agree hagree, hagree, ?_⟩
  -- nobody else was in that seat before: while the match runs it would not be free
  have hnew : ∀ u, (c.live.nextSeat, u) ∈ c.placements → u = a.presence.userId := by
    intro u hu
    cases hf : c.live.finished with
    | false => exact absurd hfree (hl.taken hf _ u hu)
    | true => exact hold hf u hu
  intro seat u v hu hv
  rcases List.mem_append.mp hu with hu | hu <;> rcases List.mem_append.mp hv with hv | hv
  · exact hs.kept seat u v hu hv
  · cases List.mem_singleton.mp hv
    exact hnew u hu
  · cases List.mem_singleton.mp hu
    exact (hnew v hv).symm
  · cases List.mem_singleton.mp hu
    cases List.mem_singleton.mp hv
    rfl

/-- **A join keeps the seats in order exactly if every presence finds a seat.** -/
theorem joinAll_iff : ∀ {arrivals : List Arrival} {c : Seating}, SeatLog c → SeatsOk c →
    (SeatsOk (arrivals.foldl Seating.joinOne c) ↔
      EachStep Seating.joinOne FindsSeat c arrivals) := by
  intro arrivals
  induction arrivals with
  | nil => intro c _ hs; exact ⟨fun _ => eachStep_nil, fun _ => hs⟩
  | cons a arrivals ih =>
    intro c hl hs
    rw [eachStep_cons, List.foldl_cons]
    constructor
    · intro h
      have hfind : FindsSeat c a := findsSeat_of_kept hl hs fun seat u v hu hv =>
        h.kept seat u v (placements_foldl arrivals _ hu) (placements_foldl arrivals _ hv)
      exact ⟨hfind, (ih (hl.joinOne a) (hs.joinOne hl hfind)).mp h⟩
    · rintro ⟨hfind, h⟩
      exact (ih (hl.joinOne a) (hs.joinOne hl hfind)).mpr h

theorem startIfFull_seats (s : LiveMatchState) (now : ℤ) :
    (s.startIfFull now).holder = s.holder ∧
      (s.startIfFull now).presenceById = s.presenceById ∧
      (s.startIfFull now).finished = s.finished ∧
      ((s.startIfFull now).started = false →
        s.started = false ∧ (s.holder 0 = none ∨ s.holder 1 = none)) := by
  unfold LiveMatchState.startIfFull
  cases h0 : s.players 0 with
  | none => exact ⟨rfl, rfl, rfl, fun hs => ⟨hs, Or.inl (by simp [LiveMatchState.holder, h0])⟩⟩
  | some first =>
    cases h1 : s.players 1 with
    | none => exact ⟨rfl, rfl, rfl, fun hs => ⟨hs, Or.inr (by simp [LiveMatchState.holder, h1])⟩⟩
    | some second =>
      cases hs : s.started with
      | false => exact ⟨rfl, rfl, rfl, fun h => nomatch h⟩
      | true =>
        refine ⟨rfl, rfl, rfl, fun h => ?_⟩
        rw [hs] at h
        cases h

/-! ### Leaving -/

/-- The map and the seats agree. -/
def LiveMatchState.Agrees (s : LiveMatchState) : Prop :=
  ∀ u seat, s.presenceById u = some seat ↔ s.holder seat = some u

theorem holder_clear (s : LiveMatchState) (seat : Seat) :
    (fun k => (Function.update s.players seat none k).map LivePlayerState.userId)
      = Function.update s.holder seat none := by
  funext k
  unfold LiveMatchState.holder
  by_cases h : k = seat
  · subst h
    simp
  · simp [h]

/-- A seat that is cleared or left as it is. -/
theorem update_none_cases (f : Seat → Option String) (seat k : Seat) :
    Function.update f seat none k = none ∨ Function.update f seat none k = f k := by
  by_cases hk : k = seat
  · left
    rw [hk, Function.update_self]
  · right
    rw [Function.update_of_ne hk]

/-- Taking a user off the map and out of the seat keeps both in agreement. -/
theorem LiveMatchState.Agrees.clear {s s' : LiveMatchState} {userId : String} {seat : Seat}
    (h : s.Agrees) (hm : s.presenceById userId = some seat)
    (hp : s'.presenceById = Function.update s.presenceById userId none)
    (hh : s'.holder = Function.update s.holder seat none) : s'.Agrees := by
  intro u seat'
  rw [hp, hh]
  have hseat := (h userId seat).mp hm
  by_cases hu : u = userId <;> by_cases hs : seat' = seat
  · rw [hu, hs, Function.update_self, Function.update_self]
    constructor
    · intro he
      cases he
    · intro he
      cases he
  · rw [hu, Function.update_self, Function.update_of_ne hs]
    constructor
    · intro he
      cases he
    · intro he
      rw [(h userId seat').mpr he] at hm
      exact absurd (Option.some.inj hm) hs
  · rw [hs, Function.update_of_ne hu, Function.update_self]
    constructor
    · intro he
      rw [(h u seat).mp he] at hseat
      exact absurd (Option.some.inj hseat) hu
    · intro he
      cases he
  · rw [Function.update_of_ne hu, Function.update_of_ne hs]
    exact h u seat'

/-- What the loop of `MatchLeave` leaves behind: seats are only given up, and in a
running match the first of them ends it. -/
structure LeftOk (s : LiveMatchState) (r : LiveMatchState × Bool) : Prop where
  agrees : r.1.Agrees
  started : r.1.started = s.started
  seats : ∀ seat, r.1.holder seat = none ∨ r.1.holder seat = s.holder seat
  ended : r.2 = true → r.1.finished = true
  stays : r.2 = false → r.1.finished = s.finished ∧ (s.started = true → r.1.holder = s.holder)

theorem leaveAll_ok (settled : String → Bool) : ∀ (presences : List Presence)
    {s : LiveMatchState}, s.Agrees → LeftOk s (s.leaveAll settled presences) := by
  intro presences
  induction presences with
  | nil =>
    intro s h
    exact ⟨h, rfl, fun _ => Or.inr rfl, (fun hf => nomatch hf), fun _ => ⟨rfl, fun _ => rfl⟩⟩
  | cons presence rest ih =>
    intro s h
    unfold LiveMatchState.leaveAll
    cases hm : s.presenceById presence.userId with
    | none => exact ih h
    | some seat =>
      have hseat := (h _ _).mp hm
      unfold LiveMatchState.holder at hseat
      obtain ⟨player, hp, -⟩ := Option.map_eq_some_iff.mp hseat
      dsimp only
      rw [hp]
      cases hs : s.started with
      | true =>
        have hh : (s.forfeit presence.userId seat player settled).holder
            = Function.update s.holder seat none := holder_clear s seat
        refine ⟨h.clear hm rfl hh, rfl, fun k => ?_, fun _ => rfl, (fun hf => nomatch hf)⟩
        rw [hh]
        exact update_none_cases s.holder seat k
      | false =>
        have hh : (s.vacate presence.userId seat).holder = Function.update s.holder seat none :=
          holder_clear s seat
        have hleft := ih (h.clear hm rfl hh)
        refine ⟨hleft.agrees, hleft.started, fun k => ?_, hleft.ended, fun hf => ?_⟩
        · rcases hleft.seats k with hn | hn
          · exact Or.inl hn
          · dsimp only
            rw [hn, hh]
            exact update_none_cases s.holder seat k
        · refine ⟨(hleft.stays hf).1, fun ht => ?_⟩
          rw [hs] at ht
          cases ht

/-- A seat is free when nobody holds it. -/
theorem holder_eq_none {s : LiveMatchState} {seat : Seat} :
    s.holder seat = none ↔ (s.players seat).isNone := by
  unfold LiveMatchState.holder
  rw [Option.map_eq_none_iff, Option.isNone_iff_eq_none]

/-- Seats that were only given up are still logged. -/
theorem held_of_seats {r : Room} (hr : RoomOk r) {s : LiveMatchState}
    (hk : ∀ k, s.holder k = none ∨ s.holder k = r.live.holder k) (seat : Seat) (u : String)
    (hu : s.holder seat = some u) : (seat, u) ∈ r.placements := by
  rcases hk seat with hn | hn
  · rw [hn] at hu
    cases hu
  · exact hr.held seat u (hn ▸ hu)

/-- In a match that is over only the log of the seats matters. -/
theorem RoomOk.over {r : Room} (hr : RoomOk r) {s : LiveMatchState}
    (hk : ∀ k, s.holder k = none ∨ s.holder k = r.live.holder k) (hd : s.finished = true) :
    RoomOk { r with live := s } := by
  have hno : s.finished = false → False := fun h => by
    rw [hd] at h
    cases h
  exact ⟨⟨held_of_seats hr hk, fun h => (hno h).elim, fun _ _ h => (hno h).elim⟩,
    fun _ h => (hno h).elim⟩

/-- **Leaving keeps the seats in order.** -/
theorem leave_ok {r : Room} (hr : RoomOk r) (hs : SeatsOk r.toSeating)
    (presences : List Presence) (settled : String → Bool) :
    RoomOk { r with live := matchLeave r.live presences settled } ∧
      SeatsOk ⟨matchLeave r.live presences settled, r.placements⟩ := by
  cases hf : r.live.finished with
  | true =>
    unfold matchLeave
    rw [hf, if_pos rfl]
    exact ⟨hr, hs⟩
  | false =>
    have hleft : LeftOk r.live (r.live.leaveAll settled presences) :=
      leaveAll_ok settled presences hs.agree
    unfold matchLeave
    rw [hf, if_neg Bool.false_ne_true]
    dsimp only
    cases hd : (r.live.leaveAll settled presences).2 with
    | true =>
      rw [if_pos rfl]
      exact ⟨hr.over hleft.seats (hleft.ended hd),
        two_of_agree hleft.agrees, hleft.agrees, hs.kept⟩
    | false =>
      rw [if_neg Bool.false_ne_true]
      split
      · exact ⟨hr.over hleft.seats rfl, two_of_agree hleft.agrees, hleft.agrees, hs.kept⟩
      next hany =>
      refine ⟨?_, two_of_agree hleft.agrees, hleft.agrees, hs.kept⟩
      rw [← holder_eq_none, ← holder_eq_none] at hany
      obtain ⟨hstay, hsame⟩ := hleft.stays hd
      cases hst : r.live.started with
      | true =>
        have hh := hsame hst
        refine ⟨⟨held_of_seats hr hleft.seats, fun _ seat u hu => ?_, fun h1 hs0 _ => ?_⟩,
          fun hs0 _ => ?_⟩
        · dsimp only
          rw [hh]
          exact hr.taken hf seat u hu
        · change (r.live.leaveAll settled presences).1.started = false at hs0
          rw [hleft.started, hst] at hs0
          cases hs0
        · change (r.live.leaveAll settled presences).1.started = false at hs0
          rw [hleft.started, hst] at hs0
          cases hs0
      | false =>
        -- only the first seat was taken, and it still is
        have h1 := hr.waiting hst hf
        have h1' : (r.live.leaveAll settled presences).1.holder 1 = none := by
          rcases hleft.seats 1 with hn | hn
          · exact hn
          · rw [hn, h1]
        have h0' : (r.live.leaveAll settled presences).1.holder 0 ≠ none :=
          fun h => hany ⟨h, h1'⟩
        refine ⟨⟨held_of_seats hr hleft.seats, fun _ seat u hu => ?_, fun h _ _ => h0'⟩,
          fun _ _ => h1'⟩
        have htaken := hr.taken hf seat u hu
        match seat, htaken with
        | 0, _ => exact h0'
        | 1, htaken => exact absurd h1 htaken

/-! ### Playing -/

/-- What the messages and the clock never touch. -/
structure SameSeats (s s' : LiveMatchState) : Prop where
  holder : s'.holder = s.holder
  presenceById : s'.presenceById = s.presenceById
  started : s'.started = s.started
  finished : s'.finished = false → s.finished = false

theorem SameSeats.refl (s : LiveMatchState) : SameSeats s s := ⟨rfl, rfl, rfl, id⟩

theorem SameSeats.trans {s s' s'' : LiveMatchState} (h : SameSeats s s') (g : SameSeats s' s'') :
    SameSeats s s'' :=
  ⟨g.holder.trans h.holder, g.presenceById.trans h.presenceById, g.started.trans h.started,
    fun hf => h.finished (g.finished hf)⟩

theorem sameSeats_send (s : LiveMatchState) (messages : List (Presence × LiveServerMessage)) :
    SameSeats s (s.send messages) := ⟨rfl, rfl, rfl, id⟩

section Playing

variable [MathLib]

/-- A message changes the number of the next one at most. -/
theorem handle_sameSeats (s : LiveMatchState) (message : LiveMessage) :
    SameSeats s (s.handle message) := by
  unfold LiveMatchState.handle
  cases message.payload with
  | none => exact sameSeats_send s _
  | some payload =>
    dsimp only
    split
    · exact sameSeats_send s _
    cases hp : s.playerOf message.sender.userId with
    | none => exact sameSeats_send s _
    | some found =>
      obtain ⟨seat, player⟩ := found
      dsimp only
      split
      · exact sameSeats_send s _
      cases s.order player payload with
      | error e => exact sameSeats_send s _
      | ok state =>
        refine ⟨?_, rfl, rfl, id⟩
        obtain ⟨k, -, hk⟩ := Option.bind_eq_some_iff.mp hp
        obtain ⟨p, hplayer, he⟩ := Option.map_eq_some_iff.mp hk
        cases he
        funext j
        unfold LiveMatchState.holder
        by_cases hj : j = seat
        · rw [hj, hplayer]
          simp
        · simp [hj]

theorem handleAll_sameSeats : ∀ (messages : List LiveMessage) (s : LiveMatchState),
    SameSeats s (messages.foldl LiveMatchState.handle s) := by
  intro messages
  induction messages with
  | nil => intro s; exact .refl s
  | cons message messages ih => intro s; exact (handle_sameSeats s message).trans (ih _)

omit [MathLib] in
theorem rejectAll_sameSeats : ∀ (messages : List LiveMessage) (s : LiveMatchState),
    SameSeats s (messages.foldl (fun s message => s.rejectCommand message .notStarted) s) := by
  intro messages
  induction messages with
  | nil => intro s; exact .refl s
  | cons message messages ih => intro s; exact (sameSeats_send s _).trans (ih _)

theorem simulate_sameSeats (s : LiveMatchState) : SameSeats s s.simulate := by
  unfold LiveMatchState.simulate
  split
  · exact ⟨rfl, rfl, rfl, id⟩
  · exact .refl s

omit [MathLib] in
theorem closeIfOver_sameSeats (s : LiveMatchState) (now : ℤ) (settled : String → Bool) :
    SameSeats s (s.closeIfOver now settled) := by
  unfold LiveMatchState.closeIfOver
  split
  · exact ⟨rfl, rfl, rfl, fun h => nomatch h⟩
  · split
    · exact ⟨rfl, rfl, rfl, fun h => nomatch h⟩
    · exact .refl s

theorem matchLoop_sameSeats (s : LiveMatchState) (messages : List LiveMessage) (now : ℤ)
    (settled : String → Bool) : SameSeats s (matchLoop s messages now settled) := by
  unfold matchLoop
  split
  · exact .refl s
  · split
    · exact rejectAll_sameSeats messages s
    · exact (handleAll_sameSeats messages s).trans ((simulate_sameSeats _).trans
        ((sameSeats_send _ _).trans (closeIfOver_sameSeats _ now settled)))

omit [MathLib] in
/-- **Playing keeps the seats in order.** -/
theorem SameSeats.ok {r : Room} (hr : RoomOk r) (hs : SeatsOk r.toSeating) {s : LiveMatchState}
    (h : SameSeats r.live s) :
    RoomOk { r with live := s } ∧ SeatsOk ⟨s, r.placements⟩ := by
  obtain ⟨hh, hp, hst, hf⟩ := h
  refine ⟨⟨⟨fun seat u hu => ?_, fun hd seat u hu => ?_, fun h1 h2 h3 => ?_⟩,
    fun h1 h2 => ?_⟩, fun users hn hb => ?_, fun u seat => ?_, hs.kept⟩
  · exact hr.held seat u (hh ▸ hu)
  · exact hh ▸ hr.taken (hf hd) seat u hu
  · exact hh ▸ hr.order (hh ▸ h1) (hst ▸ h2) (hf h3)
  · exact hh ▸ hr.waiting (hst ▸ h1) (hf h2)
  · exact hs.two users hn (hp ▸ hb)
  · change s.presenceById u = some seat ↔ s.holder seat = some u
    rw [hp, hh]
    exact hs.agree u seat

/-! ### Every run -/

omit [MathLib] in
theorem join_iff {r : Room} (hr : RoomOk r) (hs : SeatsOk r.toSeating) (arrivals : List Arrival)
    (now : ℤ) :
    SeatsOk ⟨matchJoin r.live arrivals now,
        (arrivals.foldl Seating.joinOne r.toSeating).placements⟩ ↔
      EachStep Seating.joinOne FindsSeat r.toSeating arrivals := by
  rw [← joinAll_iff hr.toSeatLog hs]
  obtain ⟨hh, hp, -, -⟩ := startIfFull_seats (arrivals.foldl LiveMatchState.joinOne r.live) now
  have hlive := foldl_joinOne_live arrivals r.toSeating
  unfold matchJoin
  constructor
  · rintro ⟨h2, ha, hk⟩
    dsimp only at h2 ha hk
    rw [hp] at h2
    rw [hp, hh] at ha
    exact ⟨hlive ▸ h2, hlive ▸ ha, hk⟩
  · rintro ⟨h2, ha, hk⟩
    rw [hlive] at h2 ha
    refine ⟨?_, ?_, hk⟩
    · rw [hp]
      exact h2
    · rw [hp, hh]
      exact ha

omit [MathLib] in
theorem RoomOk.join {r : Room} (hr : RoomOk r) (arrivals : List Arrival) (now : ℤ)
    (admitted : List Presence) :
    RoomOk ⟨⟨matchJoin r.live arrivals now,
      (arrivals.foldl Seating.joinOne r.toSeating).placements⟩, admitted⟩ := by
  have hlog : SeatLog (arrivals.foldl Seating.joinOne r.toSeating) :=
    foldl_preserves (fun c a _ hc => hc.joinOne a) hr.toSeatLog
  obtain ⟨hh, hp, hf, hst⟩ :=
    startIfFull_seats (arrivals.foldl LiveMatchState.joinOne r.live) now
  have hlive := foldl_joinOne_live arrivals r.toSeating
  unfold matchJoin
  refine ⟨⟨fun seat u hu => ?_, fun hd seat u hu => ?_, fun h1 h2 h3 => ?_⟩, fun h1 h2 => ?_⟩
  · dsimp only at hu
    rw [hh] at hu
    exact hlog.held seat u (hlive ▸ hu)
  · dsimp only at hd ⊢
    rw [hf, ← hlive] at hd
    rw [hh, ← hlive]
    exact hlog.taken hd seat u hu
  · dsimp only at h1 h2 h3 ⊢
    rw [hh, ← hlive] at h1 ⊢
    rw [hf, ← hlive] at h3
    exact hlog.order h1 (hlive ▸ (hst h2).1) h3
  · dsimp only at h1 h2 ⊢
    obtain ⟨hs0, hfree⟩ := hst h1
    rw [hf, ← hlive] at h2
    rw [← hlive] at hs0 hfree
    rw [hh, ← hlive]
    rcases hfree with h0 | h0
    · by_contra hne
      exact hlog.order hne hs0 h2 h0
    · exact h0

/-- One call from a room in order keeps it in order exactly if a join fits. -/
theorem roomStep_iff {r : Room} (hr : RoomOk r) (hs : SeatsOk r.toSeating) (e : RoomEvent) :
    SeatsOk (r.step e).toSeating ↔ JoinFits r e := by
  cases e with
  | attempt presence code =>
    refine ⟨fun _ => trivial, fun _ => ?_⟩
    dsimp only [Room.step]
    split
    · exact hs
    · exact hs
  | join arrivals now =>
    unfold Room.step JoinFits
    by_cases hm : r.mayJoin arrivals = true
    · dsimp only
      rw [if_pos hm, join_iff hr hs]
      exact ⟨fun h _ => h, fun h => h hm⟩
    · dsimp only
      rw [if_neg hm]
      exact ⟨fun _ h => absurd h hm, fun _ => hs⟩
  | leave presences settled =>
    exact ⟨fun _ => trivial, fun _ => (leave_ok hr hs presences settled).2⟩
  | loop messages now settled =>
    exact ⟨fun _ => trivial,
      fun _ => ((matchLoop_sameSeats r.live messages now settled).ok hr hs).2⟩

theorem RoomOk.step {r : Room} (hr : RoomOk r) (hs : SeatsOk r.toSeating) (e : RoomEvent) :
    RoomOk (r.step e) := by
  cases e with
  | attempt presence code =>
    dsimp only [Room.step]
    split
    · exact hr
    · exact { hr with }
  | join arrivals now =>
    unfold Room.step
    dsimp only
    split
    · exact hr.join arrivals now _
    · exact hr
  | leave presences settled => exact (leave_ok hr hs presences settled).1
  | loop messages now settled =>
    exact ((matchLoop_sameSeats r.live messages now settled).ok hr hs).1

omit [MathLib] in
theorem roomStart_ok (equalPower : Bool) (params : LiveMatchParams) (newLiveJoinCode : String)
    (battlefieldId : String) :
    RoomOk (.start equalPower params newLiveJoinCode battlefieldId) ∧
      SeatsOk (Room.start equalPower params newLiveJoinCode battlefieldId).toSeating := by
  refine ⟨⟨⟨fun _ _ h => ?_, fun _ _ _ h => ?_, fun h _ _ => ?_⟩, fun _ _ => rfl⟩, ?_⟩
  · cases h
  · exact absurd h List.not_mem_nil
  · exact absurd rfl h
  · have hagree : ∀ u seat,
        (Room.start equalPower params newLiveJoinCode battlefieldId).live.presenceById u = some seat
          ↔ (Room.start equalPower params newLiveJoinCode battlefieldId).live.holder seat
            = some u := fun u seat => ⟨fun h => (nomatch h), fun h => (nomatch h)⟩
    exact ⟨two_of_agree hagree, hagree, fun _ _ _ h => absurd h List.not_mem_nil⟩

/-- **When the seats stay in order.**  In every run of a match, whatever users
attempt, join, leave and send in whatever order, the seats are in order in every
state if and only if every join finds a seat: each presence that is seated finds
a seat free, and in a match that is over one that no other user held. -/
theorem liveSeats (equalPower : Bool) (params : LiveMatchParams) (newLiveJoinCode : String)
    (battlefieldId : String) (events : List RoomEvent) :
    Always Room.step (fun r => SeatsOk r.toSeating)
        (.start equalPower params newLiveJoinCode battlefieldId) events ↔
      EachStep Room.step JoinFits (.start equalPower params newLiveJoinCode battlefieldId)
        events := by
  obtain ⟨hr, hs⟩ := roomStart_ok equalPower params newLiveJoinCode battlefieldId
  exact always_iff_eachStep (I := RoomOk) (E := fun _ => True)
    (fun r e _ hr hs _ => hr.step hs e) (fun r e _ hr hs => roomStep_iff hr hs e)
    (fun _ _ => trivial) hr hs

end Playing

/-! ### Three admissions for two seats -/

def arrivalOf (userId : String) : Arrival := ⟨guest userId, freshLookup userId⟩

/-- Three users are let in while both seats are free, and then join one by one. -/
def threeAdmissions : List RoomEvent :=
  [.attempt (guest "anna") none, .attempt (guest "bert") none, .attempt (guest "carl") none,
   .join [arrivalOf "anna"] 0, .join [arrivalOf "bert"] 0, .join [arrivalOf "carl"] 0]

/-- **A seat is taken from its user.**  The third of them is placed into the seat
that the second one holds. -/
theorem liveSeats_overwritten :
    ¬ Always (@Room.step decimalHypot) (fun r => SeatsOk r.toSeating)
        (.start false ⟨false, none, []⟩ "00000000" "crown_cross") threeAdmissions := by
  intro h
  have hkept := h.last.kept 1 "bert" "carl" (by decide +kernel) (by decide +kernel)
  revert hkept
  decide

end CrownClash.Go
