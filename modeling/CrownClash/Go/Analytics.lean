import Mathlib.Data.List.Basic

/-!
# Server: a batch of analytics events

`rpcTrackEvents` takes a batch as a whole.  One event that does not pass its checks fails
the request, and one that cannot be normalized rolls the transaction back; a batch of
which nothing is refused is stored, an event that is stored already being passed over
(`rpcTrackEvents_none`, `rpcTrackEvents_some`).

The answers of the two checks are parameters: `validate` stands for
`validateAnalyticsEvent` at the time of the request and `normalize` tells whether
`normalizeVersionedAnalyticsEvent` finds what the event refers to.  The table of a player
is the list of its event ids.
-/

namespace CrownClash.Go

variable {α ι : Type} [DecidableEq ι]

def analyticsBatchMaxSize : ℕ := 50

def parseAnalyticsEventsPayload (validate : α → Bool) (events : List α) : Option (List α) :=
  if events.length = 0 ∨ analyticsBatchMaxSize < events.length then none
  else if events.all validate then some events
  else none

/-- `ON CONFLICT (player_id, event_id) DO NOTHING` -/
def insertAnalyticsEvent (rows : List ι) (id : ι) : List ι :=
  if id ∈ rows then rows else rows ++ [id]

/-- The transaction: `none` is a rollback. -/
def InsertAnalyticsEvents (normalize : α → Bool) (eventId : α → ι) :
    List ι → List α → Option (List ι)
  | rows, [] => some rows
  | rows, event :: events =>
    if normalize event then
      InsertAnalyticsEvents normalize eventId (insertAnalyticsEvent rows (eventId event)) events
    else none

def rpcTrackEvents (validate normalize : α → Bool) (eventId : α → ι) (rows : List ι)
    (payload : List α) : Option (List ι) :=
  match parseAnalyticsEventsPayload validate payload with
  | none => none
  | some events => InsertAnalyticsEvents normalize eventId rows events

/-- The server refuses the event in every batch. -/
def refused (validate normalize : α → Bool) (event : α) : Bool :=
  !validate event || !normalize event

variable {validate normalize : α → Bool} {eventId : α → ι}

theorem mem_insertAnalyticsEvent {rows : List ι} {id new : ι} :
    id ∈ insertAnalyticsEvent rows new ↔ id ∈ rows ∨ id = new := by
  unfold insertAnalyticsEvent
  split
  · next hold =>
    constructor
    · intro h
      exact Or.inl h
    · rintro (h | rfl)
      · exact h
      · exact hold
  · rw [List.mem_append, List.mem_singleton]

theorem InsertAnalyticsEvents_none : ∀ {events : List α} {rows : List ι},
    (∃ event ∈ events, normalize event = false) →
      InsertAnalyticsEvents normalize eventId rows events = none := by
  intro events
  induction events with
  | nil =>
    rintro rows ⟨event, hmem, -⟩
    cases hmem
  | cons first events ih =>
    rintro rows ⟨event, hmem, hevent⟩
    unfold InsertAnalyticsEvents
    cases hfirst : normalize first with
    | false => rfl
    | true =>
      rcases List.mem_cons.mp hmem with rfl | hmem
      · rw [hfirst] at hevent
        cases hevent
      · exact ih ⟨event, hmem, hevent⟩

/-- What is stored of a batch of which every event can be normalized. -/
theorem InsertAnalyticsEvents_some : ∀ {events : List α} {rows : List ι},
    (∀ event ∈ events, normalize event = true) →
      ∃ rows', InsertAnalyticsEvents normalize eventId rows events = some rows' ∧
        ∀ id, id ∈ rows' ↔ id ∈ rows ∨ ∃ event ∈ events, eventId event = id := by
  intro events
  induction events with
  | nil =>
    intro rows _
    exact ⟨rows, rfl, fun id => by simp⟩
  | cons first events ih =>
    intro rows h
    have hrest : ∀ event ∈ events, normalize event = true :=
      fun event he => h event (List.mem_cons_of_mem first he)
    obtain ⟨rows', hinsert, hmem⟩ := @ih (insertAnalyticsEvent rows (eventId first)) hrest
    refine ⟨rows', ?_, fun id => ?_⟩
    · unfold InsertAnalyticsEvents
      rw [if_pos (h first List.mem_cons_self)]
      exact hinsert
    · rw [hmem, mem_insertAnalyticsEvent, List.exists_mem_cons_iff, or_assoc, eq_comm]

/-- One refused event fails the request. -/
theorem rpcTrackEvents_none {rows : List ι} {events : List α}
    (h : ∃ event ∈ events, refused validate normalize event = true) :
    rpcTrackEvents validate normalize eventId rows events = none := by
  obtain ⟨event, hmem, hrefused⟩ := h
  unfold rpcTrackEvents parseAnalyticsEventsPayload
  by_cases hsize : events.length = 0 ∨ analyticsBatchMaxSize < events.length
  · rw [if_pos hsize]
  · rw [if_neg hsize]
    by_cases hvalid : events.all validate = true
    · rw [if_pos hvalid]
      have hone := List.all_eq_true.mp hvalid event hmem
      refine InsertAnalyticsEvents_none ⟨event, hmem, ?_⟩
      simpa [refused, hone] using hrefused
    · rw [if_neg hvalid]

/-- A batch of which nothing is refused is stored as a whole. -/
theorem rpcTrackEvents_some {rows : List ι} {events : List α} (hne : events ≠ [])
    (hsize : events.length ≤ analyticsBatchMaxSize)
    (h : ∀ event ∈ events, refused validate normalize event = false) :
    ∃ rows', rpcTrackEvents validate normalize eventId rows events = some rows' ∧
      ∀ id, id ∈ rows' ↔ id ∈ rows ∨ ∃ event ∈ events, eventId event = id := by
  have hlength : events.length ≠ 0 := fun h0 => hne (List.eq_nil_of_length_eq_zero h0)
  have hboth : ∀ event ∈ events, validate event = true ∧ normalize event = true := by
    intro event hmem
    simpa [refused] using h event hmem
  have hvalid : events.all validate = true :=
    List.all_eq_true.mpr fun event hmem => (hboth event hmem).1
  have hparse : parseAnalyticsEventsPayload validate events = some events := by
    unfold parseAnalyticsEventsPayload
    rw [if_neg (by omega), if_pos hvalid]
  unfold rpcTrackEvents
  rw [hparse]
  exact InsertAnalyticsEvents_some fun event hmem => (hboth event hmem).2

end CrownClash.Go
