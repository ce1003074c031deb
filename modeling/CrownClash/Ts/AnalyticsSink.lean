import CrownClash.Lib.Run

/-!
# Client: the queue of analytics events

`AnalyticsSink.ts` collects the events of the page and sends them in batches.  The
code runs in one thread, so that an interleaving is a list of what happens next: an
event comes in, somebody calls `flush`, the batch under way succeeds or fails, or
the promise of a flush that has ended is cleared.

A sink refuses nothing and forgets nothing below its bound: the batches that got
through, the batch in flight and the buffer are the events in the order of their
arrival, and only an overflow leaves a gap (`Sink.step_ordered`, `Sink.step_whole`).
A batch that comes back goes in front of the newer events, and these give way to it
(`Sink.putBack_spec`).

The storage is one that works, under some key; `saved` is what an earlier page has
left there.  `isAnalyticsEvent` tells the well-formed events, and `recent` those of the
last 30 days.
-/

namespace CrownClash.Ts

open Lib

def analyticsBatchMaxSize : ℕ := 50

/-- `flushPromise`: none, one whose batch is under way, or one that has ended and is not
cleared yet. -/
inductive FlushPromise
  | none
  | sending
  | ended
  deriving DecidableEq, Repr

/-- The sink, with the batches that got through and the events that came in, the restored
ones first. -/
structure Sink (α : Type) where
  buffer : List α
  inFlight : List α
  flushPromise : FlushPromise
  storage : List α
  delivered : List (List α)
  arrived : List α
  deriving DecidableEq

/-- What happens to a sink.  `ready` and `again` are the answers of `shouldFlush`, which a flush
asks before it starts and before every batch. -/
inductive SinkEvent (α : Type)
  | incoming (event : α)
  | flush (ready again : Bool)
  | sent (again : Bool)
  | failed
  | cleared
  deriving DecidableEq, Repr

variable {α : Type}

/-- `slice(-n)`, which is the whole array for `n = 0`. -/
def sliceLast (n : ℕ) (items : List α) : List α :=
  if n = 0 then items else items.drop (items.length - n)

/-- `splice(start, n)`: what it leaves. -/
def spliceOut (start n : ℕ) (items : List α) : List α :=
  items.take start ++ items.drop (start + n)

def trimBuffer (maxBuffer preserveHead : ℕ) (buffer : List α) : List α :=
  if maxBuffer < buffer.length then
    let overflow := buffer.length - maxBuffer
    if 0 < preserveHead then spliceOut (max preserveHead maxBuffer) overflow buffer
    else spliceOut 0 overflow buffer
  else buffer

namespace Sink

def construct (maxBuffer : ℕ) (isAnalyticsEvent recent : α → Bool) (saved : List α) : Sink α :=
  let buffer := sliceLast maxBuffer ((saved.filter isAnalyticsEvent).filter recent)
  { buffer := buffer
    inFlight := []
    flushPromise := .none
    storage := saved
    delivered := []
    arrived := buffer }

def persist (maxBuffer : ℕ) (s : Sink α) : Sink α :=
  let remaining := maxBuffer - s.inFlight.length
  { s with storage := s.inFlight ++ if 0 < remaining then sliceLast remaining s.buffer else [] }

def handleEvent (maxBuffer : ℕ) (isAnalyticsEvent : α → Bool) (s : Sink α) (event : α) : Sink α :=
  if isAnalyticsEvent event then
    persist maxBuffer
      { s with
        buffer := trimBuffer maxBuffer 0 (s.buffer ++ [event])
        arrived := s.arrived ++ [event] }
  else s

/-- `flushBufferedEvents` from the head of its loop to the next batch, or to its end. -/
def flushBufferedEvents (maxBuffer : ℕ) (again : Bool) (s : Sink α) : Sink α :=
  if s.buffer ≠ [] ∧ again = true then
    persist maxBuffer
      { s with
        buffer := s.buffer.drop analyticsBatchMaxSize
        inFlight := s.buffer.take analyticsBatchMaxSize
        flushPromise := .sending }
  else { s with flushPromise := .ended }

def flush (maxBuffer : ℕ) (ready again : Bool) (s : Sink α) : Sink α :=
  if s.flushPromise ≠ .none then s
  else if s.buffer = [] ∨ ready = false then s
  else flushBufferedEvents maxBuffer again s

/-- The batch got through: the loop goes on. -/
def succeed (maxBuffer : ℕ) (again : Bool) (s : Sink α) : Sink α :=
  flushBufferedEvents maxBuffer again
    (persist maxBuffer { s with inFlight := [], delivered := s.delivered ++ [s.inFlight] })

/-- The batch comes back: the loop ends. -/
def putBack (maxBuffer : ℕ) (s : Sink α) : Sink α :=
  persist maxBuffer
    { s with
      inFlight := []
      buffer := trimBuffer maxBuffer s.inFlight.length (s.inFlight ++ s.buffer)
      flushPromise := .ended }

/-- One event; a batch ends only while it is under way. -/
def step (maxBuffer : ℕ) (isAnalyticsEvent : α → Bool) (s : Sink α) : SinkEvent α → Sink α
  | .incoming event => handleEvent maxBuffer isAnalyticsEvent s event
  | .flush ready again => flush maxBuffer ready again s
  | .sent again => if s.flushPromise = .sending then succeed maxBuffer again s else s
  | .failed => if s.flushPromise = .sending then putBack maxBuffer s else s
  | .cleared => if s.flushPromise = .ended then { s with flushPromise := .none } else s

/-- Everything the sink has taken, in its order: delivered, in flight, waiting. -/
def events (s : Sink α) : List α := s.delivered.flatten ++ (s.inFlight ++ s.buffer)

/-- The most events that the sink holds during an event, before a buffer that is too long
is cut. -/
def peak (isAnalyticsEvent : α → Bool) (s : Sink α) : SinkEvent α → ℕ
  | .incoming event =>
    s.inFlight.length + s.buffer.length + if isAnalyticsEvent event then 1 else 0
  | _ => s.inFlight.length + s.buffer.length

end Sink

/-! ### Cutting the buffer -/

theorem length_sliceLast {n : ℕ} (hn : 0 < n) (items : List α) :
    (sliceLast n items).length ≤ n := by
  unfold sliceLast
  rw [if_neg (by omega), List.length_drop]
  omega

theorem sliceLast_of_le {n : ℕ} {items : List α} (h : items.length ≤ n) :
    sliceLast n items = items := by
  unfold sliceLast
  split
  · rfl
  · have hnone : items.length - n = 0 := by omega
    rw [hnone, List.drop_zero]

theorem trimBuffer_of_le {maxBuffer preserveHead : ℕ} {buffer : List α}
    (h : buffer.length ≤ maxBuffer) : trimBuffer maxBuffer preserveHead buffer = buffer := by
  unfold trimBuffer
  exact if_neg (by omega)

/-- With no head to keep, the oldest events go. -/
theorem trimBuffer_zero (maxBuffer : ℕ) (buffer : List α) :
    trimBuffer maxBuffer 0 buffer = buffer.drop (buffer.length - maxBuffer) := by
  unfold trimBuffer spliceOut
  split
  · simp
  · have hnone : buffer.length - maxBuffer = 0 := by omega
    rw [hnone, List.drop_zero]

/-- With a head that fits, the newest events go. -/
theorem trimBuffer_head {maxBuffer preserveHead : ℕ} (hpos : 0 < preserveHead)
    (h : preserveHead ≤ maxBuffer) (buffer : List α) :
    trimBuffer maxBuffer preserveHead buffer = buffer.take maxBuffer := by
  unfold trimBuffer spliceOut
  split
  · have hend : maxBuffer + (buffer.length - maxBuffer) = buffer.length := by omega
    simp [max_eq_right h, hend]
  · exact (List.take_of_length_le (by omega)).symm

namespace Sink

variable {maxBuffer : ℕ} {isAnalyticsEvent recent : α → Bool} {saved : List α} {s : Sink α}

/-! ### What holds in every state -/

/-- Nothing is duplicated or out of order, and the bound is kept. -/
structure Ok (maxBuffer : ℕ) (s : Sink α) : Prop where
  ordered : s.events.Sublist s.arrived
  bounded : s.buffer.length ≤ maxBuffer
  batch : s.inFlight.length ≤ maxBuffer
  landed : s.flushPromise ≠ .sending → s.inFlight = []

theorem Ok.persist (h : s.Ok maxBuffer) : (s.persist maxBuffer).Ok maxBuffer where
  ordered := h.ordered
  bounded := h.bounded
  batch := h.batch
  landed := h.landed

theorem Ok.handleEvent (h : s.Ok maxBuffer) (event : α) :
    (s.handleEvent maxBuffer isAnalyticsEvent event).Ok maxBuffer := by
  unfold Sink.handleEvent
  split
  · refine Ok.persist ⟨?_, ?_, h.batch, h.landed⟩
    · show (s.delivered.flatten ++ (s.inFlight ++ trimBuffer maxBuffer 0
        (s.buffer ++ [event]))).Sublist (s.arrived ++ [event])
      have hold : s.delivered.flatten ++ (s.inFlight ++ (s.buffer ++ [event]))
          = s.events ++ [event] := by
        simp [events]
      have hall : (s.events ++ [event]).Sublist (s.arrived ++ [event]) :=
        h.ordered.append (List.Sublist.refl _)
      rw [← hold] at hall
      refine List.Sublist.trans ?_ hall
      rw [trimBuffer_zero]
      apply List.Sublist.append (List.Sublist.refl _)
      apply List.Sublist.append (List.Sublist.refl _)
      exact List.drop_sublist _ _
    · show (trimBuffer maxBuffer 0 (s.buffer ++ [event])).length ≤ maxBuffer
      rw [trimBuffer_zero, List.length_drop]
      omega
  · exact h

/-- The loop between two batches. -/
theorem Ok.flushBufferedEvents (h : s.Ok maxBuffer) (hnone : s.inFlight = []) (again : Bool) :
    (s.flushBufferedEvents maxBuffer again).Ok maxBuffer := by
  unfold Sink.flushBufferedEvents
  split
  · refine Ok.persist ⟨?_, ?_, ?_, fun hf => absurd rfl hf⟩
    · show (s.delivered.flatten ++ (s.buffer.take analyticsBatchMaxSize
        ++ s.buffer.drop analyticsBatchMaxSize)).Sublist s.arrived
      rw [List.take_append_drop]
      have hordered := h.ordered
      rw [events, hnone, List.nil_append] at hordered
      exact hordered
    · show (s.buffer.drop analyticsBatchMaxSize).length ≤ maxBuffer
      have := h.bounded
      rw [List.length_drop]
      omega
    · show (s.buffer.take analyticsBatchMaxSize).length ≤ maxBuffer
      have := h.bounded
      rw [List.length_take]
      omega
  · exact ⟨h.ordered, h.bounded, h.batch, fun _ => hnone⟩

theorem Ok.flush (h : s.Ok maxBuffer) (ready again : Bool) :
    (s.flush maxBuffer ready again).Ok maxBuffer := by
  unfold Sink.flush
  split
  · exact h
  · next hnone =>
    split
    · exact h
    · refine h.flushBufferedEvents (h.landed ?_) again
      rw [not_ne_iff.mp hnone]
      decide

theorem Ok.succeed (h : s.Ok maxBuffer) (again : Bool) :
    (s.succeed maxBuffer again).Ok maxBuffer := by
  have hordered : ((s.delivered ++ [s.inFlight]).flatten ++ ([] ++ s.buffer)).Sublist s.arrived := by
    have hbefore := h.ordered
    rw [events] at hbefore
    simpa using hbefore
  have hdone : Ok maxBuffer
      { s with
        inFlight := []
        delivered := s.delivered ++ [s.inFlight] } :=
    ⟨hordered, h.bounded, Nat.zero_le _, fun _ => rfl⟩
  exact hdone.persist.flushBufferedEvents rfl again

/-- **A batch that comes back** stands in front of the newer events, and these are cut at the
end. -/
theorem putBack_spec (h : s.Ok maxBuffer) :
    (s.putBack maxBuffer).buffer = s.inFlight ++ s.buffer.take (maxBuffer - s.inFlight.length) := by
  have hbatch := h.batch
  show trimBuffer maxBuffer s.inFlight.length (s.inFlight ++ s.buffer) = _
  by_cases hpos : 0 < s.inFlight.length
  · rw [trimBuffer_head hpos hbatch, List.take_append, List.take_of_length_le hbatch]
  · have hnone : s.inFlight = [] := List.eq_nil_of_length_eq_zero (by omega)
    rw [hnone, List.length_nil, List.nil_append, List.nil_append, trimBuffer_of_le h.bounded]
    exact (List.take_of_length_le h.bounded).symm

theorem Ok.putBack (h : s.Ok maxBuffer) : (s.putBack maxBuffer).Ok maxBuffer := by
  have hspec := putBack_spec h
  have hbatch := h.batch
  refine Ok.persist ⟨?_, ?_, Nat.zero_le _, fun _ => rfl⟩
  · show (s.delivered.flatten ++ (s.putBack maxBuffer).buffer).Sublist s.arrived
    rw [hspec]
    refine List.Sublist.trans ?_ h.ordered
    apply List.Sublist.append (List.Sublist.refl _)
    apply List.Sublist.append (List.Sublist.refl _)
    exact List.take_sublist _ _
  · show (s.putBack maxBuffer).buffer.length ≤ maxBuffer
    rw [hspec, List.length_append, List.length_take]
    omega

theorem Ok.step (h : s.Ok maxBuffer) (e : SinkEvent α) :
    (s.step maxBuffer isAnalyticsEvent e).Ok maxBuffer := by
  cases e with
  | incoming event => exact h.handleEvent event
  | flush ready again => exact h.flush ready again
  | sent again =>
    show (if s.flushPromise = .sending then s.succeed maxBuffer again else s).Ok maxBuffer
    split
    · exact h.succeed again
    · exact h
  | failed =>
    show (if s.flushPromise = .sending then s.putBack maxBuffer else s).Ok maxBuffer
    split
    · exact h.putBack
    · exact h
  | cleared =>
    show (if s.flushPromise = .ended then { s with flushPromise := .none } else s).Ok maxBuffer
    split
    · next hended =>
      refine ⟨h.ordered, h.bounded, h.batch, fun _ => h.landed ?_⟩
      rw [hended]
      decide
    · exact h

/-! ### The loop of a flush -/

theorem flushBufferedEvents_more (h : s.buffer ≠ []) :
    (s.flushBufferedEvents maxBuffer true).flushPromise = .sending ∧
      (s.flushBufferedEvents maxBuffer true).inFlight = s.buffer.take analyticsBatchMaxSize ∧
      (s.flushBufferedEvents maxBuffer true).buffer = s.buffer.drop analyticsBatchMaxSize := by
  unfold Sink.flushBufferedEvents
  rw [if_pos ⟨h, rfl⟩]
  exact ⟨rfl, rfl, rfl⟩

theorem flushBufferedEvents_done (h : s.buffer = []) (again : Bool) :
    (s.flushBufferedEvents maxBuffer again).flushPromise = .ended ∧
      (s.flushBufferedEvents maxBuffer again).inFlight = s.inFlight ∧
      (s.flushBufferedEvents maxBuffer again).buffer = [] := by
  unfold Sink.flushBufferedEvents
  rw [if_neg fun hmore => hmore.1 h]
  exact ⟨rfl, rfl, h⟩

/-! ### What holds as long as there is room -/

/-- Nothing came in or went out since the page was opened. -/
def Untouched (maxBuffer : ℕ) (isAnalyticsEvent recent : α → Bool) (saved : List α)
    (s : Sink α) : Prop :=
  s.storage = saved ∧ s.delivered = [] ∧ s.inFlight = [] ∧
    s.buffer = (construct maxBuffer isAnalyticsEvent recent saved).buffer

/-- Nothing is missing, and what is stored is what a new page needs. -/
structure Whole (maxBuffer : ℕ) (isAnalyticsEvent recent : α → Bool) (saved : List α)
    (s : Sink α) : Prop where
  all : s.events = s.arrived
  room : s.inFlight.length + s.buffer.length ≤ maxBuffer
  stored : s.storage = s.inFlight ++ s.buffer ∨
    s.Untouched maxBuffer isAnalyticsEvent recent saved

/-- With room for both, the storage holds the batch in flight and the whole buffer. -/
theorem persist_whole (hall : s.events = s.arrived)
    (hroom : s.inFlight.length + s.buffer.length ≤ maxBuffer) :
    (s.persist maxBuffer).Whole maxBuffer isAnalyticsEvent recent saved where
  all := hall
  room := hroom
  stored := by
    left
    show s.inFlight ++ (if 0 < maxBuffer - s.inFlight.length
      then sliceLast (maxBuffer - s.inFlight.length) s.buffer else []) = s.inFlight ++ s.buffer
    split
    · rw [sliceLast_of_le (by omega)]
    · have hnone : s.buffer = [] := List.eq_nil_of_length_eq_zero (by omega)
      rw [hnone]

theorem Whole.handleEvent (h : s.Whole maxBuffer isAnalyticsEvent recent saved) {event : α}
    (hpeak : s.peak isAnalyticsEvent (.incoming event) ≤ maxBuffer) :
    (s.handleEvent maxBuffer isAnalyticsEvent event).Whole maxBuffer isAnalyticsEvent recent
      saved := by
  unfold Sink.handleEvent
  split
  · next hvalid =>
    rw [peak, if_pos hvalid] at hpeak
    have hfits : (s.buffer ++ [event]).length ≤ maxBuffer := by
      rw [List.length_append, List.length_singleton]
      omega
    rw [trimBuffer_of_le hfits]
    apply persist_whole
    · show s.delivered.flatten ++ (s.inFlight ++ (s.buffer ++ [event])) = s.arrived ++ [event]
      rw [← h.all]
      simp [events]
    · show s.inFlight.length + (s.buffer ++ [event]).length ≤ maxBuffer
      rw [List.length_append, List.length_singleton]
      omega
  · exact h

theorem Whole.flushBufferedEvents (h : s.Whole maxBuffer isAnalyticsEvent recent saved)
    (hnone : s.inFlight = []) (again : Bool) :
    (s.flushBufferedEvents maxBuffer again).Whole maxBuffer isAnalyticsEvent recent saved := by
  unfold Sink.flushBufferedEvents
  split
  · apply persist_whole
    · show s.delivered.flatten ++ (s.buffer.take analyticsBatchMaxSize
        ++ s.buffer.drop analyticsBatchMaxSize) = s.arrived
      have hall := h.all
      rw [events, hnone, List.nil_append] at hall
      rw [List.take_append_drop, hall]
    · show (s.buffer.take analyticsBatchMaxSize).length
        + (s.buffer.drop analyticsBatchMaxSize).length ≤ maxBuffer
      have := h.room
      rw [List.length_take, List.length_drop]
      omega
  · exact ⟨h.all, h.room, h.stored⟩

theorem Whole.flush (h : s.Whole maxBuffer isAnalyticsEvent recent saved) (hok : s.Ok maxBuffer)
    (ready again : Bool) :
    (s.flush maxBuffer ready again).Whole maxBuffer isAnalyticsEvent recent saved := by
  unfold Sink.flush
  split
  · exact h
  · next hnone =>
    split
    · exact h
    · refine h.flushBufferedEvents (hok.landed ?_) again
      rw [not_ne_iff.mp hnone]
      decide

theorem Whole.succeed (h : s.Whole maxBuffer isAnalyticsEvent recent saved) (again : Bool) :
    (s.succeed maxBuffer again).Whole maxBuffer isAnalyticsEvent recent saved := by
  have hall : (s.delivered ++ [s.inFlight]).flatten ++ ([] ++ s.buffer) = s.arrived := by
    rw [← h.all]
    simp [events]
  have hroom : 0 + s.buffer.length ≤ maxBuffer := by
    have := h.room
    omega
  have hdone : Whole maxBuffer isAnalyticsEvent recent saved
      (persist maxBuffer
        { s with
          inFlight := []
          delivered := s.delivered ++ [s.inFlight] }) := persist_whole hall hroom
  exact hdone.flushBufferedEvents rfl again

theorem Whole.putBack (h : s.Whole maxBuffer isAnalyticsEvent recent saved)
    (hok : s.Ok maxBuffer) :
    (s.putBack maxBuffer).Whole maxBuffer isAnalyticsEvent recent saved := by
  have hroom := h.room
  have hspec := putBack_spec hok
  rw [List.take_of_length_le (by omega)] at hspec
  apply persist_whole
  · show s.delivered.flatten ++ (s.putBack maxBuffer).buffer = s.arrived
    rw [hspec, ← h.all, events]
  · show 0 + (s.putBack maxBuffer).buffer.length ≤ maxBuffer
    rw [hspec, List.length_append]
    omega

theorem Whole.step (h : s.Whole maxBuffer isAnalyticsEvent recent saved) (hok : s.Ok maxBuffer)
    {e : SinkEvent α} (hpeak : s.peak isAnalyticsEvent e ≤ maxBuffer) :
    (s.step maxBuffer isAnalyticsEvent e).Whole maxBuffer isAnalyticsEvent recent saved := by
  cases e with
  | incoming event => exact h.handleEvent hpeak
  | flush ready again => exact h.flush hok ready again
  | sent again =>
    show (if s.flushPromise = .sending then s.succeed maxBuffer again else s).Whole maxBuffer
      isAnalyticsEvent recent saved
    split
    · exact h.succeed again
    · exact h
  | failed =>
    show (if s.flushPromise = .sending then s.putBack maxBuffer else s).Whole maxBuffer
      isAnalyticsEvent recent saved
    split
    · exact h.putBack hok
    · exact h
  | cleared =>
    show (if s.flushPromise = .ended then { s with flushPromise := .none } else s).Whole maxBuffer
      isAnalyticsEvent recent saved
    split
    · exact ⟨h.all, h.room, h.stored⟩
    · exact h

/-! ### Runs -/

theorem Ok.run (happened : List (SinkEvent α)) (h : s.Ok maxBuffer) :
    (happened.foldl (Sink.step maxBuffer isAnalyticsEvent) s).Ok maxBuffer := by
  induction happened generalizing s with
  | nil => exact h
  | cons e happened ih => exact ih (h.step e)

theorem Whole.run : ∀ {happened : List (SinkEvent α)} {s : Sink α}, s.Ok maxBuffer →
    s.Whole maxBuffer isAnalyticsEvent recent saved →
    EachStep (Sink.step maxBuffer isAnalyticsEvent)
      (fun s e => s.peak isAnalyticsEvent e ≤ maxBuffer) s happened →
    (happened.foldl (Sink.step maxBuffer isAnalyticsEvent) s).Whole maxBuffer isAnalyticsEvent
      recent saved := by
  intro happened
  induction happened with
  | nil =>
    intro s _ h _
    exact h
  | cons e happened ih =>
    intro s hok h hpeak
    obtain ⟨hfirst, hrest⟩ := eachStep_cons.mp hpeak
    exact ih (hok.step e) (h.step hok hfirst) hrest

end Sink

end CrownClash.Ts
