import CrownClash.Go.Analytics
import CrownClash.Ts.AnalyticsSink
import Mathlib.Data.List.Infix

/-!
# Client and server: the analytics queue and the batches it sends

The server answers a batch with a yes or a no, and the sink puts a batch that was refused
back where it was.  So the next flush sends the same batch again: of a buffer whose first
refused event stands at place `i`, the chunks before the one with `i` are stored, and
nothing behind them ever is (`flush_spec`, `refused_event_strands`).

A flush is run to its end, with the server's answer to every batch, before the next one.
-/

namespace CrownClash.Parity

open Ts

variable {α ι : Type} [DecidableEq ι]

/-- The sink and the rows of the player, `eventId` by `eventId`. -/
structure Exchange (α ι : Type) where
  sink : Sink α
  rows : List ι

/-- The server and the sink, as far as the queue depends on them. -/
structure Service (α ι : Type) where
  maxBuffer : ℕ
  isAnalyticsEvent : α → Bool
  validate : α → Bool
  normalize : α → Bool
  eventId : α → ι

namespace Service

variable (service : Service α ι)

/-- The server refuses the event in every batch. -/
def refuses (event : α) : Bool := Go.refused service.validate service.normalize event

def sinkStep (x : Exchange α ι) (e : SinkEvent α) : Sink α :=
  x.sink.step service.maxBuffer service.isAnalyticsEvent e

/-- The answer to the batch in flight: the sink goes on, or takes the batch back. -/
def answer (x : Exchange α ι) : Exchange α ι :=
  match Go.rpcTrackEvents service.validate service.normalize service.eventId x.rows
      x.sink.inFlight with
  | some rows => ⟨service.sinkStep x (.sent true), rows⟩
  | none => ⟨service.sinkStep x .failed, x.rows⟩

/-- Answers as long as a batch is under way; the fuel is the number of events. -/
def answers : ℕ → Exchange α ι → Exchange α ι
  | 0, x => x
  | fuel + 1, x =>
    if x.sink.flushPromise = .sending then answers fuel (service.answer x) else x

/-- One call of `flush` with a session at hand, up to the end of its promise. -/
def flush (x : Exchange α ι) : Exchange α ι :=
  let started : Exchange α ι := ⟨service.sinkStep x (.flush true true), x.rows⟩
  let ended := service.answers (x.sink.buffer.length + 1) started
  ⟨service.sinkStep ended .cleared, ended.rows⟩

/-- Where the chunk of the first refused event starts, which is the end if there is none. -/
def sendable (buffer : List α) : ℕ :=
  if buffer.any service.refuses then
    buffer.findIdx service.refuses / analyticsBatchMaxSize * analyticsBatchMaxSize
  else buffer.length

def sent (buffer : List α) : List α := buffer.take (service.sendable buffer)

def stranded (buffer : List α) : List α := buffer.drop (service.sendable buffer)

variable {service} {buffer : List α} {x : Exchange α ι}

/-! ### The chunks of a buffer -/

theorem findIdx_take_drop {p : α → Bool} (n : ℕ) (items : List α) :
    items.findIdx p = if (items.take n).findIdx p < (items.take n).length
      then (items.take n).findIdx p
      else (items.drop n).findIdx p + (items.take n).length := by
  rw [← List.findIdx_append, List.take_append_drop]

omit [DecidableEq ι] in
theorem sendable_of_first
    (h : ∃ event ∈ buffer.take analyticsBatchMaxSize, service.refuses event = true) :
    service.sendable buffer = 0 := by
  have hindex : (buffer.take analyticsBatchMaxSize).findIdx service.refuses
      < (buffer.take analyticsBatchMaxSize).length := List.findIdx_lt_length_of_exists h
  have hsplit := findIdx_take_drop (p := service.refuses) analyticsBatchMaxSize buffer
  rw [if_pos hindex] at hsplit
  rw [List.length_take] at hindex
  obtain ⟨event, hmem, hrefused⟩ := h
  have hany : buffer.any service.refuses = true :=
    List.any_eq_true.mpr ⟨event, List.mem_of_mem_take hmem, hrefused⟩
  have hfirst : buffer.findIdx service.refuses < analyticsBatchMaxSize := by omega
  unfold sendable
  rw [if_pos hany, Nat.div_eq_of_lt hfirst, Nat.zero_mul]

omit [DecidableEq ι] in
theorem sendable_of_rest (hlong : analyticsBatchMaxSize ≤ buffer.length)
    (h : ∀ event ∈ buffer.take analyticsBatchMaxSize, service.refuses event = false) :
    service.sendable buffer
      = analyticsBatchMaxSize + service.sendable (buffer.drop analyticsBatchMaxSize) := by
  have hlength : (buffer.take analyticsBatchMaxSize).length = analyticsBatchMaxSize := by
    rw [List.length_take]
    omega
  have hindex : (buffer.take analyticsBatchMaxSize).findIdx service.refuses
      = (buffer.take analyticsBatchMaxSize).length := List.findIdx_eq_length_of_false h
  have hsplit := findIdx_take_drop (p := service.refuses) analyticsBatchMaxSize buffer
  rw [if_neg (by omega), hlength] at hsplit
  have hany : buffer.any service.refuses
      = (buffer.drop analyticsBatchMaxSize).any service.refuses := by
    have hnone : (buffer.take analyticsBatchMaxSize).any service.refuses = false := by
      rw [List.any_eq_false]
      intro event hmem hrefused
      rw [h event hmem] at hrefused
      cases hrefused
    conv => lhs; rw [← List.take_append_drop analyticsBatchMaxSize buffer]
    rw [List.any_append, hnone, Bool.false_or]
  unfold sendable
  rw [hany, hsplit, List.length_drop]
  split
  · rw [Nat.add_div_right _ (by decide), Nat.succ_mul, Nat.add_comm]
  · omega

omit [DecidableEq ι] in
theorem sendable_of_last (hshort : buffer.length ≤ analyticsBatchMaxSize)
    (h : ∀ event ∈ buffer.take analyticsBatchMaxSize, service.refuses event = false) :
    service.sendable buffer = buffer.length := by
  have hany : buffer.any service.refuses = false := by
    rw [List.any_eq_false]
    intro event hmem hrefused
    rw [List.take_of_length_le hshort] at h
    rw [h event hmem] at hrefused
    cases hrefused
  unfold sendable
  rw [hany]
  rfl

omit [DecidableEq ι] in
/-- What is stranded starts with a chunk that is refused, so that it stays where it is. -/
theorem sendable_stranded (buffer : List α) :
    service.sendable (service.stranded buffer) = 0 := by
  cases hany : buffer.any service.refuses with
  | false =>
    have hend : service.stranded buffer = [] := by
      unfold stranded sendable
      rw [hany]
      exact List.drop_length
    rw [hend]
    rfl
  | true =>
    have hstart : service.sendable buffer
        = buffer.findIdx service.refuses / analyticsBatchMaxSize * analyticsBatchMaxSize :=
      if_pos hany
    have hbefore := Nat.div_mul_le_self (buffer.findIdx service.refuses) analyticsBatchMaxSize
    have hchunk := Nat.lt_div_mul_add (a := buffer.findIdx service.refuses)
      (b := analyticsBatchMaxSize) (by decide)
    have hlt : buffer.findIdx service.refuses < buffer.length := by
      obtain ⟨event, hmem, hrefused⟩ := List.any_eq_true.mp hany
      exact List.findIdx_lt_length_of_exists ⟨event, hmem, hrefused⟩
    apply sendable_of_first
    refine ⟨buffer[buffer.findIdx service.refuses], ?_, List.findIdx_getElem⟩
    rw [List.mem_take_iff_getElem]
    refine ⟨buffer.findIdx service.refuses - service.sendable buffer, ?_, ?_⟩
    · rw [stranded, List.length_drop]
      omega
    · have hback : service.sendable buffer
          + (buffer.findIdx service.refuses - service.sendable buffer)
          = buffer.findIdx service.refuses := by omega
      simp only [stranded, List.getElem_drop, hback]

/-! ### A flush -/

/-- A sink between two flushes. -/
structure Idle (service : Service α ι) (x : Exchange α ι) : Prop where
  promise : x.sink.flushPromise = .none
  landed : x.sink.inFlight = []
  bounded : x.sink.buffer.length ≤ service.maxBuffer

/-- A batch of the buffer is under way. -/
structure Sending (service : Service α ι) (buffer : List α) (x : Exchange α ι) : Prop where
  promise : x.sink.flushPromise = .sending
  batch : x.sink.inFlight = buffer.take analyticsBatchMaxSize
  rest : x.sink.buffer = buffer.drop analyticsBatchMaxSize
  waiting : buffer ≠ []
  bounded : buffer.length ≤ service.maxBuffer

/-- The flush is over, with the buffer and the rows it has left. -/
structure Ended (service : Service α ι) (buffer : List α) (rows : List ι) (x : Exchange α ι) :
    Prop where
  promise : x.sink.flushPromise = .ended
  landed : x.sink.inFlight = []
  rest : x.sink.buffer = service.stranded buffer
  stored : ∀ id, id ∈ x.rows ↔ id ∈ rows ∨ ∃ event ∈ service.sent buffer, service.eventId event = id

theorem answers_of_ended (h : x.sink.flushPromise = .ended) (fuel : ℕ) :
    service.answers fuel x = x := by
  cases fuel with
  | zero => rfl
  | succ fuel =>
    unfold answers
    rw [h]
    rfl

/-- The server refuses the chunk: everything is where it was. -/
theorem Sending.refused (h : Sending service buffer x)
    (hfirst : ∃ event ∈ buffer.take analyticsBatchMaxSize, service.refuses event = true) :
    Ended service buffer x.rows (service.answer x) := by
  have hanswer : service.answer x = ⟨service.sinkStep x .failed, x.rows⟩ := by
    unfold answer
    rw [h.batch, Go.rpcTrackEvents_none hfirst]
  have hfailed : service.sinkStep x .failed = x.sink.putBack service.maxBuffer :=
    if_pos h.promise
  have hnothing := sendable_of_first hfirst
  rw [hanswer, hfailed]
  refine ⟨rfl, rfl, ?_, fun id => ?_⟩
  · show trimBuffer service.maxBuffer x.sink.inFlight.length (x.sink.inFlight ++ x.sink.buffer)
      = service.stranded buffer
    rw [h.batch, h.rest, List.take_append_drop, trimBuffer_of_le h.bounded, stranded, hnothing,
      List.drop_zero]
  · rw [sent, hnothing]
    simp

theorem Sending.accepted (h : Sending service buffer x)
    (hfirst : ∀ event ∈ buffer.take analyticsBatchMaxSize, service.refuses event = false) :
    ∃ rows, service.answer x = ⟨x.sink.succeed service.maxBuffer true, rows⟩ ∧
      ∀ id, id ∈ rows ↔ id ∈ x.rows ∨
        ∃ event ∈ buffer.take analyticsBatchMaxSize, service.eventId event = id := by
  have hne : buffer.take analyticsBatchMaxSize ≠ [] := by
    rw [ne_eq, List.take_eq_nil_iff, not_or]
    exact ⟨by decide, h.waiting⟩
  have hsize : (buffer.take analyticsBatchMaxSize).length ≤ Go.analyticsBatchMaxSize :=
    List.length_take_le _ _
  obtain ⟨rows, hstore, hmem⟩ := @Go.rpcTrackEvents_some α ι _ service.validate
    service.normalize service.eventId x.rows _ hne hsize hfirst
  refine ⟨rows, ?_, hmem⟩
  have hsent : service.sinkStep x (.sent true) = x.sink.succeed service.maxBuffer true :=
    if_pos h.promise
  unfold answer
  rw [h.batch, hstore, hsent]

theorem Sending.last (h : Sending service buffer x)
    (hfirst : ∀ event ∈ buffer.take analyticsBatchMaxSize, service.refuses event = false)
    (hlast : buffer.length ≤ analyticsBatchMaxSize) :
    Ended service buffer x.rows (service.answer x) := by
  obtain ⟨rows, hanswer, hmem⟩ := h.accepted hfirst
  have hall := sendable_of_last hlast hfirst
  have hempty : x.sink.buffer = [] := by
    rw [h.rest]
    exact List.drop_eq_nil_of_le hlast
  obtain ⟨hpromise, hlanded, hrest⟩ :
      (x.sink.succeed service.maxBuffer true).flushPromise = .ended ∧
        (x.sink.succeed service.maxBuffer true).inFlight = [] ∧
        (x.sink.succeed service.maxBuffer true).buffer = [] := by
    refine Sink.flushBufferedEvents_done ?_ true
    exact hempty
  rw [hanswer]
  refine ⟨hpromise, hlanded, ?_, fun id => ?_⟩
  · rw [hrest, stranded, hall, List.drop_length]
  · rw [sent, hall, List.take_length]
    rw [List.take_of_length_le hlast] at hmem
    exact hmem id

theorem Sending.next (h : Sending service buffer x)
    (hfirst : ∀ event ∈ buffer.take analyticsBatchMaxSize, service.refuses event = false)
    (hmore : analyticsBatchMaxSize < buffer.length) :
    Sending service (buffer.drop analyticsBatchMaxSize) (service.answer x) ∧
      ∀ id, id ∈ (service.answer x).rows ↔ id ∈ x.rows ∨
        ∃ event ∈ buffer.take analyticsBatchMaxSize, service.eventId event = id := by
  obtain ⟨rows, hanswer, hmem⟩ := h.accepted hfirst
  have hwaiting : buffer.drop analyticsBatchMaxSize ≠ [] := by
    rw [ne_eq, List.drop_eq_nil_iff]
    omega
  have hbuffer : x.sink.buffer ≠ [] := by
    rw [h.rest]
    exact hwaiting
  obtain ⟨hpromise, hbatch, hrest⟩ :
      (x.sink.succeed service.maxBuffer true).flushPromise = .sending ∧
        (x.sink.succeed service.maxBuffer true).inFlight
          = x.sink.buffer.take analyticsBatchMaxSize ∧
        (x.sink.succeed service.maxBuffer true).buffer
          = x.sink.buffer.drop analyticsBatchMaxSize :=
    Sink.flushBufferedEvents_more hbuffer
  rw [h.rest] at hbatch hrest
  rw [hanswer]
  refine ⟨⟨hpromise, hbatch, hrest, hwaiting, ?_⟩, hmem⟩
  have := h.bounded
  rw [List.length_drop]
  omega

/-- **The answers of a flush**, by induction on the chunks. -/
theorem answers_spec : ∀ {fuel : ℕ} {buffer : List α} {x : Exchange α ι},
    Sending service buffer x → buffer.length ≤ fuel →
      Ended service buffer x.rows (service.answers fuel x) := by
  intro fuel
  induction fuel with
  | zero =>
    intro buffer x h hfuel
    exact absurd (List.eq_nil_of_length_eq_zero (by omega)) h.waiting
  | succ fuel ih =>
    intro buffer x h hfuel
    have hround : service.answers (fuel + 1) x = service.answers fuel (service.answer x) :=
      if_pos h.promise
    rw [hround]
    by_cases hbad : ∃ event ∈ buffer.take analyticsBatchMaxSize, service.refuses event = true
    · have hended := h.refused hbad
      rw [answers_of_ended hended.promise]
      exact hended
    · have hfirst : ∀ event ∈ buffer.take analyticsBatchMaxSize,
          service.refuses event = false := by
        intro event hmem
        exact Bool.eq_false_iff.mpr fun hrefused => hbad ⟨event, hmem, hrefused⟩
      by_cases hmore : analyticsBatchMaxSize < buffer.length
      · obtain ⟨hnext, hmem⟩ := h.next hfirst hmore
        have hshorter : (buffer.drop analyticsBatchMaxSize).length ≤ fuel := by
          have : 0 < analyticsBatchMaxSize := by decide
          rw [List.length_drop]
          omega
        have hrest := ih hnext hshorter
        have hsendable := sendable_of_rest hmore.le hfirst
        refine ⟨hrest.promise, hrest.landed, ?_, fun id => ?_⟩
        · rw [hrest.rest, stranded, stranded, hsendable, List.drop_drop]
        · rw [hrest.stored, hmem, sent, sent, hsendable, List.take_add]
          simp only [List.mem_append, or_and_right, exists_or, or_assoc]
      · have hended := h.last hfirst (by omega)
        rw [answers_of_ended hended.promise]
        exact hended

theorem flush_empty (h : Idle service x) (hbuffer : x.sink.buffer = []) :
    service.flush x = x := by
  have hstart : service.sinkStep x (.flush true true) = x.sink := by
    show x.sink.flush service.maxBuffer true true = x.sink
    unfold Sink.flush
    rw [if_neg (not_ne_iff.mpr h.promise), if_pos (Or.inl hbuffer)]
  have hanswers : service.answers (x.sink.buffer.length + 1) x = x := by
    unfold answers
    rw [h.promise]
    rfl
  have hcleared : service.sinkStep x .cleared = x.sink := by
    show (if x.sink.flushPromise = .ended then _ else x.sink) = x.sink
    rw [h.promise]
    rfl
  show (⟨service.sinkStep (service.answers (x.sink.buffer.length + 1)
      ⟨service.sinkStep x (.flush true true), x.rows⟩) .cleared,
    (service.answers (x.sink.buffer.length + 1)
      ⟨service.sinkStep x (.flush true true), x.rows⟩).rows⟩ : Exchange α ι) = x
  rw [hstart, hanswers, hcleared]

theorem flush_sends (h : Idle service x) (hbuffer : x.sink.buffer ≠ []) :
    Ended service x.sink.buffer x.rows (service.answers (x.sink.buffer.length + 1)
      ⟨service.sinkStep x (.flush true true), x.rows⟩) := by
  have hstart : service.sinkStep x (.flush true true)
      = x.sink.flushBufferedEvents service.maxBuffer true := by
    show x.sink.flush service.maxBuffer true true = _
    unfold Sink.flush
    rw [if_neg (not_ne_iff.mpr h.promise), if_neg (by simpa using hbuffer)]
  obtain ⟨hpromise, hbatch, hrest⟩ :=
    @Sink.flushBufferedEvents_more α service.maxBuffer x.sink hbuffer
  have hsending : Sending service x.sink.buffer
      ⟨x.sink.flushBufferedEvents service.maxBuffer true, x.rows⟩ :=
    ⟨hpromise, hbatch, hrest, hbuffer, h.bounded⟩
  rw [hstart]
  exact answers_spec hsending (Nat.le_succ _)

/-- **What a flush does**: the chunks before the first refused event are stored, the rest
stays in the buffer. -/
theorem flush_spec (h : Idle service x) :
    Idle service (service.flush x) ∧
      (service.flush x).sink.buffer = service.stranded x.sink.buffer ∧
      ∀ id, id ∈ (service.flush x).rows ↔ id ∈ x.rows ∨
        ∃ event ∈ service.sent x.sink.buffer, service.eventId event = id := by
  by_cases hbuffer : x.sink.buffer = []
  · rw [flush_empty h hbuffer, hbuffer]
    exact ⟨h, rfl, fun id => by simp [sent]⟩
  · have he := flush_sends h hbuffer
    generalize hend : service.answers (x.sink.buffer.length + 1)
      ⟨service.sinkStep x (.flush true true), x.rows⟩ = ended at he
    have hflush : service.flush x = ⟨service.sinkStep ended .cleared, ended.rows⟩ := by
      rw [← hend]
      rfl
    have hcleared : service.sinkStep ended .cleared = { ended.sink with flushPromise := .none } :=
      if_pos he.promise
    rw [hflush, hcleared]
    refine ⟨⟨rfl, he.landed, ?_⟩, he.rest, he.stored⟩
    have := h.bounded
    show ended.sink.buffer.length ≤ service.maxBuffer
    rw [he.rest, stranded, List.length_drop]
    omega

/-- The first flush stores what can be stored, and no later one stores more. -/
theorem flushes_spec (h : Idle service x) (n : ℕ) :
    Idle service (service.flush^[n + 1] x) ∧
      (service.flush^[n + 1] x).sink.buffer = service.stranded x.sink.buffer ∧
      ∀ id, id ∈ (service.flush^[n + 1] x).rows ↔ id ∈ x.rows ∨
        ∃ event ∈ service.sent x.sink.buffer, service.eventId event = id := by
  induction n with
  | zero => exact flush_spec h
  | succ n ih =>
    obtain ⟨hidle, hbuffer, hrows⟩ := ih
    obtain ⟨hidle', hbuffer', hrows'⟩ := flush_spec hidle
    have hstuck : service.sendable (service.stranded x.sink.buffer) = 0 :=
      sendable_stranded x.sink.buffer
    rw [Function.iterate_succ_apply']
    refine ⟨hidle', ?_, fun id => ?_⟩
    · rw [hbuffer', hbuffer, stranded, hstuck, List.drop_zero]
    · rw [hrows', hbuffer, sent, hstuck, hrows]
      simp

/-- Every event of the buffer that the server accepts is stored. -/
def AllStored (service : Service α ι) (buffer : List α) (rows : List ι) : Prop :=
  ∀ event ∈ buffer, service.refuses event = false → service.eventId event ∈ rows

/-- No event that the server accepts is stranded, unless its id is stored anyway. -/
def NoneStranded (service : Service α ι) (buffer : List α) (rows : List ι) : Prop :=
  ∀ event ∈ service.stranded buffer, service.refuses event = false →
    service.eventId event ∈ rows ∨
      ∃ other ∈ service.sent buffer, service.eventId other = service.eventId event

theorem allStored_flushes (h : Idle service x) (n : ℕ) :
    AllStored service x.sink.buffer (service.flush^[n + 1] x).rows ↔
      NoneStranded service x.sink.buffer x.rows := by
  have hrows := (flushes_spec h n).2.2
  have hsplit : service.sent x.sink.buffer ++ service.stranded x.sink.buffer = x.sink.buffer :=
    List.take_append_drop _ _
  constructor
  · intro hall event hmem haccepted
    have hbuffer : event ∈ x.sink.buffer := by
      rw [← hsplit]
      exact List.mem_append_right _ hmem
    exact (hrows _).mp (hall event hbuffer haccepted)
  · intro hnone event hmem haccepted
    rw [hrows]
    rw [← hsplit] at hmem
    rcases List.mem_append.mp hmem with hsent | hstranded
    · exact Or.inr ⟨event, hsent, rfl⟩
    · exact hnone event hstranded haccepted

omit [DecidableEq ι] in
theorem noneStranded_of_stored {rows : List ι} (h : AllStored service buffer rows) :
    NoneStranded service buffer rows := by
  intro event hmem haccepted
  exact Or.inl (h event (List.mem_of_mem_drop hmem) haccepted)

end Service

/-- **What becomes of the queue when the server refuses some of its events.**  The flushes store
every acceptable event exactly if none of them stands in the chunk of the first refused one or
behind it, other than with an id that is stored anyway; and then one flush is enough. -/
theorem refused_event_strands {service : Service α ι} {x : Exchange α ι}
    (h : Service.Idle service x) :
    ((∃ n, Service.AllStored service x.sink.buffer (service.flush^[n] x).rows) ↔
        Service.NoneStranded service x.sink.buffer x.rows) ∧
      (Service.NoneStranded service x.sink.buffer x.rows →
        Service.AllStored service x.sink.buffer (service.flush x).rows) := by
  have hfirst := Service.allStored_flushes h 0
  refine ⟨⟨?_, fun hnone => ⟨1, hfirst.mpr hnone⟩⟩, hfirst.mpr⟩
  rintro ⟨n, hall⟩
  cases n with
  | zero => exact Service.noneStranded_of_stored hall
  | succ n => exact (Service.allStored_flushes h n).mp hall

/-- The server refuses event 0 and no other. -/
def zeroRefused : Service ℕ ℕ where
  maxBuffer := 100
  isAnalyticsEvent := fun _ => true
  validate := fun event => event != 0
  normalize := fun _ => true
  eventId := id

/-- A page that is opened with the given events in its storage. -/
def opened (service : Service ℕ ℕ) (saved : List ℕ) : Exchange ℕ ℕ :=
  ⟨Sink.construct service.maxBuffer service.isAnalyticsEvent (fun _ => true) saved, []⟩

theorem zeroRefused_idle {saved : List ℕ} : Service.Idle zeroRefused (opened zeroRefused saved) :=
  ⟨rfl, rfl, length_sliceLast (show 0 < 100 by decide) _⟩

theorem refused_event_strands_last :
    Service.AllStored zeroRefused (List.range' 1 50 ++ [0])
      (zeroRefused.flush (opened zeroRefused (List.range' 1 50 ++ [0]))).rows := by
  have hbuffer : (opened zeroRefused (List.range' 1 50 ++ [0])).sink.buffer
      = List.range' 1 50 ++ [0] := by decide
  have hstranded : zeroRefused.stranded (List.range' 1 50 ++ [0]) = [0] := by decide
  have henough := (refused_event_strands (x := opened zeroRefused (List.range' 1 50 ++ [0]))
    zeroRefused_idle).2
  rw [hbuffer] at henough
  apply henough
  intro event hmem haccepted
  rw [hstranded, List.mem_singleton] at hmem
  rw [hmem] at haccepted
  cases haccepted

/-- Event 1 waits behind event 0, and no number of flushes gets it to the server. -/
theorem waits_behind_refused :
    ¬ ∃ n, Service.AllStored zeroRefused [0, 1]
      (zeroRefused.flush^[n] (opened zeroRefused [0, 1])).rows := by
  rintro ⟨n, hall⟩
  have hstranded : Service.NoneStranded zeroRefused [0, 1] [] := by
    cases n with
    | zero => exact Service.noneStranded_of_stored hall
    | succ n =>
      exact (Service.allStored_flushes (x := opened zeroRefused [0, 1]) zeroRefused_idle n).mp hall
  rcases hstranded 1 (by decide) (by decide) with hmem | ⟨other, hmem, -⟩
  · cases hmem
  · cases hmem

end CrownClash.Parity
