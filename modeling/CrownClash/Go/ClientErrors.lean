import CrownClash.Lib.Pattern
import CrownClash.Lib.Utf16
import Mathlib.Algebra.Order.Ring.Rat

/-!
# Server: the check of a client error

`validateAnalyticsEvent` for the event `client_error`, with the envelope that every event
has: the ids, the age, and the properties by their kind and their length in bytes.
`validClientErrorProps` then looks at what the properties say.  Of the table of events only
the row of `client_error` is here.

A text is a list of characters; its length is the number of its bytes in UTF-8.
-/

namespace CrownClash.Go

open Lib

inductive AnalyticsPropertyKind
  | string
  | number
  deriving DecidableEq

/-- A property as it was decoded. -/
inductive AnalyticsValue
  | string (s : List Char)
  | number (x : ℚ)
  | other

structure AnalyticsEventRecord where
  EventID : List Char
  Name : String
  SessionID : List Char
  OccurredAt : ℤ
  SchemaVersion : ℤ
  Props : Option (List (String × AnalyticsValue))

structure AnalyticsEventDefinition where
  properties : List (String × AnalyticsPropertyKind)
  optionalProperties : List (String × AnalyticsPropertyKind)

def analyticsProperties (keys : List String) : List (String × AnalyticsPropertyKind) :=
  keys.map fun key => (key, .string)

def analyticsEventDefinitions : List (String × AnalyticsEventDefinition) :=
  [("client_error",
    ⟨analyticsProperties ["kind", "errorName", "message", "source", "scene", "build"], []⟩)]

def analyticsEventIDMaxLength : ℕ := 128

def analyticsSessionIDMaxLength : ℕ := 128

/-- 30 days -/
def analyticsOccurredAtMaxAge : ℤ := 30 * 24 * 60 * 60 * 1000

/-- 5 minutes -/
def analyticsOccurredAtFutureSkew : ℤ := 5 * 60 * 1000

/-! ### The properties of a client error -/

def isAsciiLetter (c : Char) : Bool := ('A' ≤ c && c ≤ 'Z') || ('a' ≤ c && c ≤ 'z')

def isAsciiDigit (c : Char) : Bool := '0' ≤ c && c ≤ '9'

/-- `[A-Za-z0-9_.-]` -/
def isNameChar (c : Char) : Bool :=
  isAsciiLetter c || isAsciiDigit c || c == '_' || c == '.' || c == '-'

/-- `^[A-Za-z]{1,40}$` -/
def clientErrorNamePattern : Pattern Char := .whole [⟨isAsciiLetter, 1, some 40⟩]

/-- `^[A-Za-z]{1,32}$` -/
def clientErrorScenePattern : Pattern Char := .whole [⟨isAsciiLetter, 1, some 32⟩]

/-- `^[A-Za-z0-9_.-]+(:[0-9]+){0,2}$`, with `n` for the number of repetitions -/
def clientErrorSourcePattern (n : ℕ) : Pattern Char :=
  .whole (.plus isNameChar :: (List.replicate n [.once (· == ':'), .plus isAsciiDigit]).flatten)

/-- `^[A-Za-z0-9_.-]{1,64}$` -/
def clientErrorBuildPattern : Pattern Char := .whole [⟨isNameChar, 1, some 64⟩]

def clientErrorMessageMaxLength : ℕ := 120

def clientErrorSourceMaxLength : ℕ := 96

/-- The string under a key; the empty one if there is none. -/
def analyticsValue (props : List (String × AnalyticsValue)) (key : String) : List Char :=
  match props.lookup key with
  | some (.string s) => s
  | _ => []

def validClientErrorProps (props : List (String × AnalyticsValue)) : Bool :=
  let value := analyticsValue props
  let message := value "message"
  (value "kind" = "error".toList || value "kind" = "rejection".toList) &&
    clientErrorNamePattern.fits (value "errorName") &&
    message.length ≤ clientErrorMessageMaxLength &&
    !decide ("://".toList <:+: message) && !message.contains '@' &&
    utf8Length (value "source") ≤ clientErrorSourceMaxLength &&
    ((clientErrorSourcePattern 0).fits (value "source") ||
      (clientErrorSourcePattern 1).fits (value "source") ||
      (clientErrorSourcePattern 2).fits (value "source")) &&
    clientErrorScenePattern.fits (value "scene") &&
    clientErrorBuildPattern.fits (value "build")

/-! ### The check of an event -/

/-- The kind of a property and its length, and for a number that it is not negative. -/
def validAnalyticsProperty (definition : AnalyticsEventDefinition) (key : String)
    (value : AnalyticsValue) : Bool :=
  if utf8Length key.toList = 0 ∨ 64 < utf8Length key.toList then false
  else
    match (definition.properties.lookup key).or (definition.optionalProperties.lookup key), value with
    | some .string, .string s => s ≠ [] && utf8Length s ≤ 256
    | some .number, .number x => 0 ≤ x
    | _, _ => false

/-- The error, if there is one. -/
def validateAnalyticsEvent (event : AnalyticsEventRecord) (receivedAt : ℤ) : Option String :=
  if event.EventID = [] ∨ analyticsEventIDMaxLength < utf8Length event.EventID ∨
      event.SessionID = [] ∨ analyticsSessionIDMaxLength < utf8Length event.SessionID ∨
      event.SchemaVersion ≠ 1 then
    some "invalid_event_envelope"
  else
    match analyticsEventDefinitions.lookup event.Name with
    | none => some "invalid_event_name"
    | some definition =>
      if event.OccurredAt < receivedAt - analyticsOccurredAtMaxAge ∨
          receivedAt + analyticsOccurredAtFutureSkew < event.OccurredAt then
        some "invalid_event_timestamp"
      else
        match event.Props with
        | none => some "invalid_event_props"
        | some props =>
          if props.length < definition.properties.length ∨
              definition.properties.length + definition.optionalProperties.length < props.length ∨
              16 < props.length then
            some "invalid_event_props"
          else if !definition.properties.all fun property => (props.lookup property.1).isSome then
            some "invalid_event_props"
          else if !props.all fun property => validAnalyticsProperty definition property.1 property.2
          then some "invalid_event_props"
          else if event.Name = "client_error" ∧ !validClientErrorProps props then
            some "invalid_event_props"
          else none


/-- The clocks of the page and the server agree well enough. -/
def Timely (occurredAt receivedAt : ℤ) : Prop :=
  receivedAt - analyticsOccurredAtMaxAge ≤ occurredAt ∧
    occurredAt ≤ receivedAt + analyticsOccurredAtFutureSkew

/-- The six properties of a client error. -/
def clientErrorProps (kind errorName message source scene build : List Char) :
    List (String × AnalyticsValue) :=
  [("kind", .string kind), ("errorName", .string errorName), ("message", .string message),
    ("source", .string source), ("scene", .string scene), ("build", .string build)]

/-- An event with these properties. -/
def clientErrorRecord (eventID sessionID : List Char) (occurredAt : ℤ)
    (kind errorName message source scene build : List Char) : AnalyticsEventRecord where
  EventID := eventID
  Name := "client_error"
  SessionID := sessionID
  OccurredAt := occurredAt
  SchemaVersion := 1
  Props := some (clientErrorProps kind errorName message source scene build)

/-- A text of the length that a property may have. -/
def PropertyText (s : List Char) : Prop := s ≠ [] ∧ utf8Length s ≤ 256

/-- The patterns of a source, which name up to two positions. -/
def SourceText (s : List Char) : Prop :=
  (clientErrorSourcePattern 0).fits s = true ∨ (clientErrorSourcePattern 1).fits s = true ∨
    (clientErrorSourcePattern 2).fits s = true

section

variable {eventID sessionID kind errorName message source scene build : List Char}
  {occurredAt receivedAt : ℤ}

/-- The row of the table. -/
def clientErrorDefinition : AnalyticsEventDefinition :=
  ⟨analyticsProperties ["kind", "errorName", "message", "source", "scene", "build"], []⟩

theorem validAnalyticsProperty_clientError {key : String}
    (hkey : key ∈ ["kind", "errorName", "message", "source", "scene", "build"]) (s : List Char) :
    validAnalyticsProperty clientErrorDefinition key (.string s) = true ↔ PropertyText s := by
  have hlength : ¬ (utf8Length key.toList = 0 ∨ 64 < utf8Length key.toList) := by
    revert key
    decide
  have hkind : (clientErrorDefinition.properties.lookup key).or
      (clientErrorDefinition.optionalProperties.lookup key) = some .string := by
    revert key
    decide
  unfold validAnalyticsProperty
  rw [if_neg hlength, hkind]
  simp [PropertyText]

theorem clientErrorProps_present :
    (clientErrorDefinition.properties.all fun property =>
      ((clientErrorProps kind errorName message source scene build).lookup property.1).isSome)
      = true := rfl

theorem clientErrorProps_valid :
    ((clientErrorProps kind errorName message source scene build).all fun property =>
      validAnalyticsProperty clientErrorDefinition property.1 property.2) = true ↔
      PropertyText kind ∧ PropertyText errorName ∧ PropertyText message ∧ PropertyText source ∧
        PropertyText scene ∧ PropertyText build := by
  have hvalid : ∀ key ∈ ["kind", "errorName", "message", "source", "scene", "build"],
      ∀ s, (validAnalyticsProperty clientErrorDefinition key (.string s) = true ↔
        PropertyText s) := fun key hkey s => validAnalyticsProperty_clientError hkey s
  simp only [clientErrorProps, List.all_cons, List.all_nil, Bool.and_true, Bool.and_eq_true]
  rw [hvalid "kind" (by decide), hvalid "errorName" (by decide), hvalid "message" (by decide),
    hvalid "source" (by decide), hvalid "scene" (by decide), hvalid "build" (by decide)]

theorem validClientErrorProps_clientError :
    validClientErrorProps (clientErrorProps kind errorName message source scene build) = true ↔
      (kind = "error".toList ∨ kind = "rejection".toList) ∧
      clientErrorNamePattern.fits errorName = true ∧
      (message.length ≤ clientErrorMessageMaxLength ∧ ¬ "://".toList <:+: message ∧
        '@' ∉ message) ∧
      (utf8Length source ≤ clientErrorSourceMaxLength ∧ SourceText source) ∧
      clientErrorScenePattern.fits scene = true ∧ clientErrorBuildPattern.fits build = true := by
  simp only [validClientErrorProps, clientErrorProps, analyticsValue, List.lookup_cons,
    beq_self_eq_true, SourceText, Bool.and_eq_true, Bool.or_eq_true,
    decide_eq_true_eq, Bool.not_eq_true', decide_eq_false_iff_not, List.contains_eq_mem, and_assoc,
    or_assoc]
  rfl

/-- **What the server asks of a client error.** -/
theorem validateAnalyticsEvent_clientError
    (heventID : eventID ≠ [] ∧ utf8Length eventID ≤ analyticsEventIDMaxLength)
    (hsessionID : sessionID ≠ [] ∧ utf8Length sessionID ≤ analyticsSessionIDMaxLength) :
    validateAnalyticsEvent (clientErrorRecord eventID sessionID occurredAt kind errorName message
      source scene build) receivedAt = none ↔
      Timely occurredAt receivedAt ∧
      (PropertyText kind ∧ PropertyText errorName ∧ PropertyText message ∧ PropertyText source ∧
        PropertyText scene ∧ PropertyText build) ∧
      (kind = "error".toList ∨ kind = "rejection".toList) ∧
      clientErrorNamePattern.fits errorName = true ∧
      (message.length ≤ clientErrorMessageMaxLength ∧ ¬ "://".toList <:+: message ∧
        '@' ∉ message) ∧
      (utf8Length source ≤ clientErrorSourceMaxLength ∧ SourceText source) ∧
      clientErrorScenePattern.fits scene = true ∧ clientErrorBuildPattern.fits build = true := by
  have henvelope : ¬ (eventID = [] ∨ analyticsEventIDMaxLength < utf8Length eventID ∨
      sessionID = [] ∨ analyticsSessionIDMaxLength < utf8Length sessionID ∨ (1 : ℤ) ≠ 1) := by
    rintro (h | h | h | h | h)
    · exact heventID.1 h
    · exact absurd heventID.2 (not_le.mpr h)
    · exact hsessionID.1 h
    · exact absurd hsessionID.2 (not_le.mpr h)
    · exact h rfl
  have hrow : analyticsEventDefinitions.lookup "client_error" = some clientErrorDefinition := rfl
  rw [← validClientErrorProps_clientError]
  unfold validateAnalyticsEvent clientErrorRecord
  dsimp only
  rw [if_neg henvelope, hrow]
  dsimp only
  by_cases htimely : Timely occurredAt receivedAt
  · have htime : ¬ (occurredAt < receivedAt - analyticsOccurredAtMaxAge ∨
        receivedAt + analyticsOccurredAtFutureSkew < occurredAt) := by
      rintro (h | h)
      · exact absurd htimely.1 (not_le.mpr h)
      · exact absurd htimely.2 (not_le.mpr h)
    rw [if_neg htime, and_iff_right htimely]
    have hsize : ¬ ((clientErrorProps kind errorName message source scene build).length
          < clientErrorDefinition.properties.length ∨
        clientErrorDefinition.properties.length + clientErrorDefinition.optionalProperties.length
          < (clientErrorProps kind errorName message source scene build).length ∨
        16 < (clientErrorProps kind errorName message source scene build).length) := by
      have hsix : (clientErrorProps kind errorName message source scene build).length = 6 := rfl
      have hrowSix : clientErrorDefinition.properties.length = 6 := rfl
      omega
    rw [if_neg hsize, clientErrorProps_present, ← clientErrorProps_valid]
    cases (clientErrorProps kind errorName message source scene build).all fun property =>
      validAnalyticsProperty clientErrorDefinition property.1 property.2 with
    | false => simp
    | true => simp
  · have htime : occurredAt < receivedAt - analyticsOccurredAtMaxAge ∨
        receivedAt + analyticsOccurredAtFutureSkew < occurredAt := by
      rw [Timely, not_and_or, not_le, not_le] at htimely
      exact htimely
    rw [if_pos htime]
    constructor
    · intro h
      cases h
    · intro h
      exact absurd h.1 htimely

end

end CrownClash.Go
