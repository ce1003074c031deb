import CrownClash.Parity.ErrorSource
import CrownClash.Ts.ErrorWords

/-!
# Client and server: the report of an error and its check

The client scrubs a message and cuts it by units, the server counts its bytes and looks for
`@` and `://`; the client cuts a source by units, the server reads it by a pattern.
Everything else about a report passes the check, so that three things are left: what is
shown of the message (`messageOk_iff`), what is shown of the source
(`describeSource_ok_iff`), and the two clocks (`client_error_accepted_iff`).

An id ends in a random UUID, which the runtime makes of 36 characters.
-/

namespace CrownClash.Parity

open Lib Ts

/-- `${kind}_${crypto.randomUUID()}` -/
def createIdentifier (kind : String) (uuid : JsString) : JsString :=
  units kind ++ units "_" ++ uuid

/-- `trackEvent` with the report, as the server decodes it. -/
def clientErrorEvent (eventUuid sessionUuid : JsString) (occurredAt : ℤ)
    (report : ClientErrorReport) : Go.AnalyticsEventRecord :=
  Go.clientErrorRecord (decode (createIdentifier "event" eventUuid))
    (decode (createIdentifier "session" sessionUuid)) occurredAt (decode report.kind)
    (decode report.errorName) (decode report.message) (decode report.source)
    (decode report.scene) (decode report.build)

/-! ### Names -/

theorem utf8Size_of_isNameChar {c : Char} (h : Go.isNameChar c = true) : c.utf8Size = 1 := by
  have hlow : c ≤ 'z' := by
    simp only [Go.isNameChar, Go.isAsciiLetter, Go.isAsciiDigit, Bool.or_eq_true,
      Bool.and_eq_true, decide_eq_true_eq, beq_iff_eq] at h
    rcases h with (((h | h) | rfl) | rfl) | rfl
    · rcases h with h | h
      · exact h.2.trans (by decide)
      · exact h.2
    · exact h.2.trans (by decide)
    · decide
    · decide
    · decide
  rw [Char.utf8Size_eq_one_iff]
  exact UInt32.le_trans (show c.val ≤ 122 from hlow) (by decide)

theorem utf8Length_of_names {s : List Char} (h : ∀ c ∈ s, Go.isNameChar c = true) :
    utf8Length s = s.length := by
  unfold utf8Length
  rw [List.map_congr_left fun c hc => utf8Size_of_isNameChar (h c hc), List.map_const']
  simp only [List.sum_replicate_nat, Nat.mul_one]

theorem isNameChar_of_letter {c : Char} (h : Go.isAsciiLetter c = true) :
    Go.isNameChar c = true := by
  unfold Go.isNameChar
  rw [h]
  rfl

/-- A text that fits a pattern of names has the length of a property. -/
theorem propertyText_of_fits {accepts : Char → Bool} {n : ℕ} (hn : n ≤ 256) {s : List Char}
    (haccepts : ∀ c, accepts c = true → Go.isNameChar c = true)
    (h : (Pattern.whole [⟨accepts, 1, some n⟩]).fits s = true) : Go.PropertyText s := by
  have hfits := Pattern.whole_singleton.mp h
  have hlow : 1 ≤ s.length := hfits.low
  have hhigh : s.length ≤ n := hfits.high n rfl
  refine ⟨fun hnil => ?_, ?_⟩
  · rw [hnil] at hlow
    cases hlow
  · rw [utf8Length_of_names fun c hc => haccepts c (hfits.accepted c hc)]
    omega

/-- The name of an error passes. -/
theorem errorName_fits (value : JsValue) :
    Go.clientErrorNamePattern.fits (decode (errorName value)) = true := by
  have hfits : errorNamePattern.fits (errorName value) = true := by
    unfold errorName
    dsimp only
    split
    · next h =>
      have hhigh := (Pattern.whole_singleton.mp h).high nameMaxLength rfl
      rw [List.take_of_length_le hhigh]
      exact h
    · decide
  have hname := Pattern.whole_singleton.mp hfits
  have hascii : ∀ u ∈ errorName value, IsAscii u :=
    fun u hu => ascii_of_isLetter (hname.accepted u hu)
  apply Pattern.whole_singleton.mpr
  rw [decode_of_ascii hascii]
  refine ⟨fun c hc => ?_, ?_, ?_⟩
  · obtain ⟨u, hu, rfl⟩ := List.mem_map.mp hc
    show Go.isAsciiLetter (toChar u) = true
    rw [isAsciiLetter_toChar (hascii u hu)]
    exact hname.accepted u hu
  · rw [List.length_map]
    exact hname.low
  · rw [List.length_map]
    exact hname.high

/-! ### The message -/

/-- The server takes the text for a message. -/
def MessageOk (s : List Char) : Prop :=
  Go.PropertyText s ∧ s.length ≤ Go.clientErrorMessageMaxLength ∧ ¬ "://".toList <:+: s ∧ '@' ∉ s

/-- What is shown of the words is short enough, and every word is safe or cut in time. -/
def MessageShown (text : JsString) : Prop :=
  bytesShown clientErrorMessageMaxLength (words text) ≤ 256 ∧
    WordsShown clientErrorMessageMaxLength (words text)

theorem messageOk_decode {us : JsString} (hne : us ≠ [])
    (hlength : us.length ≤ clientErrorMessageMaxLength) :
    MessageOk (decode us) ↔ utf8Length (decode us) ≤ 256 ∧ ¬ Leaks us := by
  have hdecodeNe : decode us ≠ [] := by
    intro hdecode
    cases us with
    | nil => exact hne rfl
    | cons u us =>
      by_cases hu : IsAscii u
      · rw [decode_cons_of_ascii hu] at hdecode
        cases hdecode
      · obtain ⟨c, rest, hcons, -⟩ := decode_cons_of_not_ascii hu us
        rw [hcons] at hdecode
        cases hdecode
  have hcount : (decode us).length ≤ Go.clientErrorMessageMaxLength :=
    (length_decode_le us).trans hlength
  have hlink := @infix_decode_iff 0x3A (units "//") (by unfold IsAscii; decide) us
  have hat := @mem_decode_iff 0x40 (by unfold IsAscii; decide) us
  have hlinkUnits : units "://" = 0x3A :: units "//" := by decide
  have hlinkChars : "://".toList
      = (0x3A :: units "//").map fun u => Char.ofNat u.toNat := by decide
  have hatChar : '@' = Char.ofNat (0x40 : UInt16).toNat := by decide
  unfold MessageOk Leaks Go.PropertyText
  rw [hlinkChars, hlink, hatChar, hat, hlinkUnits, not_or]
  constructor
  · rintro ⟨⟨-, hbytes⟩, -, hnolink, hnoat⟩
    exact ⟨hbytes, hnoat, hnolink⟩
  · rintro ⟨hbytes, hnoat, hnolink⟩
    exact ⟨⟨hdecodeNe, hbytes⟩, hcount, hnolink, hnoat⟩

/-- **The server takes the message of a report** exactly if what is shown of it passes. -/
theorem messageOk_iff (raw : JsValue) :
    MessageOk (decode (sanitizeErrorMessage raw)) ↔ MessageShown (thrownText raw) := by
  have hwords : ∀ w ∈ words (thrownText raw), Free w := fun w hw => (mem_words hw).2
  rw [sanitizeErrorMessage_eq, MessageShown, ← not_leaks_take_iff hwords, ← utf8Length_take]
  by_cases hnil : shownText (thrownText raw) = []
  · have hempty : (joinWords ((words (thrownText raw)).map maskText)).take
        clientErrorMessageMaxLength = [] := hnil
    have hunknown : MessageOk (decode (units "unknown")) := by
      refine ⟨⟨by decide, by decide⟩, by decide, by decide, by decide⟩
    rw [if_pos hnil, hempty]
    exact ⟨fun _ => ⟨by decide, not_leaks_nil⟩, fun _ => hunknown⟩
  · rw [if_neg hnil]
    exact messageOk_decode hnil (List.length_take_le _ _)


/-! ### The report -/

/-- What was thrown. -/
def thrown : PageEvent → JsValue
  | .error message _ _ _ error => orMessage error message
  | .unhandledrejection reason => reason

/-- The place of the error is none, or it is shown well. -/
def PlaceShown : PageEvent → Prop
  | .error _ filename lineno colno _ => SourceShown (filename.getD []) lineno colno
  | .unhandledrejection reason =>
    ∀ file line column, (thrownStack reason).bind stackFrame = some (file, line, column) →
      SourceShown file line column

theorem sourceFromStack_ok_iff (stack : Option JsString) :
    SourceOk (decode (sourceFromStack stack)) ↔
      ∀ file line column, stack.bind stackFrame = some (file, line, column) →
        SourceShown file line column := by
  unfold sourceFromStack
  cases hframe : stack.bind stackFrame with
  | none =>
    refine ⟨fun _ file line column h => (nomatch h), fun _ => sourceOk_unknown⟩
  | some frame =>
    obtain ⟨file, line, column⟩ := frame
    show SourceOk (decode (describeSource (some file) line column)) ↔ _
    rw [describeSource_ok_iff, Option.getD_some]
    constructor
    · rintro h _ _ _ ⟨⟩
      exact h
    · intro h
      exact h file line column rfl

/-- What a report consists of. -/
theorem submit_report {options : ClientErrorReporterOptions} {seen : List JsString}
    {kind : ClientErrorKind} {name message source : JsString} {report : ClientErrorReport}
    (h : (submit options seen kind name message source).1 = some report) :
    report = ⟨kind.text, name, message, source,
      if options.sceneKey = [] then units "unknown" else options.sceneKey, options.build⟩ := by
  unfold submit at h
  split at h
  · cases h
  · dsimp only at h
    split at h
    · cases h
    · exact (Option.some.inj h).symm

theorem decode_identifier {kind : String} {uuid : JsString} (hkind : ∀ u ∈ units kind, IsAscii u)
    (hshort : (units kind).length ≤ 7) (huuid : uuid.length = 36 ∧ ∀ u ∈ uuid, IsAscii u) :
    decode (createIdentifier kind uuid) ≠ [] ∧
      utf8Length (decode (createIdentifier kind uuid)) ≤ 128 := by
  have hline : ∀ u ∈ units "_", IsAscii u := by
    unfold IsAscii
    decide
  have hascii : ∀ u ∈ createIdentifier kind uuid, IsAscii u := by
    intro u hu
    rcases List.mem_append.mp hu with hu | hu
    · rcases List.mem_append.mp hu with hu | hu
      · exact hkind u hu
      · exact hline u hu
    · exact huuid.2 u hu
  have hlength : (createIdentifier kind uuid).length = (units kind).length + 1 + 36 := by
    unfold createIdentifier
    rw [List.length_append, List.length_append, huuid.1]
    rfl
  constructor
  · rw [decode_of_ascii hascii, ne_eq, List.map_eq_nil_iff]
    intro hnil
    rw [hnil] at hlength
    simp at hlength
  · rw [utf8Length_decode hascii]
    omega

/-- What the listeners submit. -/
theorem reported {options : ClientErrorReporterOptions} {seen : List JsString}
    {event : PageEvent} {report : ClientErrorReport}
    (h : (installClientErrorReporter options seen event).1 = some report) :
    (∃ kind : ClientErrorKind, report.kind = kind.text) ∧
      report.errorName = errorName (thrown event) ∧
      report.message = sanitizeErrorMessage (thrown event) ∧
      (SourceOk (decode report.source) ↔ PlaceShown event) ∧
      report.scene = (if options.sceneKey = [] then units "unknown" else options.sceneKey) ∧
      report.build = options.build := by
  cases event with
  | error message filename lineno colno error =>
    rw [installClientErrorReporter] at h
    split at h
    · cases h
    · rw [submit_report h]
      refine ⟨⟨.error, rfl⟩, ?_, rfl, describeSource_ok_iff filename lineno colno, rfl, rfl⟩
      -- a missing error is replaced by a message, and neither has a name
      cases error with
      | nullish =>
        cases message with
        | none => rfl
        | some message => rfl
      | string s => rfl
      | error e => rfl
      | other => rfl
  | unhandledrejection reason =>
    rw [installClientErrorReporter] at h
    rw [submit_report h]
    exact ⟨⟨.rejection, rfl⟩, rfl, rfl, sourceFromStack_ok_iff (thrownStack reason), rfl, rfl⟩

/-- **Which client errors the server accepts.**  Of an error that is reported, with a scene key
and a build that fit, the event passes exactly if the clocks agree, what is shown of the words of
the message takes 256 bytes at most and every word is safe or cut in time, and the place is shown
well. -/
theorem client_error_accepted_iff {options : ClientErrorReporterOptions} {seen : List JsString}
    {event : PageEvent} {report : ClientErrorReport}
    (hreport : (installClientErrorReporter options seen event).1 = some report)
    (hscene : options.sceneKey = [] ∨
      Go.clientErrorScenePattern.fits (decode options.sceneKey) = true)
    (hbuild : Go.clientErrorBuildPattern.fits (decode options.build) = true)
    {eventUuid sessionUuid : JsString}
    (heventUuid : eventUuid.length = 36 ∧ ∀ u ∈ eventUuid, IsAscii u)
    (hsessionUuid : sessionUuid.length = 36 ∧ ∀ u ∈ sessionUuid, IsAscii u)
    (occurredAt receivedAt : ℤ) :
    Go.validateAnalyticsEvent (clientErrorEvent eventUuid sessionUuid occurredAt report) receivedAt
        = none ↔
      Go.Timely occurredAt receivedAt ∧ MessageShown (thrownText (thrown event)) ∧
        PlaceShown event := by
  obtain ⟨⟨kind, hkind⟩, hname, hmessage, hsource, hsceneKey, hbuildId⟩ := reported hreport
  have hkindText : decode report.kind = "error".toList ∨ decode report.kind = "rejection".toList := by
    rw [hkind]
    cases kind with
    | error => left; decide
    | rejection => right; decide
  have hkindOk : Go.PropertyText (decode report.kind) := by
    rcases hkindText with h | h
    · rw [h]
      exact ⟨by decide, by decide⟩
    · rw [h]
      exact ⟨by decide, by decide⟩
  have hnameFits : Go.clientErrorNamePattern.fits (decode report.errorName) = true := by
    rw [hname]
    exact errorName_fits _
  have hsceneFits : Go.clientErrorScenePattern.fits (decode report.scene) = true := by
    rw [hsceneKey]
    split
    · decide
    · next hne => exact hscene.resolve_left hne
  have hbuildFits : Go.clientErrorBuildPattern.fits (decode report.build) = true := by
    rw [hbuildId]
    exact hbuild
  have hletters : ∀ c, Go.isAsciiLetter c = true → Go.isNameChar c = true :=
    fun c h => isNameChar_of_letter h
  have hnameOk := propertyText_of_fits (by decide) hletters hnameFits
  have hsceneOk := propertyText_of_fits (by decide) hletters hsceneFits
  have hbuildOk := propertyText_of_fits (by decide) (fun c h => h) hbuildFits
  have hascii : ∀ u ∈ units "event" ++ units "session", IsAscii u := by
    unfold IsAscii
    decide
  have heventId := decode_identifier (fun u hu => hascii u (List.mem_append_left _ hu))
    (by decide) heventUuid
  have hsessionId := decode_identifier (fun u hu => hascii u (List.mem_append_right _ hu))
    (by decide) hsessionUuid
  have hmessageOk := messageOk_iff (thrown event)
  rw [← hmessage] at hmessageOk
  unfold clientErrorEvent
  rw [Go.validateAnalyticsEvent_clientError heventId hsessionId, ← hmessageOk, ← hsource]
  unfold MessageOk SourceOk
  constructor
  · rintro ⟨htimely, ⟨-, -, hm, hs, -, -⟩, -, -, hmessageRest, hsourceRest, -, -⟩
    exact ⟨htimely, ⟨hm, hmessageRest⟩, ⟨hs, hsourceRest⟩⟩
  · rintro ⟨htimely, ⟨hm, hmessageRest⟩, ⟨hs, hsourceRest⟩⟩
    exact ⟨htimely, ⟨hkindOk, hnameOk, hm, hs, hsceneOk, hbuildOk⟩, hkindText, hnameFits,
      hmessageRest, hsourceRest, hsceneFits, hbuildFits⟩

/-! ### Two reports -/

def sampleUuid : JsString := units "0f8c1d2e-aaaa-4bbb-8ccc-1234567890ab"

def samplePage : ClientErrorReporterOptions := ⟨units "MenuScene", units "dev", 5⟩

/-- A script that does not parse. -/
def tokenError (text : String) : PageEvent :=
  .error none (some (units "https://host/assets/a.js")) (some 1) (some 2)
    (.error ⟨units "SyntaxError", units text, none⟩)

def tokenReport (text : String) : ClientErrorReport :=
  ⟨units "error", units "SyntaxError", units text, units "a.js:1:2", units "MenuScene",
    units "dev"⟩

theorem client_error_accepted_letter :
    (installClientErrorReporter samplePage [] (tokenError "Unexpected token 'a'")).1
        = some (tokenReport "Unexpected token 'a'") ∧
      (Go.validateAnalyticsEvent (clientErrorEvent sampleUuid sampleUuid 0
          (tokenReport "Unexpected token 'a'")) 0 = none ↔
        Go.Timely 0 0 ∧
          MessageShown (thrownText (thrown (tokenError "Unexpected token 'a'"))) ∧
          PlaceShown (tokenError "Unexpected token 'a'")) := by
  have hreport : (installClientErrorReporter samplePage [] (tokenError "Unexpected token 'a'")).1
      = some (tokenReport "Unexpected token 'a'") := by decide +kernel
  have huuid : sampleUuid.length = 36 ∧ ∀ u ∈ sampleUuid, IsAscii u := by
    unfold IsAscii
    decide +kernel
  exact ⟨hreport, client_error_accepted_iff hreport (Or.inr (by decide)) (by decide) huuid huuid
    0 0⟩

/-- The parser names the character it stumbled over; if it is an `@`, the report is refused. -/
theorem at_sign_refused :
    (installClientErrorReporter samplePage [] (tokenError "Unexpected token '@'")).1
        = some (tokenReport "Unexpected token '@'") ∧
      Go.clientErrorScenePattern.fits (decode samplePage.sceneKey) = true ∧
      Go.clientErrorBuildPattern.fits (decode samplePage.build) = true ∧
      Go.validateAnalyticsEvent (clientErrorEvent sampleUuid sampleUuid 0
          (tokenReport "Unexpected token '@'")) 0 = some "invalid_event_props" := by
  refine ⟨?_, ?_, ?_, ?_⟩
  · decide +kernel
  · decide
  · decide
  · decide +kernel

end CrownClash.Parity
