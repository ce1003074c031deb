import CrownClash.Lib.Pattern
import CrownClash.Lib.Utf16
import Mathlib.Algebra.Group.Nat.Defs
import Mathlib.Data.List.DropRight

/-!
# Client: the report of an error

`ClientErrorReporter.ts` turns an uncaught error of the page, or a rejection nobody has
caught, into a `client_error` event.  The message loses its URLs, addresses, long ids and
digit runs and is cut at 120 units; the source is a file name with a line and a column, cut
at 96.  A report goes out once, and at most five of them in a session.

A text is any sequence of sixteen-bit units.  A number is the natural value of a double; a
line or a column that is none, or not finite, is missing.
-/

namespace CrownClash.Ts

open Lib

abbrev JsString := Lib.Units

def clientErrorMaxPerSession : ℕ := 5

def clientErrorMessageMaxLength : ℕ := 120

def sourceMaxLength : ℕ := 96

def nameMaxLength : ℕ := 40

/-! ### Classes of characters -/

def isUnit (s : String) (u : UInt16) : Bool := (units s).contains u

/-- `[a-z]` without regard to case, `[A-Za-z]` -/
def isLetter (u : UInt16) : Bool := (0x41 ≤ u && u ≤ 0x5A) || (0x61 ≤ u && u ≤ 0x7A)

/-- `\d` -/
def isDigit (u : UInt16) : Bool := 0x30 ≤ u && u ≤ 0x39

/-- `\s` -/
def isSpace (u : UInt16) : Bool :=
  (0x09 ≤ u && u ≤ 0x0D) || u == 0x20 || u == 0xA0 || u == 0x1680 ||
    (0x2000 ≤ u && u ≤ 0x200A) || u == 0x2028 || u == 0x2029 || u == 0x202F || u == 0x205F ||
    u == 0x3000 || u == 0xFEFF

/-- `[a-z0-9+.-]` without regard to case -/
def isScheme (u : UInt16) : Bool := isLetter u || isDigit u || isUnit "+.-" u

/-- `[^\s@]` -/
def isAddress (u : UInt16) : Bool := !isSpace u && !isUnit "@" u

/-- `[A-Za-z_-]` -/
def isIdLetter (u : UInt16) : Bool := isLetter u || isUnit "_-" u

/-- `[A-Za-z0-9_-]` -/
def isIdUnit (u : UInt16) : Bool := isLetter u || isDigit u || isUnit "_-" u

/-- `[\w.-]` -/
def isFileUnit (u : UInt16) : Bool := isLetter u || isDigit u || isUnit "_.-" u

/-- `[^\s()@]` -/
def isFrameUnit (u : UInt16) : Bool := !isSpace u && !isUnit "()@" u

/-! ### The message -/

/-- `/[a-z][a-z0-9+.-]*:\/\/\S+/gi` -/
def urlPattern : Pattern UInt16 :=
  .ofItems [.once isLetter, .star isScheme, .once (isUnit ":"), .once (isUnit "/"),
    .once (isUnit "/"), .plus fun u => !isSpace u]

/-- `/[^\s@]+@[^\s@]+\.[^\s@]+/g` -/
def emailPattern : Pattern UInt16 :=
  .ofItems [.plus isAddress, .once (isUnit "@"), .plus isAddress, .once (isUnit "."),
    .plus isAddress]

/-- `/(?=[A-Za-z_-]*\d)[A-Za-z0-9_-]{16,}/g` -/
def idPattern : Pattern UInt16 :=
  ⟨[.star isIdLetter, .once isDigit], [⟨isIdUnit, 16, none⟩], false⟩

/-- `/\d{3,}/g` -/
def digitsPattern : Pattern UInt16 := .ofItems [⟨isDigit, 3, none⟩]

/-- `/\s+/g` -/
def spacesPattern : Pattern UInt16 := .ofItems [.plus isSpace]

def trim (s : JsString) : JsString := (s.dropWhile isSpace).rdropWhile isSpace

/-- An error of the page. -/
structure JsError where
  name : JsString
  message : JsString
  stack : Option JsString
  deriving DecidableEq

/-- What may be thrown: nothing (`null`, `undefined`), a string, an error, anything else. -/
inductive JsValue
  | nullish
  | string (s : JsString)
  | error (e : JsError)
  | other
  deriving DecidableEq

/-- The text without its URLs, addresses, ids and digit runs. -/
def maskText (text : JsString) : JsString :=
  digitsPattern.replaceAll (units "<n>")
    (idPattern.replaceAll (units "<id>")
      (emailPattern.replaceAll (units "<email>")
        (urlPattern.replaceAll (units "<url>") text)))

/-- The text of what was thrown. -/
def thrownText : JsValue → JsString
  | .string s => s
  | .error e => e.message
  | _ => []

def sanitizeErrorMessage (raw : JsValue) : JsString :=
  let cleaned := trim (spacesPattern.replaceAll (units " ") (maskText (thrownText raw)))
  let message := cleaned.take clientErrorMessageMaxLength
  if message = [] then units "unknown" else message

/-! ### The source -/

/-- The double that a natural number is rounded to: 53 bits, ties to even. -/
def roundToDouble (n : ℕ) : ℕ :=
  if n < 2 ^ 53 then n
  else
    let ulp := 2 ^ (Nat.log2 n - 52)
    let low := n / ulp
    let up := ulp < 2 * (n % ulp) ∨ ulp = 2 * (n % ulp) ∧ low % 2 = 1
    (if up then low + 1 else low) * ulp

/-- The shortest decimal that is rounded to `n`, of those with the same number of digits the
nearest one. -/
def shortestDecimal (n : ℕ) : ℕ :=
  let digits := (Nat.toDigits 10 n).length
  let candidate := fun k =>
    let unit := 10 ^ (digits - k)
    let up := unit < 2 * (n % unit) ∨ unit = 2 * (n % unit) ∧ n / unit % 2 = 1
    (if up then n / unit + 1 else n / unit) * unit
  (((List.range digits).map fun k => candidate (k + 1)).find? fun m => roundToDouble m = n).getD n

def digitUnits (cs : List Char) : JsString := cs.map fun c => UInt16.ofNat c.toNat

/-- `String(n)`: digits, from `10 ^ 21` on with an exponent. -/
def numberText (n : ℕ) : JsString :=
  let ds := digitUnits (Nat.toDigits 10 (shortestDecimal n))
  if n < 10 ^ 21 then ds
  else
    let rest := (ds.drop 1).rdropWhile (· == 0x30)
    ds.take 1 ++ (if rest = [] then [] else units "." ++ rest) ++ units "e+" ++
      digitUnits (Nat.toDigits 10 (ds.length - 1))

/-- `Number(digits)`, if it is finite -/
def numberOf (digits : JsString) : Option ℕ :=
  let n := roundToDouble (digits.foldl (fun n u => 10 * n + (u.toNat - 0x30)) 0)
  if n < 2 ^ 1024 then some n else none

/-- `/^[\w.-]+$/` -/
def fileNamePattern : Pattern UInt16 := .whole [.plus isFileUnit]

/-- The last part of the path that is not empty. -/
def baseName (filename : JsString) : JsString :=
  let path := filename.takeWhile fun u => !isUnit "?#" u
  (((path.splitOn 0x2F).filter (· ≠ [])).getLast?).getD []

def describeSource (filename : Option JsString) (line column : Option ℕ) : JsString :=
  match filename with
  | none => units "unknown"
  | some filename =>
    if filename = [] then units "unknown"
    else
      let base := baseName filename
      if !fileNamePattern.fits base then units "unknown"
      else
        let position := [0x3A].intercalate ([line, column].reduceOption.map numberText)
        (base ++ if position = [] then [] else 0x3A :: position).take sourceMaxLength

/-- `/:\d+:\d+/` -/
def framePattern : Pattern UInt16 :=
  .ofItems [.once (isUnit ":"), .plus isDigit, .once (isUnit ":"), .plus isDigit]

/-- `/([^\s()@]+):(\d+):(\d+)\D*$/` -/
def lastFramePattern : Pattern UInt16 :=
  ⟨[], [.plus isFrameUnit, .once (isUnit ":"), .plus isDigit, .once (isUnit ":"), .plus isDigit,
    .star fun u => !isDigit u], true⟩

/-- The file, the line and the column of the first row of the stack that names a place. -/
def stackFrame (stack : JsString) : Option (JsString × Option ℕ × Option ℕ) :=
  let row := ((stack.splitOn 0x0A).find? framePattern.test).getD []
  match lastFramePattern.exec row with
  | some [file, _, line, _, column, _] => some (file, numberOf line, numberOf column)
  | _ => none

def sourceFromStack (stack : Option JsString) : JsString :=
  match stack.bind stackFrame with
  | some (file, line, column) => describeSource (some file) line column
  | none => units "unknown"

/-! ### The report -/

/-- `/^[A-Za-z]{1,40}$/` -/
def errorNamePattern : Pattern UInt16 := .whole [⟨isLetter, 1, some nameMaxLength⟩]

/-- The name of an error, and of nothing else. -/
def thrownName : JsValue → JsString
  | .error e => e.name
  | _ => []

def errorName (value : JsValue) : JsString :=
  let name := thrownName value
  if errorNamePattern.fits name then name.take nameMaxLength else units "Error"

inductive ClientErrorKind
  | error
  | rejection
  deriving DecidableEq

def ClientErrorKind.text : ClientErrorKind → JsString
  | .error => units "error"
  | .rejection => units "rejection"

structure ClientErrorReport where
  kind : JsString
  errorName : JsString
  message : JsString
  source : JsString
  scene : JsString
  build : JsString
  deriving DecidableEq

/-- What the page tells the reporter. -/
inductive PageEvent
  | error (message filename : Option JsString) (lineno colno : Option ℕ) (error : JsValue)
  | unhandledrejection (reason : JsValue)
  deriving DecidableEq

/-- The keys of the page: `getSceneKey`, the build, and how many reports a session has. -/
structure ClientErrorReporterOptions where
  sceneKey : JsString
  build : JsString
  maxPerSession : ℕ

def submit (options : ClientErrorReporterOptions) (seen : List JsString) (kind : ClientErrorKind)
    (name message source : JsString) : Option ClientErrorReport × List JsString :=
  if options.maxPerSession ≤ seen.length then (none, seen)
  else
    let fingerprint := [0x7C].intercalate [kind.text, name, source, message]
    if fingerprint ∈ seen then (none, seen)
    else
      let scene := if options.sceneKey = [] then units "unknown" else options.sceneKey
      (some ⟨kind.text, name, message, source, scene, options.build⟩, fingerprint :: seen)

/-- `error ?? message` -/
def orMessage (error : JsValue) (message : Option JsString) : JsValue :=
  match error with
  | .nullish => (message.map JsValue.string).getD .nullish
  | error => error

def thrownStack : JsValue → Option JsString
  | .error e => e.stack
  | _ => none

/-- The listeners: what is reported, and the fingerprints so far. -/
def installClientErrorReporter (options : ClientErrorReporterOptions) (seen : List JsString) :
    PageEvent → Option ClientErrorReport × List JsString
  | .error message filename lineno colno error =>
    if filename.getD [] = [] ∧ (message.getD [] = [] ∨ message.getD [] = units "Script error.")
    then (none, seen)
    else
      submit options seen .error (errorName error)
        (sanitizeErrorMessage (orMessage error message)) (describeSource filename lineno colno)
  | .unhandledrejection reason =>
    submit options seen .rejection (errorName reason) (sanitizeErrorMessage reason)
      (sourceFromStack (thrownStack reason))


/-! ### What is in a class -/

theorem ascii_of_isLetter {u : UInt16} (h : isLetter u = true) : IsAscii u := by
  simp only [isLetter, Bool.or_eq_true, Bool.and_eq_true, decide_eq_true_eq,
    UInt16.le_iff_toNat_le] at h
  have hupper : UInt16.toNat 0x5A = 0x5A := rfl
  have hlower : UInt16.toNat 0x7A = 0x7A := rfl
  unfold IsAscii
  omega

theorem ascii_of_isDigit {u : UInt16} (h : isDigit u = true) : IsAscii u := by
  simp only [isDigit, Bool.and_eq_true, decide_eq_true_eq, UInt16.le_iff_toNat_le] at h
  have hlast : UInt16.toNat 0x39 = 0x39 := rfl
  unfold IsAscii
  omega

theorem ascii_of_isFileUnit {u : UInt16} (h : isFileUnit u = true) : IsAscii u := by
  simp only [isFileUnit, Bool.or_eq_true] at h
  rcases h with (h | h) | h
  · exact ascii_of_isLetter h
  · exact ascii_of_isDigit h
  · have hmem : u ∈ units "_.-" := by simpa [isUnit] using h
    have hall : ∀ v ∈ units "_.-", v.toNat < 0x80 := by decide
    exact hall u hmem

end CrownClash.Ts
