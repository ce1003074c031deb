import CrownClash.Lib.Bytes

/-!
# Reading JSON

The text of a JSON value is read byte by byte by a machine with a stack of the arrays
and objects that are open.  It fails at the first byte that does not fit, and a number
ends with the first byte that does not go on with it.

`parseJson_trailing` is what a reader of signed text relies on: a text that is a JSON
value is none any more when a line with anything in it follows.
-/

namespace CrownClash.Lib

/-- A value, with its numbers as they are written. -/
inductive JsonValue
  | null
  | bool (b : Bool)
  | num (literal : Bytes)
  | str (text : Bytes)
  | arr (items : List JsonValue)
  | obj (members : List (Bytes × JsonValue))

namespace JsonText

def byte (c : Char) : UInt8 := c.toUInt8

def isSpace (c : UInt8) : Bool := c = 0x20 || c = 0x09 || c = 0x0A || c = 0x0D

def isDigit (c : UInt8) : Bool := byte '0' ≤ c && c ≤ byte '9'

/-! ### The text of a string -/

def isTail (c : UInt8) : Bool := 0x80 ≤ c && c ≤ 0xBF

/-- The length of the encoded character that a text begins with, if it begins with one. -/
def runeLength : Bytes → Option ℕ
  | [] => none
  | a :: s =>
    if a < 0x80 then some 1
    else
      match s with
      | [] => none
      | b :: s =>
        if 0xC2 ≤ a ∧ a ≤ 0xDF then if isTail b then some 2 else none
        else
          match s with
          | [] => none
          | c :: s =>
            if 0xE0 ≤ a ∧ a ≤ 0xEF then
              if (if a = 0xE0 then (0xA0 : UInt8) else 0x80) ≤ b ∧
                  b ≤ (if a = 0xED then (0x9F : UInt8) else 0xBF) ∧ isTail c then some 3
              else none
            else
              match s with
              | [] => none
              | d :: _ =>
                if 0xF0 ≤ a ∧ a ≤ 0xF4 ∧ (if a = 0xF0 then (0x90 : UInt8) else 0x80) ≤ b ∧
                    b ≤ (if a = 0xF4 then (0x8F : UInt8) else 0xBF) ∧ isTail c ∧ isTail d then
                  some 4
                else none

/-- What stands for what is no character. -/
def replacement : Bytes := [0xEF, 0xBF, 0xBD]

def encodeRune (n : ℕ) : Bytes :=
  if 0xD800 ≤ n ∧ n ≤ 0xDFFF then replacement else String.utf8EncodeChar (Char.ofNat n)

/-- Four hexadecimal digits. -/
def hex4 (a b c d : UInt8) : Option ℕ :=
  match hexValue a, hexValue b, hexValue c, hexValue d with
  | some a, some b, some c, some d =>
    some (((a.toNat * 16 + b.toNat) * 16 + c.toNat) * 16 + d.toNat)
  | _, _, _, _ => none

/-- The second half of a pair of surrogates, when it follows. -/
def lowSurrogate? : Bytes → Option (ℕ × Bytes)
  | 0x5C :: 0x75 :: a :: b :: c :: d :: s =>
    match hex4 a b c d with
    | some low => if 0xDC00 ≤ low ∧ low ≤ 0xDFFF then some (low, s) else none
    | none => none
  | _ => none

def unescape (c : UInt8) : UInt8 :=
  if c = byte 'b' then 0x08
  else if c = byte 'f' then 0x0C
  else if c = byte 'n' then 0x0A
  else if c = byte 'r' then 0x0D
  else if c = byte 't' then 0x09
  else c

/-- What is between the quotes, without its escapes; `fuel` is the length. -/
def unquoteFrom : ℕ → Bytes → Bytes
  | 0, _ => []
  | fuel + 1, 0x5C :: 0x75 :: a :: b :: c :: d :: s =>
    match hex4 a b c d with
    | none => []
    | some high =>
      match if 0xD800 ≤ high ∧ high < 0xDC00 then lowSurrogate? s else none with
      | some (low, rest) =>
        encodeRune (0x10000 + (high - 0xD800) * 0x400 + (low - 0xDC00)) ++ unquoteFrom fuel rest
      | none => encodeRune high ++ unquoteFrom fuel s
  | fuel + 1, 0x5C :: c :: s => unescape c :: unquoteFrom fuel s
  | fuel + 1, c :: s =>
    match runeLength (c :: s) with
    | some n => (c :: s).take n ++ unquoteFrom fuel ((c :: s).drop n)
    | none => replacement ++ unquoteFrom fuel s
  | _ + 1, [] => []

def unquote (text : Bytes) : Bytes := unquoteFrom text.length text

/-! ### The machine -/

/-- An array or an object that is open, the last item first, and in an object the key
that waits for its value. -/
inductive Frame
  | arr (items : List JsonValue)
  | obj (members : List (Bytes × JsonValue)) (key : Option Bytes)

/-- How far a number is read. -/
inductive NumberPart
  | sign
  | zero
  | digits
  | dot
  | fraction
  | exponentMark
  | exponentSign
  | exponent
  deriving DecidableEq

/-- What comes next; texts that are read so far have their last byte first. -/
inductive Mode
  | value
  | valueOrEnd
  | keyOrEnd
  | key
  | colon
  /-- A comma or the end of what is open. -/
  | after
  | string (isKey : Bool) (text : Bytes)
  | escape (isKey : Bool) (text : Bytes)
  | hex (isKey : Bool) (text : Bytes) (left : ℕ)
  | number (part : NumberPart) (text : Bytes)
  | literal (rest : Bytes) (v : JsonValue)
  | done (v : JsonValue)
  | fail

structure State where
  mode : Mode
  frames : List Frame

def State.start : State := ⟨.value, []⟩

def State.failed : State := ⟨.fail, []⟩

/-- A value has ended. -/
def complete (v : JsonValue) : List Frame → State
  | [] => ⟨.done v, []⟩
  | .arr items :: rest => ⟨.after, .arr (v :: items) :: rest⟩
  | .obj members (some key) :: rest => ⟨.after, .obj ((key, v) :: members) none :: rest⟩
  | .obj _ none :: _ => .failed

/-- What is open ends. -/
def close : List Frame → State
  | .arr items :: rest => complete (.arr items.reverse) rest
  | .obj members none :: rest => complete (.obj members.reverse) rest
  | _ => .failed

/-- A string has ended. -/
def endString (isKey : Bool) (text : Bytes) (frames : List Frame) : State :=
  match isKey, frames with
  | false, frames => complete (.str (unquote text.reverse)) frames
  | true, .obj members _ :: rest => ⟨.colon, .obj members (some (unquote text.reverse)) :: rest⟩
  | true, _ => .failed

/-- How deep values may be nested. -/
def maxDepth : ℕ := 10000

def openFrame (frame : Frame) (mode : Mode) (frames : List Frame) : State :=
  if frames.length < maxDepth then ⟨mode, frame :: frames⟩ else .failed

def beginValue (c : UInt8) (frames : List Frame) : State :=
  if c = byte '{' then openFrame (.obj [] none) .keyOrEnd frames
  else if c = byte '[' then openFrame (.arr []) .valueOrEnd frames
  else if c = byte '"' then ⟨.string false [], frames⟩
  else if c = byte '-' then ⟨.number .sign [c], frames⟩
  else if c = byte '0' then ⟨.number .zero [c], frames⟩
  else if isDigit c then ⟨.number .digits [c], frames⟩
  else if c = byte 't' then ⟨.literal (bytes "rue") (.bool true), frames⟩
  else if c = byte 'f' then ⟨.literal (bytes "alse") (.bool false), frames⟩
  else if c = byte 'n' then ⟨.literal (bytes "ull") .null, frames⟩
  else .failed

/-- A byte after a value. -/
def afterValue (c : UInt8) (s : State) : State :=
  if isSpace c then s
  else
    match s.mode, s.frames with
    | .after, .arr items :: rest =>
      if c = byte ',' then ⟨.value, .arr items :: rest⟩
      else if c = byte ']' then close s.frames
      else .failed
    | .after, .obj members none :: rest =>
      if c = byte ',' then ⟨.key, .obj members none :: rest⟩
      else if c = byte '}' then close s.frames
      else .failed
    | _, _ => .failed

/-- The part of a number that a byte goes on with. -/
def NumberPart.next (c : UInt8) : NumberPart → Option NumberPart
  | .sign => if c = byte '0' then some .zero else if isDigit c then some .digits else none
  | .zero =>
    if c = byte '.' then some .dot
    else if c = byte 'e' || c = byte 'E' then some .exponentMark
    else none
  | .digits =>
    if isDigit c then some .digits
    else if c = byte '.' then some .dot
    else if c = byte 'e' || c = byte 'E' then some .exponentMark
    else none
  | .dot => if isDigit c then some .fraction else none
  | .fraction =>
    if isDigit c then some .fraction
    else if c = byte 'e' || c = byte 'E' then some .exponentMark
    else none
  | .exponentMark =>
    if isDigit c then some .exponent
    else if c = byte '+' || c = byte '-' then some .exponentSign
    else none
  | .exponentSign => if isDigit c then some .exponent else none
  | .exponent => if isDigit c then some .exponent else none

def NumberPart.ends : NumberPart → Bool
  | .zero | .digits | .fraction | .exponent => true
  | _ => false

/-- One byte. -/
def step (s : State) (c : UInt8) : State :=
  match s.mode with
  | .value => if isSpace c then s else beginValue c s.frames
  | .valueOrEnd =>
    if isSpace c then s else if c = byte ']' then close s.frames else beginValue c s.frames
  | .keyOrEnd =>
    if isSpace c then s
    else if c = byte '}' then close s.frames
    else if c = byte '"' then ⟨.string true [], s.frames⟩
    else .failed
  | .key =>
    if isSpace c then s else if c = byte '"' then ⟨.string true [], s.frames⟩ else .failed
  | .colon => if isSpace c then s else if c = byte ':' then ⟨.value, s.frames⟩ else .failed
  | .after => afterValue c s
  | .string isKey text =>
    if c = byte '"' then endString isKey text s.frames
    else if c = byte '\\' then ⟨.escape isKey (c :: text), s.frames⟩
    else if c < 0x20 then .failed
    else ⟨.string isKey (c :: text), s.frames⟩
  | .escape isKey text =>
    if c = byte 'u' then ⟨.hex isKey (c :: text) 3, s.frames⟩
    else if c ∈ bytes "\"\\/bfnrt" then ⟨.string isKey (c :: text), s.frames⟩
    else .failed
  | .hex isKey text left =>
    if (hexValue c).isNone then .failed
    else
      match left with
      | 0 => ⟨.string isKey (c :: text), s.frames⟩
      | left + 1 => ⟨.hex isKey (c :: text) left, s.frames⟩
  | .number part text =>
    match part.next c with
    | some part => ⟨.number part (c :: text), s.frames⟩
    | none =>
      if part.ends then afterValue c (complete (.num text.reverse) s.frames) else .failed
  | .literal rest v =>
    match rest with
    | [] => .failed
    | d :: rest =>
      if c = d then if rest = [] then complete v s.frames else ⟨.literal rest v, s.frames⟩
      else .failed
  | .done _ => afterValue c s
  | .fail => .failed

/-- The end of the text, where a number may end. -/
def finish (s : State) : Option JsonValue :=
  match s.mode, s.frames with
  | .done v, _ => some v
  | .number part text, [] => if part.ends then some (.num text.reverse) else none
  | _, _ => none

end JsonText

open JsonText

/-- The value that a text is. -/
def parseJson (text : Bytes) : Option JsonValue := finish (text.foldl step State.start)

namespace JsonText

/-! ### What follows a value -/

theorem failed_foldl (text : Bytes) : text.foldl step .failed = .failed := by
  induction text with
  | nil => rfl
  | cons c text ih => exact ih

/-- After a value there is nothing but blanks. -/
theorem done_foldl (v : JsonValue) (frames : List Frame) : ∀ text : Bytes,
    text.foldl step ⟨.done v, frames⟩ = ⟨.done v, frames⟩ ∧ (∀ c ∈ text, isSpace c = true) ∨
      text.foldl step ⟨.done v, frames⟩ = .failed := by
  intro text
  induction text with
  | nil => exact Or.inl ⟨rfl, fun c hc => nomatch hc⟩
  | cons c text ih =>
    have hstep : step ⟨.done v, frames⟩ c = if isSpace c then ⟨.done v, frames⟩ else .failed := rfl
    rw [List.foldl_cons, hstep]
    by_cases hc : isSpace c = true
    · rw [if_pos hc]
      rcases ih with ⟨hsame, hspaces⟩ | hfailed
      · exact Or.inl ⟨hsame, List.forall_mem_cons.mpr ⟨hc, hspaces⟩⟩
      · exact Or.inr hfailed
    · rw [if_neg hc]
      exact Or.inr (failed_foldl text)

/-- A line break ends the value where the text may end. -/
theorem step_newline {s : State} {v : JsonValue} (h : finish s = some v) :
    ∃ frames, step s newline = ⟨.done v, frames⟩ := by
  obtain ⟨mode, frames⟩ := s
  cases mode with
  | done v' =>
    cases h
    exact ⟨frames, rfl⟩
  | number part text =>
    cases frames with
    | cons frame frames => cases h
    | nil =>
      have hends : part.ends = true := by
        by_contra hnot
        have hnone : finish ⟨.number part text, []⟩ = none := if_neg hnot
        rw [hnone] at h
        cases h
      have hv : finish ⟨.number part text, []⟩ = some (.num text.reverse) := if_pos hends
      rw [hv] at h
      cases h
      refine ⟨[], ?_⟩
      cases part <;> first | rfl | cases hends
  | _ => cases h

/-- **A value with a line after it is no value**, unless the line is blank. -/
theorem parseJson_trailing {text rest : Bytes} {v : JsonValue} (h : parseJson text = some v)
    {c : UInt8} (hc : c ∈ rest) (hspace : isSpace c = false) :
    parseJson (text ++ newline :: rest) = none := by
  obtain ⟨frames, hnewline⟩ := step_newline h
  unfold parseJson
  rw [List.foldl_append, List.foldl_cons, hnewline]
  rcases done_foldl v frames rest with ⟨-, hspaces⟩ | hfailed
  · rw [hspaces c hc] at hspace
    cases hspace
  · rw [hfailed]
    rfl

example : parseJson (bytes "\x7b\"id\": [1.50, \"a\\u0062\"]\x7d ") =
    some (.obj [(bytes "id", .arr [.num (bytes "1.50"), .str (bytes "ab")])]) := by rfl

end JsonText

end CrownClash.Lib
