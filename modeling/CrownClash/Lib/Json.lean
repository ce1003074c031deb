import Mathlib.Data.Rat.Floor

/-!
# JSON values

A value as an encoder writes it and a decoder reads it back, with exact numbers.
The fields of an object stand in the order they are written; `Json.get?` reads one
of them as a script does, where a field that is missing, or a field of something
that is no object, is undefined.
-/

namespace CrownClash.Lib

inductive Json
  | null
  | bool (b : Bool)
  | num (n : ℚ)
  | str (s : String)
  | arr (values : List Json)
  | obj (fields : List (String × Json))

namespace Json

/-- The field under a key; `none` is undefined. -/
def get? : Json → String → Option Json
  | .obj fields, key => fields.lookup key
  | _, _ => none

/-- The last integer from which counting on is safe in a double. -/
def maxSafeInteger : ℤ := 2 ^ 53 - 1

/-- An integer that a double holds exactly, and so do its neighbours. -/
def safeInteger? : Json → Option ℤ
  | .num n => if n.den = 1 ∧ |n.num| ≤ maxSafeInteger then some n.num else none
  | _ => none

def str? : Json → Option String
  | .str s => some s
  | _ => none

def bool? : Json → Option Bool
  | .bool b => some b
  | _ => none

def arr? : Json → Option (List Json)
  | .arr values => some values
  | _ => none

def isNum : Json → Bool
  | .num _ => true
  | _ => false

def isObj : Json → Bool
  | .obj _ => true
  | _ => false

def ofInt (n : ℤ) : Json := .num n

@[simp] theorem safeInteger?_ofInt (n : ℤ) :
    (ofInt n).safeInteger? = if |n| ≤ maxSafeInteger then some n else none := by
  unfold ofInt safeInteger?
  simp

/-! ### Text -/

/-- The hexadecimal digit of a number below sixteen. -/
def hexDigit (n : ℕ) : String := ("0123456789abcdef".toList.getD n '0').toString

/-- A character of a string literal: quotes, backslashes and control characters are
escaped. -/
def escape (c : Char) : String :=
  if c.toNat = 0x22 then "\\\""
  else if c.toNat = 0x5c then "\\\\"
  else if c.toNat = 0x08 then "\\b"
  else if c.toNat = 0x0c then "\\f"
  else if c.toNat = 0x0a then "\\n"
  else if c.toNat = 0x0d then "\\r"
  else if c.toNat = 0x09 then "\\t"
  else if c.toNat < 0x20 then "\\u00" ++ hexDigit (c.toNat / 16) ++ hexDigit (c.toNat % 16)
  else c.toString

/-- A string as it stands in a text. -/
def quote (s : String) : String := "\"" ++ String.join (s.toList.map escape) ++ "\""

@[simp] theorem str?_str (s : String) : (str s).str? = some s := rfl

@[simp] theorem arr?_arr (values : List Json) : (arr values).arr? = some values := rfl

end Json

end CrownClash.Lib
