import Mathlib.Algebra.Group.Int.Defs
import Mathlib.Data.List.Basic
import Mathlib.Data.List.Infix

/-!
# Texts as bytes

A text that comes over the wire is any sequence of bytes.  This module has what is read
out of one without a look at its encoding: its lines, hexadecimal digits, decimal
numbers, and the parameters of a query with their percent encoding.

`splitOn_join` says that a joined list of texts splits where its texts do, wherever a
separator comes from; `cut_eq_some` takes a text apart at its first separator.
-/

namespace CrownClash.Lib

abbrev Bytes := List UInt8

/-- The bytes of a text that is written down. -/
def bytes (s : String) : Bytes := s.toUTF8.data.toList

def newline : UInt8 := 0x0A

/-! ### Cutting and joining -/

/-- What is before the first separator, and what is after it, if there is one. -/
def cut (sep : UInt8) : Bytes → Bytes × Option Bytes
  | [] => ([], none)
  | c :: s => if c = sep then ([], some s) else (c :: (cut sep s).1, (cut sep s).2)

theorem cut_eq_some {sep : UInt8} {a b : Bytes} : ∀ {s : Bytes}, cut sep s = (a, some b) →
    s = a ++ sep :: b := by
  intro s
  induction s generalizing a with
  | nil => intro h; cases h
  | cons c s ih =>
    intro h
    unfold cut at h
    split at h
    next hc =>
      cases h
      rw [hc]
      rfl
    · obtain ⟨ha, hb⟩ := Prod.mk.inj h
      rw [ih (Prod.ext rfl hb), ← ha]
      rfl

def join (sep : UInt8) (texts : List Bytes) : Bytes := [sep].intercalate texts

theorem join_cons_cons (sep : UInt8) (text next : Bytes) (texts : List Bytes) :
    join sep (text :: next :: texts) = text ++ sep :: join sep (next :: texts) := by
  simp [join]

/-- **The pieces of a joined list are the pieces of its texts.** -/
theorem splitOn_join {sep : UInt8} : ∀ {texts : List Bytes}, texts ≠ [] →
    (join sep texts).splitOn sep = texts.flatMap (List.splitOn sep) := by
  intro texts
  induction texts with
  | nil => intro h; exact absurd rfl h
  | cons text texts ih =>
    intro _
    cases texts with
    | nil => simp [join]
    | cons next texts =>
      have hsplit : (text ++ sep :: join sep (next :: texts)).splitOn sep =
          text.splitOn sep ++ (join sep (next :: texts)).splitOn sep :=
        List.splitOnP_append_cons _ _ (by simp)
      rw [join_cons_cons, hsplit, ih (List.cons_ne_nil _ _), ← List.flatMap_cons]

/-- Texts without a separator are the pieces of the list they are joined to. -/
theorem splitOn_join_of_notMem {sep : UInt8} {texts : List Bytes} (hne : texts ≠ [])
    (h : ∀ text ∈ texts, sep ∉ text) : (join sep texts).splitOn sep = texts :=
  List.splitOn_intercalate sep h hne

/-! ### Numbers -/

def digitValue (c : UInt8) : Option ℕ :=
  if 0x30 ≤ c ∧ c ≤ 0x39 then some (c.toNat - 0x30) else none

/-- Decimal digits, of which there is at least one. -/
def parseDigits (s : Bytes) : Option ℕ :=
  if s = [] then none
  else s.foldl (fun n c => n.bind fun n => (digitValue c).map fun d => 10 * n + d) (some 0)

/-- A decimal number with or without a sign, as far as it fits into 64 bits. -/
def parseInt64 (s : Bytes) : Option ℤ :=
  let parsed : Option ℤ :=
    match s with
    | 0x2D :: digits => (parseDigits digits).map fun n : ℕ => -(n : ℤ)
    | 0x2B :: digits => (parseDigits digits).map fun n : ℕ => (n : ℤ)
    | digits => (parseDigits digits).map fun n : ℕ => (n : ℤ)
  parsed.filter fun n => -2 ^ 63 ≤ n ∧ n < 2 ^ 63

theorem parseDigits_digit {s : Bytes} {n : ℕ} (h : parseDigits s = some n) :
    ∀ c ∈ s, (digitValue c).isSome := by
  have hnone : ∀ s : Bytes, s.foldl (fun n c => n.bind fun n => (digitValue c).map fun d =>
      10 * n + d) none = (none : Option ℕ) := by
    intro s
    induction s with
    | nil => rfl
    | cons c s ih => exact ih
  have hdigits : ∀ (s : Bytes) (m : ℕ), (s.foldl (fun n c => n.bind fun n =>
      (digitValue c).map fun d => 10 * n + d) (some m)).isSome →
      ∀ c ∈ s, (digitValue c).isSome := by
    intro s
    induction s with
    | nil => intro m _ c hc; cases hc
    | cons d s ih =>
      intro m hsome c hc
      rw [List.foldl_cons] at hsome
      cases hd : digitValue d with
      | none =>
        rw [hd] at hsome
        change (s.foldl _ none).isSome = true at hsome
        rw [hnone] at hsome
        cases hsome
      | some v =>
        rw [hd] at hsome
        rcases List.mem_cons.mp hc with rfl | hc
        · rw [hd]
          rfl
        · exact ih (10 * m + v) hsome c hc
  unfold parseDigits at h
  split at h
  · cases h
  · exact hdigits s 0 (by rw [h]; rfl)

/-- **A number has no line break.** -/
theorem newline_notMem_of_parseInt64 {s : Bytes} {n : ℤ} (h : parseInt64 s = some n) :
    newline ∉ s := by
  have hdigits : ∀ {digits : Bytes}, (∃ m, parseDigits digits = some m) → newline ∉ digits := by
    rintro digits ⟨m, hm⟩ hmem
    have hsome := parseDigits_digit hm newline hmem
    revert hsome
    decide
  unfold parseInt64 at h
  obtain ⟨hparsed, -⟩ := Option.filter_eq_some_iff.mp h
  split at hparsed
  · obtain ⟨m, hm, -⟩ := Option.map_eq_some_iff.mp hparsed
    intro hmem
    rcases List.mem_cons.mp hmem with hc | hmem
    · revert hc
      decide
    · exact hdigits ⟨m, hm⟩ hmem
  · obtain ⟨m, hm, -⟩ := Option.map_eq_some_iff.mp hparsed
    intro hmem
    rcases List.mem_cons.mp hmem with hc | hmem
    · revert hc
      decide
    · exact hdigits ⟨m, hm⟩ hmem
  · obtain ⟨m, hm, -⟩ := Option.map_eq_some_iff.mp hparsed
    exact hdigits ⟨m, hm⟩

/-! ### Hexadecimal digits and percent encoding -/

def hexValue (c : UInt8) : Option UInt8 :=
  if 0x30 ≤ c ∧ c ≤ 0x39 then some (c - 0x30)
  else if 0x61 ≤ c ∧ c ≤ 0x66 then some (c - 0x61 + 10)
  else if 0x41 ≤ c ∧ c ≤ 0x46 then some (c - 0x41 + 10)
  else none

/-- Two digits for each byte. -/
def decodeHex : Bytes → Option Bytes
  | [] => some []
  | [_] => none
  | high :: low :: s =>
    match hexValue high, hexValue low, decodeHex s with
    | some h, some l, some rest => some ((h * 16 + l) :: rest)
    | _, _, _ => none

/-- A component of a query: plus signs are blanks, and a percent sign comes with two
digits. -/
def queryUnescape : Bytes → Option Bytes
  | [] => some []
  | 0x25 :: high :: low :: s =>
    match hexValue high, hexValue low, queryUnescape s with
    | some h, some l, some rest => some ((h * 16 + l) :: rest)
    | _, _, _ => none
  | 0x25 :: _ => none
  | 0x2B :: s => (queryUnescape s).map (0x20 :: ·)
  | c :: s => (queryUnescape s).map (c :: ·)

/-- A key and its value; without an equals sign the value is empty. -/
def queryPair (piece : Bytes) : Option (Bytes × Bytes) :=
  let parts := cut 0x3D piece
  match queryUnescape parts.1, queryUnescape (parts.2.getD []) with
  | some key, some value => some (key, value)
  | _, _ => none

/-- How many parameters a query may have. -/
def maxQueryParams : ℕ := 10000

/-- The parameters of a query in their order.  Pieces may be empty; one with a semicolon
or a wrong escape makes the query an error. -/
def parseQuery (raw : Bytes) : Option (List (Bytes × Bytes)) :=
  let pieces := raw.splitOn 0x26
  if maxQueryParams < pieces.length then none
  else
    (pieces.filter (· ≠ [])).mapM fun piece =>
      if 0x3B ∈ piece then none else queryPair piece

end CrownClash.Lib
