import Mathlib.Data.List.Basic
import Mathlib.Data.List.Infix

/-!
# Texts that are cut by bytes and by characters

A text in UTF-8 can be cut after `n` bytes if it is not longer, or if the byte that
follows starts a character (`CutsWhole`).  Only then is the front a text again, and then it
is made of the first characters of the text (`isValidUTF8_extract_iff`,
`CutsWhole.wholePrefix`).

`runes` takes any bytes apart into characters; of a text it gives back its own
(`runes_toByteArray`).
-/

namespace CrownClash.Lib

/-- The bytes are the first characters of the text. -/
def WholePrefix (s : String) (b : ByteArray) : Prop :=
  ∃ head : List Char, head <+: s.toList ∧ b = head.utf8Encode

/-- The text ends at `n` bytes or before, or a character starts there. -/
def CutsWhole (n : ℕ) (s : String) : Prop :=
  s.toByteArray.size ≤ n ∨ ∃ h : n < s.toByteArray.size, s.toByteArray[n].IsUTF8FirstByte

instance {n : ℕ} {s : String} : Decidable (CutsWhole n s) :=
  inferInstanceAs (Decidable (_ ∨ _))

theorem wholePrefix_self (s : String) : WholePrefix s s.toByteArray :=
  ⟨s.toList, List.prefix_refl _, by rw [String.utf8Encode_toList]⟩

/-- A cut inside the text is valid where a character starts. -/
theorem isValid_iff {n : ℕ} {s : String} (h : n < s.toByteArray.size) :
    (⟨n⟩ : String.Pos.Raw).IsValid s ↔ s.toByteArray[n].IsUTF8FirstByte := by
  rw [String.Pos.Raw.isValid_iff_isUTF8FirstByte]
  constructor
  · rintro (hend | hinside)
    · have hn : n = s.toByteArray.size := congrArg String.Pos.Raw.byteIdx hend
      omega
    · exact hinside.2
  · intro hbyte
    exact Or.inr ⟨h, hbyte⟩

theorem extract_of_size_le {n : ℕ} {b : ByteArray} (h : b.size ≤ n) : b.extract 0 n = b := by
  have hall := @ByteArray.extract_zero_max_size b n
  rwa [max_eq_left h] at hall

/-- **What is in front of a cut is a text exactly if the cut is between characters.** -/
theorem isValidUTF8_extract_iff {n : ℕ} {s : String} :
    (s.toByteArray.extract 0 n).IsValidUTF8 ↔ CutsWhole n s := by
  by_cases hn : n < s.toByteArray.size
  · have hraw : (⟨n⟩ : String.Pos.Raw) ≤ s.rawEndPos := hn.le
    have hvalid := @String.Pos.Raw.isValid_iff_isValidUTF8_extract_zero s ⟨n⟩
    rw [isValid_iff hn, and_iff_right hraw] at hvalid
    rw [← hvalid]
    constructor
    · intro h
      exact Or.inr ⟨hn, h⟩
    · rintro (hlong | hinside)
      · omega
      · exact hinside.2
  · have hlong : s.toByteArray.size ≤ n := by omega
    rw [extract_of_size_le hlong]
    exact ⟨fun _ => Or.inl hlong, fun _ => s.isValidUTF8⟩

/-- And then it is made of the first characters. -/
theorem CutsWhole.wholePrefix {n : ℕ} {s : String} (h : CutsWhole n s) :
    WholePrefix s (s.toByteArray.extract 0 n) := by
  by_cases hn : n < s.toByteArray.size
  · have hraw : (⟨n⟩ : String.Pos.Raw) ≤ s.rawEndPos := hn.le
    have hvalid : (⟨n⟩ : String.Pos.Raw).IsValid s :=
      String.Pos.Raw.isValid_iff_isValidUTF8_extract_zero.mpr
        ⟨hraw, isValidUTF8_extract_iff.mpr h⟩
    obtain ⟨head, rest, hhead, hs⟩ := hvalid.exists
    refine ⟨head, ⟨rest, ?_⟩, hhead.symm⟩
    rw [← hs, String.toList_ofList]
  · rw [extract_of_size_le (by omega)]
    exact wholePrefix_self s

/-! ### Characters -/

/-- The characters of some bytes, one after the other; a byte that starts none is replaced.  The
fuel is the number of bytes. -/
def runesFrom : ℕ → ByteArray → List Char
  | 0, _ => []
  | fuel + 1, b =>
    if b.size = 0 then []
    else
      match b.utf8DecodeChar? 0 with
      | some c => c :: runesFrom fuel (b.extract c.utf8Size b.size)
      | none => '\uFFFD' :: runesFrom fuel (b.extract 1 b.size)

def runes (b : ByteArray) : List Char := runesFrom b.size b

theorem runesFrom_utf8Encode : ∀ {cs : List Char} {fuel : ℕ}, cs.utf8Encode.size ≤ fuel →
    runesFrom fuel cs.utf8Encode = cs := by
  intro cs
  induction cs with
  | nil =>
    intro fuel _
    cases fuel with
    | zero => rfl
    | succ fuel => rfl
  | cons c cs ih =>
    intro fuel hfuel
    have hcons : (c :: cs).utf8Encode = [c].utf8Encode ++ cs.utf8Encode := List.utf8Encode_cons
    have hsize : ([c].utf8Encode).size = c.utf8Size := by
      rw [List.utf8Encode_singleton, List.size_toByteArray, String.length_utf8EncodeChar]
    have hpos := c.utf8Size_pos
    have hall : ((c :: cs).utf8Encode).size = c.utf8Size + cs.utf8Encode.size := by
      rw [hcons, ByteArray.size_append, hsize]
    have hrest : (c :: cs).utf8Encode.extract c.utf8Size (c :: cs).utf8Encode.size
        = cs.utf8Encode := by
      rw [hall, hcons]
      exact ByteArray.extract_append_eq_right hsize.symm (by rw [hsize])
    cases fuel with
    | zero => omega
    | succ fuel =>
      unfold runesFrom
      rw [if_neg (by omega), List.utf8DecodeChar?_utf8Encode_cons]
      show c :: runesFrom fuel ((c :: cs).utf8Encode.extract c.utf8Size (c :: cs).utf8Encode.size)
        = c :: cs
      rw [hrest, ih (by omega)]

/-- **A text is taken apart into its own characters.** -/
theorem runes_toByteArray (s : String) : runes s.toByteArray = s.toList := by
  rw [← String.utf8Encode_toList]
  exact runesFrom_utf8Encode le_rfl

end CrownClash.Lib
