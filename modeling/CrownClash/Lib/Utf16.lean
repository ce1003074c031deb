import Mathlib.Data.List.Basic
import Mathlib.Data.List.Infix
import Mathlib.Algebra.Ring.Nat
import Mathlib.Tactic.Common

/-!
# Texts in units of sixteen bits, decoded

A text of sixteen-bit units need not be well formed: a surrogate may stand alone, and it
is decoded as the replacement character.  Two surrogates in order make one character, and
every other unit is a character.

The units below `0x80` are the same on both sides (`mem_decode_iff`, `infix_decode_iff`),
and a text never gets longer (`length_decode_le`).
-/

namespace CrownClash.Lib

abbrev Units := List UInt16

/-- A text is read unit by unit, not unit by possible unit. -/
instance (priority := high) decidableForallUnits {P : UInt16 → Prop} [DecidablePred P]
    (us : Units) : Decidable (∀ u ∈ us, P u) := List.decidableBAll P us

/-- The units of a text that is written down, of characters of the first plane. -/
def units (s : String) : Units := s.toList.map fun c => UInt16.ofNat c.toNat

def isHighSurrogate (u : UInt16) : Bool := 0xD800 ≤ u && u ≤ 0xDBFF

def isLowSurrogate (u : UInt16) : Bool := 0xDC00 ≤ u && u ≤ 0xDFFF

/-- The character of a unit that makes no pair. -/
def decodeUnit (u : UInt16) : Char :=
  if isHighSurrogate u || isLowSurrogate u then '\uFFFD' else Char.ofNat u.toNat

def decodePair (u v : UInt16) : Char :=
  Char.ofNat (0x10000 + (u.toNat - 0xD800) * 0x400 + (v.toNat - 0xDC00))

def decode : Units → List Char
  | [] => []
  | [u] => [decodeUnit u]
  | u :: v :: us =>
    if isHighSurrogate u && isLowSurrogate v then decodePair u v :: decode us
    else decodeUnit u :: decode (v :: us)

/-- How many bytes the characters take in UTF-8. -/
def utf8Length (cs : List Char) : ℕ := (cs.map Char.utf8Size).sum

/-- A unit below `0x80`. -/
def IsAscii (u : UInt16) : Prop := u.toNat < 0x80

theorem length_decode_le : ∀ us : Units, (decode us).length ≤ us.length := by
  intro us
  induction us using decode.induct with
  | case1 => exact le_refl _
  | case2 u => exact le_refl _
  | case3 u v us hpair ih =>
    rw [decode, if_pos hpair, List.length_cons, List.length_cons, List.length_cons]
    omega
  | case4 u v us hpair ih =>
    rw [decode, if_neg hpair, List.length_cons, List.length_cons]
    omega

/-- A unit below `0x80` is decoded on its own. -/
theorem decode_cons_of_ascii {u : UInt16} (h : IsAscii u) (us : Units) :
    decode (u :: us) = Char.ofNat u.toNat :: decode us := by
  have hunit : (isHighSurrogate u || isLowSurrogate u) = false := by
    unfold IsAscii at h
    simp only [isHighSurrogate, isLowSurrogate, UInt16.le_iff_toNat_le]
    simp
    omega
  have hhigh : isHighSurrogate u = false := (Bool.or_eq_false_iff.mp hunit).1
  have hchar : decodeUnit u = Char.ofNat u.toNat := by
    unfold decodeUnit
    rw [hunit]
    rfl
  cases us with
  | nil =>
    show [decodeUnit u] = [Char.ofNat u.toNat]
    rw [hchar]
  | cons v us =>
    rw [decode, hhigh, Bool.false_and, if_neg Bool.false_ne_true, hchar]


theorem toNat_charOfNat {n : ℕ} (h : n.isValidChar) : (Char.ofNat n).toNat = n := by
  unfold Char.ofNat
  rw [dif_pos h]
  rfl

/-- And no other unit is decoded to one of these characters. -/
theorem decodeUnit_toNat {u : UInt16} (h : ¬ IsAscii u) : 0x80 ≤ (decodeUnit u).toNat := by
  unfold decodeUnit
  split
  · decide
  · next hnone =>
    have hu : u.toNat < 0x10000 := u.toNat_lt
    have hvalid : u.toNat.isValidChar := by
      simp only [isHighSurrogate, isLowSurrogate, UInt16.le_iff_toNat_le] at hnone
      simp at hnone
      unfold Nat.isValidChar
      omega
    rw [toNat_charOfNat hvalid]
    exact not_lt.mp h

theorem decodePair_toNat {u v : UInt16} (hu : isHighSurrogate u = true)
    (hv : isLowSurrogate v = true) : 0x80 ≤ (decodePair u v).toNat := by
  simp only [isHighSurrogate, isLowSurrogate, Bool.and_eq_true, decide_eq_true_eq,
    UInt16.le_iff_toNat_le] at hu hv
  have hhigh : u.toNat ≤ 0xDBFF := hu.2
  have hhigh' : 0xD800 ≤ u.toNat := hu.1
  have hlow : v.toNat ≤ 0xDFFF := hv.2
  have hlow' : 0xDC00 ≤ v.toNat := hv.1
  have hvalid : (0x10000 + (u.toNat - 0xD800) * 0x400 + (v.toNat - 0xDC00)).isValidChar := by
    unfold Nat.isValidChar
    omega
  unfold decodePair
  rw [toNat_charOfNat hvalid]
  omega

/-- A text that starts with another unit decodes to one that starts with another character. -/
theorem decode_cons_of_not_ascii {u : UInt16} (h : ¬ IsAscii u) (us : Units) :
    ∃ c rest, decode (u :: us) = c :: rest ∧ 0x80 ≤ c.toNat := by
  cases us with
  | nil => exact ⟨decodeUnit u, [], rfl, decodeUnit_toNat h⟩
  | cons v us =>
    by_cases hpair : (isHighSurrogate u && isLowSurrogate v) = true
    · rw [decode, if_pos hpair]
      have hboth := Bool.and_eq_true_iff.mp hpair
      exact ⟨_, _, rfl, decodePair_toNat hboth.1 hboth.2⟩
    · rw [decode, if_neg hpair]
      exact ⟨_, _, rfl, decodeUnit_toNat h⟩

theorem toNat_ofNat_of_ascii {u : UInt16} (h : IsAscii u) :
    (Char.ofNat u.toNat).toNat = u.toNat := by
  have hvalid : u.toNat.isValidChar := by
    unfold IsAscii at h
    unfold Nat.isValidChar
    omega
  rw [toNat_charOfNat hvalid]

theorem low_false_of_ascii {u : UInt16} (h : IsAscii u) : isLowSurrogate u = false := by
  unfold IsAscii at h
  unfold isLowSurrogate
  rw [Bool.and_eq_false_iff]
  left
  rw [decide_eq_false_iff_not, UInt16.le_iff_toNat_le]
  have hlow : (0xDC00 : UInt16).toNat = 0xDC00 := rfl
  omega

/-- A unit below `0x80` separates what is decoded in front of it from what follows. -/
theorem decode_append_ascii {x : UInt16} (hx : IsAscii x) (rest : Units) : ∀ us : Units,
    decode (us ++ x :: rest) = decode us ++ Char.ofNat x.toNat :: decode rest := by
  intro us
  induction us using decode.induct with
  | case1 => exact decode_cons_of_ascii hx rest
  | case2 u =>
    show decode (u :: x :: rest) = decodeUnit u :: Char.ofNat x.toNat :: decode rest
    rw [decode, low_false_of_ascii hx, Bool.and_false, if_neg Bool.false_ne_true,
      decode_cons_of_ascii hx]
  | case3 u v us hpair ih =>
    show decode (u :: v :: (us ++ x :: rest)) = _
    rw [decode, if_pos hpair, decode, if_pos hpair, ih, List.cons_append]
  | case4 u v us hpair ih =>
    show decode (u :: v :: (us ++ x :: rest)) = _
    rw [decode, if_neg hpair, decode, if_neg hpair, List.cons_append, ← ih, List.cons_append]

theorem utf8Length_append (s t : List Char) :
    utf8Length (s ++ t) = utf8Length s + utf8Length t := by
  unfold utf8Length
  rw [List.map_append, List.sum_append]

theorem prefix_decode_iff : ∀ {needle us : Units}, (∀ u ∈ needle, IsAscii u) →
    (needle.map (fun u => Char.ofNat u.toNat) <+: decode us ↔ needle <+: us) := by
  intro needle
  induction needle with
  | nil =>
    intro us _
    exact ⟨fun _ => List.nil_prefix, fun _ => List.nil_prefix⟩
  | cons x needle ih =>
    intro us hneedle
    have hx := hneedle x List.mem_cons_self
    have hrest : ∀ u ∈ needle, IsAscii u := fun u hu => hneedle u (List.mem_cons_of_mem x hu)
    cases us with
    | nil =>
      show _ <+: [] ↔ _
      rw [List.map_cons, List.prefix_nil, List.prefix_nil]
      exact ⟨fun h => (nomatch h), fun h => (nomatch h)⟩
    | cons u us =>
      rw [List.map_cons, List.cons_prefix_cons]
      by_cases hu : IsAscii u
      · rw [decode_cons_of_ascii hu, List.cons_prefix_cons, ih hrest]
        have hsame : Char.ofNat x.toNat = Char.ofNat u.toNat ↔ x = u := by
          constructor
          · intro heq
            have hnat := congrArg Char.toNat heq
            rw [toNat_ofNat_of_ascii hx, toNat_ofNat_of_ascii hu] at hnat
            exact UInt16.toNat_inj.mp hnat
          · rintro rfl
            rfl
        rw [hsame]
      · obtain ⟨c, rest, hdecode, hc⟩ := decode_cons_of_not_ascii hu us
        rw [hdecode, List.cons_prefix_cons]
        constructor
        · rintro ⟨rfl, -⟩
          rw [toNat_ofNat_of_ascii hx] at hc
          exact absurd hx (not_lt.mpr hc)
        · rintro ⟨rfl, -⟩
          exact absurd hx hu

theorem not_ascii_of_high {u : UInt16} (h : isHighSurrogate u = true) : ¬ IsAscii u := by
  simp only [isHighSurrogate, Bool.and_eq_true, decide_eq_true_eq, UInt16.le_iff_toNat_le] at h
  have hhigh : 0xD800 ≤ u.toNat := h.1
  unfold IsAscii
  omega

theorem not_ascii_of_low {u : UInt16} (h : isLowSurrogate u = true) : ¬ IsAscii u := by
  simp only [isLowSurrogate, Bool.and_eq_true, decide_eq_true_eq, UInt16.le_iff_toNat_le] at h
  have hlow : 0xDC00 ≤ u.toNat := h.1
  unfold IsAscii
  omega

/-- **A text below `0x80` is in the decoded text where it is in the units.** -/
theorem infix_decode_iff {x : UInt16} {needle : Units} (hneedle : ∀ u ∈ x :: needle, IsAscii u) :
    ∀ {us : Units}, ((x :: needle).map (fun u => Char.ofNat u.toNat) <:+: decode us ↔
      x :: needle <:+: us) := by
  intro us
  have hstart : ∀ {u : UInt16} {us : Units}, ¬ IsAscii u → ¬ x :: needle <+: u :: us := by
    intro u us hu hprefix
    have hx := (List.cons_prefix_cons.mp hprefix).1
    exact hu (hx ▸ hneedle x List.mem_cons_self)
  induction us using decode.induct with
  | case1 =>
    rw [decode, List.map_cons, List.infix_nil, List.infix_nil]
    exact ⟨fun h => (nomatch h), fun h => (nomatch h)⟩
  | case2 u =>
    have hp := @prefix_decode_iff (x :: needle) [u] hneedle
    have hdecode : decode [u] = [decodeUnit u] := rfl
    rw [hdecode] at hp ⊢
    rw [List.infix_cons_iff, hp, List.infix_cons_iff, List.map_cons, List.infix_nil,
      List.infix_nil]
    simp
  | case3 u v us hpair ih =>
    have hp := @prefix_decode_iff (x :: needle) (u :: v :: us) hneedle
    have hboth := Bool.and_eq_true_iff.mp hpair
    have hu := not_ascii_of_high hboth.1
    have hv := not_ascii_of_low hboth.2
    rw [decode, if_pos hpair] at hp ⊢
    have hrest : _ ↔ _ := ih
    rw [List.infix_cons_iff, hp, hrest, List.infix_cons_iff, List.infix_cons_iff]
    constructor
    · rintro (h | h)
      · exact Or.inl h
      · exact Or.inr (Or.inr h)
    · rintro (h | h | h)
      · exact Or.inl h
      · exact absurd h (hstart hv)
      · exact Or.inr h
  | case4 u v us hpair ih =>
    have hp := @prefix_decode_iff (x :: needle) (u :: v :: us) hneedle
    have hrest : _ ↔ _ := ih
    rw [decode, if_neg hpair] at hp ⊢
    rw [List.infix_cons_iff, hp, hrest]
    exact List.infix_cons_iff.symm

theorem mem_decode_iff {x : UInt16} (hx : IsAscii x) {us : Units} :
    Char.ofNat x.toNat ∈ decode us ↔ x ∈ us := by
  have hone := @infix_decode_iff x [] (by simpa using hx) us
  rw [List.map_cons, List.map_nil, List.singleton_infix_iff, List.singleton_infix_iff] at hone
  exact hone

theorem decode_of_ascii : ∀ {us : Units}, (∀ u ∈ us, IsAscii u) →
    decode us = us.map fun u => Char.ofNat u.toNat := by
  intro us
  induction us with
  | nil => intro _; rfl
  | cons u us ih =>
    intro h
    rw [decode_cons_of_ascii (h u List.mem_cons_self),
      ih fun v hv => h v (List.mem_cons_of_mem u hv), List.map_cons]


/-- A fact about the units below `0x80`, one by one. -/
theorem forall_ascii {P : UInt16 → Prop} (h : ∀ n < 0x80, P (UInt16.ofNat n)) {u : UInt16}
    (hu : IsAscii u) : P u := by
  have := h u.toNat hu
  rwa [UInt16.ofNat_toNat] at this

end CrownClash.Lib
