import CrownClash.Go.ClientErrors
import CrownClash.Ts.ClientErrors
import Mathlib.Algebra.BigOperators.Group.List.Basic
import Mathlib.Data.List.ReduceOption

/-!
# Client and server: the source of an error

The client writes a file name and up to two positions, each behind a colon, and cuts the
text at 96 units; the server asks for a name and up to two positions of digits.  So the cut
must not fall right behind a colon, and as far as a position is shown it has to be made of
digits (`PositionShown`, `sourceText_take_iff`).
-/

namespace CrownClash.Parity

open Lib

section

variable {α : Type}

/-- What is shown of the positions when there is room for `room` characters, colons included. -/
def PositionShown (digit : α → Bool) : ℕ → List (List α) → Prop
  | _, [] => True
  | room, t :: ts =>
    room = 0 ∨ (1 < room ∧ (∀ c ∈ t.take (room - 1), digit c = true) ∧
      PositionShown digit (room - 1 - t.length) ts)

/-- At most `n` positions of digits, each behind a colon. -/
def Positions (digit : α → Bool) (colon : α) (n : ℕ) (s : List α) : Prop :=
  ∃ ds : List (List α), ds.length ≤ n ∧ (∀ d ∈ ds, d ≠ [] ∧ ∀ c ∈ d, digit c = true) ∧
    s = ds.flatMap (colon :: ·)

/-- Nothing, or a colon and more. -/
def ColonFirst (colon : α) (s : List α) : Prop := s = [] ∨ ∃ rest, s = colon :: rest

theorem colonFirst_flatMap (colon : α) (ts : List (List α)) :
    ColonFirst colon (ts.flatMap (colon :: ·)) := by
  cases ts with
  | nil => exact Or.inl rfl
  | cons t ts => exact Or.inr ⟨t ++ ts.flatMap (colon :: ·), rfl⟩

theorem ColonFirst.take {colon : α} {s : List α} (h : ColonFirst colon s) (n : ℕ) :
    ColonFirst colon (s.take n) := by
  rcases h with rfl | ⟨rest, rfl⟩
  · exact Or.inl List.take_nil
  · cases n with
    | zero => exact Or.inl rfl
    | succ n => exact Or.inr ⟨rest.take n, rfl⟩

/-- Two texts of a class that has no colon are the same if they are followed by a colon or nothing
in the same text. -/
theorem append_colonFirst_inj {p : α → Bool} {colon : α} (hcolon : p colon = false)
    {a b s t : List α} (ha : ∀ c ∈ a, p c = true) (hb : ∀ c ∈ b, p c = true)
    (hs : ColonFirst colon s) (ht : ColonFirst colon t) (h : a ++ s = b ++ t) : a = b ∧ s = t := by
  have hfront : ∀ {a s : List α}, (∀ c ∈ a, p c = true) → ColonFirst colon s →
      (a ++ s).takeWhile p = a := by
    intro a s ha hs
    rw [List.takeWhile_append_of_pos ha]
    rcases hs with rfl | ⟨rest, rfl⟩
    · rw [List.takeWhile_nil, List.append_nil]
    · rw [List.takeWhile_cons_of_neg (by simp [hcolon]), List.append_nil]
  have hsame : a = b := by
    rw [← hfront ha hs, h, hfront hb ht]
  rw [hsame] at h
  exact ⟨hsame, List.append_cancel_left h⟩

variable {digit : α → Bool} {colon : α}

theorem positions_nil (n : ℕ) : Positions digit colon n [] :=
  ⟨[], Nat.zero_le n, fun _ hd => absurd hd List.not_mem_nil, rfl⟩

theorem positions_cons (hcolon : digit colon = false) {n : ℕ} {d rest : List α}
    (hd : colon ∉ d) (hrest : ColonFirst colon rest) :
    Positions digit colon (n + 1) (colon :: (d ++ rest)) ↔
      d ≠ [] ∧ (∀ c ∈ d, digit c = true) ∧ Positions digit colon n rest := by
  classical
  constructor
  · rintro ⟨ds, hlength, hds, heq⟩
    cases ds with
    | nil => cases heq
    | cons e ds =>
      rw [List.flatMap_cons, List.cons_append, List.cons.injEq] at heq
      obtain ⟨hne, hdigits⟩ := hds e List.mem_cons_self
      have hfree : ∀ c ∈ d, (fun c => decide (c ≠ colon)) c = true := by
        intro c hc
        rw [decide_eq_true_eq]
        rintro rfl
        exact hd hc
      have hfree' : ∀ c ∈ e, (fun c => decide (c ≠ colon)) c = true := by
        intro c hc
        rw [decide_eq_true_eq]
        rintro rfl
        rw [hdigits c hc] at hcolon
        cases hcolon
      obtain ⟨rfl, rfl⟩ := append_colonFirst_inj (by simp) hfree hfree' hrest
        (colonFirst_flatMap colon ds) heq.2
      refine ⟨hne, hdigits, ds, Nat.le_of_succ_le_succ hlength, ?_, rfl⟩
      exact fun x hx => hds x (List.mem_cons_of_mem d hx)
  · rintro ⟨hne, hdigits, ds, hlength, hds, rfl⟩
    refine ⟨d :: ds, Nat.succ_le_succ hlength, fun x hx => ?_, rfl⟩
    rcases List.mem_cons.mp hx with rfl | hx
    · exact ⟨hne, hdigits⟩
    · exact hds x hx

/-- **What is left of the positions by a cut** are positions exactly if it shows them well. -/
theorem positions_take_iff (hcolon : digit colon = false) : ∀ {ts : List (List α)} {n room : ℕ},
    (∀ t ∈ ts, t ≠ [] ∧ colon ∉ t) → ts.length ≤ n →
      (Positions digit colon n ((ts.flatMap (colon :: ·)).take room) ↔
        PositionShown digit room ts) := by
  intro ts
  induction ts with
  | nil =>
    intro n room _ _
    rw [List.flatMap_nil, List.take_nil]
    exact ⟨fun _ => trivial, fun _ => positions_nil n⟩
  | cons t ts ih =>
    intro n room hts hn
    obtain ⟨hne, hfree⟩ := hts t List.mem_cons_self
    have hrest : ∀ u ∈ ts, u ≠ [] ∧ colon ∉ u := fun u hu => hts u (List.mem_cons_of_mem t hu)
    cases room with
    | zero =>
      rw [List.take_zero]
      exact ⟨fun _ => Or.inl rfl, fun _ => positions_nil n⟩
    | succ room =>
      obtain ⟨n, rfl⟩ : ∃ m, n = m + 1 := ⟨n - 1, by rw [List.length_cons] at hn; omega⟩
      have hcut : ((t :: ts).flatMap (colon :: ·)).take (room + 1)
          = colon :: (t.take room ++ (ts.flatMap (colon :: ·)).take (room - t.length)) := by
        rw [List.flatMap_cons, List.cons_append, List.take_succ_cons, List.take_append]
      rw [hcut, positions_cons hcolon (fun h => hfree (List.mem_of_mem_take h))
        ((colonFirst_flatMap colon ts).take _),
        ih hrest (Nat.le_of_succ_le_succ hn)]
      have hshown : t.take room ≠ [] ↔ 1 < room + 1 := by
        rw [ne_eq, List.take_eq_nil_iff]
        constructor
        · intro h
          by_contra hzero
          exact h (Or.inl (by omega))
        · rintro h (hzero | hnil)
          · omega
          · exact hne hnil
      rw [hshown]
      constructor
      · intro h
        exact Or.inr h
      · rintro (h | h)
        · cases h
        · exact h

theorem positionShown_map {β : Type} {digit' : β → Bool} (f : α → β)  :
    ∀ {ts : List (List α)} {room : ℕ}, (∀ t ∈ ts, ∀ c ∈ t, digit' (f c) = digit c) →
      (PositionShown digit' room (ts.map (List.map f)) ↔ PositionShown digit room ts) := by
  intro ts
  induction ts with
  | nil => intro room _; exact Iff.rfl
  | cons t ts ih =>
    intro room h
    have hrest : ∀ u ∈ ts, ∀ c ∈ u, digit' (f c) = digit c :=
      fun u hu => h u (List.mem_cons_of_mem t hu)
    have hdigits : (∀ c ∈ (t.map f).take (room - 1), digit' c = true) ↔
        ∀ c ∈ t.take (room - 1), digit c = true := by
      rw [← List.map_take, List.forall_mem_map]
      constructor
      · intro hall c hc
        rw [← h t List.mem_cons_self c (List.mem_of_mem_take hc)]
        exact hall c hc
      · intro hall c hc
        rw [h t List.mem_cons_self c (List.mem_of_mem_take hc)]
        exact hall c hc
    rw [List.map_cons]
    unfold PositionShown
    rw [hdigits, List.length_map, ih hrest]

end


/-! ### What the server takes for a source -/

theorem repeated_fits_iff : ∀ {n : ℕ} {pieces : List (List Char)},
    List.Forall₂ Item.Fits
        (List.replicate n [Item.once (· == ':'), .plus Go.isAsciiDigit]).flatten pieces ↔
      ∃ ds : List (List Char), ds.length = n ∧
        (∀ d ∈ ds, d ≠ [] ∧ ∀ c ∈ d, Go.isAsciiDigit c = true) ∧
        pieces = ds.flatMap fun d => [[':'], d] := by
  intro n
  induction n with
  | zero =>
    intro pieces
    rw [List.replicate_zero, List.flatten_nil, List.forall₂_nil_left_iff]
    constructor
    · rintro rfl
      exact ⟨[], rfl, fun _ hd => absurd hd List.not_mem_nil, rfl⟩
    · rintro ⟨ds, hds, -, rfl⟩
      rw [List.eq_nil_of_length_eq_zero hds]
      rfl
  | succ n ih =>
    intro pieces
    rw [List.replicate_succ, List.flatten_cons, List.cons_append, List.cons_append,
      List.nil_append]
    constructor
    · intro h
      obtain ⟨p, more, hp, hmore, rfl⟩ := List.forall₂_cons_left_iff.mp h
      obtain ⟨d, rest, hd, hrest, rfl⟩ := List.forall₂_cons_left_iff.mp hmore
      obtain ⟨c, rfl, hc⟩ := Item.once_fits hp
      obtain ⟨ds, hlength, hds, rfl⟩ := ih.mp hrest
      rw [beq_iff_eq] at hc
      refine ⟨d :: ds, by rw [List.length_cons, hlength], fun e he => ?_, by rw [hc]; rfl⟩
      rcases List.mem_cons.mp he with rfl | he
      · exact Item.plus_fits_iff.mp hd
      · exact hds e he
    · rintro ⟨ds, hlength, hds, rfl⟩
      cases ds with
      | nil => cases hlength
      | cons d ds =>
        have hrest : ∀ e ∈ ds, e ≠ [] ∧ ∀ c ∈ e, Go.isAsciiDigit c = true :=
          fun e he => hds e (List.mem_cons_of_mem d he)
        exact List.Forall₂.cons (Item.fits_once rfl)
          (List.Forall₂.cons (Item.plus_fits_iff.mpr (hds d List.mem_cons_self))
            (ih.mpr ⟨ds, Nat.succ.inj hlength, hrest, rfl⟩))

theorem sourcePattern_fits_iff {n : ℕ} {s : List Char} :
    (Go.clientErrorSourcePattern n).fits s = true ↔
      ∃ (b : List Char) (ds : List (List Char)), b ≠ [] ∧ (∀ c ∈ b, Go.isNameChar c = true) ∧
        ds.length = n ∧ (∀ d ∈ ds, d ≠ [] ∧ ∀ c ∈ d, Go.isAsciiDigit c = true) ∧
        s = b ++ ds.flatMap (':' :: ·) := by
  have hflat : ∀ ds : List (List Char),
      (ds.flatMap fun d => [[':'], d]).flatten = ds.flatMap (':' :: ·) := by
    intro ds
    induction ds with
    | nil => rfl
    | cons d ds ih => simp [ih]
  unfold Go.clientErrorSourcePattern
  rw [Pattern.whole_fits_iff]
  constructor
  · rintro ⟨pieces, rfl, h⟩
    obtain ⟨b, more, hb, hmore, rfl⟩ := List.forall₂_cons_left_iff.mp h
    obtain ⟨ds, hlength, hds, rfl⟩ := repeated_fits_iff.mp hmore
    obtain ⟨hne, hall⟩ := Item.plus_fits_iff.mp hb
    exact ⟨b, ds, hne, hall, hlength, hds, by rw [List.flatten_cons, hflat]⟩
  · rintro ⟨b, ds, hne, hall, hlength, hds, rfl⟩
    refine ⟨b :: ds.flatMap fun d => [[':'], d], by rw [List.flatten_cons, hflat], ?_⟩
    exact List.Forall₂.cons (Item.plus_fits_iff.mpr ⟨hne, hall⟩)
      (repeated_fits_iff.mpr ⟨ds, hlength, hds, rfl⟩)

theorem sourceText_iff {s : List Char} :
    Go.SourceText s ↔ ∃ b t, b ≠ [] ∧ (∀ c ∈ b, Go.isNameChar c = true) ∧
      Positions Go.isAsciiDigit ':' 2 t ∧ s = b ++ t := by
  unfold Go.SourceText
  rw [sourcePattern_fits_iff, sourcePattern_fits_iff, sourcePattern_fits_iff]
  constructor
  · rintro (⟨b, ds, hne, hb, hlength, hds, rfl⟩ | ⟨b, ds, hne, hb, hlength, hds, rfl⟩ |
      ⟨b, ds, hne, hb, hlength, hds, rfl⟩)
    · exact ⟨b, _, hne, hb, ⟨ds, by omega, hds, rfl⟩, rfl⟩
    · exact ⟨b, _, hne, hb, ⟨ds, by omega, hds, rfl⟩, rfl⟩
    · exact ⟨b, _, hne, hb, ⟨ds, by omega, hds, rfl⟩, rfl⟩
  · rintro ⟨b, t, hne, hb, ⟨ds, hlength, hds, rfl⟩, rfl⟩
    have hcases : ds.length = 0 ∨ ds.length = 1 ∨ ds.length = 2 := by omega
    rcases hcases with h | h | h
    · exact Or.inl ⟨b, ds, hne, hb, h, hds, rfl⟩
    · exact Or.inr (Or.inl ⟨b, ds, hne, hb, h, hds, rfl⟩)
    · exact Or.inr (Or.inr ⟨b, ds, hne, hb, h, hds, rfl⟩)

/-- **A name with positions, cut**, is a source exactly if the cut shows the positions well. -/
theorem sourceText_take_iff {base : List Char} {ts : List (List Char)} {n : ℕ} (hn : 0 < n)
    (hne : base ≠ []) (hbase : ∀ c ∈ base, Go.isNameChar c = true)
    (hts : ∀ t ∈ ts, t ≠ [] ∧ ':' ∉ t) (htwo : ts.length ≤ 2) :
    Go.SourceText ((base ++ ts.flatMap (':' :: ·)).take n) ↔
      PositionShown Go.isAsciiDigit (n - base.length) ts := by
  have hfirst := (colonFirst_flatMap ':' ts).take (n - base.length)
  have hshown : ∀ c ∈ base.take n, Go.isNameChar c = true :=
    fun c hc => hbase c (List.mem_of_mem_take hc)
  have hshownNe : base.take n ≠ [] := by
    rw [ne_eq, List.take_eq_nil_iff, not_or]
    exact ⟨by omega, hne⟩
  rw [← @positions_take_iff _ _ ':' (by decide) _ 2 _ hts htwo, sourceText_iff,
    List.take_append]
  constructor
  · rintro ⟨b, t, -, hb, ht, heq⟩
    have hcolon : ColonFirst ':' t := by
      obtain ⟨ds, -, -, rfl⟩ := ht
      exact colonFirst_flatMap ':' ds
    obtain ⟨-, hsame⟩ := append_colonFirst_inj (by decide) hshown hb hfirst hcolon heq
    rw [hsame]
    exact ht
  · intro h
    exact ⟨base.take n, _, hshownNe, hshown, h, rfl⟩


/-! ### Units below `0x80` and their characters -/

open Ts

def toChar (u : UInt16) : Char := Char.ofNat u.toNat

theorem isAsciiLetter_toChar {u : UInt16} (hu : IsAscii u) :
    Go.isAsciiLetter (toChar u) = isLetter u :=
  forall_ascii (P := fun u => Go.isAsciiLetter (toChar u) = isLetter u) (by decide) hu

theorem isAsciiDigit_toChar {u : UInt16} (hu : IsAscii u) :
    Go.isAsciiDigit (toChar u) = isDigit u :=
  forall_ascii (P := fun u => Go.isAsciiDigit (toChar u) = isDigit u) (by decide) hu

theorem isNameChar_toChar {u : UInt16} (hu : IsAscii u) :
    Go.isNameChar (toChar u) = isFileUnit u :=
  forall_ascii (P := fun u => Go.isNameChar (toChar u) = isFileUnit u) (by decide) hu

theorem isDigit_digitUnit {c : Char} (h : c.isDigit = true) :
    isDigit (UInt16.ofNat c.toNat) = true := by
  have hbounds : 0x30 ≤ c.toNat ∧ c.toNat ≤ 0x39 := Char.isDigit_iff_toNat.mp h
  have hvalue : (UInt16.ofNat c.toNat).toNat = c.toNat :=
    UInt16.toNat_ofNat_of_lt' (by have : UInt16.size = 65536 := rfl; omega)
  simp only [isDigit, Bool.and_eq_true, decide_eq_true_eq, UInt16.le_iff_toNat_le, hvalue]
  exact hbounds

/-- A number is written with digits, and from `10 ^ 21` on with the letters of an exponent. -/
theorem digitUnits_toDigits (n : ℕ) : ∀ u ∈ digitUnits (Nat.toDigits 10 n), isDigit u = true := by
  intro u hu
  obtain ⟨c, hc, rfl⟩ := List.mem_map.mp hu
  exact isDigit_digitUnit (Nat.isDigit_of_mem_toDigits (by decide) (by decide) hc)

theorem numberText_mem {n : ℕ} {u : UInt16} (h : u ∈ numberText n) :
    isDigit u = true ∨ u ∈ units ".e+" := by
  unfold numberText at h
  split at h
  · exact Or.inl (digitUnits_toDigits _ u h)
  · simp only [List.mem_append] at h
    rcases h with ((h | h) | h) | h
    · exact Or.inl (digitUnits_toDigits _ u (List.mem_of_mem_take h))
    · split at h
      · cases h
      · rcases List.mem_append.mp h with h | h
        · rw [List.mem_singleton.mp h]
          right
          decide
        · left
          exact digitUnits_toDigits _ u
            (List.mem_of_mem_drop ((List.rdropWhile_prefix _ _).subset h))
    · right
      revert u
      decide
    · exact Or.inl (digitUnits_toDigits _ u h)

theorem numberText_ne_nil (n : ℕ) : numberText n ≠ [] := by
  have hdigits : digitUnits (Nat.toDigits 10 (shortestDecimal n)) ≠ [] := by
    unfold digitUnits
    rw [ne_eq, List.map_eq_nil_iff]
    exact Nat.toDigits_ne_nil
  unfold numberText
  dsimp only
  split
  · exact hdigits
  · intro h
    have hend := (List.append_eq_nil_iff.mp (List.append_eq_nil_iff.mp h).1).2
    exact absurd hend (by decide)

theorem numberText_plain {n : ℕ} {u : UInt16} (h : u ∈ numberText n) : IsAscii u ∧ u ≠ 0x3A := by
  rcases numberText_mem h with hdigit | hmem
  · refine ⟨ascii_of_isDigit hdigit, ?_⟩
    rintro rfl
    exact absurd hdigit (by decide)
  · have hall : ∀ v ∈ units ".e+", v.toNat < 0x80 ∧ v ≠ 0x3A := by decide
    exact hall u hmem


/-! ### The source of a report -/

/-- The server takes the text for a source. -/
def SourceOk (s : List Char) : Prop :=
  Go.PropertyText s ∧ utf8Length s ≤ Go.clientErrorSourceMaxLength ∧ Go.SourceText s

/-- The positions of a source, as far as they are numbers. -/
def positionTexts (line column : Option ℕ) : List JsString :=
  [line, column].reduceOption.map numberText

/-- The name of the file is none, or the positions behind it are shown well: the cut does not fall
behind a colon, and shows digits only. -/
def SourceShown (filename : JsString) (line column : Option ℕ) : Prop :=
  fileNamePattern.fits (baseName filename) = true →
    PositionShown isDigit (sourceMaxLength - (baseName filename).length)
      (positionTexts line column)

theorem utf8Length_decode : ∀ {us : JsString}, (∀ u ∈ us, IsAscii u) →
    utf8Length (decode us) = us.length := by
  intro us h
  rw [decode_of_ascii h]
  unfold utf8Length
  rw [List.map_map]
  have hone : ∀ u ∈ us, (Char.utf8Size ∘ fun u => Char.ofNat u.toNat) u = 1 := by
    intro u hu
    have hsize : ∀ n < 0x80, (Char.ofNat (UInt16.ofNat n).toNat).utf8Size = 1 := by decide
    exact forall_ascii (P := fun u => (Char.ofNat u.toNat).utf8Size = 1) hsize (h u hu)
  rw [List.map_congr_left hone, List.map_const']
  simp only [List.sum_replicate_nat, Nat.mul_one]

/-- The positions behind their colons. -/
theorem positions_text : ∀ {ts : List JsString}, (∀ t ∈ ts, t ≠ []) →
    (if [0x3A].intercalate ts = [] then [] else 0x3A :: [0x3A].intercalate ts)
      = ts.flatMap ((0x3A : UInt16) :: ·) := by
  have hmore : ∀ (t : JsString) (ts : List JsString),
      [(0x3A : UInt16)].intercalate (t :: ts) = t ++ ts.flatMap ((0x3A : UInt16) :: ·) := by
    intro t ts
    induction ts generalizing t with
    | nil => simp
    | cons u ts ih =>
      rw [List.intercalate_cons_cons, ih u]
      simp
  intro ts hts
  cases ts with
  | nil => rfl
  | cons t ts =>
    have hne := hts t List.mem_cons_self
    rw [hmore, if_neg (by simp [hne])]
    rfl

theorem sourceOk_unknown : SourceOk (decode (units "unknown")) := by
  refine ⟨⟨by decide, by decide⟩, by decide, Or.inl ?_⟩
  rw [sourcePattern_fits_iff]
  exact ⟨"unknown".toList, [], by decide, List.forall_iff_forall_mem.mp (by decide), rfl,
    fun _ hd => absurd hd List.not_mem_nil, by decide⟩

/-- The text of a source, decoded before it is cut. -/
theorem decode_take_positions {base : JsString} {ts : List JsString} {n : ℕ}
    (hascii : ∀ u ∈ (base ++ ts.flatMap ((0x3A : UInt16) :: ·)).take n, IsAscii u) :
    decode ((base ++ ts.flatMap ((0x3A : UInt16) :: ·)).take n)
      = (base.map toChar ++ (ts.map (List.map toChar)).flatMap (':' :: ·)).take n := by
  have hmap : ∀ ts : List JsString, (ts.flatMap ((0x3A : UInt16) :: ·)).map toChar
      = (ts.map (List.map toChar)).flatMap (':' :: ·) := by
    intro ts
    induction ts with
    | nil => rfl
    | cons t ts ih =>
      rw [List.flatMap_cons, List.map_append, ih, List.map_cons, List.map_cons,
        List.flatMap_cons]
      rfl
  rw [decode_of_ascii hascii, ← hmap, ← List.map_append, ← List.map_take]
  rfl

/-- The text of a source that names a file. -/
theorem sourceOk_take_iff {base : JsString} {line column : Option ℕ}
    (hfits : fileNamePattern.fits base = true) :
    SourceOk (decode ((base ++ (positionTexts line column).flatMap ((0x3A : UInt16) :: ·)).take
      sourceMaxLength)) ↔
      PositionShown isDigit (sourceMaxLength - base.length) (positionTexts line column) := by
  have hmax : sourceMaxLength = 96 := rfl
  obtain ⟨hne, hunits⟩ := Item.plus_fits_iff.mp (Pattern.whole_singleton.mp hfits)
  have htexts : ∀ t ∈ positionTexts line column, t ≠ [] ∧ ∀ u ∈ t, IsAscii u ∧ u ≠ 0x3A := by
    intro t ht
    obtain ⟨n, -, rfl⟩ := List.mem_map.mp ht
    exact ⟨numberText_ne_nil n, fun u hu => numberText_plain hu⟩
  have htwo : (positionTexts line column).length ≤ 2 := by
    unfold positionTexts
    rw [List.length_map]
    exact List.reduceOption_length_le _
  have hascii : ∀ u ∈ (base ++ (positionTexts line column).flatMap ((0x3A : UInt16) :: ·)).take
      sourceMaxLength, IsAscii u := by
    intro u hu
    rcases List.mem_append.mp (List.mem_of_mem_take hu) with hu | hu
    · exact ascii_of_isFileUnit (hunits u hu)
    · obtain ⟨t, ht, hut⟩ := List.mem_flatMap.mp hu
      rcases List.mem_cons.mp hut with rfl | hut
      · show UInt16.toNat 0x3A < 0x80
        decide
      · exact ((htexts t ht).2 u hut).1
  have htext : Go.SourceText (decode ((base ++ (positionTexts line column).flatMap
      ((0x3A : UInt16) :: ·)).take sourceMaxLength)) ↔
      PositionShown isDigit (sourceMaxLength - base.length) (positionTexts line column) := by
    have hname : ∀ c ∈ base.map toChar, Go.isNameChar c = true := by
      intro c hc
      obtain ⟨u, hu, rfl⟩ := List.mem_map.mp hc
      rw [isNameChar_toChar (ascii_of_isFileUnit (hunits u hu))]
      exact hunits u hu
    have hplain : ∀ t ∈ (positionTexts line column).map (List.map toChar), t ≠ [] ∧ ':' ∉ t := by
      intro t ht
      obtain ⟨s, hs, rfl⟩ := List.mem_map.mp ht
      obtain ⟨hsne, hsunits⟩ := htexts s hs
      refine ⟨by rwa [ne_eq, List.map_eq_nil_iff], fun hcolon => ?_⟩
      obtain ⟨u, hu, hchar⟩ := List.mem_map.mp hcolon
      have hvalue : ∀ n < 0x80, toChar (UInt16.ofNat n) = ':' → UInt16.ofNat n = 0x3A := by
        decide
      exact (hsunits u hu).2 (forall_ascii (P := fun u => toChar u = ':' → u = 0x3A) hvalue
        (hsunits u hu).1 hchar)
    rw [decode_take_positions hascii, sourceText_take_iff (by decide)
      (by rwa [ne_eq, List.map_eq_nil_iff]) hname hplain (by rwa [List.length_map]),
      List.length_map]
    apply positionShown_map
    intro t ht u hu
    exact isAsciiDigit_toChar ((htexts t ht).2 u hu).1
  have hlength := List.length_take_le sourceMaxLength
    (base ++ (positionTexts line column).flatMap ((0x3A : UInt16) :: ·))
  have hbytes := utf8Length_decode hascii
  have hnonempty : decode ((base ++ (positionTexts line column).flatMap
      ((0x3A : UInt16) :: ·)).take sourceMaxLength) ≠ [] := by
    rw [decode_of_ascii hascii, ne_eq, List.map_eq_nil_iff, List.take_eq_nil_iff, not_or]
    exact ⟨by decide, by simp [hne]⟩
  have hmaxServer : Go.clientErrorSourceMaxLength = 96 := rfl
  rw [SourceOk, htext]
  constructor
  · intro h
    exact h.2.2
  · intro h
    exact ⟨⟨hnonempty, by omega⟩, by omega, h⟩

/-- **The server takes the source of a report** exactly if the cut shows it well. -/
theorem describeSource_ok_iff (filename : Option JsString) (line column : Option ℕ) :
    SourceOk (decode (describeSource filename line column)) ↔
      SourceShown (filename.getD []) line column := by
  have hempty : fileNamePattern.fits (baseName []) = false := by decide
  have hunknown : SourceOk (decode (units "unknown")) ↔ True := iff_true_intro sourceOk_unknown
  cases filename with
  | none =>
    show SourceOk (decode (units "unknown")) ↔ SourceShown [] line column
    rw [hunknown, SourceShown, hempty]
    simp
  | some filename =>
    rw [Option.getD_some]
    unfold describeSource SourceShown
    by_cases hnil : filename = []
    · rw [hnil, hempty]
      simpa using sourceOk_unknown
    · by_cases hfits : fileNamePattern.fits (baseName filename) = true
      · simp only [if_neg hnil, hfits, Bool.not_true, Bool.false_eq_true, if_false, true_imp_iff]
        have htexts : ∀ t ∈ positionTexts line column, t ≠ [] := by
          intro t ht
          obtain ⟨n, -, rfl⟩ := List.mem_map.mp ht
          exact numberText_ne_nil n
        have hpositions := positions_text htexts
        unfold positionTexts at hpositions
        rw [hpositions]
        exact sourceOk_take_iff hfits
      · simp only [if_neg hnil, hfits, Bool.not_false, if_true]
        simpa using sourceOk_unknown

end CrownClash.Parity
