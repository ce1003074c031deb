import CrownClash.Lib.Utf8

/-!
# Server: the display name of a player

A name comes from a request, so that it is a text in UTF-8.  `SetPlayerDisplayName` and
`PublishDefense` cut it after 40 bytes, and `realmDefense` the stored name after 40
characters.  The second cut always leaves a text (`realmDefense_wholePrefix`), the first one
only where it falls between two characters: otherwise a statement gets bytes that are no
UTF-8 (`nameStaysText_iff`).

A statement ends with an error or without one.  Which errors the database has for a display
name is a parameter, `refusal`; the rows keep what they were handed besides what they hold.
-/

namespace CrownClash.Go

open Lib

/-- The names of one player: `player_names`, `pvp_defenses`, and the display names that were
handed to the database. -/
structure NameRows where
  playerName : Option ByteArray
  defenseName : Option ByteArray
  handed : List ByteArray

def displayNameMaxBytes : ℕ := 40

/-- `displayName[:40]` of a name that is longer -/
def cutDisplayName (displayName : ByteArray) : ByteArray :=
  if displayNameMaxBytes < displayName.size then displayName.extract 0 displayNameMaxBytes
  else displayName

/-- The error, if there is one, and the rows. -/
def SetPlayerDisplayName (refusal : ByteArray → Option String) (displayName : ByteArray)
    (rows : NameRows) : Option String × NameRows :=
  let displayName := cutDisplayName displayName
  if displayName.size = 0 then (none, rows)
  else
    let rows := { rows with handed := rows.handed ++ [displayName] }
    match refusal displayName with
    | some err => (some err, rows)
    | none => (none, { rows with playerName := some displayName })

def PublishDefense (refusal : ByteArray → Option String) (userID displayName : ByteArray)
    (rows : NameRows) : Option String × NameRows :=
  let displayName := cutDisplayName displayName
  let displayName := if displayName.size = 0 then userID else displayName
  let rows := { rows with handed := rows.handed ++ [displayName] }
  match refusal displayName with
  | some err => (some err, rows)
  | none => (none, { rows with defenseName := some displayName })

/-- `careerError` is what `GetOrCreateCareer` fails with. -/
def rpcRegisterName (refusal : ByteArray → Option String) (careerError : Option String)
    (userID displayName : ByteArray) (rows : NameRows) : Option String × NameRows :=
  if displayName.size = 0 then (some "invalid_payload", rows)
  else
    match SetPlayerDisplayName refusal displayName rows with
    | (some err, rows) => (some err, rows)
    | (none, rows) =>
      match careerError with
      | some err => (some err, rows)
      | none => PublishDefense refusal userID displayName rows

/-- The display name of `realmDefense`, from the row of `player_names`. -/
def realmDefenseName (stored : Option ByteArray) : ByteArray :=
  let name := stored.getD ByteArray.empty
  let name := if name.size = 0 then "فرمانده".toByteArray else name
  let r := runes name
  if 40 < r.length then (String.ofList (r.take 40)).toByteArray else name

/-! ### The cut by characters -/

theorem size_toByteArray_ne_zero {s : String} (h : s ≠ "") : s.toByteArray.size ≠ 0 := by
  intro hsize
  apply h
  rw [← String.toByteArray_inj]
  exact ByteArray.size_eq_zero_iff.mp hsize

theorem realmDefense_wholePrefix {stored : String} (h : stored ≠ "") :
    WholePrefix stored (realmDefenseName (some stored.toByteArray)) := by
  have hname : realmDefenseName (some stored.toByteArray)
      = if 40 < (runes stored.toByteArray).length
        then (String.ofList ((runes stored.toByteArray).take 40)).toByteArray
        else stored.toByteArray := by
    unfold realmDefenseName
    simp only [Option.getD_some, if_neg (size_toByteArray_ne_zero h)]
  rw [hname, runes_toByteArray]
  split
  · exact ⟨stored.toList.take 40, List.take_prefix _ _, String.toByteArray_ofList⟩
  · exact wholePrefix_self stored

/-! ### The cut by bytes -/

theorem cutDisplayName_eq (displayName : ByteArray) :
    cutDisplayName displayName = displayName.extract 0 displayNameMaxBytes := by
  unfold cutDisplayName
  split
  · rfl
  · exact (extract_of_size_le (by omega)).symm

theorem cutDisplayName_size (displayName : ByteArray) :
    (cutDisplayName displayName).size = min displayNameMaxBytes displayName.size := by
  rw [cutDisplayName_eq, ByteArray.size_extract, Nat.sub_zero]

theorem cutDisplayName_ne_zero {name : String} (h : name ≠ "") :
    (cutDisplayName name.toByteArray).size ≠ 0 := by
  have hpos := size_toByteArray_ne_zero h
  have hmax : displayNameMaxBytes = 40 := rfl
  rw [cutDisplayName_size]
  omega

section

variable {refusal : ByteArray → Option String} {name : String}

/-- The name is what both statements are handed. -/
theorem setPlayerDisplayName_handed (h : name ≠ "") (rows : NameRows) :
    (SetPlayerDisplayName refusal name.toByteArray rows).2.handed
      = rows.handed ++ [cutDisplayName name.toByteArray] := by
  unfold SetPlayerDisplayName
  rw [if_neg (cutDisplayName_ne_zero h)]
  cases refusal (cutDisplayName name.toByteArray) with
  | none => rfl
  | some err => rfl

theorem publishDefense_handed (h : name ≠ "") (userID : ByteArray) (rows : NameRows) :
    (PublishDefense refusal userID name.toByteArray rows).2.handed
      = rows.handed ++ [cutDisplayName name.toByteArray] := by
  unfold PublishDefense
  dsimp only
  rw [if_neg (cutDisplayName_ne_zero h)]
  cases refusal (cutDisplayName name.toByteArray) with
  | none => rfl
  | some err => rfl

/-- A registration fails with what the database has against the name, or with the career. -/
theorem rpcRegisterName_error (h : name ≠ "") (careerError : Option String) (userID : ByteArray)
    (rows : NameRows) :
    (rpcRegisterName refusal careerError userID name.toByteArray rows).1
      = (refusal (cutDisplayName name.toByteArray)).or careerError := by
  have hne := cutDisplayName_ne_zero h
  unfold rpcRegisterName SetPlayerDisplayName PublishDefense
  rw [if_neg (size_toByteArray_ne_zero h)]
  simp only [if_neg hne]
  cases hrefusal : refusal (cutDisplayName name.toByteArray) with
  | some err => rfl
  | none =>
    cases careerError with
    | some err => rfl
    | none => rfl

/-- The names handed over are first characters of the name, and never too long. -/
def HandedWhole (name : String) (handed : List ByteArray) : Prop :=
  ∀ b ∈ handed, b.IsValidUTF8 ∧ WholePrefix name b ∧ b.size ≤ displayNameMaxBytes

theorem handedWhole_singleton_iff :
    HandedWhole name [cutDisplayName name.toByteArray] ↔ CutsWhole displayNameMaxBytes name := by
  constructor
  · intro h
    have hvalid := (h _ (List.mem_singleton_self _)).1
    rw [cutDisplayName_eq] at hvalid
    exact isValidUTF8_extract_iff.mp hvalid
  · intro h b hb
    rw [List.mem_singleton.mp hb]
    refine ⟨?_, ?_, ?_⟩
    · rw [cutDisplayName_eq]
      exact isValidUTF8_extract_iff.mpr h
    · rw [cutDisplayName_eq]
      exact h.wholePrefix
    · rw [cutDisplayName_size]
      exact min_le_left _ _

/-- What the statements are handed, and what becomes of a registration. -/
def NameStaysText (refusal : ByteArray → Option String) (userID : ByteArray) (name : String)
    (rows : NameRows) : Prop :=
  HandedWhole name (SetPlayerDisplayName refusal name.toByteArray ⟨none, none, []⟩).2.handed ∧
    HandedWhole name (PublishDefense refusal userID name.toByteArray ⟨none, none, []⟩).2.handed ∧
    (rpcRegisterName refusal none userID name.toByteArray rows).1 = none

theorem nameStaysText_iff (hrefusal : ∀ b, b.IsValidUTF8 → refusal b = none) (h : name ≠ "")
    (userID : ByteArray) (rows : NameRows) :
    NameStaysText refusal userID name rows ↔ CutsWhole displayNameMaxBytes name := by
  unfold NameStaysText
  rw [setPlayerDisplayName_handed h, publishDefense_handed h, List.nil_append,
    handedWhole_singleton_iff, rpcRegisterName_error h, Option.or_none]
  constructor
  · intro hwhole
    exact hwhole.1
  · intro hcut
    refine ⟨hcut, hcut, hrefusal _ ?_⟩
    rw [cutDisplayName_eq]
    exact isValidUTF8_extract_iff.mpr hcut

end

/-- **When a display name stays a text.**  The name of a defense is always made of the first
characters of the stored name.  What the statements are handed is made of the first characters
of the name, and a registration is not refused for its name, exactly if the name is no longer
than 40 bytes or a character starts behind them. -/
theorem display_name_stays_text {refusal : ByteArray → Option String}
    (hrefusal : ∀ b, b.IsValidUTF8 → refusal b = none) :
    (∀ stored : String, stored ≠ "" →
      WholePrefix stored (realmDefenseName (some stored.toByteArray))) ∧
      ∀ (name : String) (userID : ByteArray) (rows : NameRows), name ≠ "" →
        (NameStaysText refusal userID name rows ↔ CutsWhole displayNameMaxBytes name) :=
  ⟨fun _ h => realmDefense_wholePrefix h, fun _ userID rows h =>
    nameStaysText_iff hrefusal h userID rows⟩

/-- A database that refuses what is not a text. -/
def refuseInvalid (b : ByteArray) : Option String :=
  if b.validateUTF8 then none else some "invalid byte sequence for encoding \"UTF8\""

theorem refuseInvalid_of_valid (b : ByteArray) (h : b.IsValidUTF8) : refuseInvalid b = none :=
  if_pos (ByteArray.validateUTF8_eq_true_iff.mpr h)

theorem display_name_stays_text_short :
    NameStaysText refuseInvalid "u1".toByteArray "علی" ⟨none, none, []⟩ ↔
      CutsWhole displayNameMaxBytes "علی" :=
  (display_name_stays_text refuseInvalid_of_valid).2 "علی" "u1".toByteArray ⟨none, none, []⟩
    (by decide)

/-- Twenty letters of two bytes with a space between them: the cut is inside the last one. -/
def spacedName : String := "امیرحسین محمدیانفردیا"

theorem spaced_name_refused :
    ¬ (NameStaysText refuseInvalid "u1".toByteArray spacedName ⟨none, none, []⟩) ∧
      (rpcRegisterName refuseInvalid none "u1".toByteArray spacedName.toByteArray
        ⟨none, none, []⟩).1 ≠ none := by
  have hne : spacedName ≠ "" := by decide
  have hcut : ¬ CutsWhole displayNameMaxBytes spacedName := by decide +kernel
  rw [nameStaysText_iff refuseInvalid_of_valid hne, rpcRegisterName_error hne]
  refine ⟨hcut, ?_⟩
  have hinvalid : ¬ (cutDisplayName spacedName.toByteArray).IsValidUTF8 := by
    rw [cutDisplayName_eq, isValidUTF8_extract_iff]
    exact hcut
  have hrefused : (cutDisplayName spacedName.toByteArray).validateUTF8 ≠ true :=
    fun h => hinvalid (ByteArray.validateUTF8_eq_true_iff.mp h)
  unfold refuseInvalid
  rw [if_neg hrefused]
  exact Option.some_ne_none _

end CrownClash.Go
