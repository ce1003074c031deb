import CrownClash.Lib.Text
import CrownClash.Ts.ClientErrors

/-!
# Client: the words of an error message

No replacement of `sanitizeErrorMessage` reaches over white space, so that the message is
cleaned word by word: the cleaned text is the masked words with one space between them
(`cleaned_eq`).

A word keeps no `@` and no `://` if nothing of that kind is left in front of its URL, or if
it is one address there (`WordSafe.notLeaks`).
-/

namespace CrownClash.Ts

open Lib

/-- The pieces of a text between white space. -/
def words (text : JsString) : List JsString := (text.splitOnP isSpace).filter (· ≠ [])

/-- What a cleaned text consists of. -/
def joinWords (ws : List JsString) : JsString := [0x20].intercalate ws

/-! ### Word by word -/

theorem isLetter_of_space {x : UInt16} (hx : isSpace x = true) : isLetter x = false := by
  by_contra h
  rw [Bool.not_eq_false] at h
  have hall : ∀ n < 0x80, isLetter (UInt16.ofNat n) = true →
      isSpace (UInt16.ofNat n) = false := by decide
  rw [forall_ascii (P := fun x => isLetter x = true → isSpace x = false) hall
    (ascii_of_isLetter h) h] at hx
  cases hx

theorem isDigit_of_space {x : UInt16} (hx : isSpace x = true) : isDigit x = false := by
  by_contra h
  rw [Bool.not_eq_false] at h
  have hall : ∀ n < 0x80, isDigit (UInt16.ofNat n) = true →
      isSpace (UInt16.ofNat n) = false := by decide
  rw [forall_ascii (P := fun x => isDigit x = true → isSpace x = false) hall
    (ascii_of_isDigit h) h] at hx
  cases hx

theorem isUnit_of_space {s : String} (hs : ∀ v ∈ units s, isSpace v = false) {x : UInt16}
    (hx : isSpace x = true) : isUnit s x = false := by
  by_contra h
  rw [Bool.not_eq_false, isUnit, List.contains_iff_mem] at h
  rw [hs x h] at hx
  cases hx

/-- A pattern whose fits hold no white space and are not empty. -/
structure WordPattern (p : Pattern UInt16) : Prop where
  atEnd : p.atEnd = false
  rejects : ∀ x, isSpace x = true → p.Rejects x
  empty : p.matchAt [] = none

theorem urlPattern_word : WordPattern urlPattern where
  atEnd := rfl
  rejects := by
    intro x hx
    have hcolon := isUnit_of_space (s := ":") (by decide) hx
    have hslash := isUnit_of_space (s := "/") (by decide) hx
    have hscheme := isUnit_of_space (s := "+.-") (by decide) hx
    simp [Pattern.Rejects, urlPattern, Pattern.ofItems, Item.once, Item.star, Item.plus, isScheme,
      isLetter_of_space hx, isDigit_of_space hx, hcolon, hslash, hscheme, hx]
  empty := by decide

theorem emailPattern_word : WordPattern emailPattern where
  atEnd := rfl
  rejects := by
    intro x hx
    have hat := isUnit_of_space (s := "@") (by decide) hx
    have hdot := isUnit_of_space (s := ".") (by decide) hx
    simp [Pattern.Rejects, emailPattern, Pattern.ofItems, Item.once, Item.plus, isAddress, hat,
      hdot, hx]
  empty := by decide

theorem idPattern_word : WordPattern idPattern where
  atEnd := rfl
  rejects := by
    intro x hx
    have hline := isUnit_of_space (s := "_-") (by decide) hx
    simp [Pattern.Rejects, idPattern, Item.once, Item.star, isIdLetter, isIdUnit,
      isLetter_of_space hx, isDigit_of_space hx, hline]
  empty := by decide

theorem digitsPattern_word : WordPattern digitsPattern where
  atEnd := rfl
  rejects := by
    intro x hx
    simp [Pattern.Rejects, digitsPattern, Pattern.ofItems, isDigit_of_space hx]
  empty := by decide

/-- White space separates what a replacement works on. -/
theorem WordPattern.replaceAll_append {p : Pattern UInt16} (h : WordPattern p) {x : UInt16}
    (hx : isSpace x = true) (new w rest : JsString) :
    p.replaceAll new (w ++ x :: rest) = p.replaceAll new w ++ x :: p.replaceAll new rest :=
  Pattern.replaceAll_append h.atEnd (h.rejects x hx) h.empty new w rest

theorem maskText_append {x : UInt16} (hx : isSpace x = true) (w rest : JsString) :
    maskText (w ++ x :: rest) = maskText w ++ x :: maskText rest := by
  unfold maskText
  rw [urlPattern_word.replaceAll_append hx, emailPattern_word.replaceAll_append hx,
    idPattern_word.replaceAll_append hx, digitsPattern_word.replaceAll_append hx]


/-- A text without white space. -/
def Free (w : JsString) : Prop := ∀ u ∈ w, isSpace u = false

/-- A text has no white space, or it starts with a text that has none and a white space. -/
theorem text_cases (text : JsString) :
    Free text ∨ ∃ w x rest, Free w ∧ isSpace x = true ∧ text = w ++ x :: rest := by
  have hfree : Free (text.takeWhile fun u => !isSpace u) := by
    intro u hu
    simpa using List.mem_takeWhile_imp hu
  have hsplit := List.takeWhile_append_dropWhile (p := fun u => !isSpace u) (l := text)
  cases hrest : text.dropWhile fun u => !isSpace u with
  | nil =>
    rw [hrest, List.append_nil] at hsplit
    rw [hsplit] at hfree
    exact Or.inl hfree
  | cons x rest =>
    rw [hrest] at hsplit
    have hx : isSpace x = true := by
      have hne : text.dropWhile (fun u => !isSpace u) ≠ [] := by
        rw [hrest]
        exact List.cons_ne_nil x rest
      have hhead := List.head_dropWhile_not (fun u => !isSpace u) hne
      simpa [hrest] using hhead
    exact Or.inr ⟨_, x, rest, hfree, hx, hsplit.symm⟩

theorem words_of_free {w : JsString} (h : Free w) (hne : w ≠ []) : words w = [w] := by
  have hsingle : w.splitOnP isSpace = [w] := List.splitOnP_eq_singleton h
  unfold words
  rw [hsingle]
  simp [hne]

theorem words_nil : words [] = [] := rfl

theorem words_append {x : UInt16} (hx : isSpace x = true) (w rest : JsString) :
    words (w ++ x :: rest) = words w ++ words rest := by
  have hsplit : (w ++ x :: rest).splitOnP isSpace
      = w.splitOnP isSpace ++ rest.splitOnP isSpace := List.splitOnP_append_cons _ _ hx
  unfold words
  rw [hsplit, List.filter_append]

theorem Free.mask {w : JsString} (h : Free w) : Free (maskText w) := by
  have hnew : ∀ s ∈ ["<url>", "<email>", "<id>", "<n>"], ∀ v ∈ units s, isSpace v = false := by
    decide
  have hkeep : ∀ {p : Pattern UInt16} {s : String} {v : JsString},
      s ∈ ["<url>", "<email>", "<id>", "<n>"] → Free v → Free (p.replaceAll (units s) v) := by
    intro p s v hs hv u hu
    rcases Pattern.mem_replaceFrom hu with hu | hu
    · exact hv u hu
    · exact hnew s hs u hu
  exact hkeep (by decide) (hkeep (by decide) (hkeep (by decide) (hkeep (by decide) h)))

theorem maskText_ne_nil {w : JsString} (h : w ≠ []) : maskText w ≠ [] :=
  Pattern.replaceAll_ne_nil (by decide) (Pattern.replaceAll_ne_nil (by decide)
    (Pattern.replaceAll_ne_nil (by decide) (Pattern.replaceAll_ne_nil (by decide) h)))

/-- **The masked text has the masked words.** -/
theorem words_maskText : ∀ (text : JsString), words (maskText text) = (words text).map maskText := by
  intro text
  induction hn : text.length using Nat.strong_induction_on generalizing text with
  | _ n ih =>
    rcases text_cases text with hfree | ⟨w, x, rest, hfree, hx, rfl⟩
    · by_cases hnil : text = []
      · rw [hnil]
        rfl
      · rw [words_of_free hfree hnil, words_of_free hfree.mask (maskText_ne_nil hnil)]
        rfl
    · rw [maskText_append hx, words_append hx, words_append hx, List.map_append]
      have hw : words (maskText w) = (words w).map maskText :=
        ih w.length (by rw [← hn, List.length_append, List.length_cons]; omega) w rfl
      have hrest : words (maskText rest) = (words rest).map maskText :=
        ih rest.length (by rw [← hn, List.length_append, List.length_cons]; omega) rest rfl
      rw [hw, hrest]


/-! ### White space -/

/-- `replace(/\s+/g, ' ')` -/
def collapse (text : JsString) : JsString := spacesPattern.replaceAll (units " ") text

theorem spacesPattern_matchAt (s : JsString) :
    spacesPattern.matchAt s
      = if 1 ≤ (s.takeWhile isSpace).length then some [s.takeWhile isSpace] else none := by
  have hmatch : spacesPattern.matchAt s = matchItems false [.plus isSpace] s := rfl
  have hrun : (Item.plus isSpace).run s = (s.takeWhile isSpace).length := rfl
  have htake : s.take (s.takeWhile isSpace).length = s.takeWhile isSpace :=
    (List.prefix_iff_eq_take.mp (List.takeWhile_prefix isSpace)).symm
  rw [hmatch, matchItems_singleton, hrun, htake]
  rfl

theorem collapse_of_space {x : UInt16} (hx : isSpace x = true) (rest : JsString) :
    collapse (x :: rest) = 0x20 :: collapse (rest.dropWhile isSpace) := by
  have hrun : (x :: rest).takeWhile isSpace = x :: rest.takeWhile isSpace :=
    List.takeWhile_cons_of_pos hx
  have hmatch : spacesPattern.matchAt (x :: rest) = some [x :: rest.takeWhile isSpace] := by
    rw [spacesPattern_matchAt, hrun, if_pos (by simp)]
  have hskip : [x :: rest.takeWhile isSpace].flatten.length - 1
      = (rest.takeWhile isSpace).length := by simp
  have hdrop : rest.drop (rest.takeWhile isSpace).length = rest.dropWhile isSpace := by
    conv => lhs; arg 2; rw [← List.takeWhile_append_dropWhile (p := isSpace) (l := rest)]
    rw [List.drop_left]
  unfold collapse Pattern.replaceAll
  rw [Pattern.replaceFrom_some _ hmatch, hskip, Pattern.replaceFrom_drop, hdrop]
  rfl

theorem collapse_of_free : ∀ {w : JsString} (rest : JsString), Free w →
    collapse (w ++ rest) = w ++ collapse rest := by
  intro w
  induction w with
  | nil => intro rest _; rfl
  | cons c w ih =>
    intro rest h
    have hc : isSpace c = false := h c List.mem_cons_self
    have hmatch : spacesPattern.matchAt (c :: (w ++ rest)) = none := by
      rw [spacesPattern_matchAt, List.takeWhile_cons_of_neg (by simp [hc])]
      rfl
    have hrest : Free w := fun u hu => h u (List.mem_cons_of_mem c hu)
    rw [List.cons_append, List.cons_append, ← ih rest hrest]
    unfold collapse Pattern.replaceAll
    rw [Pattern.replaceFrom_none _ hmatch]

theorem words_dropWhile (text : JsString) : words (text.dropWhile isSpace) = words text := by
  induction text with
  | nil => rfl
  | cons c text ih =>
    by_cases hc : isSpace c = true
    · have hcons : words (c :: text) = words [] ++ words text := words_append hc [] text
      rw [List.dropWhile_cons_of_pos hc, ih, hcons]
      rfl
    · rw [List.dropWhile_cons_of_neg hc]

theorem joinWords_cons (w : JsString) {ws : List JsString} (h : ws ≠ []) :
    joinWords (w :: ws) = w ++ 0x20 :: joinWords ws := by
  cases ws with
  | nil => exact absurd rfl h
  | cons v ws =>
    unfold joinWords
    rw [List.intercalate_cons_cons]
    simp

/-- White space and nothing else. -/
def Blank (s : JsString) : Prop := ∀ u ∈ s, isSpace u = true

/-- **What collapsing the white space leaves**: the words with a space between them, and blanks
around. -/
theorem collapse_eq : ∀ (text : JsString), ∃ a b, Blank a ∧ Blank b ∧
    collapse text = a ++ joinWords (words text) ++ b ∧
    ((∀ c ∈ text.head?, isSpace c = false) → a = []) := by
  intro text
  induction hn : text.length using Nat.strong_induction_on generalizing text with
  | _ n ih =>
    have hnone : Blank [] := fun u hu => absurd hu List.not_mem_nil
    have hspace : isSpace 0x20 = true := by decide
    rcases text_cases text with hfree | ⟨w, x, rest, hfree, hx, rfl⟩
    · refine ⟨[], [], hnone, hnone, ?_, fun _ => rfl⟩
      have hself := collapse_of_free [] hfree
      rw [List.append_nil] at hself
      have hempty : collapse [] = [] := rfl
      rw [hself, hempty, List.append_nil, List.append_nil, List.nil_append]
      by_cases hnil : text = []
      · rw [hnil]
        rfl
      · rw [words_of_free hfree hnil]
        simp [joinWords]
    · have hshorter : (rest.dropWhile isSpace).length < n := by
        have := (List.dropWhile_sublist isSpace (l := rest)).length_le
        rw [← hn, List.length_append, List.length_cons]
        omega
      obtain ⟨a, b, ha, hb, hrest, hstart⟩ := ih _ hshorter (rest.dropWhile isSpace) rfl
      have ha' : a = [] := by
        apply hstart
        intro c hc
        have hne : rest.dropWhile isSpace ≠ [] := by
          rintro hnil
          rw [hnil] at hc
          cases hc
        have hhead := List.head_dropWhile_not isSpace hne
        rw [List.head?_eq_some_head hne] at hc
        cases hc
        exact hhead
      rw [ha', List.nil_append, words_dropWhile] at hrest
      have hb' : Blank (0x20 :: b) := by
        intro u hu
        rcases List.mem_cons.mp hu with rfl | hu
        · exact hspace
        · exact hb u hu
      have hall : collapse (w ++ x :: rest) = w ++ 0x20 :: (joinWords (words rest) ++ b) := by
        rw [collapse_of_free _ hfree, collapse_of_space hx, hrest]
      rw [hall, words_append hx]
      by_cases hnil : w = []
      · refine ⟨[0x20], b, fun u hu => ?_, hb, ?_, fun hhead => ?_⟩
        · rw [List.mem_singleton.mp hu]
          exact hspace
        · rw [hnil, words_nil]
          rfl
        · rw [hnil] at hhead
          rw [hhead x rfl] at hx
          cases hx
      · rw [words_of_free hfree hnil, List.singleton_append]
        by_cases hlast : words rest = []
        · refine ⟨[], 0x20 :: b, hnone, hb', ?_, fun _ => rfl⟩
          rw [hlast]
          simp [joinWords]
        · refine ⟨[], b, hnone, hb, ?_, fun _ => rfl⟩
          rw [joinWords_cons w hlast]
          simp


theorem mem_words {text w : JsString} (h : w ∈ words text) : w ≠ [] ∧ Free w := by
  induction hn : text.length using Nat.strong_induction_on generalizing text with
  | _ n ih =>
    rcases text_cases text with hfree | ⟨v, x, rest, hfree, hx, rfl⟩
    · by_cases hnil : text = []
      · rw [hnil] at h
        cases h
      · rw [words_of_free hfree hnil, List.mem_singleton] at h
        rw [h]
        exact ⟨hnil, hfree⟩
    · rw [words_append hx] at h
      rcases List.mem_append.mp h with h | h
      · by_cases hnil : v = []
        · rw [hnil] at h
          cases h
        · rw [words_of_free hfree hnil, List.mem_singleton] at h
          rw [h]
          exact ⟨hnil, hfree⟩
      · exact ih rest.length (by rw [← hn, List.length_append, List.length_cons]; omega) h rfl

/-- Joined words start and end with something else than white space. -/
theorem joinWords_ends : ∀ {ws : List JsString}, (∀ w ∈ ws, w ≠ [] ∧ Free w) → ws ≠ [] →
    (∃ c rest, joinWords ws = c :: rest ∧ isSpace c = false) ∧
      ∃ c front, joinWords ws = front ++ [c] ∧ isSpace c = false := by
  intro ws
  induction ws with
  | nil => intro _ h; exact absurd rfl h
  | cons w ws ih =>
    intro hws _
    obtain ⟨hne, hfree⟩ := hws w List.mem_cons_self
    have hrest : ∀ v ∈ ws, v ≠ [] ∧ Free v := fun v hv => hws v (List.mem_cons_of_mem w hv)
    obtain ⟨c, more, rfl⟩ := List.exists_cons_of_ne_nil hne
    have hc := hfree c List.mem_cons_self
    by_cases hnil : ws = []
    · rw [hnil]
      have hjoin : joinWords [c :: more] = c :: more := by simp [joinWords]
      obtain ⟨front, d, hlast⟩ := List.eq_nil_or_concat (c :: more) |>.resolve_left hne
      rw [List.concat_eq_append] at hlast
      rw [hjoin]
      refine ⟨⟨c, more, rfl, hc⟩, d, front, hlast, ?_⟩
      apply hfree
      rw [hlast]
      exact List.mem_append_right _ (List.mem_singleton_self d)
    · obtain ⟨-, d, front, hlast, hd⟩ := ih hrest hnil
      rw [joinWords_cons _ hnil]
      refine ⟨⟨c, _, rfl, hc⟩, d, (c :: more) ++ 0x20 :: front, ?_, hd⟩
      rw [hlast]
      simp

theorem trim_blank {a b : JsString} (ha : Blank a) (hb : Blank b) {s : JsString}
    (hstart : ∃ c rest, s = c :: rest ∧ isSpace c = false)
    (hend : ∃ c front, s = front ++ [c] ∧ isSpace c = false) : trim (a ++ s ++ b) = s := by
  have hfront : (a ++ s ++ b).dropWhile isSpace = s ++ b := by
    obtain ⟨c, rest, rfl, hc⟩ := hstart
    rw [List.append_assoc, List.dropWhile_append_of_pos ha, List.cons_append,
      List.dropWhile_cons_of_neg (by simp [hc])]
  have hback : (s ++ b).rdropWhile isSpace = s := by
    obtain ⟨c, front, rfl, hc⟩ := hend
    have hblank : ∀ u ∈ b.reverse, isSpace u = true := fun u hu => hb u (List.mem_reverse.mp hu)
    rw [List.rdropWhile, List.reverse_append, List.dropWhile_append_of_pos hblank,
      List.reverse_append, List.reverse_singleton, List.singleton_append,
      List.dropWhile_cons_of_neg (by simp [hc]), List.reverse_cons, List.reverse_reverse]
  unfold trim
  rw [hfront, hback]

theorem trim_of_blank {a : JsString} (ha : Blank a) : trim a = [] := by
  unfold trim
  rw [List.dropWhile_eq_nil_iff.mpr ha]
  rfl

/-- **The cleaned text is its masked words with a space between them.** -/
theorem cleaned_eq (text : JsString) :
    trim (collapse (maskText text)) = joinWords ((words text).map maskText) := by
  obtain ⟨a, b, ha, hb, hcollapse, -⟩ := collapse_eq (maskText text)
  rw [hcollapse, words_maskText]
  by_cases hnil : (words text).map maskText = []
  · rw [hnil]
    have hjoin : joinWords [] = [] := rfl
    rw [hjoin, List.append_nil]
    apply trim_of_blank
    intro u hu
    rcases List.mem_append.mp hu with hu | hu
    · exact ha u hu
    · exact hb u hu
  · have hwords : ∀ w ∈ (words text).map maskText, w ≠ [] ∧ Free w := by
      rw [← words_maskText]
      exact fun w hw => mem_words hw
    obtain ⟨hstart, hend⟩ := joinWords_ends hwords hnil
    exact trim_blank ha hb hstart hend


/-! ### What a word keeps -/

/-- The text holds an `@` or a `://`. -/
def Leaks (s : JsString) : Prop := 0x40 ∈ s ∨ units "://" <:+: s

/-- The text is one address: one `@`, something in front of it, and behind it a dot with something
on both sides. -/
def IsEmail (s : JsString) : Prop :=
  ∃ a b c, s = a ++ 0x40 :: (b ++ 0x2E :: c) ∧ a ≠ [] ∧ b ≠ [] ∧ c ≠ [] ∧ 0x40 ∉ a ∧
    0x40 ∉ b ++ 0x2E :: c

/-- When the URL of the word is masked, nothing is left of an address or a URL, or the rest is one
address. -/
def WordSafe (w : JsString) : Prop :=
  ¬ Leaks (urlPattern.replaceAll (units "<url>") w) ∨
    IsEmail (urlPattern.replaceAll (units "<url>") w)

theorem isUnit_iff {s : String} {u : UInt16} : isUnit s u = true ↔ u ∈ units s := by
  rw [isUnit, List.contains_iff_mem]

theorem at_of_email_matchAt {t : JsString} {pieces : List JsString}
    (h : emailPattern.matchAt t = some pieces) : 0x40 ∈ t := by
  have hmatch : matchItems false emailPattern.items t = some pieces := h
  obtain ⟨hfits, rest, ht, -⟩ := matchItems_eq_some hmatch
  obtain ⟨p, more, -, hmore, rfl⟩ := List.forall₂_cons_left_iff.mp hfits
  obtain ⟨q, last, hq, -, rfl⟩ := List.forall₂_cons_left_iff.mp hmore
  obtain ⟨c, rfl, hc⟩ := Item.once_fits hq
  have hone : ∀ v ∈ units "@", v = 0x40 := by decide
  have hat : c = 0x40 := hone c (isUnit_iff.mp hc)
  rw [ht, hat]
  simp

theorem emails_of_notMem {v : JsString} (h : 0x40 ∉ v) (new : JsString) :
    emailPattern.replaceAll new v = v := by
  apply Pattern.replaceAll_of_none
  intro t ht
  cases hmatch : emailPattern.matchAt t with
  | none => rfl
  | some pieces => exact absurd (ht.subset (at_of_email_matchAt hmatch)) h

theorem isAddress_iff {u : UInt16} (hspace : isSpace u = false) : isAddress u = true ↔ u ≠ 0x40 := by
  have hunit : isUnit "@" u = true ↔ u = 0x40 := by
    rw [isUnit_iff]
    have hone : units "@" = [0x40] := by decide
    rw [hone, List.mem_singleton]
  unfold isAddress
  rw [hspace, Bool.not_false, Bool.true_and, Bool.not_eq_true', ← Bool.not_eq_true, hunit]

/-- An address is a fit. -/
theorem IsEmail.matchAt {v : JsString} (hfree : Free v) (h : IsEmail v) :
    (emailPattern.matchAt v).isSome = true := by
  obtain ⟨a, b, c, rfl, ha, hb, hc, hata, hatb⟩ := h
  have haddress : ∀ u ∈ a ++ 0x40 :: (b ++ 0x2E :: c), u ≠ 0x40 → isAddress u = true :=
    fun u hu hat => (isAddress_iff (hfree u hu)).mpr hat
  have hfitsA : ∀ u ∈ a, isAddress u = true := fun u hu =>
    haddress u (List.mem_append_left _ hu) fun h => hata (h ▸ hu)
  have hfitsB : ∀ u ∈ b ++ 0x2E :: c, isAddress u = true := fun u hu =>
    haddress u (List.mem_append_right _ (List.mem_cons_of_mem _ hu)) fun h => hatb (h ▸ hu)
  have hpieces : List.Forall₂ Item.Fits emailPattern.items [a, [0x40], b, [0x2E], c] :=
    .cons (Item.plus_fits_iff.mpr ⟨ha, hfitsA⟩) (.cons (Item.fits_once (by decide))
      (.cons (Item.plus_fits_iff.mpr ⟨hb, fun u hu => hfitsB u (List.mem_append_left _ hu)⟩)
        (.cons (Item.fits_once (by decide)) (.cons (Item.plus_fits_iff.mpr
          ⟨hc, fun u hu => hfitsB u (List.mem_append_right _ (List.mem_cons_of_mem _ hu))⟩)
          .nil))))
  have hfound := @matchItems_isSome _ false _ _ [] hpieces fun _ => rfl
  show (matchItems false emailPattern.items _).isSome = true
  simpa using hfound

/-- A fit is an address, and it ends with the text or in front of an `@`. -/
theorem email_of_matchAt {v : JsString} (hfree : Free v) {pieces : List JsString}
    (h : emailPattern.matchAt v = some pieces) : IsEmail pieces.flatten ∧
      ∃ rest, v = pieces.flatten ++ rest ∧ (rest = [] ∨ ∃ more, rest = 0x40 :: more) := by
  have hmatch : matchItems false emailPattern.items v = some pieces := h
  obtain ⟨hfits, -⟩ := matchItems_eq_some hmatch
  have hitems : emailPattern.items
      = [Item.plus isAddress, .once (isUnit "@"), .plus isAddress, .once (isUnit ".")]
        ++ [.plus isAddress] := rfl
  rw [hitems] at hmatch
  obtain ⟨front, last, rest, hpieces, hs, hlast⟩ := matchItems_last hmatch
  obtain ⟨a, more₁, ha, hmore₁, hfront⟩ := List.forall₂_cons_left_iff.mp hfits
  obtain ⟨q, more₂, hq, hmore₂, rfl⟩ := List.forall₂_cons_left_iff.mp hmore₁
  obtain ⟨x, rfl, hx⟩ := Item.once_fits hq
  obtain ⟨b, more₃, hb, hmore₃, rfl⟩ := List.forall₂_cons_left_iff.mp hmore₂
  obtain ⟨t, more₄, ht, hmore₄, rfl⟩ := List.forall₂_cons_left_iff.mp hmore₃
  obtain ⟨y, rfl, hy⟩ := Item.once_fits ht
  obtain ⟨c, more₅, hc, hmore₅, rfl⟩ := List.forall₂_cons_left_iff.mp hmore₄
  rw [List.forall₂_nil_left_iff.mp hmore₅] at hfront
  have hatx : x = 0x40 := by
    have hone : ∀ v ∈ units "@", v = 0x40 := by decide
    exact hone x (isUnit_iff.mp hx)
  have hdot : y = 0x2E := by
    have hone : ∀ v ∈ units ".", v = 0x2E := by decide
    exact hone y (isUnit_iff.mp hy)
  have hplain : ∀ {s : JsString}, (∀ u ∈ s, isAddress u = true) → 0x40 ∉ s := by
    intro s hs hmem
    exact absurd (hs 0x40 hmem) (by decide)
  obtain ⟨hane, haddressA⟩ := Item.plus_fits_iff.mp ha
  obtain ⟨hbne, haddressB⟩ := Item.plus_fits_iff.mp hb
  obtain ⟨hcne, haddressC⟩ := Item.plus_fits_iff.mp hc
  have hflat : pieces.flatten = a ++ 0x40 :: (b ++ 0x2E :: c) := by
    rw [hfront, hatx, hdot]
    simp
  have hsame : front ++ [last] = [a, [x], b, [y]] ++ [c] := hpieces.symm.trans hfront
  obtain ⟨rfl, hlastEq⟩ := List.append_inj' hsame rfl
  obtain rfl : last = c := List.singleton_inj.mp hlastEq
  have hv : v = pieces.flatten ++ rest := by
    rw [hs, hpieces, List.flatten_append, List.flatten_singleton, List.append_assoc]
  refine ⟨⟨a, b, last, hflat, hane, hbne, hcne, hplain haddressA, ?_⟩, rest, hv, ?_⟩
  · rw [List.mem_append, List.mem_cons, not_or, not_or]
    exact ⟨hplain haddressB, by decide, hplain haddressC⟩
  · cases rest with
    | nil => exact Or.inl rfl
    | cons u rest =>
      right
      by_contra hnot
      have hat : u ≠ 0x40 := fun hu => hnot ⟨rest, by rw [hu]⟩
      have hu : isAddress u = true := by
        refine (isAddress_iff (hfree u ?_)).mpr hat
        rw [hv]
        exact List.mem_append_right _ List.mem_cons_self
      have hrun : (Item.plus isAddress).run (last ++ u :: rest)
          = last.length + (rest.takeWhile isAddress).length + 1 := by
        show ((last ++ u :: rest).takeWhile isAddress).length = _
        rw [List.takeWhile_append_of_pos haddressC, List.takeWhile_cons_of_pos hu,
          List.length_append, List.length_cons]
        omega
      have hlength := congrArg List.length hlast
      rw [hrun, List.length_take, List.length_append, List.length_cons] at hlength
      omega

theorem emails_of_isEmail {v : JsString} (hfree : Free v) (h : IsEmail v) (new : JsString) :
    emailPattern.replaceAll new v = new := by
  obtain ⟨pieces, hpieces⟩ := Option.isSome_iff_exists.mp (h.matchAt hfree)
  obtain ⟨⟨a', b', c', hflat, -, -, -, hata', -⟩, rest, hv, hrest⟩ := email_of_matchAt hfree hpieces
  obtain ⟨a, b, c, hsplit, ha, -, -, hata, hatb⟩ := h
  refine Pattern.replaceAll_of_whole new ?_ hpieces ?_
  · rw [hsplit]
    simp
  · rcases hrest with hnil | ⟨more, hmore⟩
    · rw [hnil, List.append_nil] at hv
      exact hv.symm
    · -- the text has one `@` only
      rw [hmore, hflat, hsplit, List.append_assoc, List.cons_append] at hv
      have htail := (append_cons_inj hata hata' hv).2
      rw [htail] at hatb
      exact absurd (List.mem_append_right _ List.mem_cons_self) hatb

/-- A text loses its `@` only if it is one address. -/
theorem isEmail_of_emails {new : JsString} : ∀ {v : JsString}, Free v → 0x40 ∈ v →
    0x40 ∉ emailPattern.replaceAll new v → IsEmail v := by
  intro v
  induction v with
  | nil => intro _ h _; cases h
  | cons u v ih =>
    intro hfree hat hnot
    have hrest : Free v := fun w hw => hfree w (List.mem_cons_of_mem u hw)
    unfold Pattern.replaceAll at hnot
    cases hmatch : emailPattern.matchAt (u :: v) with
    | none =>
      rw [Pattern.replaceFrom_none new hmatch, List.mem_cons, not_or] at hnot
      have hemail : IsEmail v := ih hrest ((List.mem_cons.mp hat).resolve_left hnot.1) hnot.2
      obtain ⟨a, b, c, rfl, -, hb, hc, hata, hatb⟩ := hemail
      have hwhole : IsEmail (u :: (a ++ 0x40 :: (b ++ 0x2E :: c))) := by
        refine ⟨u :: a, b, c, rfl, List.cons_ne_nil u a, hb, hc, ?_, hatb⟩
        rw [List.mem_cons, not_or]
        exact ⟨hnot.1, hata⟩
      have hsome := hwhole.matchAt hfree
      rw [hmatch] at hsome
      cases hsome
    | some pieces =>
      obtain ⟨hemail, rest, hv, hend⟩ := email_of_matchAt hfree hmatch
      rcases hend with hnil | ⟨more, hmore⟩
      · rw [hnil, List.append_nil] at hv
        rw [hv]
        exact hemail
      · exfalso
        obtain ⟨d, front, hflat⟩ := List.exists_cons_of_ne_nil (l := pieces.flatten) (by
          obtain ⟨a, b, c, hsplit, -⟩ := hemail
          rw [hsplit]
          simp)
        have hdrop : v.drop (pieces.flatten.length - 1) = 0x40 :: more := by
          rw [hflat, List.cons_append] at hv
          rw [hflat, (List.cons.inj hv).2, List.length_cons, Nat.add_sub_cancel, List.drop_left,
            hmore]
        have hkept : emailPattern.matchAt (0x40 :: more) = none := by
          cases hagain : emailPattern.matchAt (0x40 :: more) with
          | none => rfl
          | some others =>
            have hmatched : matchItems false emailPattern.items (0x40 :: more) = some others := hagain
            obtain ⟨hfits, tail, htail, -⟩ := matchItems_eq_some hmatched
            obtain ⟨first, later, hfirst, -, rfl⟩ := List.forall₂_cons_left_iff.mp hfits
            obtain ⟨hne, haddress⟩ := Item.plus_fits_iff.mp hfirst
            obtain ⟨e, firsts, rfl⟩ := List.exists_cons_of_ne_nil hne
            rw [List.flatten_cons, List.append_assoc, List.cons_append] at htail
            have hbad := haddress e List.mem_cons_self
            rw [← (List.cons.inj htail).1] at hbad
            exact absurd hbad (by decide)
        apply hnot
        rw [Pattern.replaceFrom_some new hmatch, Pattern.replaceFrom_drop, hdrop, Pattern.replaceAll,
          Pattern.replaceFrom_none new hkept]
        exact List.mem_append_right _ List.mem_cons_self

theorem leaks_of_replaceAll {p : Pattern UInt16} {s : String} (hs : units s ≠ [])
    (hplain : ∀ u ∈ 0x40 :: units "://", u ∉ units s) {v : JsString}
    (h : Leaks (p.replaceAll (units s) v)) : Leaks v := by
  rcases h with h | h
  · rcases Pattern.mem_replaceFrom h with h | h
    · exact Or.inl h
    · exact absurd h (hplain _ List.mem_cons_self)
  · right
    exact Pattern.infix_replaceFrom hs (fun y hy => hplain y (List.mem_cons_of_mem _ hy)) h

theorem Free.mask_url {w : JsString} (h : Free w) :
    Free (urlPattern.replaceAll (units "<url>") w) := by
  intro u hu
  rcases Pattern.mem_replaceFrom hu with hu | hu
  · exact h u hu
  · have hall : ∀ v ∈ units "<url>", isSpace v = false := by decide
    exact hall u hu

/-- **A safe word keeps nothing.** -/
theorem WordSafe.notLeaks {w : JsString} (hfree : Free w) (h : WordSafe w) :
    ¬ Leaks (maskText w) := by
  intro hleaks
  have hemail : Leaks (emailPattern.replaceAll (units "<email>")
      (urlPattern.replaceAll (units "<url>") w)) :=
    leaks_of_replaceAll (by decide) (by decide) (leaks_of_replaceAll (by decide) (by decide) hleaks)
  rcases h with h | h
  · rw [emails_of_notMem (fun hat => h (Or.inl hat))] at hemail
    exact h hemail
  · rw [emails_of_isEmail hfree.mask_url h] at hemail
    revert hemail
    unfold Leaks
    decide


/-- Ids and digits take no `@` and no `://` away. -/
theorem leaks_kept {p : Pattern UInt16} (hlow : ∃ item ∈ p.items, 0 < item.low)
    (hplain : ∀ u ∈ 0x40 :: units "://", ∀ item ∈ p.items, item.accepts u = false)
    (new : JsString) {v : JsString} (h : Leaks v) : Leaks (p.replaceAll new v) := by
  rcases h with h | h
  · left
    have hat := @Pattern.infix_kept _ p hlow new 0x40 [] (fun y hy => by
      rw [List.mem_singleton.mp hy]
      exact hplain 0x40 List.mem_cons_self) v
    rw [List.singleton_infix_iff, List.singleton_infix_iff] at hat
    exact hat h
  · right
    have hlink : units "://" = 0x3A :: units "//" := by decide
    rw [hlink] at h hplain ⊢
    exact Pattern.infix_kept hlow new (fun y hy => hplain y (List.mem_cons_of_mem _ hy)) h

/-- **A word is masked whole exactly if it is safe.** -/
theorem wordSafe_iff {w : JsString} (hfree : Free w) : WordSafe w ↔ ¬ Leaks (maskText w) := by
  refine ⟨fun h => h.notLeaks hfree, fun h => ?_⟩
  by_contra hunsafe
  obtain ⟨hleaks, hemail⟩ := not_or.mp hunsafe
  have hleaks := not_not.mp hleaks
  have hurlFree := hfree.mask_url
  refine h (leaks_kept ⟨_, List.mem_singleton_self _, by decide⟩ (by decide) _
    (leaks_kept ⟨_, List.mem_singleton_self _, by decide⟩ (by decide) _ ?_))
  by_cases hat : 0x40 ∈ urlPattern.replaceAll (units "<url>") w
  · by_contra hnot
    exact hemail (isEmail_of_emails hurlFree hat fun hmem => hnot (Or.inl hmem))
  · rw [emails_of_notMem hat]
    exact hleaks

/-! ### What is shown of a message -/

/-- The masked words with a space between them, cut. -/
def shownText (text : JsString) : JsString :=
  (joinWords ((words text).map maskText)).take clientErrorMessageMaxLength

/-- Every word that is shown whole is safe, and one that is not is cut before it shows an `@` or
a `://`.  `room` is what the words so far have left. -/
def WordsShown : ℕ → List JsString → Prop
  | _, [] => True
  | room, w :: ws =>
    ((maskText w).length ≤ room → WordSafe w) ∧
      (room < (maskText w).length → ¬ Leaks ((maskText w).take room)) ∧
      WordsShown (room - (maskText w).length - 1) ws

/-- The bytes of the words that are shown, and of the spaces between them. -/
def bytesShown : ℕ → List JsString → ℕ
  | _, [] => 0
  | room, w :: ws =>
    utf8Length (decode ((maskText w).take room)) +
      if ws ≠ [] ∧ (maskText w).length < room then 1 + bytesShown (room - (maskText w).length - 1) ws
      else 0

theorem sanitizeErrorMessage_eq (raw : JsValue) :
    sanitizeErrorMessage raw = if shownText (thrownText raw) = [] then units "unknown"
      else shownText (thrownText raw) := by
  have hcleaned := cleaned_eq (thrownText raw)
  unfold collapse at hcleaned
  unfold sanitizeErrorMessage shownText
  rw [hcleaned]

theorem prefix_of_prefix_append {α : Type} {x : α} : ∀ {needle front rest : List α}, x ∉ needle →
    needle <+: front ++ x :: rest → needle <+: front := by
  intro needle
  induction needle with
  | nil => intro front rest _ _; exact List.nil_prefix
  | cons y needle ih =>
    intro front rest hx h
    rw [List.mem_cons, not_or] at hx
    cases front with
    | nil => exact absurd (List.cons_prefix_cons.mp h).1.symm hx.1
    | cons c front =>
      rw [List.cons_append, List.cons_prefix_cons] at h
      rw [List.cons_prefix_cons]
      exact ⟨h.1, ih hx.2 h.2⟩

/-- A text without the separator is on one side of it. -/
theorem infix_append_cons_iff {α : Type} {x : α} {needle : List α} (hne : needle ≠ [])
    (hx : x ∉ needle) : ∀ {front rest : List α},
      (needle <:+: front ++ x :: rest ↔ needle <:+: front ∨ needle <:+: rest) := by
  intro front rest
  induction front with
  | nil =>
    rw [List.nil_append, List.infix_cons_iff, List.infix_nil, or_iff_right hne]
    constructor
    · rintro (h | h)
      · have hcut : needle <+: [] := prefix_of_prefix_append hx h
        exact absurd (List.prefix_nil.mp hcut) hne
      · exact h
    · exact Or.inr
  | cons c front ih =>
    rw [List.cons_append, List.infix_cons_iff, ih, List.infix_cons_iff, or_assoc]
    constructor
    · rintro (h | h)
      · have hcut : needle <+: c :: front := prefix_of_prefix_append hx h
        exact Or.inl hcut
      · exact Or.inr h
    · rintro (h | h)
      · exact Or.inl (h.trans (List.prefix_append (c :: front) (x :: rest)))
      · exact Or.inr h

theorem leaks_append_space (s t : JsString) : Leaks (s ++ 0x20 :: t) ↔ Leaks s ∨ Leaks t := by
  have hlink := @infix_append_cons_iff _ 0x20 (units "://") (by decide) (by decide) s t
  have hat : (0x40 : UInt16) ≠ 0x20 := by decide
  unfold Leaks
  rw [hlink, List.mem_append, List.mem_cons, or_iff_right hat]
  constructor
  · rintro ((h | h) | (h | h))
    · exact Or.inl (Or.inl h)
    · exact Or.inr (Or.inl h)
    · exact Or.inl (Or.inr h)
    · exact Or.inr (Or.inr h)
  · rintro ((h | h) | (h | h))
    · exact Or.inl (Or.inl h)
    · exact Or.inr (Or.inl h)
    · exact Or.inl (Or.inr h)
    · exact Or.inr (Or.inr h)

theorem not_leaks_nil : ¬ Leaks [] := by
  unfold Leaks
  decide

/-- What a word shows in a room. -/
theorem wordShown_iff {w : JsString} (hfree : Free w) (room : ℕ) :
    (((maskText w).length ≤ room → WordSafe w) ∧
      (room < (maskText w).length → ¬ Leaks ((maskText w).take room))) ↔
        ¬ Leaks ((maskText w).take room) := by
  by_cases hroom : (maskText w).length ≤ room
  · rw [List.take_of_length_le hroom, ← wordSafe_iff hfree]
    exact ⟨fun h => h.1 hroom, fun h => ⟨fun _ => h, fun hlt => absurd hroom (not_le.mpr hlt)⟩⟩
  · have hlt := not_le.mp hroom
    exact ⟨fun h => h.2 hlt, fun h => ⟨fun hle => absurd hle hroom, fun _ => h⟩⟩

/-- **What the cut text keeps**, word by word. -/
theorem not_leaks_take_iff : ∀ {ws : List JsString} {room : ℕ}, (∀ w ∈ ws, Free w) →
    (¬ Leaks ((joinWords (ws.map maskText)).take room) ↔ WordsShown room ws) := by
  intro ws
  induction ws with
  | nil =>
    intro room _
    have hempty : (joinWords (([] : List JsString).map maskText)).take room = [] := List.take_nil
    rw [hempty]
    exact iff_true_intro not_leaks_nil
  | cons w ws ih =>
    intro room hws
    have hrest : ∀ v ∈ ws, Free v := fun v hv => hws v (List.mem_cons_of_mem w hv)
    unfold WordsShown
    rw [← and_assoc, wordShown_iff (hws w List.mem_cons_self), ← ih hrest]
    by_cases hnil : ws = []
    · rw [hnil]
      have hjoin : joinWords ([w].map maskText) = maskText w := by simp [joinWords]
      have hempty : (joinWords (([] : List JsString).map maskText)).take
          (room - (maskText w).length - 1) = [] := List.take_nil
      rw [hjoin, hempty]
      exact (and_iff_left not_leaks_nil).symm
    · have hmap : ws.map maskText ≠ [] := by rwa [ne_eq, List.map_eq_nil_iff]
      rw [List.map_cons, joinWords_cons _ hmap, List.take_append]
      cases hroom : room - (maskText w).length with
      | zero =>
        have hempty : (joinWords (ws.map maskText)).take (0 - 1) = [] := rfl
        rw [List.take_zero, List.append_nil, hempty]
        exact (and_iff_left not_leaks_nil).symm
      | succ n =>
        rw [List.take_succ_cons, leaks_append_space, not_or]
        rfl

/-- **How many bytes the cut text takes**, word by word. -/
theorem utf8Length_take : ∀ (ws : List JsString) (room : ℕ),
    utf8Length (decode ((joinWords (ws.map maskText)).take room)) = bytesShown room ws := by
  intro ws
  induction ws with
  | nil =>
    intro room
    have hempty : (joinWords (([] : List JsString).map maskText)).take room = [] := List.take_nil
    rw [hempty]
    rfl
  | cons w ws ih =>
    intro room
    unfold bytesShown
    by_cases hnil : ws = []
    · have hjoin : joinWords ([w].map maskText) = maskText w := by simp [joinWords]
      rw [hnil, hjoin, if_neg (fun h => h.1 rfl), Nat.add_zero]
    · have hmap : ws.map maskText ≠ [] := by rwa [ne_eq, List.map_eq_nil_iff]
      rw [List.map_cons, joinWords_cons _ hmap, List.take_append]
      cases hroom : room - (maskText w).length with
      | zero =>
        rw [List.take_zero, List.append_nil, if_neg (fun h => by omega), Nat.add_zero]
      | succ n =>
        have hspace : IsAscii 0x20 := by unfold IsAscii; decide
        rw [List.take_succ_cons, decode_append_ascii hspace, utf8Length_append,
          if_pos ⟨hnil, by omega⟩, Nat.add_sub_cancel, ← ih n]
        have hone : ∀ cs, utf8Length (Char.ofNat (0x20 : UInt16).toNat :: cs) = 1 + utf8Length cs := by
          intro cs
          unfold utf8Length
          rw [List.map_cons, List.sum_cons]
          rfl
        rw [hone]

end CrownClash.Ts
