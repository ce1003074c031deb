import CrownClash.Go.Auth
import Mathlib.Data.List.Dedup

/-!
# Go: a login cannot be altered

Decoded keys and values may hold line breaks and equals signs, so many queries come to
the same signed text: a value may take the lines after it along, and a key may begin a
line early.  A signed text has one user line and one date line, and a parameter with
one of these keys begins such a line, so it holds the signed value, or that value and
lines after it (`param_of_text`).  A number has no line break and JSON has nothing
after it, so only the signed value is read.
-/

namespace CrownClash.Go

open Lib JsonText

/-! ### Signed texts -/

/-- **What a platform signs**: lines of keys in order and their values, one of them the
line of a user and one the line of the date. -/
structure SignedData [FloatText] where
  lines : List (Bytes × Bytes)
  sorted : lines.Pairwise fun p q => p.1 < q.1
  newlineFree : ∀ p ∈ lines, newline ∉ p.1 ∧ newline ∉ p.2
  userValue : Bytes
  user_mem : (bytes "user", userValue) ∈ lines
  one_user : ∀ p ∈ lines, bytes "user=" <+: checkLine p → p = (bytes "user", userValue)
  user : ExtractedUser
  names : unmarshalUser userValue = some user
  dateValue : Bytes
  date_mem : (bytes "auth_date", dateValue) ∈ lines
  one_date : ∀ p ∈ lines, bytes "auth_date=" <+: checkLine p → p = (bytes "auth_date", dateValue)

def textOf (lines : List (Bytes × Bytes)) : Bytes := join newline (lines.map checkLine)

def SignedData.text [FloatText] (d : SignedData) : Bytes := textOf d.lines

/-! ### A parameter in a signed text -/

/-- Nothing is split in what has no separator. -/
theorem splitOn_append_of_notMem {sep : UInt8} (s : Bytes) : ∀ {start : Bytes}, sep ∉ start →
    (start ++ s).splitOn sep = (s.splitOn sep).modifyHead (start ++ ·) := by
  intro start
  induction start with
  | nil =>
    intro _
    cases h : s.splitOn sep with
    | nil => exact h
    | cons text texts => exact h
  | cons c start ih =>
    intro hsep
    have hc : sep ≠ c := fun h => hsep (h ▸ List.mem_cons_self)
    have hstart : sep ∉ start := fun h => hsep (List.mem_cons_of_mem c h)
    have hcons : (c :: (start ++ s)).splitOn sep =
        ((start ++ s).splitOn sep).modifyHead (c :: ·) := by
      rw [List.splitOn_cons_eq_if_modifyHead, if_neg (by simpa using fun h => hc h.symm)]
    rw [List.cons_append, hcons, ih hstart, List.modifyHead_modifyHead]
    rfl

theorem mem_of_get {params : Values} {key : Bytes} (h : Values.get params key ≠ []) :
    (key, Values.get params key) ∈ params := by
  unfold Values.get at h ⊢
  cases hfind : params.find? fun p => p.1 = key with
  | none =>
    rw [hfind] at h
    exact absurd rfl h
  | some p =>
    have hkey : p.1 = key := by simpa using List.find?_some hfind
    have hmem := List.mem_of_find?_eq_some hfind
    rw [← hkey]
    exact hmem

theorem checkLine_mem {params : Values} {p : Bytes × Bytes} (hp : p ∈ params)
    (hkey : p.1 ≠ bytes "hash") : checkLine p ∈ checkLines params := by
  unfold checkLines
  refine List.mem_flatMap.mpr ⟨p.1, ?_, ?_⟩
  · rw [mem_sortBy]
    exact List.mem_filter.mpr ⟨List.mem_dedup.mpr (List.mem_map_of_mem hp), by simpa using hkey⟩
  · exact List.mem_map_of_mem (List.mem_filter.mpr ⟨hp, by simp⟩)

/-- A signed text splits into its lines. -/
theorem splitOn_textOf {lines : List (Bytes × Bytes)} (hne : lines ≠ [])
    (hclean : ∀ p ∈ lines, newline ∉ p.1 ∧ newline ∉ p.2) :
    (textOf lines).splitOn newline = lines.map checkLine := by
  refine splitOn_join_of_notMem (by simpa using hne) fun text htext => ?_
  obtain ⟨p, hp, rfl⟩ := List.mem_map.mp htext
  unfold checkLine
  intro hmem
  rcases List.mem_append.mp hmem with hmem | hmem
  · exact (hclean p hp).1 hmem
  · rcases List.mem_cons.mp hmem with hc | hmem
    · revert hc
      decide
    · exact (hclean p hp).2 hmem

/-- A line of the one text that begins with a key of which the other has one line. -/
theorem line_of_text {lines lines' : List (Bytes × Bytes)} {key value value' : Bytes}
    (hclean : ∀ p ∈ lines, newline ∉ p.1 ∧ newline ∉ p.2)
    (hclean' : ∀ p ∈ lines', newline ∉ p.1 ∧ newline ∉ p.2) (hne : lines' ≠ [])
    (h : textOf lines = textOf lines') (hmem : (key, value) ∈ lines)
    (hone : ∀ p ∈ lines', key ++ [0x3D] <+: checkLine p → p = (key, value')) :
    value = value' := by
  have hlines : lines.map checkLine = lines'.map checkLine := by
    rw [← splitOn_textOf (List.ne_nil_of_mem hmem) hclean, h, splitOn_textOf hne hclean']
  have hline : checkLine (key, value) ∈ lines'.map checkLine := by
    rw [← hlines]
    exact List.mem_map_of_mem hmem
  obtain ⟨p, hp, hcheck⟩ := List.mem_map.mp hline
  have hbegins : key ++ [0x3D] <+: checkLine p := ⟨value, by rw [hcheck]; simp [checkLine]⟩
  rw [hone p hp hbegins] at hcheck
  exact (List.cons.inj (List.append_cancel_left hcheck)).2.symm

/-- **A parameter whose key begins one line only** holds the value of that line, or that
value and lines after it. -/
theorem param_of_text {params : Values} {lines : List (Bytes × Bytes)} {key value : Bytes}
    (htext : dataCheckString params = textOf lines)
    (hclean : ∀ p ∈ lines, newline ∉ p.1 ∧ newline ∉ p.2)
    (hone : ∀ p ∈ lines, key ++ [0x3D] <+: checkLine p → p = (key, value))
    (hne : lines ≠ []) (hkey : key ≠ bytes "hash") (hline : newline ∉ key)
    (hget : Values.get params key ≠ []) :
    Values.get params key = value ∨
      ∃ rest, Values.get params key = value ++ newline :: rest ∧ 0x3D ∈ rest := by
  have hmem := checkLine_mem (mem_of_get hget) hkey
  -- the pieces of the parameters are the signed lines
  have hpieces : lines.map checkLine = (checkLines params).flatMap (List.splitOn newline) := by
    rw [← splitOn_textOf hne hclean, ← htext]
    exact splitOn_join (List.ne_nil_of_mem hmem)
  generalize hv : Values.get params key = v at hmem
  have hsplit : (checkLine (key, v)).splitOn newline =
      (v.splitOn newline).modifyHead ((key ++ [0x3D]) ++ ·) := by
    have hstart : newline ∉ key ++ [0x3D] := by
      intro h
      rcases List.mem_append.mp h with h | h
      · exact hline h
      · revert h
        decide
    have hcheck : checkLine (key, v) = (key ++ [0x3D]) ++ v := by simp [checkLine]
    rw [hcheck]
    exact splitOn_append_of_notMem v hstart
  have hjoin : join newline (v.splitOn newline) = v := List.intercalate_splitOn newline
  have hsub : ∀ piece ∈ (checkLine (key, v)).splitOn newline, piece ∈ lines.map checkLine := by
    intro piece hpiece
    rw [hpieces]
    exact List.mem_flatMap.mpr ⟨_, hmem, hpiece⟩
  cases hvs : v.splitOn newline with
  | nil => exact absurd hvs (List.splitOn_ne_nil newline v)
  | cons first rest =>
    rw [hvs] at hsplit hjoin
    rw [hsplit] at hsub
    have hfirst : first = value := by
      obtain ⟨p, hp, hcheck⟩ := List.mem_map.mp (hsub _ List.mem_cons_self)
      have hprefixed := hone p hp ⟨first, hcheck.symm⟩
      rw [hprefixed] at hcheck
      have heq : key ++ 0x3D :: value = key ++ 0x3D :: first := by
        simpa [checkLine] using hcheck
      have hcons := List.append_cancel_left heq
      exact (List.cons.inj hcons).2.symm
    rw [hfirst] at hjoin
    cases rest with
    | nil => exact Or.inl (by rw [← hjoin]; simp [join])
    | cons next rest =>
      rw [join_cons_cons] at hjoin
      refine Or.inr ⟨_, hjoin.symm, ?_⟩
      -- the line after it has an equals sign
      obtain ⟨p, -, hcheck⟩ := List.mem_map.mp
        (hsub next (List.mem_cons_of_mem _ List.mem_cons_self))
      have hnext : 0x3D ∈ next := by
        rw [← hcheck]
        simp [checkLine]
      cases rest with
      | nil => simpa [join] using hnext
      | cons after rest =>
        rw [join_cons_cons]
        exact List.mem_append_left _ hnext


section

variable [FloatText]

/-- The user parameter is the signed user, when it names one at all. -/
theorem extractUser_signed {params : Values} {d : SignedData} {user : ExtractedUser}
    (htext : dataCheckString params = d.text) (h : extractUser params = some user) :
    user = d.user := by
  unfold extractUser at h
  dsimp only at h
  split at h
  next hget =>
    have hvalue := param_of_text htext d.newlineFree d.one_user (List.ne_nil_of_mem d.user_mem)
      (by decide) (by decide) hget
    rcases hvalue with hsame | ⟨rest, hmore, hequals⟩
    · rw [hsame, d.names] at h
      exact (Option.some.inj h).symm
    · exfalso
      have hnames := d.names
      unfold unmarshalUser at hnames h
      split at hnames
      next members hjson =>
        rw [hmore, parseJson_trailing hjson hequals (by decide)] at h
        cases h
      · cases hnames
  · cases h

/-- The date parameter is the signed date. -/
theorem authDate_signed {params : Values} {d : SignedData} {date : ℤ}
    (htext : dataCheckString params = d.text) (hget : Values.get params (bytes "auth_date") ≠ [])
    (h : parseInt64 (Values.get params (bytes "auth_date")) = some date) :
    parseInt64 d.dateValue = some date := by
  have hvalue := param_of_text htext d.newlineFree d.one_date (List.ne_nil_of_mem d.date_mem)
    (by decide) (by decide) hget
  rcases hvalue with hsame | ⟨rest, hmore, -⟩
  · rw [← hsame]
    exact h
  · have hline := newline_notMem_of_parseInt64 h
    rw [hmore] at hline
    exact absurd (List.mem_append_right _ List.mem_cons_self) hline

/-! ### What is accepted -/

/-- The tag that a query comes with. -/
def presentedTag (raw : Bytes) : Option Bytes :=
  (parseQuery raw).bind fun params => decodeHex (Values.get params (bytes "hash"))

def VerifiedInitData.user (v : VerifiedInitData) : ExtractedUser :=
  ⟨v.userID, v.username, v.firstName, v.lastName, v.languageCode⟩

variable [Hmac]

theorem verify_ok {raw botToken : Bytes} {maxAgeSeconds now : ℤ} {v : VerifiedInitData}
    (h : verifyTelegramStyleInitData raw botToken maxAgeSeconds now = .ok v) :
    ∃ params, presentedTag raw = some (tagOf botToken (dataCheckString params)) ∧
      Values.get params (bytes "auth_date") ≠ [] ∧
      parseInt64 (Values.get params (bytes "auth_date")) = some v.authDate ∧
      extractUser params = some v.user := by
  unfold verifyTelegramStyleInitData at h
  split at h
  · cases h
  next params hparams =>
  dsimp only at h
  split at h
  · cases h
  split at h
  · cases h
  next hdate =>
  split at h
  · cases h
  next authDate hparsed =>
  split at h
  · cases h
  split at h
  · cases h
  next htag =>
  split at h
  · cases h
  next user huser =>
  cases h
  refine ⟨params, ?_, hdate, hparsed, huser⟩
  unfold presentedTag
  rw [hparams]
  exact not_not.mp htag

/-- **The user and the date of a login are the signed ones.** -/
theorem verify_signed {raw botToken : Bytes} {maxAgeSeconds now : ℤ} {v : VerifiedInitData}
    {tag : Bytes} {signed : SignedData → Prop}
    (hsigned : ∀ text, tagOf botToken text = tag → ∃ d, signed d ∧ d.text = text)
    (htag : presentedTag raw = some tag)
    (h : verifyTelegramStyleInitData raw botToken maxAgeSeconds now = .ok v) :
    ∃ d, signed d ∧ tagOf botToken d.text = tag ∧ v.user = d.user ∧
      parseInt64 d.dateValue = some v.authDate := by
  obtain ⟨params, hpresented, hget, hdate, huser⟩ := verify_ok h
  rw [htag] at hpresented
  have heq := Option.some.inj hpresented
  obtain ⟨d, hd, htext⟩ := hsigned _ heq.symm
  refine ⟨d, hd, ?_, extractUser_signed htext.symm huser, authDate_signed htext.symm hget hdate⟩
  rw [htext]
  exact heq.symm

omit [Hmac] in
/-- One text has one user and one date. -/
theorem SignedData.eq_of_text {d d' : SignedData} (h : d.text = d'.text) :
    d.user = d'.user ∧ d.dateValue = d'.dateValue := by
  have hne : d'.lines ≠ [] := List.ne_nil_of_mem d'.user_mem
  have huser : d.userValue = d'.userValue :=
    line_of_text d.newlineFree d'.newlineFree hne h d.user_mem d'.one_user
  have hnames := d.names
  rw [huser, d'.names] at hnames
  exact ⟨(Option.some.inj hnames).symm,
    line_of_text d.newlineFree d'.newlineFree hne h d.date_mem d'.one_date⟩

/-! ### The identity -/

theorem verifiedIdentity_ok {identity identity' : PlatformIdentity} {initData botToken : Bytes}
    {maxAgeSeconds now : ℤ}
    (h : verifiedIdentity identity initData botToken maxAgeSeconds now = .ok identity') :
    ∃ v, verifyTelegramStyleInitData initData botToken maxAgeSeconds now = .ok v ∧
      v.userID = identity.externalID ∧ identity'.platform = identity.platform ∧
      identity'.externalID = identity.externalID := by
  unfold verifiedIdentity at h
  split at h
  · cases h
  split at h
  · cases h
  next v hv =>
  split at h
  · cases h
  next hid =>
  cases h
  exact ⟨v, hv, not_not.mp hid, rfl, rfl⟩

omit [Hmac] in
theorem unverifiedIdentity_platform {identity identity' : PlatformIdentity} {initData : Bytes}
    (h : unverifiedIdentity identity initData = .ok identity') :
    identity'.platform = identity.platform := by
  unfold unverifiedIdentity at h
  split at h
  · cases h
  split at h
  · cases h
  cases h
  rfl

omit [FloatText] [Hmac] in
/-- A custom id is put together from its platform and its external id. -/
theorem identityFromUsername_eq {customID : Bytes}
    (h : (identityFromUsername customID).platform ≠ bytes "unknown") :
    customID = (identityFromUsername customID).platform ++
      0x3A :: (identityFromUsername customID).externalID := by
  unfold identityFromUsername at h ⊢
  split at h
  next platform externalID hcut =>
    split at h
    · exact absurd rfl h
    next hparts =>
      rw [if_neg hparts]
      exact cut_eq_some hcut
  · exact absurd rfl h

/-- The token that signs for a platform. -/
def ServerConfig.botToken (config : ServerConfig) (platform : Bytes) : Bytes :=
  if platform = bytes "bale" then config.baleBotToken else config.telegramBotToken

/-- **An account of a signed platform is bound to the verified user.** -/
theorem validatePlatformIdentity_ok {config : ServerConfig} {customID : Bytes}
    {vars : String → Bytes} {now : ℤ} {identity : PlatformIdentity}
    (h : validatePlatformIdentity config customID vars now = .ok identity)
    (hplatform : identity.platform = bytes "telegram" ∨ identity.platform = bytes "bale") :
    ∃ v, verifyTelegramStyleInitData (vars "init_data") (config.botToken identity.platform)
        config.initDataMaxAge now = .ok v ∧
      identity.externalID = v.userID ∧ customID = identity.platform ++ 0x3A :: v.userID := by
  have hdistinct : bytes "bale" ≠ bytes "telegram" := by decide
  unfold validatePlatformIdentity at h
  dsimp only at h
  split at h
  · cases h
  next hpayload =>
  have hcustom := identityFromUsername_eq fun hunknown => hpayload (Or.inl hunknown)
  split at h
  · cases h
  next hsame =>
  have hsame := not_not.mp hsame
  split at h
  next htelegram =>
    obtain ⟨v, hv, hid, hplat, hext⟩ := verifiedIdentity_ok h
    have hbot : config.botToken identity.platform = config.telegramBotToken := by
      rw [hplat, ← hsame, htelegram]
      exact if_neg hdistinct.symm
    rw [hbot]
    refine ⟨v, hv, hext.trans hid.symm, ?_⟩
    rw [hplat, hid]
    exact hcustom
  split at h
  next hbale =>
    obtain ⟨v, hv, hid, hplat, hext⟩ := verifiedIdentity_ok h
    have hbot : config.botToken identity.platform = config.baleBotToken := by
      rw [hplat, ← hsame, hbale]
      exact if_pos rfl
    rw [hbot]
    refine ⟨v, hv, hext.trans hid.symm, ?_⟩
    rw [hplat, hid]
    exact hcustom
  -- the other platforms keep their name, which is neither
  next htelegram hbale =>
  have hother : identity.platform = vars "platform" → False := by
    intro heq
    rw [heq] at hplatform
    exact hplatform.elim htelegram hbale
  split at h
  · exact absurd ((unverifiedIdentity_platform h).trans hsame.symm) hother
  split at h
  · split at h
    · cases h
    · exact absurd ((unverifiedIdentity_platform h).trans hsame.symm) hother
  · cases h

/-- The variables of the account are those of the verified user. -/
theorem beforeAuthenticateCustom_ok {config : ServerConfig}
    {request request' : AuthenticateCustomRequest} {now : ℤ}
    (h : beforeAuthenticateCustom config request now = .ok request')
    (hplatform : request'.vars "platform" = bytes "telegram" ∨
      request'.vars "platform" = bytes "bale") :
    ∃ v, verifyTelegramStyleInitData (request.vars "init_data")
        (config.botToken (request'.vars "platform")) config.initDataMaxAge now = .ok v ∧
      request'.vars "external_id" = v.userID ∧
      request'.accountId = request'.vars "platform" ++ 0x3A :: v.userID := by
  unfold beforeAuthenticateCustom at h
  split at h
  · cases h
  split at h
  · cases h
  next identity hidentity =>
  cases h
  obtain ⟨v, hv, hid, hcustom⟩ := validatePlatformIdentity_ok hidentity hplatform
  exact ⟨v, hv, hid, hcustom⟩

/-- **A login cannot be altered.**  Let only the texts that the platform has signed have a
tag that is known, and no two of them the same.  Then whatever query is accepted with a
known tag, its user and its date are those of the signed text with this tag, so two such
queries never name different users or dates; and an account of the platform is accepted
for this user only. -/
theorem login_identity (botToken : Bytes) (signed : SignedData → Prop) (Known : Bytes → Prop)
    (unforgeable : ∀ text, Known (tagOf botToken text) → ∃ d, signed d ∧ d.text = text)
    (collisionFree : ∀ d d', signed d → signed d' →
      tagOf botToken d.text = tagOf botToken d'.text → d.text = d'.text) :
    (∀ raw maxAgeSeconds now v tag, presentedTag raw = some tag → Known tag →
      verifyTelegramStyleInitData raw botToken maxAgeSeconds now = .ok v →
      ∃ d, signed d ∧ tagOf botToken d.text = tag ∧ v.user = d.user ∧
        parseInt64 d.dateValue = some v.authDate) ∧
    (∀ raw raw' maxAgeSeconds maxAgeSeconds' now now' v v' tag, presentedTag raw = some tag →
      presentedTag raw' = some tag → Known tag →
      verifyTelegramStyleInitData raw botToken maxAgeSeconds now = .ok v →
      verifyTelegramStyleInitData raw' botToken maxAgeSeconds' now' = .ok v' →
      v.user = v'.user ∧ v.authDate = v'.authDate) ∧
    ∀ config customID vars now identity,
      validatePlatformIdentity config customID vars now = .ok identity →
      identity.platform = bytes "telegram" ∨ identity.platform = bytes "bale" →
      ∃ v, verifyTelegramStyleInitData (vars "init_data") (config.botToken identity.platform)
          config.initDataMaxAge now = .ok v ∧
        identity.externalID = v.userID ∧ customID = identity.platform ++ 0x3A :: v.userID := by
  have hsigned : ∀ {raw maxAgeSeconds now v tag}, presentedTag raw = some tag → Known tag →
      verifyTelegramStyleInitData raw botToken maxAgeSeconds now = .ok v →
      ∃ d, signed d ∧ tagOf botToken d.text = tag ∧ v.user = d.user ∧
        parseInt64 d.dateValue = some v.authDate := by
    intro raw maxAgeSeconds now v tag htag hknown h
    exact verify_signed (fun text htext => unforgeable text (htext ▸ hknown)) htag h
  refine ⟨fun raw maxAgeSeconds now v tag => hsigned, ?_, ?_⟩
  · intro raw raw' maxAgeSeconds maxAgeSeconds' now now' v v' tag htag htag' hknown h h'
    obtain ⟨d, hd, htext, huser, hdate⟩ := hsigned htag hknown h
    obtain ⟨d', hd', htext', huser', hdate'⟩ := hsigned htag' hknown h'
    obtain ⟨husers, hdates⟩ :=
      SignedData.eq_of_text (collisionFree d d' hd hd' (htext.trans htext'.symm))
    rw [hdates, hdate'] at hdate
    exact ⟨huser.trans (husers.trans huser'.symm), (Option.some.inj hdate).symm⟩
  · intro config customID vars now identity h hplatform
    exact validatePlatformIdentity_ok h hplatform

end


/-! ### A login -/

def sampleToken : Bytes := bytes "12345:crown"

def sampleUser : Bytes := bytes "\x7b\"id\":42,\"first_name\":\"Anna\"\x7d"

def sampleLines : List (Bytes × Bytes) :=
  [(bytes "auth_date", bytes "1700000000"), (bytes "query_id", bytes "AA"),
    (bytes "user", sampleUser)]

def sampleHash : Bytes :=
  bytes "84e250a5e7a6277a9a094b1aedc13385858641311db71a54c91602c8af0813c2"

/-- The HMAC of the two messages of this login. -/
@[reducible] def sampleHmac : Hmac where
  hmac key message :=
    if message = textOf sampleLines then (decodeHex sampleHash).getD []
    else if key = bytes "WebAppData" then
      (decodeHex (bytes
        "43f94efc6b2574524149e17eb23153faf42743c01ac9364f9ef81d32e88221c9")).getD []
    else []

@[reducible] def sampleFloat : FloatText where
  floatText literal := some literal

def sampleData : @SignedData sampleFloat :=
  letI := sampleFloat
  { lines := sampleLines
    sorted := by decide
    newlineFree := by decide
    userValue := sampleUser
    user_mem := by decide
    one_user := by decide
    user := ⟨bytes "42", [], bytes "Anna", [], []⟩
    names := by rfl
    dateValue := bytes "1700000000"
    date_mem := by decide
    one_date := by decide }

/-- The parameters come in another order than the lines. -/
def sampleRaw : Bytes :=
  bytes "query_id=AA&user=%7B%22id%22%3A42%2C%22first_name%22%3A%22Anna%22%7D" ++
    bytes "&auth_date=1700000000&hash=" ++ sampleHash

def sampleVerified : VerifiedInitData := ⟨bytes "42", [], bytes "Anna", [], [], 1700000000⟩

theorem sampleRaw_verifies : @verifyTelegramStyleInitData sampleFloat sampleHmac sampleRaw
    sampleToken 86400 1700000100 = .ok sampleVerified := by decide +kernel

theorem login_identity_sample : ∃ d, d = sampleData ∧
    @tagOf sampleHmac sampleToken (@SignedData.text sampleFloat d) =
      (decodeHex sampleHash).getD [] ∧
    sampleVerified.user = @SignedData.user sampleFloat d ∧
    parseInt64 (@SignedData.dateValue sampleFloat d) = some sampleVerified.authDate := by
  have hknown : ∀ text, @tagOf sampleHmac sampleToken text = (decodeHex sampleHash).getD [] →
      ∃ d, d = sampleData ∧ @SignedData.text sampleFloat d = text := by
    intro text htext
    refine ⟨sampleData, rfl, ?_⟩
    by_contra hne
    have hother : @tagOf sampleHmac sampleToken text = [] := by
      have hmessage : text ≠ textOf sampleLines := fun h => hne h.symm
      refine (if_neg hmessage).trans ?_
      decide
    rw [hother] at htext
    revert htext
    decide
  exact (@login_identity sampleFloat sampleHmac sampleToken (fun d => d = sampleData)
    (fun tag => tag = (decodeHex sampleHash).getD []) hknown fun d d' hd hd' _ => by
      rw [hd, hd']).1 sampleRaw 86400 1700000100 sampleVerified _ (by decide) rfl
    sampleRaw_verifies

end CrownClash.Go
