import CrownClash.Lib.JsonText
import CrownClash.Lib.Sorting
import Mathlib.Algebra.Group.Nat.Defs

/-!
# Go: the login

A client logs in with the query string that its platform has signed.  The server puts
the decoded parameters back into lines, all but the hash, and compares the HMAC of the
lines with the hash (`verifyTelegramStyleInitData`).  The account is bound to the user
that the parameters name (`validatePlatformIdentity`).

The HMAC is a parameter, and so is the text of a floating point number.
-/

namespace CrownClash.Go

open Lib

/-- HMAC-SHA256 of a key and a message. -/
class Hmac where
  hmac : Bytes → Bytes → Bytes

/-- The text that a number is given, once it is read as a floating point number; `none`
when it is out of range. -/
class FloatText where
  floatText : Bytes → Option Bytes

export Hmac (hmac)
export FloatText (floatText)

/-! ### Parameters -/

/-- The parameters of a query by their keys, the first one first. -/
abbrev Values := List (Bytes × Bytes)

/-- The first value of a key, or the empty text. -/
def Values.get (params : Values) (key : Bytes) : Bytes :=
  ((params.find? fun p => p.1 = key).map Prod.snd).getD []

def checkLine (p : Bytes × Bytes) : Bytes := p.1 ++ 0x3D :: p.2

/-- The lines that are signed: the keys in order, and for each its values in order. -/
def checkLines (params : Values) : List Bytes :=
  let keys := sortBy (fun a b => decide (a < b)) ((params.map Prod.fst).dedup.filter
    fun key => key ≠ bytes "hash")
  keys.flatMap fun key => (params.filter fun p => p.1 = key).map checkLine

def dataCheckString (params : Values) : Bytes := join newline (checkLines params)

/-! ### The user of the parameters -/

structure ExtractedUser where
  id : Bytes
  username : Bytes
  firstName : Bytes
  lastName : Bytes
  languageCode : Bytes
  deriving DecidableEq, Repr

mutual

/-- All numbers in a value. -/
def numbersOf : JsonValue → List Bytes
  | .num literal => [literal]
  | .arr items => numbersOfItems items
  | .obj members => numbersOfMembers members
  | _ => []

def numbersOfItems : List JsonValue → List Bytes
  | [] => []
  | v :: items => numbersOf v ++ numbersOfItems items

def numbersOfMembers : List (Bytes × JsonValue) → List Bytes
  | [] => []
  | (_, v) :: members => numbersOf v ++ numbersOfMembers members

end

/-- A key with its letters in upper case; the long s and the Kelvin sign count as the
letters that they fold to. -/
def foldName : Bytes → Bytes
  | 0xC5 :: 0xBF :: s => 0x53 :: foldName s
  | 0xE2 :: 0x84 :: 0xAA :: s => 0x4B :: foldName s
  | c :: s => (if 0x61 ≤ c ∧ c ≤ 0x7A then c - 0x20 else c) :: foldName s
  | [] => []

/-- The members of the object that are read so far; `failed` when one of them had the
wrong type. -/
structure UserFields where
  id : Option JsonValue
  username : Bytes
  firstName : Bytes
  lastName : Bytes
  languageCode : Bytes
  failed : Bool

section

variable [FloatText]

/-- A member that takes any value. -/
def UserFields.setId (u : UserFields) (v : JsonValue) : UserFields :=
  match v with
  | .null => { u with id := none }
  | v =>
    if (numbersOf v).all fun literal => (floatText literal).isSome then { u with id := some v }
    else { u with failed := true }

/-- A member that is a text; `null` leaves it as it is. -/
def UserFields.setText (u : UserFields) (v : JsonValue) (set : Bytes → UserFields) : UserFields :=
  match v with
  | .str text => set text
  | .null => u
  | _ => { u with failed := true }

def UserFields.set (u : UserFields) (member : Bytes × JsonValue) : UserFields :=
  let name := foldName member.1
  if name = bytes "ID" then u.setId member.2
  else if name = bytes "USERNAME" then u.setText member.2 fun text => { u with username := text }
  else if name = bytes "FIRST_NAME" then u.setText member.2 fun text => { u with firstName := text }
  else if name = bytes "LAST_NAME" then u.setText member.2 fun text => { u with lastName := text }
  else if name = bytes "LANGUAGE_CODE" then
    u.setText member.2 fun text => { u with languageCode := text }
  else u

def stringifyUserID : JsonValue → Bytes
  | .str text => text
  | .num literal => (floatText literal).getD []
  | _ => []

/-- The user that a JSON text names. -/
def unmarshalUser (raw : Bytes) : Option ExtractedUser :=
  match parseJson raw with
  | some (.obj members) =>
    let u := members.foldl UserFields.set ⟨none, [], [], [], [], false⟩
    if u.failed then none
    else
      u.id.map fun id =>
        ⟨stringifyUserID id, u.username, u.firstName, u.lastName, u.languageCode⟩
  | _ => none

def extractUser (params : Values) : Option ExtractedUser :=
  let raw := Values.get params (bytes "user")
  if raw ≠ [] then unmarshalUser raw else none

/-- The user id and the name that a platform without signatures sends. -/
def extractUnverifiedUser (raw : Bytes) : Option (Bytes × Bytes) :=
  match parseQuery raw with
  | none => none
  | some params =>
    match extractUser params with
    | some user => some (user.id, user.username)
    | none =>
      let eitaaId := Values.get params (bytes "eitaa_id")
      let userId := if eitaaId = [] then Values.get params (bytes "user_id") else eitaaId
      if userId = [] then none else some (userId, Values.get params (bytes "username"))

/-! ### Verification -/

structure VerifiedInitData where
  userID : Bytes
  username : Bytes
  firstName : Bytes
  lastName : Bytes
  languageCode : Bytes
  authDate : ℤ
  deriving DecidableEq, Repr

inductive InitDataError
  | missingHash
  | missingAuthDate
  | invalidSignature
  | expired
  | missingUser
  | malformed
  deriving DecidableEq, Repr

def InitDataError.text : InitDataError → String
  | .missingHash => "missing_hash"
  | .missingAuthDate => "missing_auth_date"
  | .invalidSignature => "invalid_signature"
  | .expired => "expired"
  | .missingUser => "missing_user"
  | .malformed => "malformed"

variable [Hmac]

/-- The tag that a bot has for a signed text. -/
def tagOf (botToken text : Bytes) : Bytes := hmac (hmac (bytes "WebAppData") botToken) text

/-- The age of a login in seconds; the subtraction is one of 64 bits. -/
def expired (authDate maxAgeSeconds now : ℤ) : Bool :=
  0 < maxAgeSeconds ∧ maxAgeSeconds < (now - authDate).bmod (2 ^ 64)

def verifyTelegramStyleInitData (raw botToken : Bytes) (maxAgeSeconds now : ℤ) :
    Except InitDataError VerifiedInitData :=
  match parseQuery raw with
  | none => .error .malformed
  | some params =>
    let hash := Values.get params (bytes "hash")
    let authDateRaw := Values.get params (bytes "auth_date")
    if hash = [] then .error .missingHash
    else if authDateRaw = [] then .error .missingAuthDate
    else
      match parseInt64 authDateRaw with
      | none => .error .malformed
      | some authDate =>
        if expired authDate maxAgeSeconds now then .error .expired
        else if decodeHex hash ≠ some (tagOf botToken (dataCheckString params)) then
          .error .invalidSignature
        else
          match extractUser params with
          | none => .error .missingUser
          | some user =>
            .ok ⟨user.id, user.username, user.firstName, user.lastName, user.languageCode,
              authDate⟩

/-! ### The identity of an account -/

structure ServerConfig where
  telegramBotToken : Bytes
  baleBotToken : Bytes
  allowGuestAuth : Bool
  initDataMaxAge : ℤ

structure PlatformIdentity where
  platform : Bytes
  externalID : Bytes
  username : Bytes
  displayName : Bytes
  deriving DecidableEq, Repr

/-- `platform:external_id` -/
def identityFromUsername (customID : Bytes) : PlatformIdentity :=
  match cut 0x3A customID with
  | (platform, some externalID) =>
    if platform = [] ∨ externalID = [] then ⟨bytes "unknown", customID, [], []⟩
    else ⟨platform, externalID, [], []⟩
  | (_, none) => ⟨bytes "unknown", customID, [], []⟩

/-- A signed login. -/
def verifiedIdentity (identity : PlatformIdentity) (initData botToken : Bytes)
    (maxAgeSeconds now : ℤ) : Except String PlatformIdentity :=
  if botToken = [] then .error "platform_not_configured"
  else
    match verifyTelegramStyleInitData initData botToken maxAgeSeconds now with
    | .error e => .error e.text
    | .ok verified =>
      if verified.userID ≠ identity.externalID then .error "identity_mismatch"
      else
        .ok { identity with
          username := verified.username
          displayName := if verified.firstName = [] then verified.username else verified.firstName }

/-- A login that nobody has signed. -/
def unverifiedIdentity (identity : PlatformIdentity) (initData : Bytes) :
    Except String PlatformIdentity :=
  match extractUnverifiedUser initData with
  | none => .error "missing_user"
  | some (externalID, username) =>
    if externalID ≠ identity.externalID then .error "identity_mismatch"
    else .ok { identity with username := username, displayName := username }

/-- The init data are sent as variables of the account. -/
def validatePlatformIdentity (config : ServerConfig) (customID : Bytes) (vars : String → Bytes)
    (now : ℤ) : Except String PlatformIdentity :=
  let identity := identityFromUsername customID
  let platform := vars "platform"
  let initData := vars "init_data"
  if identity.platform = bytes "unknown" ∨ platform = [] ∨ initData = [] then
    .error "invalid_auth_payload"
  else if platform ≠ identity.platform then .error "identity_mismatch"
  else if platform = bytes "telegram" then
    verifiedIdentity identity initData config.telegramBotToken config.initDataMaxAge now
  else if platform = bytes "bale" then
    verifiedIdentity identity initData config.baleBotToken config.initDataMaxAge now
  else if platform = bytes "eitaa" then unverifiedIdentity identity initData
  else if platform = bytes "guest" ∨ platform = bytes "browser" then
    if !config.allowGuestAuth then .error "guest_auth_disabled"
    else unverifiedIdentity identity initData
  else .error "unsupported_platform"

/-- A login with a custom id; an account that is missing has an empty one. -/
structure AuthenticateCustomRequest where
  accountId : Bytes
  vars : String → Bytes
  username : Bytes

/-- What the server makes of a login before the account is looked up. -/
def beforeAuthenticateCustom (config : ServerConfig) (request : AuthenticateCustomRequest)
    (now : ℤ) : Except String AuthenticateCustomRequest :=
  if request.accountId = [] then .error "missing_custom_id"
  else
    match validatePlatformIdentity config request.accountId request.vars now with
    | .error e => .error e
    | .ok identity =>
      .ok
        { accountId := request.accountId
          username := if identity.username = [] then request.username else identity.username
          vars := fun name =>
            if name = "platform" then identity.platform
            else if name = "external_id" then identity.externalID
            else if name = "display_name" then identity.displayName
            else [] }

end

end CrownClash.Go
