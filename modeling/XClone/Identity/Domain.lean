import XClone.Js.Number
import XClone.Js.Text

/-!
# XClone.Identity.Domain — the rules of the Identity service

Accounts, sessions and refresh tokens, the errors the use cases throw, and the
checks every input passes: handles, passwords and the two profile normalisers.
-/

namespace XClone.Identity

open Js

/-! ## Errors -/

/-- Everything a use case can throw. -/
inductive Failure where
  | domainValidation (field reason : JsString)
  | invalidCredentials
  | invalidRefreshToken
  | handleTaken (handle : JsString)
  | profileNotFoundByHandle (handle : JsString)
  | profileNotFoundById (userId : JsString)
  | emptyProfileUpdate
  /-- The database refused a row: a unique or foreign key violation. -/
  | constraintViolation
  /-- A port could not do its work. -/
  | unavailable
deriving DecidableEq

/-- `error.message`, for the errors the domain defines. -/
def Failure.message : Failure → Option JsString
  | .domainValidation field reason => some (field ++ js ": " ++ reason)
  | .invalidCredentials => some (js "invalid handle or password")
  | .invalidRefreshToken => some (js "invalid refresh token")
  | .handleTaken handle => some (js "handle \"" ++ handle ++ js "\" is already taken")
  | .profileNotFoundByHandle handle => some (js "no account with handle \"" ++ handle ++ js "\"")
  | .profileNotFoundById userId => some (js "no account with id \"" ++ userId ++ js "\"")
  | .emptyProfileUpdate => some (js "no supported field was given to update")
  | .constraintViolation => none
  | .unavailable => none

/-! ## Records -/

structure User where
  id : JsString
  handle : JsString
  displayName : JsString
  createdAt : Date
deriving DecidableEq

/-- One login and the refresh-token chain minted from it. -/
structure Session where
  id : JsString
  userId : JsString
  expiresAt : Date
  revokedAt : Option Date
  userAgent : Option JsString
  createdAt : Date
deriving DecidableEq

/-- Spent rather than deleted. -/
structure StoredRefreshToken where
  id : JsString
  sessionId : JsString
  tokenHash : JsString
  spentAt : Option Date
  createdAt : Date
deriving DecidableEq

structure Profile where
  id : JsString
  handle : JsString
  displayName : JsString
  bio : JsString
  createdAt : Date
deriving DecidableEq

/-- What a PATCH may change; `none` leaves the field alone. -/
structure ProfileChanges where
  displayName : Option JsString
  bio : Option JsString
deriving DecidableEq

/-! ## Handles and passwords -/

def isLetter (u : UInt16) : Bool := (65 ≤ u && u ≤ 90) || (97 ≤ u && u ≤ 122)

def isDigit (u : UInt16) : Bool := 48 ≤ u && u ≤ 57

/-- `/^[a-zA-Z0-9_]{3,20}$/`. -/
def handlePattern (handle : JsString) : Bool :=
  handle.all (fun u => isLetter u || isDigit u || u == 95) &&
    3 ≤ handle.length && handle.length ≤ 20

def assertValidHandle (handle : JsString) : Except Failure Unit :=
  if handlePattern handle then .ok ()
  else .error (.domainValidation (js "handle")
    (js "must be 3-20 characters: letters, digits, or underscore"))

def minPasswordLength : ℕ := 8

def assertValidPassword (password : JsString) : Except Failure Unit :=
  if password.length < minPasswordLength then
    .error (.domainValidation (js "password")
      (js ("must be at least " ++ toString minPasswordLength ++ " characters")))
  else if !password.any isLetter || !password.any isDigit then
    .error (.domainValidation (js "password") (js "must contain at least one letter and one digit"))
  else .ok ()

/-! ## Profiles -/

def displayNameMax : ℕ := 50

def bioMax : ℕ := 160

/-- Counted in code points. -/
def countCharacters (value : JsString) : ℕ := (codePoints value).length

/-- Controls and DEL, with the line feed allowed or not. -/
def hasControlCharacters (value : JsString) (allowNewline : Bool) : Bool :=
  (codePoints value).any fun code =>
    !(allowNewline && code == 0x0A) && (code < 0x20 || code == 0x7F)

/-- A match of `INVISIBLE_CHARACTERS`. -/
def isInvisible (u : UInt16) : Bool :=
  (0x200B ≤ u && u ≤ 0x200F) || (0x202A ≤ u && u ≤ 0x202E) || (0x2060 ≤ u && u ≤ 0x2064) ||
    (0x2066 ≤ u && u ≤ 0x2069) || u == 0xFEFF

/-- Trims, then validates. -/
def normalizeDisplayName (displayName : JsString) : Except Failure JsString :=
  let trimmed := trim displayName
  if trimmed = [] then
    .error (.domainValidation (js "displayName") (js "must not be empty"))
  else if hasControlCharacters trimmed false then
    .error (.domainValidation (js "displayName") (js "must not contain control characters"))
  else if trimmed.any isInvisible then
    .error (.domainValidation (js "displayName") (js "must not contain invisible characters"))
  else if displayNameMax < countCharacters trimmed then
    .error (.domainValidation (js "displayName")
      (js ("must be at most " ++ toString displayNameMax ++ " characters")))
  else .ok trimmed

/-- Folds CRLF, trims, then validates; empty is legal. -/
def normalizeBio (bio : JsString) : Except Failure JsString :=
  let trimmed := trim (foldCrLf bio)
  if hasControlCharacters trimmed true then
    .error (.domainValidation (js "bio") (js "must not contain control characters"))
  else if bioMax < countCharacters trimmed then
    .error (.domainValidation (js "bio")
      (js ("must be at most " ++ toString bioMax ++ " characters")))
  else .ok trimmed

/-! ## What a check fails with -/

/-- A rule of `field` was broken: it is named, with a reason to show. -/
def Violates (field : JsString) (e : Failure) : Prop :=
  ∃ reason, e = .domainValidation field reason ∧ IsPrintable reason

theorem assertValidHandle_error {handle : JsString} {e : Failure}
    (h : assertValidHandle handle = .error e) : Violates (js "handle") e := by
  unfold assertValidHandle at h
  split at h
  · cases h
  · cases h
    exact ⟨_, rfl, js_printable rfl⟩

theorem assertValidPassword_error {password : JsString} {e : Failure}
    (h : assertValidPassword password = .error e) : Violates (js "password") e := by
  unfold assertValidPassword at h
  split at h
  · cases h
    exact ⟨_, rfl, js_printable rfl⟩
  split at h
  · cases h
    exact ⟨_, rfl, js_printable rfl⟩
  · cases h

theorem normalizeDisplayName_error {displayName : JsString} {e : Failure}
    (h : normalizeDisplayName displayName = .error e) : Violates (js "displayName") e := by
  unfold normalizeDisplayName at h
  dsimp only at h
  split at h
  · cases h
    exact ⟨_, rfl, js_printable rfl⟩
  split at h
  · cases h
    exact ⟨_, rfl, js_printable rfl⟩
  split at h
  · cases h
    exact ⟨_, rfl, js_printable rfl⟩
  split at h
  · cases h
    exact ⟨_, rfl, js_printable rfl⟩
  · cases h

theorem normalizeBio_error {bio : JsString} {e : Failure} (h : normalizeBio bio = .error e) :
    Violates (js "bio") e := by
  unfold normalizeBio at h
  dsimp only at h
  split at h
  · cases h
    exact ⟨_, rfl, js_printable rfl⟩
  split at h
  · cases h
    exact ⟨_, rfl, js_printable rfl⟩
  · cases h

end XClone.Identity
