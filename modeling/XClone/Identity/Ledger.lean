import Mathlib.Logic.Function.Basic
import XClone.Identity.Executions

/-!
# XClone.Identity.Ledger — what the Identity service is for

The service as its clients may think of it: accounts with their passwords, and for each
login a family of refresh tokens, one of which is current. A request is served in one step.
There is no table here, no digest, no check that something may come between, and no row
that is written in more than one place.
-/

namespace XClone.Identity

open Js

/-! ## The state -/

/-- A registered account. -/
structure Account where
  profile : Profile
  password : JsString

/-- A login: the token it can be continued with, and those it was continued with. -/
structure Family where
  session : Session
  current : JsString
  spent : List JsString

/-- The token is or was its current one. -/
def Family.Has (family : Family) (token : JsString) : Prop :=
  token = family.current ∨ token ∈ family.spent

/-- The token is of no use any more: it was exchanged, or the family revoked. -/
def Family.Rejects (family : Family) (token : JsString) : Prop :=
  token ∈ family.spent ∨ (token = family.current ∧ family.session.revokedAt ≠ none)

/-- Accounts by their id, families by the id of their session. -/
structure Ledger where
  accounts : JsString → Option Account
  families : JsString → Option Family

namespace Ledger

/-- Nobody is registered. -/
def empty : Ledger := ⟨fun _ => none, fun _ => none⟩

def withAccount (ledger : Ledger) (id : JsString) (account : Account) : Ledger :=
  { ledger with accounts := Function.update ledger.accounts id (some account) }

def withFamily (ledger : Ledger) (id : JsString) (family : Family) : Ledger :=
  { ledger with families := Function.update ledger.families id (some family) }

variable (ledger : Ledger)

/-- The account has the handle, as `lower` compares handles. -/
def Holds (lower : JsString → JsString) (handle : JsString) (account : Account) : Prop :=
  ∃ id, ledger.accounts id = some account ∧ lower account.profile.handle = lower handle

/-- The token is one of the family's. -/
def Knows (token : JsString) (family : Family) : Prop :=
  ∃ id, ledger.families id = some family ∧ family.Has token

@[simp] theorem withAccount_families (id : JsString) (account : Account) :
    (ledger.withAccount id account).families = ledger.families := rfl

@[simp] theorem withFamily_accounts (id : JsString) (family : Family) :
    (ledger.withFamily id family).accounts = ledger.accounts := rfl

@[simp] theorem withAccount_self (id : JsString) (account : Account) :
    (ledger.withAccount id account).accounts id = some account :=
  Function.update_self _ _ _

@[simp] theorem withFamily_self (id : JsString) (family : Family) :
    (ledger.withFamily id family).families id = some family :=
  Function.update_self _ _ _

variable {ledger}

theorem withFamily_of_ne {id id' : JsString} (h : id' ≠ id) (family : Family) :
    (ledger.withFamily id family).families id' = ledger.families id' :=
  Function.update_of_ne h _ _

end Ledger

/-! ## Requests that break a rule -/

/-- The checks that need no state. -/
def Request.check : Request → Except Failure Unit
  | .register input => do
    assertValidHandle input.handle
    assertValidPassword input.password
  | .login _ => .ok ()
  | .refresh _ => .ok ()
  | .getProfile handle => assertValidHandle handle
  | .updateProfile input => do
    let displayName ← normalizeField normalizeDisplayName input.displayName
    let bio ← normalizeField normalizeBio input.bio
    if displayName = none ∧ bio = none then .error .emptyProfileUpdate else .ok ()

/-! ## One request, one step -/

/-- The account a registration makes. -/
def newUser (input : RegisterUserInput) (id : JsString) (createdAt : Date) : User :=
  { id, handle := input.handle, displayName := input.handle, createdAt }

/-- Its profile, the bio still empty. -/
def newProfile (input : RegisterUserInput) (id : JsString) (createdAt : Date) : Profile :=
  { id, handle := input.handle, displayName := input.handle, bio := [], createdAt }

/-- The profile after a change: absent fields stay. -/
def ProfileChanges.apply (changes : ProfileChanges) (profile : Profile) : Profile :=
  { profile with
    displayName := changes.displayName.getD profile.displayName
    bio := changes.bio.getD profile.bio }

/-- The session a login opens. -/
def newSession (services : Services) (input : LoginInput) (account : Account) (id : JsString)
    (now : Date) : Session :=
  { id, userId := account.profile.id, expiresAt := now + services.lifetimes.refreshTokenMs
    revokedAt := none, userAgent := input.userAgent, createdAt := now }

/-- The pair issued on a session at `now`. -/
def pairOn (services : Services) (session : Session) (token : JsString) (now : Date) : IssuedTokens :=
  issuedTokens services.toSettings session
    (services.issue (accessClaims services.toSettings session now)) token now

/-- How a ledger serves a request, at what clock reading if it takes one: with which
answer, and what it becomes. -/
inductive Serves (services : Services) (ledger : Ledger) :
    Request → Option Date → Except Failure Response → Ledger → Prop where
  | invalid {request : Request} {reading : Option Date} {e : Failure} :
      request.check = .error e → Serves services ledger request reading (.error e) ledger
  | registered {input : RegisterUserInput} (id : JsString) (createdAt : Date) :
      (Request.register input).check = .ok () →
      (∀ account, ¬ ledger.Holds services.lower input.handle account) →
      ledger.accounts id = none →
      Serves services ledger (.register input) (some createdAt)
        (.ok (.user (newUser input id createdAt)))
        (ledger.withAccount id ⟨newProfile input id createdAt, input.password⟩)
  | handleTaken {input : RegisterUserInput} {reading : Option Date} {account : Account} :
      (Request.register input).check = .ok () →
      ledger.Holds services.lower input.handle account →
      Serves services ledger (.register input) reading (.error (.handleTaken input.handle)) ledger
  | loggedIn {input : LoginInput} {account : Account} (id token : JsString) (now : Date) :
      ledger.Holds services.lower input.handle account → account.password = input.password →
      ledger.families id = none → (∀ family, ¬ ledger.Knows token family) →
      Serves services ledger (.login input) (some now)
        (.ok (.tokens (pairOn services (newSession services input account id now) token now)))
        (ledger.withFamily id ⟨newSession services input account id now, token, []⟩)
  | wrongCredentials {input : LoginInput} {reading : Option Date} :
      (∀ account, ledger.Holds services.lower input.handle account →
        account.password ≠ input.password) →
      Serves services ledger (.login input) reading (.error .invalidCredentials) ledger
  | refreshed {input : RefreshSessionInput} {id : JsString} {family : Family} (token : JsString)
      (now : Date) :
      ledger.families id = some family → input.refreshToken = family.current →
      family.session.revokedAt = none → now < family.session.expiresAt →
      (∀ other, ¬ ledger.Knows token other) →
      Serves services ledger (.refresh input) (some now)
        (.ok (.tokens (pairOn services family.session token now)))
        (ledger.withFamily id ⟨family.session, token, family.current :: family.spent⟩)
  | unknownToken {input : RefreshSessionInput} {reading : Option Date} :
      (∀ family, ¬ ledger.Knows input.refreshToken family) →
      Serves services ledger (.refresh input) reading (.error .invalidRefreshToken) ledger
  | expired {input : RefreshSessionInput} {family : Family} (now : Date) :
      ledger.Knows input.refreshToken family → family.session.expiresAt ≤ now →
      Serves services ledger (.refresh input) (some now) (.error .invalidRefreshToken) ledger
  | profile {handle : JsString} {reading : Option Date} {account : Account} :
      (Request.getProfile handle).check = .ok () → ledger.Holds services.lower handle account →
      Serves services ledger (.getProfile handle) reading (.ok (.profile account.profile)) ledger
  | noProfile {handle : JsString} {reading : Option Date} :
      (Request.getProfile handle).check = .ok () →
      (∀ account, ¬ ledger.Holds services.lower handle account) →
      Serves services ledger (.getProfile handle) reading
        (.error (.profileNotFoundByHandle handle)) ledger
  | updated {input : UpdateProfileInput} {reading : Option Date} {changes : ProfileChanges}
      {account : Account} :
      Normalises input changes → ledger.accounts input.userId = some account →
      Serves services ledger (.updateProfile input) reading
        (.ok (.profile (changes.apply account.profile)))
        (ledger.withAccount input.userId { account with profile := changes.apply account.profile })
  | nobody {input : UpdateProfileInput} {reading : Option Date} :
      (Request.updateProfile input).check = .ok () → ledger.accounts input.userId = none →
      Serves services ledger (.updateProfile input) reading
        (.error (.profileNotFoundById input.userId)) ledger

/-- What happens to a ledger: a request is served, and one kind of it in two steps. A
refresh with a token of no use is rejected, and then the family of the token revoked. -/
inductive Operation where
  | serve (request : Request) (reading : Option Date) (outcome : Except Failure Response)
  | reuse (token : JsString)
  | revoke (token sessionId : JsString) (revokedAt : Date)

/-- The clock reading an operation goes by. -/
def Operation.reading : Operation → Option Date
  | .serve _ reading _ => reading
  | .reuse _ => none
  | .revoke _ _ revokedAt => some revokedAt

/-- Revoking a family that is revoked, or not there, changes nothing. -/
def Ledger.revoke (ledger : Ledger) (sessionId : JsString) (revokedAt : Date) : Ledger :=
  match ledger.families sessionId with
  | none => ledger
  | some family =>
    if family.session.revokedAt = none then
      ledger.withFamily sessionId
        { family with session := { family.session with revokedAt := some revokedAt } }
    else ledger

theorem Ledger.revoke_accounts (ledger : Ledger) (sessionId : JsString) (revokedAt : Date) :
    (ledger.revoke sessionId revokedAt).accounts = ledger.accounts := by
  unfold Ledger.revoke
  split
  · rfl
  · split <;> rfl

/-- Only the session of the family changes, and only where it was not revoked. -/
theorem Ledger.revoke_families (ledger : Ledger) (sessionId : JsString) (revokedAt : Date)
    (id : JsString) :
    (ledger.revoke sessionId revokedAt).families id = (ledger.families id).map fun family =>
      if id = sessionId ∧ family.session.revokedAt = none then
        { family with session := { family.session with revokedAt := some revokedAt } }
      else family := by
  by_cases hid : id = sessionId
  · subst hid
    unfold Ledger.revoke
    cases hfamily : ledger.families id with
    | none => simp [hfamily]
    | some family => by_cases hlive : family.session.revokedAt = none <;> simp [hlive, hfamily]
  · have hkept : (ledger.revoke sessionId revokedAt).families id = ledger.families id := by
      unfold Ledger.revoke
      split
      · rfl
      · split
        · exact Ledger.withFamily_of_ne hid _
        · rfl
    simp [hid, hkept]

/-- One operation. -/
def Ledger.Performs (services : Services) (ledger : Ledger) : Operation → Ledger → Prop
  | .serve request reading outcome, ledger' =>
    Serves services ledger request reading outcome ledger'
  | .reuse token, ledger' =>
    (∃ id family, ledger.families id = some family ∧ family.Rejects token) ∧ ledger' = ledger
  | .revoke token sessionId revokedAt, ledger' =>
    (∃ family, ledger.families sessionId = some family ∧ family.Rejects token) ∧
      ledger' = ledger.revoke sessionId revokedAt

end XClone.Identity
