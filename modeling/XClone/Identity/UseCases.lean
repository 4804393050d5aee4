import XClone.Lib.Interleaving
import XClone.AccessToken.Issuer
import XClone.Identity.SessionStore
import XClone.Identity.UserStore

/-!
# XClone.Identity.UseCases — the five use cases

Each use case is the program of its port calls, in the order the source awaits
them. What a port answers is not decided here: see `XClone.Identity.System`.
-/

namespace XClone.Identity

open Js Interleaving AccessToken

/-! ## Ports -/

structure TokenLifetimes where
  accessTokenMs : ℤ
  refreshTokenMs : ℤ
deriving DecidableEq

/-- A minted token and the digest that is stored. -/
structure RefreshToken where
  token : JsString
  hash : JsString
deriving DecidableEq

/-- The calls a use case can make, one constructor for each method of a port. -/
inductive PortCall where
  | existsByHandle (handle : JsString)
  | createUser (user : User) (passwordHash : JsString)
  | findCredentialsByHandle (handle : JsString)
  | createSession (session : Session) (firstToken : StoredRefreshToken)
  | findByTokenHash (tokenHash : JsString)
  | rotate (spentTokenId : JsString) (next : StoredRefreshToken) (spentAt : Date)
  | revoke (sessionId : JsString) (revokedAt : Date)
  | findByHandle (handle : JsString)
  | updateProfile (userId : JsString) (changes : ProfileChanges)
  | hashPassword (password : JsString)
  | verifyPassword (hash password : JsString)
  | createRefreshToken
  | nextId
  | now
  | issueAccessToken (claims : AccessTokenClaims)
deriving DecidableEq

/-- What each call answers. -/
@[reducible] def Answer : PortCall → Type
  | .existsByHandle _ => Bool
  | .createUser _ _ => Unit
  | .findCredentialsByHandle _ => Option StoredCredentials
  | .createSession _ _ => Unit
  | .findByTokenHash _ => Option SessionWithToken
  | .rotate _ _ _ => Bool
  | .revoke _ _ => Unit
  | .findByHandle _ => Option Profile
  | .updateProfile _ _ => Option Profile
  | .hashPassword _ => JsString
  | .verifyPassword _ _ => Bool
  | .createRefreshToken => RefreshToken
  | .nextId => JsString
  | .now => Date
  | .issueAccessToken _ => JsString

/-- A use case returning `α`. -/
abbrev UseCase (α : Type) := Program PortCall Answer Failure α

open Program

abbrev UserRepository.existsByHandle (handle : JsString) : UseCase Bool :=
  perform (PortCall.existsByHandle handle)

abbrev UserRepository.create (user : User) (passwordHash : JsString) : UseCase Unit :=
  perform (PortCall.createUser user passwordHash)

abbrev UserRepository.findCredentialsByHandle (handle : JsString) :
    UseCase (Option StoredCredentials) :=
  perform (PortCall.findCredentialsByHandle handle)

abbrev SessionRepository.create (session : Session) (firstToken : StoredRefreshToken) :
    UseCase Unit :=
  perform (PortCall.createSession session firstToken)

abbrev SessionRepository.findByTokenHash (tokenHash : JsString) :
    UseCase (Option SessionWithToken) :=
  perform (PortCall.findByTokenHash tokenHash)

abbrev SessionRepository.rotate (spentTokenId : JsString) (next : StoredRefreshToken)
    (spentAt : Date) : UseCase Bool :=
  perform (PortCall.rotate spentTokenId next spentAt)

abbrev SessionRepository.revoke (sessionId : JsString) (revokedAt : Date) : UseCase Unit :=
  perform (PortCall.revoke sessionId revokedAt)

abbrev ProfileRepository.findByHandle (handle : JsString) : UseCase (Option Profile) :=
  perform (PortCall.findByHandle handle)

abbrev ProfileRepository.update (userId : JsString) (changes : ProfileChanges) :
    UseCase (Option Profile) :=
  perform (PortCall.updateProfile userId changes)

abbrev PasswordHasher.hash (password : JsString) : UseCase JsString :=
  perform (PortCall.hashPassword password)

abbrev PasswordHasher.verify (hash password : JsString) : UseCase Bool :=
  perform (PortCall.verifyPassword hash password)

abbrev RefreshTokenFactory.create : UseCase RefreshToken := perform PortCall.createRefreshToken

abbrev IdGenerator.next : UseCase JsString := perform PortCall.nextId

abbrev Clock.now : UseCase Date := perform PortCall.now

abbrev AccessTokenIssuer.issue (claims : AccessTokenClaims) : UseCase JsString :=
  perform (PortCall.issueAccessToken claims)

/-- What the use cases are configured with. -/
structure Settings where
  lifetimes : TokenLifetimes
  /-- `RefreshTokenFactory.hash`. -/
  hashRefreshToken : JsString → JsString

variable (settings : Settings)

/-! ## Tokens -/

structure IssuedTokens where
  userId : JsString
  accessToken : JsString
  accessTokenExpiresAt : Date
  refreshToken : JsString
  refreshTokenExpiresAt : Date
deriving DecidableEq

structure MintedRefreshToken where
  token : JsString
  row : StoredRefreshToken
deriving DecidableEq

def mintRefreshToken (sessionId : JsString) (now : Date) : UseCase MintedRefreshToken := do
  let minted ← RefreshTokenFactory.create
  let id ← IdGenerator.next
  return { token := minted.token
           row := { id, sessionId, tokenHash := minted.hash, spentAt := none, createdAt := now } }

/-- The claims of the access token `issueTokens` issues. -/
def accessClaims (session : Session) (now : Date) : AccessTokenClaims :=
  { userId := session.userId, sessionId := session.id, issuedAt := now
    expiresAt := now + settings.lifetimes.accessTokenMs }

def issueTokens (session : Session) (refreshToken : JsString) (now : Date) :
    UseCase IssuedTokens := do
  let accessToken ← AccessTokenIssuer.issue (accessClaims settings session now)
  return { userId := session.userId, accessToken
           accessTokenExpiresAt := now + settings.lifetimes.accessTokenMs
           refreshToken, refreshTokenExpiresAt := session.expiresAt }

/-! ## Use cases -/

structure RegisterUserInput where
  handle : JsString
  password : JsString
deriving DecidableEq

/-- `RegisterUserUseCase.execute`. -/
def RegisterUser.execute (input : RegisterUserInput) : UseCase User := do
  ofExcept (assertValidHandle input.handle)
  ofExcept (assertValidPassword input.password)
  if ← UserRepository.existsByHandle input.handle then
    failed (.handleTaken input.handle)
  else
    let passwordHash ← PasswordHasher.hash input.password
    let id ← IdGenerator.next
    let createdAt ← Clock.now
    let user : User := { id, handle := input.handle, displayName := input.handle, createdAt }
    UserRepository.create user passwordHash
    return user

structure LoginInput where
  handle : JsString
  password : JsString
  userAgent : Option JsString
deriving DecidableEq

/-- `LoginUseCase.execute`. -/
def Login.execute (input : LoginInput) : UseCase IssuedTokens := do
  match ← UserRepository.findCredentialsByHandle input.handle with
  | none =>
    -- the same work as a verification, its result thrown away
    let _ ← PasswordHasher.hash input.password
    failed .invalidCredentials
  | some credentials =>
    let verified ← PasswordHasher.verify credentials.passwordHash input.password
    if !verified then
      failed .invalidCredentials
    else
      let now ← Clock.now
      let id ← IdGenerator.next
      let session : Session :=
        { id, userId := credentials.userId
          expiresAt := now + settings.lifetimes.refreshTokenMs
          revokedAt := none, userAgent := input.userAgent, createdAt := now }
      let first ← mintRefreshToken session.id now
      SessionRepository.create session first.row
      issueTokens settings session first.token now

structure RefreshSessionInput where
  refreshToken : JsString
deriving DecidableEq

/-- `rejectAsReuse`. -/
def RefreshSession.rejectAsReuse (sessionId : JsString) (now : Date) : UseCase IssuedTokens := do
  SessionRepository.revoke sessionId now
  failed .invalidRefreshToken

/-- `RefreshSessionUseCase.execute`, once the token is found and the clock read. -/
def RefreshSession.exchange (session : Session) (token : StoredRefreshToken) (now : Date) :
    UseCase IssuedTokens := do
  if token.spentAt ≠ none then
    rejectAsReuse session.id now
  else if session.expiresAt ≤ now then
    failed .invalidRefreshToken
  else
    let next ← mintRefreshToken session.id now
    let rotated ← SessionRepository.rotate token.id next.row now
    if !rotated then
      rejectAsReuse session.id now
    else
      issueTokens settings session next.token now

/-- `RefreshSessionUseCase.execute`. -/
def RefreshSession.execute (input : RefreshSessionInput) : UseCase IssuedTokens := do
  match ← SessionRepository.findByTokenHash (settings.hashRefreshToken input.refreshToken) with
  | none => failed .invalidRefreshToken
  | some ⟨session, token⟩ =>
    let now ← Clock.now
    exchange settings session token now

/-- `GetProfileUseCase.execute`. -/
def GetProfile.execute (handle : JsString) : UseCase Profile := do
  ofExcept (assertValidHandle handle)
  match ← ProfileRepository.findByHandle handle with
  | none => failed (.profileNotFoundByHandle handle)
  | some profile => return profile

structure UpdateProfileInput where
  userId : JsString
  displayName : Option JsString
  bio : Option JsString
deriving DecidableEq

/-- A field of the changes: absent stays absent. -/
def normalizeField (normalize : JsString → Except Failure JsString) :
    Option JsString → Except Failure (Option JsString)
  | none => .ok none
  | some value => (normalize value).map some

theorem normalizeField_error {normalize : JsString → Except Failure JsString}
    {value : Option JsString} {e : Failure} (h : normalizeField normalize value = .error e) :
    ∃ given, value = some given ∧ normalize given = .error e := by
  cases value with
  | none => cases h
  | some given =>
    refine ⟨given, rfl, ?_⟩
    unfold normalizeField at h
    cases hnormal : normalize given with
    | ok normal => simp [hnormal, Except.map] at h
    | error error => simpa [hnormal, Except.map] using h

/-- `UpdateProfileUseCase.execute`. -/
def UpdateProfile.execute (input : UpdateProfileInput) : UseCase Profile := do
  let displayName ← ofExcept (normalizeField normalizeDisplayName input.displayName)
  let bio ← ofExcept (normalizeField normalizeBio input.bio)
  if displayName = none ∧ bio = none then
    failed .emptyProfileUpdate
  else
    match ← ProfileRepository.update input.userId { displayName, bio } with
    | none => failed (.profileNotFoundById input.userId)
    | some profile => return profile

/-! ## The calls of the account use cases -/

/-- The calls of a registration. -/
def Registers : PortCall → Prop
  | .existsByHandle _ | .hashPassword _ | .nextId | .now | .createUser _ _ => True
  | _ => False

theorem registerUser_calls (input : RegisterUserInput) :
    (RegisterUser.execute input).Only Registers := by
  refine only_bind (only_ofExcept _) fun _ => only_bind (only_ofExcept _) fun _ => ?_
  refine only_bind (only_perform trivial) fun taken => ?_
  split
  · trivial
  refine only_bind (only_perform trivial) fun _ => only_bind (only_perform trivial) fun _ => ?_
  exact only_bind (only_perform trivial) fun _ => only_bind (only_perform trivial) fun _ => trivial

theorem getProfile_calls (handle : JsString) :
    (GetProfile.execute handle).Only (· = .findByHandle handle) := by
  refine only_bind (only_ofExcept _) fun _ => only_bind (only_perform rfl) fun profile => ?_
  cases profile <;> trivial

/-- An update writes the account its request names, and nothing else. -/
theorem updateProfile_calls (input : UpdateProfileInput) :
    (UpdateProfile.execute input).Only
      fun c => ∃ changes, c = .updateProfile input.userId changes := by
  refine only_bind (only_ofExcept _) fun displayName => only_bind (only_ofExcept _) fun bio => ?_
  split
  · -- nothing to update
    trivial
  refine only_bind (only_perform ⟨⟨displayName, bio⟩, rfl⟩) fun profile => ?_
  cases profile <;> trivial

/-! ## Requests -/

inductive Request where
  | register (input : RegisterUserInput)
  | login (input : LoginInput)
  | refresh (input : RefreshSessionInput)
  | getProfile (handle : JsString)
  | updateProfile (input : UpdateProfileInput)
deriving DecidableEq

inductive Response where
  | user (user : User)
  | tokens (tokens : IssuedTokens)
  | profile (profile : Profile)
deriving DecidableEq

/-- The use case that serves a request. -/
def execute : Request → UseCase Response
  | .register input => Response.user <$> RegisterUser.execute input
  | .login input => Response.tokens <$> Login.execute settings input
  | .refresh input => Response.tokens <$> RefreshSession.execute settings input
  | .getProfile handle => Response.profile <$> GetProfile.execute handle
  | .updateProfile input => Response.profile <$> UpdateProfile.execute input

end XClone.Identity
