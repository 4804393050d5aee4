import XClone.AccessToken.Agreement
import XClone.Identity.System
import XClone.Lib.Paths

/-!
# XClone.Identity.Executions — what each use case does on its own

The paths through the use cases: which calls an execution made, what they answered, and
how it ended. `Run.did` gives such a path for every thread of a run.
-/

namespace XClone.Identity

open Js Interleaving Program AccessToken

/-! ## Runs -/

section Runs

variable {services : Services} {c c' : IdentityConfig services} {τ : List IdentityEvent}

/-- A step only moves the store up. -/
theorem step_later {e : IdentityEvent} (h : Step (machine services) c e c') :
    Store.Later c.store c'.store := by
  cases h with
  | start i request hnone => exact .refl _
  | returned hthread hreturns => exact returns_later hreturns
  | threw hthread hthrows => exact .refl _

theorem run_later (h : Run (machine services) c τ c') : Store.Later c.store c'.store := by
  induction h with
  | nil => exact .refl _
  | snoc _ hstep ih => exact ih.trans (step_later hstep)

/-- What was created is still there. -/
theorem created_stays (h : Run (machine services) c τ c') {i : ℕ} {session : Session}
    {firstToken : StoredRefreshToken} {u : Unit}
    (hmem : .returned i (.createSession session firstToken) u ∈ τ) :
    (∃ row ∈ c'.store.tables.sessions.rows, SessionTables.SessionLater session row) ∧
      ∃ row ∈ c'.store.tables.refreshTokens.rows, SessionTables.TokenLater firstToken row := by
  rcases h.answered_at hmem with ⟨τ₁, τ₂, c₁, c₂, -, -, hreturns, hafter⟩
  rcases DrizzleSessionRepository.create_spec hreturns.2 with ⟨-, -, hsessions, htokens⟩
  have hlater := (run_later hafter).tables
  constructor
  · exact hlater.session session (by rw [hsessions]; exact List.mem_cons_self)
  · exact hlater.token firstToken (by rw [htokens]; exact List.mem_cons_self)

/-- So is what a rotation put in the place of the token it spent. -/
theorem rotated_stays (h : Run (machine services) c τ c') {i : ℕ} {spentTokenId : JsString}
    {next : StoredRefreshToken} {spentAt : Date}
    (hmem : .returned i (.rotate spentTokenId next spentAt) true ∈ τ) :
    ∃ row ∈ c'.store.tables.refreshTokens.rows, SessionTables.TokenLater next row := by
  rcases h.answered_at hmem with ⟨τ₁, τ₂, c₁, c₂, -, -, hreturns, hafter⟩
  rcases DrizzleSessionRepository.rotate_cases hreturns.2 with ⟨-, hrotated⟩ | ⟨hno, -⟩
  · have hlater := (run_later hafter).tables
    exact hlater.token next (by rw [hrotated.tokens]; exact List.mem_cons_self)
  · cases hno

/-- Where the issuer is `Hs256AccessTokenIssuer`, an access token names the account and the
session it was issued for. -/
theorem issued_names (h : Run (machine services) c τ c') {i : ℕ} {claims : AccessTokenClaims}
    {token : JsString} (hmem : .returned i (.issueAccessToken claims) token ∈ τ) (node : Node)
    (issuer : Hs256AccessTokenIssuer) (hnode : node.Lawful)
    (hissuer : services.issue = issuer.issue node) (hiat : ValidDate claims.issuedAt)
    (hexp : ValidDate claims.expiresAt) :
    Names node token claims.userId claims.sessionId := by
  rcases h.answered hmem with ⟨s, s', -, hissue⟩
  rw [hissue, hissuer]
  exact names_issued hnode issuer hiat hexp

end Runs

variable {settings : Settings} {i : ℕ} {τ : List IdentityEvent}

/-! ## Logging in -/

/-- The session a login opens. -/
def loginSession (settings : Settings) (input : LoginInput) (credentials : StoredCredentials)
    (id : JsString) (now : Date) : Session :=
  { id, userId := credentials.userId, expiresAt := now + settings.lifetimes.refreshTokenMs
    revokedAt := none, userAgent := input.userAgent, createdAt := now }

/-- The row of a minted refresh token. -/
def mintedRow (minted : RefreshToken) (id sessionId : JsString) (now : Date) :
    StoredRefreshToken :=
  { id, sessionId, tokenHash := minted.hash, spentAt := none, createdAt := now }

/-- The tokens issued on a session. -/
def issuedTokens (settings : Settings) (session : Session) (accessToken refreshToken : JsString)
    (now : Date) : IssuedTokens :=
  { userId := session.userId, accessToken
    accessTokenExpiresAt := now + settings.lifetimes.accessTokenMs
    refreshToken, refreshTokenExpiresAt := session.expiresAt }

/-- A login that opens a session has verified a password and read the clock. -/
theorem login_opens {input : LoginInput} {session : Session} {firstToken : StoredRefreshToken}
    {next : Unit → UseCase Response}
    (h : Path i (execute settings (.login input)) τ
      (.call (.createSession session firstToken) next)) :
    ∃ credentials id minted tokenId now,
      τ = [.returned i (.findCredentialsByHandle input.handle) (some credentials),
        .returned i (.verifyPassword credentials.passwordHash input.password) true,
        .returned i .now now, .returned i .nextId id, .returned i .createRefreshToken minted,
        .returned i .nextId tokenId] ∧
      session = loginSession settings input credentials id now ∧
      firstToken = mintedRow minted tokenId id now := by
  cases h with | returned found h₁ =>
  rcases found with _ | credentials
  · -- an unknown handle only costs a hash
    cases h₁ with | returned hash h₂ => cases h₂
  cases h₁ with | returned verified h₂ =>
  cases verified with
  | false => cases h₂
  | true =>
    cases h₂ with | returned now h₃ =>
    cases h₃ with | returned id h₄ =>
    cases h₄ with | returned minted h₅ =>
    cases h₅ with | returned tokenId h₆ =>
    cases h₆ with
    | nil => exact ⟨credentials, id, minted, tokenId, now, rfl, rfl, rfl⟩
    | returned u h₇ => cases h₇ with | returned accessToken h₈ => cases h₈

/-- A login looks its handle up first, and once. -/
theorem login_finds {input : LoginInput} {handle : JsString}
    {next : Option StoredCredentials → UseCase Response}
    (h : Path i (execute settings (.login input)) τ
      (.call (.findCredentialsByHandle handle) next)) : τ = [] := by
  cases h with
  | nil => rfl
  | returned found h₁ =>
    rcases found with _ | credentials
    · cases h₁ with | returned hash h₂ => cases h₂
    cases h₁ with | returned verified h₂ =>
    cases verified with
    | false => cases h₂
    | true =>
      cases h₂ with | returned now h₃ =>
      cases h₃ with | returned id h₄ =>
      cases h₄ with | returned minted h₅ =>
      cases h₅ with | returned tokenId h₆ =>
      cases h₆ with | returned u h₇ =>
      cases h₇ with | returned accessToken h₈ => cases h₈

/-- The calls of a login. -/
def LogsIn : PortCall → Prop
  | .findCredentialsByHandle _ | .hashPassword _ | .verifyPassword _ _ | .now | .nextId
  | .createRefreshToken | .createSession _ _ | .issueAccessToken _ => True
  | _ => False

theorem login_calls (input : LoginInput) : (execute settings (.login input)).Only LogsIn := by
  refine only_map (only_bind (only_perform trivial) fun found => ?_) _
  rcases found with _ | credentials
  · exact ⟨trivial, fun _ => trivial⟩
  refine only_bind (only_perform trivial) fun verified => ?_
  cases verified with
  | false => trivial
  | true =>
    refine only_bind (only_perform trivial) fun now => only_bind (only_perform trivial) fun id => ?_
    refine ⟨trivial, fun minted => ⟨trivial, fun tokenId => ⟨trivial, fun _ => ?_⟩⟩⟩
    exact ⟨trivial, fun _ => trivial⟩

/-- A login only adds rows. -/
theorem login_adds {services : Services} {call : PortCall} {answer : Answer call}
    {s u : Store services.lower} (hreturns : returns services call s answer u)
    (hcall : LogsIn call) :
    u.accounts = s.accounts ∧
      (∀ row ∈ s.tables.sessions.rows, row ∈ u.tables.sessions.rows) ∧
      ∀ row ∈ s.tables.refreshTokens.rows, row ∈ u.tables.refreshTokens.rows := by
  have same (h : u = s) : u.accounts = s.accounts ∧
      (∀ row ∈ s.tables.sessions.rows, row ∈ u.tables.sessions.rows) ∧
      ∀ row ∈ s.tables.refreshTokens.rows, row ∈ u.tables.refreshTokens.rows := by
    rw [h]
    exact ⟨rfl, fun _ hrow => hrow, fun _ hrow => hrow⟩
  cases call with
  | createSession session firstToken =>
    rcases DrizzleSessionRepository.create_spec hreturns.2 with ⟨-, -, hsessions, htokens⟩
    rw [hsessions, htokens]
    exact ⟨hreturns.1, fun _ hrow => List.mem_cons_of_mem _ hrow,
      fun _ hrow => List.mem_cons_of_mem _ hrow⟩
  | hashPassword password | now => exact same hreturns
  | findCredentialsByHandle handle | verifyPassword hash password | createRefreshToken | nextId
  | issueAccessToken claims => exact same hreturns.1
  | existsByHandle | createUser | findByTokenHash | rotate | revoke | findByHandle
  | updateProfile => exact hcall.elim

/-- The events of a login that returned tokens. -/
theorem login_done {input : LoginInput} {response : Response}
    (h : Path i (execute settings (.login input)) τ (.done response)) :
    ∃ credentials now id minted tokenId accessToken,
      let session := loginSession settings input credentials id now
      τ = [.returned i (.findCredentialsByHandle input.handle) (some credentials),
        .returned i (.verifyPassword credentials.passwordHash input.password) true,
        .returned i .now now, .returned i .nextId id, .returned i .createRefreshToken minted,
        .returned i .nextId tokenId,
        .returned i (.createSession session (mintedRow minted tokenId id now)) (),
        .returned i (.issueAccessToken (accessClaims settings session now)) accessToken] ∧
      response = .tokens (issuedTokens settings session accessToken minted.token now) := by
  cases h with | returned found h₁ =>
  rcases found with _ | credentials
  · cases h₁ with | returned hash h₂ => cases h₂
  cases h₁ with | returned verified h₂ =>
  cases verified with
  | false => cases h₂
  | true =>
    cases h₂ with | returned now h₃ =>
    cases h₃ with | returned id h₄ =>
    cases h₄ with | returned minted h₅ =>
    cases h₅ with | returned tokenId h₆ =>
    cases h₆ with | returned u h₇ =>
    cases h₇ with | returned accessToken h₈ =>
    cases h₈
    exact ⟨credentials, now, id, minted, tokenId, accessToken, rfl, rfl⟩

/-- The events of a login that was rejected: one lookup, and one operation of the
password hasher. -/
theorem login_rejected {input : LoginInput} {e : Failure}
    (h : Path i (execute settings (.login input)) τ (.failed e)) :
    e = .invalidCredentials ∧
      ((∃ hash, τ = [.returned i (.findCredentialsByHandle input.handle) none,
        .returned i (.hashPassword input.password) hash]) ∨
      ∃ credentials, τ = [.returned i (.findCredentialsByHandle input.handle) (some credentials),
        .returned i (.verifyPassword credentials.passwordHash input.password) false]) := by
  cases h with | returned found h₁ =>
  rcases found with _ | credentials
  · cases h₁ with | returned hash h₂ =>
    cases h₂
    exact ⟨rfl, Or.inl ⟨hash, rfl⟩⟩
  cases h₁ with | returned verified h₂ =>
  cases verified with
  | false =>
    cases h₂
    exact ⟨rfl, Or.inr ⟨credentials, rfl⟩⟩
  | true =>
    -- a verified login only fails by an exception
    cases h₂ with | returned now h₃ =>
    cases h₃ with | returned id h₄ =>
    cases h₄ with | returned minted h₅ =>
    cases h₅ with | returned tokenId h₆ =>
    cases h₆ with | returned u h₇ =>
    cases h₇ with | returned accessToken h₈ => cases h₈

/-! ## Refreshing -/

/-- The calls of a refresh. -/
def Refreshes : PortCall → Prop
  | .findByTokenHash _ | .now | .createRefreshToken | .nextId | .rotate _ _ _ | .revoke _ _
  | .issueAccessToken _ => True
  | _ => False

/-- The calls of a refresh that has found its token and read the clock. -/
def Exchanges : PortCall → Prop
  | .createRefreshToken | .nextId | .rotate _ _ _ | .revoke _ _ | .issueAccessToken _ => True
  | _ => False

theorem exchange_calls (session : Session) (token : StoredRefreshToken) (now : Date) :
    (RefreshSession.exchange settings session token now).Only Exchanges := by
  have reject : (RefreshSession.rejectAsReuse session.id now).Only Exchanges :=
    ⟨trivial, fun _ => trivial⟩
  unfold RefreshSession.exchange
  split
  · exact reject
  split
  · trivial
  refine ⟨trivial, fun minted => ⟨trivial, fun id => ⟨trivial, fun rotated => ?_⟩⟩⟩
  cases rotated with
  | false => exact reject
  | true => exact ⟨trivial, fun _ => trivial⟩

theorem refresh_calls (input : RefreshSessionInput) :
    (execute settings (.refresh input)).Only Refreshes := by
  refine only_map (only_bind (only_perform trivial) fun found => ?_) _
  rcases found with _ | ⟨session, token⟩
  · trivial
  refine only_bind (only_perform trivial) fun now => ?_
  refine (exchange_calls session token now).mono ?_
  intro call hcall
  cases call <;> first | exact hcall.elim | trivial

/-- A refresh looks its token up first, and once. -/
theorem refresh_finds {input : RefreshSessionInput} {tokenHash : JsString}
    {next : Option SessionWithToken → UseCase Response}
    (h : Path i (execute settings (.refresh input)) τ (.call (.findByTokenHash tokenHash) next)) :
    τ = [] := by
  cases h with
  | nil => rfl
  | returned found h₁ =>
  rcases found with _ | ⟨session, token⟩
  · cases h₁
  cases h₁ with | returned now h₂ =>
  have hcalls := only_map (@exchange_calls settings session token now) Response.tokens
  exact (h₂.only hcalls).elim

/-- Nothing else looks tokens up. -/
theorem execute_finds {request : Request} {tokenHash : JsString}
    {next : Option SessionWithToken → UseCase Response}
    (h : Path i (execute settings request) τ (.call (.findByTokenHash tokenHash) next)) :
    ∃ input, request = .refresh input := by
  cases request with
  | refresh input => exact ⟨input, rfl⟩
  | register input => exact (h.only (only_map (registerUser_calls input) _)).elim
  | login input => exact (h.only (login_calls input)).elim
  | getProfile handle => cases h.only (only_map (getProfile_calls handle) _)
  | updateProfile input =>
    rcases h.only (only_map (updateProfile_calls input) _) with ⟨changes, heq⟩
    cases heq

/-- It makes no other call before it has found a token. -/
theorem refresh_has_found {input : RefreshSessionInput} {call : PortCall}
    {next : Answer call → UseCase Response}
    (h : Path i (execute settings (.refresh input)) τ (.call call next)) :
    (∃ tokenHash, call = .findByTokenHash tokenHash) ∨
      ∃ session token, .returned i
        (.findByTokenHash (settings.hashRefreshToken input.refreshToken))
          (some ⟨session, token⟩) ∈ τ := by
  cases h with
  | nil => exact Or.inl ⟨_, rfl⟩
  | returned found h₁ =>
    rcases found with _ | ⟨session, token⟩
    · cases h₁
    · exact Or.inr ⟨session, token, List.mem_cons_self⟩

/-- A refresh that finds no token does nothing more. -/
theorem refresh_unknown {input : RefreshSessionInput} {tokenHash : JsString} {j : ℕ}
    {p : UseCase Response} (h : Went i (execute settings (.refresh input)) τ p)
    (hmem : .returned j (.findByTokenHash tokenHash) none ∈ τ) :
    τ = [.returned i (.findByTokenHash (settings.hashRefreshToken input.refreshToken)) none] ∧
      p = .failed .invalidRefreshToken := by
  rcases h.split hmem with ⟨τ₁, τ₂, next, rfl, hbefore, hafter⟩
  obtain rfl := refresh_finds hbefore
  cases hbefore
  rcases hafter.of_completed trivial with ⟨rfl, rfl⟩
  exact ⟨rfl, rfl⟩

/-- A refresh reads the clock once it has found its token. -/
theorem refresh_reads {input : RefreshSessionInput} {next : Date → UseCase Response}
    (h : Path i (execute settings (.refresh input)) τ (.call .now next)) :
    ∃ found, τ = [.returned i (.findByTokenHash (settings.hashRefreshToken input.refreshToken))
      (some found)] := by
  cases h with | returned found h₁ =>
  rcases found with _ | ⟨session, token⟩
  · cases h₁
  cases h₁ with
  | nil => exact ⟨⟨session, token⟩, rfl⟩
  | returned now h₂ =>
    -- and not again
    have hcalls := only_map (@exchange_calls settings session token now) Response.tokens
    exact (h₂.only hcalls).elim

/-- What a refresh has done when it comes to rotate. -/
theorem refresh_rotates {input : RefreshSessionInput} {spentTokenId : JsString}
    {next : StoredRefreshToken} {spentAt : Date} {after : Bool → UseCase Response}
    (h : Path i (execute settings (.refresh input)) τ
      (.call (.rotate spentTokenId next spentAt) after)) :
    ∃ session token minted id,
      τ = [.returned i (.findByTokenHash (settings.hashRefreshToken input.refreshToken))
          (some ⟨session, token⟩), .returned i .now spentAt,
        .returned i .createRefreshToken minted, .returned i .nextId id] ∧
      token.spentAt = none ∧ spentAt < session.expiresAt ∧ spentTokenId = token.id ∧
      next = mintedRow minted id session.id spentAt := by
  cases h with | returned found h₁ =>
  rcases found with _ | ⟨session, token⟩
  · cases h₁
  cases h₁ with | returned now h₂ =>
  change Path i (Response.tokens <$> RefreshSession.exchange settings session token now) _ _ at h₂
  unfold RefreshSession.exchange at h₂
  split at h₂
  · -- a spent token is never rotated
    cases h₂ with | returned u h₃ => cases h₃
  rename_i hunspent
  split at h₂
  · cases h₂
  rename_i hvalid
  cases h₂ with | returned minted h₃ =>
  cases h₃ with | returned id h₄ =>
  cases h₄ with
  | nil => exact ⟨session, token, minted, id, rfl, not_not.mp hunspent, not_le.mp hvalid, rfl, rfl⟩
  | returned rotated h₅ =>
    cases rotated with
    | false => cases h₅ with | returned u h₆ => cases h₆
    | true => cases h₅ with | returned accessToken h₆ => cases h₆

/-- The events of a refresh that returned tokens. -/
theorem refresh_done {input : RefreshSessionInput} {response : Response}
    (h : Path i (execute settings (.refresh input)) τ (.done response)) :
    ∃ session token now minted id accessToken,
      τ = [.returned i (.findByTokenHash (settings.hashRefreshToken input.refreshToken))
          (some ⟨session, token⟩), .returned i .now now,
        .returned i .createRefreshToken minted, .returned i .nextId id,
        .returned i (.rotate token.id (mintedRow minted id session.id now) now) true,
        .returned i (.issueAccessToken (accessClaims settings session now)) accessToken] ∧
      token.spentAt = none ∧ now < session.expiresAt ∧
      response = .tokens (issuedTokens settings session accessToken minted.token now) := by
  cases h with | returned found h₁ =>
  rcases found with _ | ⟨session, token⟩
  · cases h₁
  cases h₁ with | returned now h₂ =>
  change Path i (Response.tokens <$> RefreshSession.exchange settings session token now) _ _ at h₂
  unfold RefreshSession.exchange at h₂
  split at h₂
  · cases h₂ with | returned u h₃ => cases h₃
  rename_i hunspent
  split at h₂
  · cases h₂
  rename_i hvalid
  cases h₂ with | returned minted h₃ =>
  cases h₃ with | returned id h₄ =>
  cases h₄ with | returned rotated h₅ =>
  cases rotated with
  | false =>
    -- a lost race is a reuse
    cases h₅ with | returned u h₆ => cases h₆
  | true =>
    cases h₅ with | returned accessToken h₆ =>
    cases h₆
    exact ⟨session, token, now, minted, id, accessToken, rfl, not_not.mp hunspent,
      not_le.mp hvalid, rfl⟩

/-- Why a refresh is rejected, and what it has done by then. A revoked session fails its
rotation, as does one whose token was spent in the meantime. -/
inductive RefreshRejection (settings : Settings) (i : ℕ) (input : RefreshSessionInput) :
    List IdentityEvent → Prop where
  | unknown : RefreshRejection settings i input
      [.returned i (.findByTokenHash (settings.hashRefreshToken input.refreshToken)) none]
  | spent (session : Session) (token : StoredRefreshToken) (now : Date) :
      token.spentAt ≠ none → RefreshRejection settings i input
        [.returned i (.findByTokenHash (settings.hashRefreshToken input.refreshToken))
            (some ⟨session, token⟩), .returned i .now now,
          .returned i (.revoke session.id now) ()]
  | expired (session : Session) (token : StoredRefreshToken) (now : Date) :
      token.spentAt = none → session.expiresAt ≤ now → RefreshRejection settings i input
        [.returned i (.findByTokenHash (settings.hashRefreshToken input.refreshToken))
            (some ⟨session, token⟩), .returned i .now now]
  | notRotated (session : Session) (token : StoredRefreshToken) (now : Date)
      (minted : RefreshToken) (id : JsString) :
      token.spentAt = none → now < session.expiresAt → RefreshRejection settings i input
        [.returned i (.findByTokenHash (settings.hashRefreshToken input.refreshToken))
            (some ⟨session, token⟩), .returned i .now now,
          .returned i .createRefreshToken minted, .returned i .nextId id,
          .returned i (.rotate token.id (mintedRow minted id session.id now) now) false,
          .returned i (.revoke session.id now) ()]

/-- A refresh that fails on its own has one of these causes, and one error for all. -/
theorem refresh_rejected {input : RefreshSessionInput} {e : Failure}
    (h : Path i (execute settings (.refresh input)) τ (.failed e)) :
    e = .invalidRefreshToken ∧ RefreshRejection settings i input τ := by
  cases h with | returned found h₁ =>
  rcases found with _ | ⟨session, token⟩
  · -- nobody has this token
    cases h₁
    exact ⟨rfl, .unknown⟩
  cases h₁ with | returned now h₂ =>
  change Path i (Response.tokens <$> RefreshSession.exchange settings session token now) _ _ at h₂
  unfold RefreshSession.exchange at h₂
  split at h₂
  · -- a spent token is a reuse
    rename_i hspent
    cases h₂ with | returned u h₃ =>
    cases h₃
    exact ⟨rfl, .spent session token now hspent⟩
  rename_i hunspent
  split at h₂
  · -- the session has expired
    rename_i hexpired
    cases h₂
    exact ⟨rfl, .expired session token now (not_not.mp hunspent) hexpired⟩
  rename_i hvalid
  cases h₂ with | returned minted h₃ =>
  cases h₃ with | returned id h₄ =>
  cases h₄ with | returned rotated h₅ =>
  cases rotated with
  | false =>
    -- so is a lost race
    cases h₅ with | returned u h₆ =>
    cases h₆
    exact ⟨rfl, .notRotated session token now minted id (not_not.mp hunspent) (not_le.mp hvalid)⟩
  | true => cases h₅ with | returned accessToken h₆ => cases h₆

/-! ## Failures -/

/-- What a use case rejects a request with. -/
def RejectedWith : Request → Failure → Prop
  | .register input, e =>
    assertValidHandle input.handle = .error e ∨ assertValidPassword input.password = .error e ∨
      (assertValidHandle input.handle = .ok () ∧ e = .handleTaken input.handle)
  | .login _, e => e = .invalidCredentials
  | .refresh _, e => e = .invalidRefreshToken
  | .getProfile handle, e =>
    assertValidHandle handle = .error e ∨
      (assertValidHandle handle = .ok () ∧ e = .profileNotFoundByHandle handle)
  | .updateProfile input, e =>
    normalizeField normalizeDisplayName input.displayName = .error e ∨
      normalizeField normalizeBio input.bio = .error e ∨ e = .emptyProfileUpdate ∨
      e = .profileNotFoundById input.userId

/-- The rejections by their errors: a broken rule names one field and has a reason to
show, and a handle is taken only when it was valid. -/
inductive DomainRejection : Request → Failure → Prop where
  | violation {request : Request} {field reason : JsString} :
      IsPrintable field → IsPrintable reason → DomainRejection request (.domainValidation field reason)
  | handleTaken (input : RegisterUserInput) : assertValidHandle input.handle = .ok () →
      DomainRejection (.register input) (.handleTaken input.handle)
  | credentials (input : LoginInput) : DomainRejection (.login input) .invalidCredentials
  | refreshToken (input : RefreshSessionInput) : DomainRejection (.refresh input) .invalidRefreshToken
  | unknownHandle (handle : JsString) :
      DomainRejection (.getProfile handle) (.profileNotFoundByHandle handle)
  | unknownId (input : UpdateProfileInput) :
      DomainRejection (.updateProfile input) (.profileNotFoundById input.userId)
  | empty (input : UpdateProfileInput) : DomainRejection (.updateProfile input) .emptyProfileUpdate

theorem Violates.rejection {request : Request} {field : JsString} {e : Failure}
    (h : Violates field e) (hfield : IsPrintable field) : DomainRejection request e := by
  rcases h with ⟨reason, rfl, hreason⟩
  exact .violation hfield hreason

theorem RejectedWith.rejection {request : Request} {e : Failure} (h : RejectedWith request e) :
    DomainRejection request e := by
  cases request with
  | register input =>
    rcases h with h | h | ⟨hhandle, rfl⟩
    · exact (assertValidHandle_error h).rejection (js_printable rfl)
    · exact (assertValidPassword_error h).rejection (js_printable rfl)
    · exact .handleTaken input hhandle
  | login input =>
    obtain rfl := h
    exact .credentials input
  | refresh input =>
    obtain rfl := h
    exact .refreshToken input
  | getProfile handle =>
    rcases h with h | ⟨-, rfl⟩
    · exact (assertValidHandle_error h).rejection (js_printable rfl)
    · exact .unknownHandle handle
  | updateProfile input =>
    rcases h with h | h | rfl | rfl
    · -- the display name is normalised first
      rcases normalizeField_error h with ⟨given, -, hgiven⟩
      exact (normalizeDisplayName_error hgiven).rejection (js_printable rfl)
    · rcases normalizeField_error h with ⟨given, -, hgiven⟩
      exact (normalizeBio_error hgiven).rejection (js_printable rfl)
    · exact .empty input
    · exact .unknownId input

/-- A rejection is an error of the domain. -/
theorem RejectedWith.named {request : Request} {e : Failure} (h : RejectedWith request e) :
    e.message ≠ none := by
  cases h.rejection <;> exact Option.some_ne_none _

theorem rejectAsReuse_rejects (sessionId : JsString) (now : Date) :
    (RefreshSession.rejectAsReuse sessionId now).Rejects (· = .invalidRefreshToken) :=
  fun _ => rfl

theorem exchange_rejects (session : Session) (token : StoredRefreshToken) (now : Date) :
    (RefreshSession.exchange settings session token now).Rejects (· = .invalidRefreshToken) := by
  unfold RefreshSession.exchange
  split
  · exact rejectAsReuse_rejects session.id now
  split
  · exact rfl
  intro minted id rotated
  cases rotated with
  | false => exact rejectAsReuse_rejects session.id now
  | true => exact fun _ => trivial

/-- On its own a use case fails with one of these. -/
theorem execute_rejects (request : Request) :
    (execute settings request).Rejects (RejectedWith request) := by
  cases request with
  | register input =>
    refine rejects_map (rejects_ofExcept (fun e he => Or.inl he) fun _ hhandle => ?_) _
    refine rejects_ofExcept (fun e he => Or.inr (Or.inl he)) fun _ _ => ?_
    refine rejects_bind (rejects_perform _) fun taken => ?_
    cases taken with
    | true => exact Or.inr (Or.inr ⟨hhandle, rfl⟩)
    | false => exact fun _ _ _ _ => trivial
  | login input =>
    refine rejects_map (rejects_bind (rejects_perform _) fun found => ?_) _
    rcases found with _ | credentials
    · exact fun _ => rfl
    refine rejects_bind (rejects_perform _) fun verified => ?_
    cases verified with
    | false => exact rfl
    | true => exact fun _ _ _ _ _ _ => trivial
  | refresh input =>
    refine rejects_map (rejects_bind (rejects_perform _) fun found => ?_) _
    rcases found with _ | ⟨session, token⟩
    · exact rfl
    · exact fun now => exchange_rejects session token now
  | getProfile handle =>
    refine rejects_map (rejects_ofExcept (fun e he => Or.inl he) fun _ hhandle => ?_) _
    refine rejects_bind (rejects_perform _) fun profile => ?_
    cases profile with
    | none => exact Or.inr ⟨hhandle, rfl⟩
    | some profile => trivial
  | updateProfile input =>
    refine rejects_map (rejects_ofExcept (fun e he => Or.inl he) fun displayName _ => ?_) _
    refine rejects_ofExcept (fun e he => Or.inr (Or.inl he)) fun bio _ => ?_
    split
    · -- nothing to update
      exact Or.inr (Or.inr (Or.inl rfl))
    refine rejects_bind (rejects_perform _) fun profile => ?_
    cases profile with
    | none => exact Or.inr (Or.inr (Or.inr rfl))
    | some profile => trivial

/-! ## Registering -/

/-- `RegisterUserUseCase.execute`, once its input has passed the checks. -/
def RegisterUser.checked (input : RegisterUserInput) : UseCase User := do
  if ← UserRepository.existsByHandle input.handle then
    Program.failed (.handleTaken input.handle)
  else
    let passwordHash ← PasswordHasher.hash input.password
    let id ← IdGenerator.next
    let createdAt ← Clock.now
    let user : User := { id, handle := input.handle, displayName := input.handle, createdAt }
    UserRepository.create user passwordHash
    return user

/-- A registration fails at once, or goes on with a valid handle. -/
theorem register_path {input : RegisterUserInput} {p : UseCase Response}
    (h : Path i (execute settings (.register input)) τ p) :
    (∃ e, p = .failed e) ∨ (assertValidHandle input.handle = .ok () ∧
      Path i (Response.user <$> RegisterUser.checked input) τ p) := by
  simp only [execute, RegisterUser.execute] at h
  cases hhandle : assertValidHandle input.handle with
  | error e =>
    rw [hhandle] at h
    exact Or.inl ⟨e, (h.of_completed trivial).2⟩
  | ok u =>
    rw [hhandle] at h
    cases hpassword : assertValidPassword input.password with
    | error e =>
      rw [hpassword] at h
      exact Or.inl ⟨e, (h.of_completed trivial).2⟩
    | ok u' =>
      rw [hpassword] at h
      exact Or.inr ⟨rfl, h⟩

/-- What a registration has done when it comes to create the account. -/
theorem register_creates {input : RegisterUserInput} {user : User} {passwordHash : JsString}
    {next : Unit → UseCase Response}
    (h : Path i (execute settings (.register input)) τ (.call (.createUser user passwordHash) next)) :
    ∃ id createdAt,
      τ = [.returned i (.existsByHandle input.handle) false,
        .returned i (.hashPassword input.password) passwordHash, .returned i .nextId id,
        .returned i .now createdAt] ∧
      assertValidHandle input.handle = .ok () ∧
      user = { id, handle := input.handle, displayName := input.handle, createdAt } := by
  rcases register_path h with ⟨e, hfailed⟩ | ⟨hhandle, hpath⟩
  · cases hfailed
  cases hpath with | returned taken h₁ =>
  cases taken with
  | true => cases h₁
  | false =>
    cases h₁ with | returned hash h₂ =>
    cases h₂ with | returned id h₃ =>
    cases h₃ with | returned createdAt h₄ =>
    cases h₄ with
    | nil => exact ⟨id, createdAt, rfl, hhandle, rfl⟩
    | returned created h₅ => cases h₅

/-- It answers with that account. -/
theorem register_answers {input : RegisterUserInput} {user : User} {passwordHash : JsString}
    {next : Unit → UseCase Response}
    (h : Path i (execute settings (.register input)) τ (.call (.createUser user passwordHash) next)) :
    next () = .done (.user user) := by
  rcases register_path h with ⟨e, hfailed⟩ | ⟨hhandle, hpath⟩
  · cases hfailed
  cases hpath with | returned taken h₁ =>
  cases taken with
  | true => cases h₁
  | false =>
    cases h₁ with | returned hash h₂ =>
    cases h₂ with | returned id h₃ =>
    cases h₃ with | returned createdAt h₄ =>
    cases h₄ with
    | nil => rfl
    | returned created h₅ => cases h₅

/-- The events of a registration that returned a user. -/
theorem register_done {input : RegisterUserInput} {response : Response}
    (h : Path i (execute settings (.register input)) τ (.done response)) :
    ∃ passwordHash id createdAt,
      let user : User := { id, handle := input.handle, displayName := input.handle, createdAt }
      τ = [.returned i (.existsByHandle input.handle) false,
        .returned i (.hashPassword input.password) passwordHash, .returned i .nextId id,
        .returned i .now createdAt, .returned i (.createUser user passwordHash) ()] ∧
      assertValidHandle input.handle = .ok () ∧ response = .user user := by
  rcases register_path h with ⟨e, hfailed⟩ | ⟨hhandle, hpath⟩
  · cases hfailed
  cases hpath with | returned taken h₁ =>
  cases taken with
  | true => cases h₁
  | false =>
    cases h₁ with | returned hash h₂ =>
    cases h₂ with | returned id h₃ =>
    cases h₃ with | returned createdAt h₄ =>
    cases h₄ with | returned created h₅ =>
    cases h₅
    exact ⟨hash, id, createdAt, rfl, hhandle, rfl⟩

/-- A registration that fails on its own broke a rule, or found its handle taken. -/
theorem register_rejected {input : RegisterUserInput} {e : Failure}
    (h : Path i (execute settings (.register input)) τ (.failed e)) :
    (τ = [] ∧ (assertValidHandle input.handle = .error e ∨
      assertValidPassword input.password = .error e)) ∨
    (τ = [.returned i (.existsByHandle input.handle) true] ∧ e = .handleTaken input.handle) := by
  simp only [execute, RegisterUser.execute] at h
  cases hhandle : assertValidHandle input.handle with
  | error e' =>
    rw [hhandle] at h
    cases h
    exact Or.inl ⟨rfl, Or.inl rfl⟩
  | ok u =>
    rw [hhandle] at h
    cases hpassword : assertValidPassword input.password with
    | error e' =>
      rw [hpassword] at h
      cases h
      exact Or.inl ⟨rfl, Or.inr rfl⟩
    | ok u' =>
      rw [hpassword] at h
      change Path i (Response.user <$> RegisterUser.checked input) τ (.failed e) at h
      cases h with | returned taken h₁ =>
      cases taken with
      | true =>
        cases h₁
        exact Or.inr ⟨rfl, rfl⟩
      | false =>
        cases h₁ with | returned hash h₂ =>
        cases h₂ with | returned id h₃ =>
        cases h₃ with | returned createdAt h₄ =>
        cases h₄ with | returned created h₅ => cases h₅

/-- Nothing else creates accounts. -/
theorem execute_creates {request : Request} {user : User} {passwordHash : JsString}
    {next : Unit → UseCase Response}
    (h : Path i (execute settings request) τ (.call (.createUser user passwordHash) next)) :
    ∃ input, request = .register input := by
  cases request with
  | register input => exact ⟨input, rfl⟩
  | login input => exact (h.only (login_calls input)).elim
  | refresh input => exact (h.only (refresh_calls input)).elim
  | getProfile handle => cases h.only (only_map (getProfile_calls handle) _)
  | updateProfile input =>
    rcases h.only (only_map (updateProfile_calls input) _) with ⟨changes, heq⟩
    cases heq

/-- Nothing but a login opens sessions. -/
theorem execute_opens {request : Request} {session : Session} {firstToken : StoredRefreshToken}
    {next : Unit → UseCase Response}
    (h : Path i (execute settings request) τ (.call (.createSession session firstToken) next)) :
    ∃ input, request = .login input := by
  cases request with
  | login input => exact ⟨input, rfl⟩
  | register input => exact (h.only (only_map (registerUser_calls input) _)).elim
  | refresh input => exact (h.only (refresh_calls input)).elim
  | getProfile handle => cases h.only (only_map (getProfile_calls handle) _)
  | updateProfile input =>
    rcases h.only (only_map (updateProfile_calls input) _) with ⟨changes, heq⟩
    cases heq

/-- Nothing but a refresh rotates. -/
theorem execute_rotates {request : Request} {spentTokenId : JsString} {next : StoredRefreshToken}
    {spentAt : Date} {after : Bool → UseCase Response}
    (h : Path i (execute settings request) τ (.call (.rotate spentTokenId next spentAt) after)) :
    ∃ input, request = .refresh input := by
  cases request with
  | refresh input => exact ⟨input, rfl⟩
  | register input => exact (h.only (only_map (registerUser_calls input) _)).elim
  | login input => exact (h.only (login_calls input)).elim
  | getProfile handle => cases h.only (only_map (getProfile_calls handle) _)
  | updateProfile input =>
    rcases h.only (only_map (updateProfile_calls input) _) with ⟨changes, heq⟩
    cases heq

/-- What an execution of a run failed with: it rejected its request, or a port could not
do its work. The insert of a taken handle is a rejection too. -/
theorem failed_with {services : Services} {s : Store services.lower} {c : IdentityConfig services}
    (hrun : Run (machine services) (.initial s) τ c) {request : Request} {e : Failure}
    (hthread : c.threads i = some ⟨request, .failed e⟩) :
    RejectedWith request e ∨ e = .unavailable ∨ e = .constraintViolation := by
  rcases hrun.did hthread with ⟨events, hdid⟩
  have hwent := hdid.went
  cases hwent with
  | answered hpath => exact Or.inl (hpath.rejects (execute_rejects request))
  | @threw before call next _ hpath =>
    have hpath : Path i (execute services.toSettings request) before (.call call next) := hpath
    have hthrown := hdid.subset (List.mem_append_right _ (List.mem_singleton_self _))
    rcases hrun.thrown hthrown with ⟨s₁, hthrows⟩
    rcases throws_cases hthrows with hunavailable | hviolation | ⟨user, passwordHash, rfl, rfl⟩
    · exact Or.inr (Or.inl hunavailable)
    · exact Or.inr (Or.inr hviolation)
    · -- only a registration inserts, and the handle it was given
      rcases execute_creates hpath with ⟨input, rfl⟩
      rcases register_creates hpath with ⟨id, createdAt, -, hhandle, rfl⟩
      exact Or.inl (Or.inr (Or.inr ⟨hhandle, rfl⟩))

/-! ## Updating a profile -/

/-- What an update writes: the fields it was given, in normal form. -/
structure Normalises (input : UpdateProfileInput) (changes : ProfileChanges) : Prop where
  displayName : normalizeField normalizeDisplayName input.displayName = .ok changes.displayName
  bio : normalizeField normalizeBio input.bio = .ok changes.bio
  given : ¬ (changes.displayName = none ∧ changes.bio = none)

/-- An update fails, or makes one call and answers with what it returns. -/
theorem updateProfile_cases (settings : Settings) (input : UpdateProfileInput) :
    (∃ e, execute settings (.updateProfile input) = .failed e ∧
      ∀ changes, ¬ Normalises input changes) ∨
    ∃ changes, Normalises input changes ∧
      execute settings (.updateProfile input) = .call (.updateProfile input.userId changes)
        fun returned => returned.elim (.failed (.profileNotFoundById input.userId))
          fun profile => .done (.profile profile) := by
  cases hname : normalizeField normalizeDisplayName input.displayName with
  | error e =>
    left
    refine ⟨e, ?_, ?_⟩
    · simp only [execute, UpdateProfile.execute, hname]
      rfl
    · intro changes hchanges
      have hok := hchanges.displayName
      rw [hname] at hok
      cases hok
  | ok displayName =>
    cases hbio : normalizeField normalizeBio input.bio with
    | error e =>
      left
      refine ⟨e, ?_, ?_⟩
      · simp only [execute, UpdateProfile.execute, hname, hbio]
        rfl
      · intro changes hchanges
        have hok := hchanges.bio
        rw [hbio] at hok
        cases hok
    | ok bio =>
      by_cases hempty : displayName = none ∧ bio = none
      · -- nothing to update
        left
        refine ⟨.emptyProfileUpdate, ?_, ?_⟩
        · simp only [execute, UpdateProfile.execute, hname, hbio]
          show Response.profile <$> (if displayName = none ∧ bio = none then
            Program.failed Failure.emptyProfileUpdate else _) = _
          rw [if_pos hempty]
          rfl
        · intro changes hchanges
          have hname' := hchanges.displayName
          have hbio' := hchanges.bio
          rw [hname] at hname'
          rw [hbio] at hbio'
          cases hname'
          cases hbio'
          exact hchanges.given hempty
      · right
        refine ⟨⟨displayName, bio⟩, ⟨hname, hbio, hempty⟩, ?_⟩
        simp only [execute, UpdateProfile.execute, hname, hbio]
        show Response.profile <$> (if displayName = none ∧ bio = none then
          Program.failed Failure.emptyProfileUpdate else _) = _
        rw [if_neg hempty]
        refine congrArg (Program.call _) (funext fun returned => ?_)
        cases returned <;> rfl

/-- What an update writes depends on its input only. -/
theorem Normalises.unique {input : UpdateProfileInput} {changes changes' : ProfileChanges}
    (h : Normalises input changes) (h' : Normalises input changes') : changes = changes' := by
  have hname := Except.ok.inj (h.displayName.symm.trans h'.displayName)
  have hbio := Except.ok.inj (h.bio.symm.trans h'.bio)
  cases changes
  cases changes'
  cases hname
  cases hbio
  rfl

/-- The one call of an update. -/
theorem updateProfile_writes {input : UpdateProfileInput} {call : PortCall}
    {next : Answer call → UseCase Response}
    (h : Path i (execute settings (.updateProfile input)) τ (.call call next)) :
    τ = [] ∧ ∃ changes, Normalises input changes ∧ call = .updateProfile input.userId changes := by
  rcases updateProfile_cases settings input with ⟨e, hfailed, -⟩ | ⟨changes, hchanges, hcall⟩
  · rw [hfailed] at h
    cases h
  · rw [hcall] at h
    cases h with
    | nil => exact ⟨rfl, changes, hchanges, rfl⟩
    | returned returned h₁ => cases returned <;> cases h₁

/-- It answers with the profile that call returns. -/
theorem updateProfile_answers {input : UpdateProfileInput} {userId : JsString}
    {changes : ProfileChanges} {next : Option Profile → UseCase Response}
    (h : Path i (execute settings (.updateProfile input)) τ
      (.call (.updateProfile userId changes) next)) (returned : Option Profile) :
    next returned = returned.elim (.failed (.profileNotFoundById input.userId))
      fun profile => .done (.profile profile) := by
  rcases updateProfile_cases settings input with ⟨e, hfailed, -⟩ | ⟨changes', -, hcall⟩
  · rw [hfailed] at h
    cases h
  · rw [hcall] at h
    cases h with
    | nil => rfl
    | returned answer h₁ => cases answer <;> cases h₁

/-- The events of an update that returned a profile. -/
theorem updateProfile_done {input : UpdateProfileInput} {response : Response}
    (h : Path i (execute settings (.updateProfile input)) τ (.done response)) :
    ∃ changes profile, Normalises input changes ∧
      τ = [.returned i (.updateProfile input.userId changes) (some profile)] ∧
      response = .profile profile := by
  rcases updateProfile_cases settings input with ⟨e, hfailed, -⟩ | ⟨changes, hchanges, hcall⟩
  · rw [hfailed] at h
    cases h
  · rw [hcall] at h
    cases h with | returned returned h₁ =>
    cases returned with
    | none => cases h₁
    | some profile =>
      cases h₁
      exact ⟨changes, profile, hchanges, rfl, rfl⟩

/-- Nothing else updates profiles. -/
theorem execute_updates {request : Request} {userId : JsString} {changes : ProfileChanges}
    {next : Option Profile → UseCase Response}
    (h : Path i (execute settings request) τ (.call (.updateProfile userId changes) next)) :
    ∃ input, request = .updateProfile input := by
  cases request with
  | updateProfile input => exact ⟨input, rfl⟩
  | register input => exact (h.only (only_map (registerUser_calls input) _)).elim
  | login input => exact (h.only (login_calls input)).elim
  | refresh input => exact (h.only (refresh_calls input)).elim
  | getProfile handle => cases h.only (only_map (getProfile_calls handle) _)

/-! ## Whose calls they are -/

/-- The calls of a request. -/
def Request.Makes : Request → PortCall → Prop
  | .register _ => Registers
  | .login _ => LogsIn
  | .refresh _ => Refreshes
  | .getProfile handle => (· = .findByHandle handle)
  | .updateProfile input => fun c => ∃ changes, c = .updateProfile input.userId changes

theorem execute_makes (request : Request) : (execute settings request).Only request.Makes := by
  cases request with
  | register input => exact only_map (registerUser_calls input) _
  | login input => exact login_calls input
  | refresh input => exact refresh_calls input
  | getProfile handle => exact only_map (getProfile_calls handle) _
  | updateProfile input => exact only_map (updateProfile_calls input) _

/-- Only a registration asks whether a handle exists, and first of all. -/
theorem execute_asks {request : Request} {handle : JsString} {next : Bool → UseCase Response}
    (h : Path i (execute settings request) τ (.call (.existsByHandle handle) next)) :
    ∃ input, request = .register input ∧ handle = input.handle ∧ τ = [] := by
  have hmakes := h.only (execute_makes request)
  cases request with
  | login | refresh => exact hmakes.elim
  | getProfile => cases hmakes
  | updateProfile =>
    rcases hmakes with ⟨changes, heq⟩
    cases heq
  | register input =>
    rcases register_path h with ⟨e, hfailed⟩ | ⟨-, hpath⟩
    · cases hfailed
    cases hpath with
    | nil => exact ⟨input, rfl, rfl, rfl⟩
    | returned taken h₁ =>
      cases taken with
      | true => cases h₁
      | false =>
        cases h₁ with | returned hash h₂ =>
        cases h₂ with | returned id h₃ =>
        cases h₃ with | returned createdAt h₄ =>
        cases h₄ with | returned created h₅ => cases h₅

/-- Only a login looks credentials up, and first of all. -/
theorem execute_looksUp {request : Request} {handle : JsString}
    {next : Option StoredCredentials → UseCase Response}
    (h : Path i (execute settings request) τ (.call (.findCredentialsByHandle handle) next)) :
    ∃ input, request = .login input ∧ handle = input.handle ∧ τ = [] := by
  have hmakes := h.only (execute_makes request)
  cases request with
  | register | refresh => exact hmakes.elim
  | getProfile => cases hmakes
  | updateProfile =>
    rcases hmakes with ⟨changes, heq⟩
    cases heq
  | login input =>
    obtain rfl := login_finds h
    cases h
    exact ⟨input, rfl, rfl, rfl⟩

/-- Only a login verifies a password, against the credentials it found. -/
theorem execute_verifies {request : Request} {hash password : JsString}
    {next : Bool → UseCase Response}
    (h : Path i (execute settings request) τ (.call (.verifyPassword hash password) next)) :
    ∃ input credentials, request = .login input ∧ hash = credentials.passwordHash ∧
      password = input.password ∧
      τ = [.returned i (.findCredentialsByHandle input.handle) (some credentials)] := by
  have hmakes := h.only (execute_makes request)
  cases request with
  | register | refresh => exact hmakes.elim
  | getProfile => cases hmakes
  | updateProfile =>
    rcases hmakes with ⟨changes, heq⟩
    cases heq
  | login input =>
    cases h with | returned found h₁ =>
    rcases found with _ | credentials
    · cases h₁ with | returned hash h₂ => cases h₂
    cases h₁ with
    | nil => exact ⟨input, credentials, rfl, rfl, rfl, rfl⟩
    | returned verified h₂ =>
      cases verified with
      | false => cases h₂
      | true =>
        cases h₂ with | returned now h₃ =>
        cases h₃ with | returned id h₄ =>
        cases h₄ with | returned minted h₅ =>
        cases h₅ with | returned tokenId h₆ =>
        cases h₆ with | returned u h₇ =>
        cases h₇ with | returned accessToken h₈ => cases h₈

/-- Only a lookup finds a profile, and does nothing else. -/
theorem execute_findsProfile {request : Request} {handle : JsString}
    {next : Option Profile → UseCase Response}
    (h : Path i (execute settings request) τ (.call (.findByHandle handle) next)) :
    request = .getProfile handle ∧ τ = [] := by
  have hmakes := h.only (execute_makes request)
  cases request with
  | register | login | refresh => exact hmakes.elim
  | updateProfile =>
    rcases hmakes with ⟨changes, heq⟩
    cases heq
  | getProfile given =>
    cases hmakes
    simp only [execute, GetProfile.execute] at h
    cases hvalid : assertValidHandle handle with
    | error e =>
      rw [hvalid] at h
      cases h
    | ok u =>
      rw [hvalid] at h
      cases h with
      | nil => exact ⟨rfl, rfl⟩
      | returned found h₁ => cases found <;> cases h₁

/-! ## Answers -/

/-- Each use case answers in its own way. -/
theorem execute_kind {request : Request} {response : Response}
    (h : Path i (execute settings request) τ (.done response)) :
    match request with
    | .register _ => ∃ user, response = .user user
    | .login _ | .refresh _ => ∃ tokens, response = .tokens tokens
    | .getProfile _ | .updateProfile _ => ∃ profile, response = .profile profile := by
  have image {α : Type} {f : α → Response} {q : UseCase α} (h : Path i (f <$> q) τ (.done response)) :
      ∃ value, response = f value := by
    rcases h.of_bind (f := fun a => pure (f a)) with ⟨q', -, heq⟩ | ⟨value, τ₁, τ₂, -, -, hlast⟩
    · cases q' with
      | done value =>
        cases heq
        exact ⟨value, rfl⟩
      | failed error => cases heq
      | call c next => cases heq
    · cases hlast
      exact ⟨value, rfl⟩
  cases request with
  | register input | login input | refresh input | getProfile input | updateProfile input =>
    exact image h

/-- Whichever use case returned a pair: it read the clock once, issued its access token then,
and returned the deadline it issued it with. -/
theorem tokens_issued {request : Request} {tokens : IssuedTokens}
    (h : Path i (execute settings request) τ (.done (.tokens tokens))) :
    ∃ session now, (∀ now', .returned i .now now' ∈ τ → now' = now) ∧
      .returned i (.issueAccessToken (accessClaims settings session now)) tokens.accessToken ∈ τ ∧
      tokens.accessTokenExpiresAt = now + settings.lifetimes.accessTokenMs := by
  have hkind := execute_kind h
  cases request with
  | login input =>
    rcases login_done h with ⟨credentials, now, id, minted, tokenId, accessToken, rfl, hresponse⟩
    cases hresponse
    refine ⟨loginSession settings input credentials id now, now, ?_,
      List.mem_of_getElem? (i := 7) rfl, rfl⟩
    intro now' hmem
    simpa using hmem
  | refresh input =>
    rcases refresh_done h with
      ⟨session, token, now, minted, id, accessToken, rfl, -, -, hresponse⟩
    cases hresponse
    refine ⟨session, now, ?_, List.mem_of_getElem? (i := 5) rfl, rfl⟩
    intro now' hmem
    simpa using hmem
  | register input | getProfile input | updateProfile input =>
    rcases hkind with ⟨value, heq⟩
    cases heq

end XClone.Identity
