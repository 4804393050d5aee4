import XClone.Identity.System

/-!
# XClone.Identity.Evidence — why Identity does what it does

Every call that matters has its reason earlier in the history, in events of its own
execution: a rotation and a revocation a token that was presented and found, a new
session a verified password, an access token a session just opened or rotated, a
profile update a request that names its account. `evidence` is the discipline that
says so; `good_evidence` gives it for every run from a store without sessions.
-/

namespace XClone.Identity

open Js Interleaving SessionTables

variable (services : Services)

/-! ## Reasons -/

/-- Execution `i` was given this refresh token and found it. -/
def Presented (τ : List IdentityEvent) (i : ℕ) (input : RefreshSessionInput) (session : Session)
    (token : StoredRefreshToken) : Prop :=
  .start i (.refresh input) ∈ τ ∧
    .returned i (.findByTokenHash (services.hashRefreshToken input.refreshToken))
      (some ⟨session, token⟩) ∈ τ

/-- Execution `i` found the credentials of the handle it was given and verified its
password against them. -/
def Verified (τ : List IdentityEvent) (i : ℕ) (credentials : StoredCredentials) : Prop :=
  ∃ input : LoginInput, .start i (.login input) ∈ τ ∧
    .returned i (.findCredentialsByHandle input.handle) (some credentials) ∈ τ ∧
    .returned i (.verifyPassword credentials.passwordHash input.password) true ∈ τ

/-- The reason for a call of execution `i`. -/
def Why (τ : List IdentityEvent) (i : ℕ) : PortCall → Prop
  | .findByTokenHash tokenHash => ∃ input : RefreshSessionInput,
      .start i (.refresh input) ∈ τ ∧ tokenHash = services.hashRefreshToken input.refreshToken
  | .rotate spentTokenId next spentAt => ∃ input session token,
      Presented services τ i input session token ∧ token.spentAt = none ∧
      .returned i .now spentAt ∈ τ ∧ spentAt < session.expiresAt ∧
      spentTokenId = token.id ∧ next.sessionId = session.id ∧ next.spentAt = none
  | .revoke sessionId _ => ∃ input session token,
      Presented services τ i input session token ∧ sessionId = session.id ∧
      (token.spentAt ≠ none ∨
        ∃ next spentAt, .returned i (.rotate token.id next spentAt) false ∈ τ)
  | .createSession session firstToken => ∃ credentials,
      Verified τ i credentials ∧ session.userId = credentials.userId ∧
      firstToken.sessionId = session.id
  | .issueAccessToken claims => ∃ session now,
      claims = accessClaims services.toSettings session now ∧ .returned i .now now ∈ τ ∧
      ((∃ firstToken, .returned i (.createSession session firstToken) () ∈ τ) ∨
        ∃ input token next, Presented services τ i input session token ∧
          .returned i (.rotate token.id next now) true ∈ τ)
  | .updateProfile userId _ => ∃ input : UpdateProfileInput,
      .start i (.updateProfile input) ∈ τ ∧ userId = input.userId
  | _ => True

/-- Lookups and rotations come before any rotation of their execution. -/
def Unrotated (τ : List IdentityEvent) : PortCall → Prop
  | .findByTokenHash _ | .rotate _ _ _ => rotations τ = []
  | _ => True

/-- How a refresh ends, from its own events. -/
def RefreshEnd (τ : List IdentityEvent) (i : ℕ) (input : RefreshSessionInput) :
    Except Failure Response → Prop
  | .ok response => ∃ tokens session token next now, response = .tokens tokens ∧
      Presented services τ i input session token ∧
      .returned i (.rotate token.id next now) true ∈ τ ∧ next.sessionId = session.id ∧
      next.tokenHash = services.hashRefreshToken tokens.refreshToken
  | .error e => (∀ r ∈ rotations τ, r.answer = false) ∧
      (e = .unavailable ∨ e = .constraintViolation ∨ (e = .invalidRefreshToken ∧
        (.returned i (.findByTokenHash (services.hashRefreshToken input.refreshToken)) none ∈ τ ∨
          ∃ session token, Presented services τ i input session token ∧
            (token.spentAt ≠ none ∨
              (∃ now, .returned i .now now ∈ τ ∧ session.expiresAt ≤ now) ∨
              ∃ next spentAt, .returned i (.rotate token.id next spentAt) false ∈ τ))))

variable {services}

theorem Presented.mono {τ τ' : List IdentityEvent} {i : ℕ} {input : RefreshSessionInput}
    {session : Session} {token : StoredRefreshToken} (hsub : τ ⊆ τ')
    (h : Presented services τ i input session token) :
    Presented services τ' i input session token :=
  ⟨hsub h.1, hsub h.2⟩

theorem Verified.mono {τ τ' : List IdentityEvent} {i : ℕ} {credentials : StoredCredentials}
    (hsub : τ ⊆ τ') (h : Verified τ i credentials) : Verified τ' i credentials := by
  rcases h with ⟨input, hstart, hfind, hverify⟩
  exact ⟨input, hsub hstart, hsub hfind, hsub hverify⟩

/-- A reason stays a reason. -/
theorem Why.mono {τ τ' : List IdentityEvent} {i : ℕ} {c : PortCall} (hsub : τ ⊆ τ')
    (h : Why services τ i c) : Why services τ' i c := by
  cases c with
  | findByTokenHash tokenHash =>
    rcases h with ⟨input, hstart, hhash⟩
    exact ⟨input, hsub hstart, hhash⟩
  | rotate spentTokenId next spentAt =>
    rcases h with ⟨input, session, token, hpresented, hunspent, hnow, hrest⟩
    exact ⟨input, session, token, hpresented.mono hsub, hunspent, hsub hnow, hrest⟩
  | revoke sessionId revokedAt =>
    rcases h with ⟨input, session, token, hpresented, hid, hreuse⟩
    refine ⟨input, session, token, hpresented.mono hsub, hid, ?_⟩
    rcases hreuse with hspent | ⟨next, spentAt, hrotate⟩
    · exact Or.inl hspent
    · exact Or.inr ⟨next, spentAt, hsub hrotate⟩
  | createSession session firstToken =>
    rcases h with ⟨credentials, hverified, hrest⟩
    exact ⟨credentials, hverified.mono hsub, hrest⟩
  | issueAccessToken claims =>
    rcases h with ⟨session, now, hclaims, hnow, hsession⟩
    refine ⟨session, now, hclaims, hsub hnow, ?_⟩
    rcases hsession with ⟨firstToken, hcreated⟩ | ⟨input, token, next, hpresented, hrotated⟩
    · exact Or.inl ⟨firstToken, hsub hcreated⟩
    · exact Or.inr ⟨input, token, next, hpresented.mono hsub, hsub hrotated⟩
  | updateProfile userId changes =>
    rcases h with ⟨input, hstart, hid⟩
    exact ⟨input, hsub hstart, hid⟩
  | existsByHandle | createUser | findCredentialsByHandle | findByHandle | hashPassword
  | verifyPassword | createRefreshToken | nextId | now => trivial

/-! ## What the history says of the store -/

/-- Every answered call had its reason, and what was found or created is still there. -/
structure Recorded (w : IdentityWorld services) : Prop where
  why : ∀ {i c r}, .returned i c r ∈ w.history → Why services w.history i c
  found : ∀ {i tokenHash session token},
    .returned i (.findByTokenHash tokenHash) (some ⟨session, token⟩) ∈ w.history →
    token.tokenHash = tokenHash ∧ session.id = token.sessionId ∧
      (∃ row ∈ w.store.tables.refreshTokens.rows, TokenLater token row) ∧
      (∃ row ∈ w.store.tables.sessions.rows, SessionLater session row)
  credentials : ∀ {i handle credentials},
    .returned i (.findCredentialsByHandle handle) (some credentials) ∈ w.history →
    ⟨credentials.userId, credentials.passwordHash⟩ ∈ w.store.accounts.credentials.rows
  opened : ∀ session ∈ w.store.tables.sessions.rows, ∃ i created firstToken,
    .returned i (.createSession created firstToken) () ∈ w.history ∧ SessionLater created session

/-- Rows that were found stay, in a later state. -/
theorem found_later {s s' : Store services.lower} (h : Store.Later s s') {session : Session}
    {token : StoredRefreshToken}
    (hfound : (∃ row ∈ s.tables.refreshTokens.rows, TokenLater token row) ∧
      (∃ row ∈ s.tables.sessions.rows, SessionLater session row)) :
    (∃ row ∈ s'.tables.refreshTokens.rows, TokenLater token row) ∧
      (∃ row ∈ s'.tables.sessions.rows, SessionLater session row) := by
  rcases hfound with ⟨⟨row, hrow, hlater⟩, ⟨owner, howner, hlater'⟩⟩
  rcases h.tables.token row hrow with ⟨row', hrow', hnext⟩
  rcases h.tables.session owner howner with ⟨owner', howner', hnext'⟩
  exact ⟨⟨row', hrow', hlater.trans hnext⟩, ⟨owner', howner', hlater'.trans hnext'⟩⟩

/-- An event that answers nothing is no news. -/
theorem Recorded.after_quiet {w : IdentityWorld services} (h : Recorded w) {e : IdentityEvent}
    (he : ∀ i c r, e ≠ .returned i c r) : Recorded (w.after e w.store) := by
  have hold : ∀ {i c r}, .returned i c r ∈ w.history ++ [e] → .returned i c r ∈ w.history := by
    intro i c r hmem
    rcases List.mem_append.mp hmem with hmem | hmem
    · exact hmem
    · exact absurd (List.mem_singleton.mp hmem).symm (he i c r)
  constructor
  · intro i c r hmem
    exact (h.why (hold hmem)).mono (List.subset_append_left _ _)
  · intro i tokenHash session token hmem
    exact h.found (hold hmem)
  · intro i handle credentials hmem
    exact h.credentials (hold hmem)
  · intro session hsession
    rcases h.opened session hsession with ⟨i, created, firstToken, hmem, hlater⟩
    exact ⟨i, created, firstToken, List.mem_append_left _ hmem, hlater⟩

/-- A session of a later state was created by an earlier call or by this one. -/
theorem Recorded.opened_returned {w : IdentityWorld services} (h : Recorded w) {i : ℕ}
    {c : PortCall} {r : Answer c} {s : Store services.lower}
    (hreturns : returns services c w.store r s) {session : Session}
    (hsession : session ∈ s.tables.sessions.rows) : ∃ j created firstToken,
      .returned j (.createSession created firstToken) () ∈ w.history ++ [.returned i c r] ∧
        SessionLater created session := by
  have hkept : ∀ old ∈ w.store.tables.sessions.rows, ∃ j created firstToken,
      .returned j (.createSession created firstToken) () ∈ w.history ++ [.returned i c r] ∧
        SessionLater created old := by
    intro old hold
    rcases h.opened old hold with ⟨j, created, firstToken, hmem, hsame⟩
    exact ⟨j, created, firstToken, List.mem_append_left _ hmem, hsame⟩
  cases wrote hreturns with
  | nothing _ hsame =>
    rw [hsame] at hsession
    exact hkept session hsession
  | created created firstToken hcreate =>
    rw [(DrizzleSessionRepository.create_spec hcreate).2.2.1] at hsession
    rcases List.mem_cons.mp hsession with rfl | hsession
    · exact ⟨i, session, firstToken, by simp, .refl _⟩
    · exact hkept session hsession
  | rotated spentTokenId next spentAt answer hrotate =>
    rcases DrizzleSessionRepository.rotate_cases hrotate with ⟨-, hrotated⟩ | ⟨-, hsame, -⟩
    · rw [hrotated.sessions] at hsession
      exact hkept session hsession
    · rw [hsame] at hsession
      exact hkept session hsession
  | revoked sessionId revokedAt hrevoke =>
    rw [hrevoke] at hsession
    rcases DrizzleSessionRepository.mem_revoke.mp hsession with ⟨old, hold, rfl⟩
    rcases hkept old hold with ⟨j, created, firstToken, hmem, hsame⟩
    refine ⟨j, created, firstToken, hmem, hsame.trans ?_⟩
    split
    · -- only a live row is revoked, so no earlier revocation is overwritten
      rename_i hmatch
      exact ⟨rfl, fun hset => absurd (isLive_iff.mp hmatch).2 hset⟩
    · exact .refl _

/-- An answered call with a reason is recorded. -/
theorem Recorded.after_returned {w : IdentityWorld services} (h : Recorded w) {i : ℕ}
    {c : PortCall} {r : Answer c} {s : Store services.lower} (hwhy : Why services (w.own i) i c)
    (hreturns : returns services c w.store r s) : Recorded (w.after (.returned i c r) s) := by
  have hlater := returns_later hreturns
  have hown : w.own i ⊆ w.history ++ [.returned i c r] := by
    intro e he
    exact List.mem_append_left _ (World.mem_own.mp he).1
  constructor
  · intro j c' r' hmem
    rcases List.mem_append.mp hmem with hmem | hmem
    · exact (h.why hmem).mono (List.subset_append_left _ _)
    · cases List.mem_singleton.mp hmem
      exact hwhy.mono hown
  · intro j tokenHash session token hmem
    rcases List.mem_append.mp hmem with hmem | hmem
    · rcases h.found hmem with ⟨hhash, hid, hrows⟩
      exact ⟨hhash, hid, found_later hlater hrows⟩
    · -- the lookup itself
      cases List.mem_singleton.mp hmem
      rcases hreturns with ⟨rfl, hfind⟩
      rcases DrizzleSessionRepository.findByTokenHash_some hfind.symm with
        ⟨htoken, hhash, hsession, hid⟩
      exact ⟨hhash, hid, ⟨token, htoken, .refl _⟩, ⟨session, hsession, .refl _⟩⟩
  · intro j handle credentials hmem
    rcases List.mem_append.mp hmem with hmem | hmem
    · exact hlater.accounts.credentials _ (h.credentials hmem)
    · cases List.mem_singleton.mp hmem
      rcases hreturns with ⟨rfl, hfind⟩
      exact (DrizzleUserRepository.findCredentialsByHandle_some hfind.symm).1
  · -- sessions only come from `create`
    intro session hsession
    exact h.opened_returned hreturns hsession

/-- Where an access token comes from: a login or a refresh issued it, at its own clock
reading, for a session that a login opened for the account whose password it verified. -/
theorem Recorded.token_origin {w : IdentityWorld services} (h : Recorded w) {j : ℕ}
    {claims : AccessToken.AccessTokenClaims} {token : JsString}
    (hissued : .returned j (.issueAccessToken claims) token ∈ w.history) :
    ((∃ input, .start j (.login input) ∈ w.history) ∨
      ∃ input, .start j (.refresh input) ∈ w.history) ∧
    .returned j .now claims.issuedAt ∈ w.history ∧
    claims.expiresAt = claims.issuedAt + services.lifetimes.accessTokenMs ∧
    ∃ k session firstToken credentials,
      .returned k (.createSession session firstToken) () ∈ w.history ∧
      session.id = claims.sessionId ∧ session.userId = claims.userId ∧
      Verified w.history k credentials ∧ credentials.userId = claims.userId := by
  rcases h.why hissued with ⟨session, now, rfl, hnow, hcreated | hrotated⟩
  · -- a login, which opened the session itself
    rcases hcreated with ⟨firstToken, hcreated⟩
    rcases h.why hcreated with ⟨credentials, hverified, huser, -⟩
    have hstart := hverified
    rcases hstart with ⟨input, hstart, -, -⟩
    exact ⟨Or.inl ⟨input, hstart⟩, hnow, rfl, j, session, firstToken, credentials, hcreated, rfl,
      rfl, hverified, huser.symm⟩
  · -- a refresh, which found a session some login opened
    rcases hrotated with ⟨input, token, next, hpresented, -⟩
    rcases h.found hpresented.2 with ⟨-, -, -, row, hrow, hsession⟩
    rcases h.opened row hrow with ⟨k, created, firstToken, hcreated, hopened⟩
    rcases h.why hcreated with ⟨credentials, hverified, huser, -⟩
    -- a session keeps its id and its account
    have hid : created.id = session.id := hopened.id.symm.trans hsession.id
    have howner : created.userId = session.userId := hopened.userId.symm.trans hsession.userId
    exact ⟨Or.inr ⟨input, hpresented.1⟩, hnow, rfl, k, created, firstToken, credentials, hcreated,
      hid, howner, hverified, huser.symm.trans howner⟩

variable (services) in
/-- The discipline of reasons. -/
def evidence : Discipline (machine services) :=
  growing services Recorded (fun w i c => Why services (w.own i) i c ∧ Unrotated (w.own i) c)
    (fun _ h _ _ => h.after_quiet fun _ _ _ hno => nomatch hno)
    (fun _ _ _ _ _ h hallowed hreturns => h.after_returned hallowed.1 hreturns)
    (fun _ _ _ _ h _ => h.after_quiet fun _ _ _ hno => nomatch hno)

/-! ## The use cases have their reasons -/

variable {i : ℕ} {Q : IdentityWorld services → Except Failure Response → Prop}

/-- One call of an execution whose events so far are `own`. -/
theorem backed_call_safe {own : List IdentityEvent} {c : PortCall}
    {next : Answer c → UseCase Response} {w : IdentityWorld services} (hown : w.own i = own)
    (hwhy : Why services own i c) (hfirst : Unrotated own c)
    (hthrow : ∀ w' e s, throws services c s e → w'.own i = own ++ [.threw i c e] → Q w' (.error e))
    (hreturn : ∀ w' r s s', returns services c s r s' → w'.own i = own ++ [.returned i c r] →
      (evidence services).Safe i Q (next r) w') :
    (evidence services).Safe i Q (.call c next) w := by
  intro w' hw'
  have hsame : w'.own i = own := hw'.own.trans hown
  refine ⟨⟨hsame ▸ hwhy, hsame ▸ hfirst⟩, ?_, ?_⟩
  · intro r s hr
    exact hreturn _ r w'.store s hr (by rw [World.own_returned, hsame])
  · intro e he w'' hw''
    exact hthrow w'' e w'.store he (by rw [hw''.own, World.own_threw, hsame])

/-- Calls that only need to be allowed, in executions nothing is said about. -/
def Free : PortCall → Prop
  | .findByTokenHash _ | .rotate _ _ _ | .revoke _ _ | .createSession _ _
  | .issueAccessToken _ | .updateProfile _ _ => False
  | _ => True

theorem Free.why {c : PortCall} (h : Free c) (τ : List IdentityEvent) (i : ℕ) :
    Why services τ i c ∧ Unrotated τ c := by
  cases c <;> first | exact h.elim | exact ⟨trivial, trivial⟩

open Program

theorem register_free (input : RegisterUserInput) : (RegisterUser.execute input).Only Free := by
  refine (registerUser_calls input).mono ?_
  intro c hc
  cases c <;> first | exact hc.elim | trivial

theorem getProfile_free (handle : JsString) : (GetProfile.execute handle).Only Free := by
  refine (getProfile_calls handle).mono ?_
  rintro c rfl
  trivial

/-- One call of an execution whose end nothing is said about. -/
theorem unjudged_call_safe {own : List IdentityEvent} {c : PortCall}
    {next : Answer c → UseCase Response} {w : IdentityWorld services} (hown : w.own i = own)
    (hwhy : Why services own i c) (hfirst : Unrotated own c)
    (hreturn : ∀ w' r s s', returns services c s r s' → w'.own i = own ++ [.returned i c r] →
      (evidence services).Safe i (fun _ _ => True) (next r) w') :
    (evidence services).Safe i (fun _ _ => True) (.call c next) w :=
  backed_call_safe hown hwhy hfirst (fun _ _ _ _ _ => trivial) hreturn

/-- A login opens a session only for the credentials it verified. -/
theorem login_safe (input : LoginInput) {w : IdentityWorld services}
    (hown : w.own i = [.start i (.login input)]) :
    (evidence services).Safe i (fun _ _ => True)
      (execute services.toSettings (.login input)) w := by
  refine unjudged_call_safe hown trivial trivial ?_
  intro w₁ found _ _ _ hown₁
  rcases found with _ | credentials
  · -- no such handle: one hash, thrown away
    refine unjudged_call_safe hown₁ trivial trivial ?_
    intro _ _ _ _ _ _ _ _
    trivial
  refine unjudged_call_safe hown₁ trivial trivial ?_
  intro w₂ verified _ _ _ hown₂
  cases verified with
  | false =>
    intro _ _
    trivial
  | true =>
    -- the clock, the session id, the secret and the token id need no evidence
    refine unjudged_call_safe hown₂ trivial trivial ?_
    intro w₃ now _ _ _ hown₃
    refine unjudged_call_safe hown₃ trivial trivial ?_
    intro w₄ id _ _ _ hown₄
    refine unjudged_call_safe hown₄ trivial trivial ?_
    intro w₅ minted _ _ _ hown₅
    refine unjudged_call_safe hown₅ trivial trivial ?_
    intro w₆ tokenId _ _ _ hown₆
    -- the session is opened for the credentials that were verified
    refine unjudged_call_safe hown₆ ?_ trivial ?_
    · exact ⟨credentials, ⟨input, by simp, by simp, by simp⟩, rfl, rfl⟩
    intro w₇ created _ _ _ hown₇
    cases created
    refine unjudged_call_safe hown₇ ?_ trivial ?_
    · exact ⟨_, now, rfl, by simp, Or.inl ⟨_, List.mem_append_right _ (List.mem_singleton_self _)⟩⟩
    intro _ _ _ _ _ _ _ _
    trivial

/-- An update writes the account its request names. -/
theorem updateProfile_safe (input : UpdateProfileInput) {w : IdentityWorld services}
    (hown : w.own i = [.start i (.updateProfile input)]) :
    (evidence services).Safe i (fun _ _ => True)
      (execute services.toSettings (.updateProfile input)) w := by
  have ended : ∀ (out : UseCase Response), out.Completed →
      (evidence services).Safe i (fun _ _ => True) out w := by
    intro out hout
    cases out with
    | call c next => exact hout.elim
    | done value => exact fun _ _ => trivial
    | failed e => exact fun _ _ => trivial
  show (evidence services).Safe i _ (Response.profile <$> UpdateProfile.execute input) w
  unfold UpdateProfile.execute
  cases normalizeField normalizeDisplayName input.displayName with
  | error e => exact ended _ trivial
  | ok displayName =>
    cases normalizeField normalizeBio input.bio with
    | error e => exact ended _ trivial
    | ok bio =>
      simp only [Program.ofExcept, done_bind]
      split
      · exact ended _ trivial
      refine unjudged_call_safe hown ⟨input, by simp, rfl⟩ trivial ?_
      intro w₁ profile _ _ _ _
      cases profile <;> exact fun _ _ => trivial

/-- Only registering can be refused for a taken handle. -/
theorem throws_kind {c : PortCall} {s : Store services.lower} {e : Failure}
    (hc : ∀ user passwordHash, c ≠ .createUser user passwordHash) (h : throws services c s e) :
    e = .unavailable ∨ e = .constraintViolation := by
  cases c with
  | createUser user passwordHash => exact absurd rfl (hc user passwordHash)
  | createSession | rotate =>
    rcases h with h | ⟨h, -⟩
    · exact Or.inl h
    · exact Or.inr h
  | createRefreshToken | now | issueAccessToken => exact h.elim
  | existsByHandle | findCredentialsByHandle | findByTokenHash | revoke | findByHandle
  | updateProfile | hashPassword | verifyPassword | nextId => exact Or.inl h

/-- A refresh one of whose calls throws. -/
theorem refreshEnd_threw {own : List IdentityEvent} {input : RefreshSessionInput} {c : PortCall}
    (hrot : ∀ r ∈ rotations own, r.answer = false)
    (hc : ∀ user passwordHash, c ≠ .createUser user passwordHash) :
    ∀ (w : IdentityWorld services) e s, throws services c s e →
      w.own i = own ++ [.threw i c e] → RefreshEnd services (w.own i) i input (.error e) := by
  intro w e s he hown
  rw [hown]
  constructor
  · intro r hr
    rw [rotations_quiet rfl] at hr
    exact hrot r hr
  · rcases throws_kind hc he with he | he
    · exact Or.inl he
    · exact Or.inr (Or.inl he)

/-- `rejectAsReuse`, with the evidence of the reuse. -/
theorem rejectAsReuse_backed (token : StoredRefreshToken) {own : List IdentityEvent}
    {input : RefreshSessionInput} {session : Session} {now : Date} {w : IdentityWorld services}
    (hown : w.own i = own) (hpresented : Presented services own i input session token)
    (hrot : ∀ r ∈ rotations own, r.answer = false)
    (hreuse : token.spentAt ≠ none ∨
      ∃ next spentAt, .returned i (.rotate token.id next spentAt) false ∈ own) :
    (evidence services).Safe i (fun w => RefreshEnd services (w.own i) i input)
      (Response.tokens <$> RefreshSession.rejectAsReuse session.id now) w := by
  refine backed_call_safe hown ⟨input, session, token, hpresented, rfl, hreuse⟩ trivial
    (refreshEnd_threw hrot (by rintro _ _ ⟨⟩)) ?_
  intro w₁ _ _ _ _ hown₁ w' hw'
  rw [hw'.own, hown₁]
  constructor
  · intro r hr
    rw [rotations_quiet rfl] at hr
    exact hrot r hr
  · refine Or.inr (Or.inr ⟨rfl, Or.inr ⟨session, token, ?_, ?_⟩⟩)
    · exact hpresented.mono (List.subset_append_left _ _)
    · rcases hreuse with hspent | ⟨next, spentAt, hrotate⟩
      · exact Or.inl hspent
      · exact Or.inr (Or.inr ⟨next, spentAt, List.mem_append_left _ hrotate⟩)

/-- A refresh ends as its own events say. -/
theorem refresh_safe (input : RefreshSessionInput) {w : IdentityWorld services}
    (hown : w.own i = [.start i (.refresh input)]) :
    (evidence services).Safe i (fun w => RefreshEnd services (w.own i) i input)
      (execute services.toSettings (.refresh input)) w := by
  refine backed_call_safe hown ⟨input, by simp, rfl⟩ rfl
    (refreshEnd_threw (by simp [rotations, rotation]) (by rintro _ _ ⟨⟩)) ?_
  intro w₁ found _ _ _ hown₁
  rcases found with _ | ⟨session, token⟩
  · -- no such token
    intro w' hw'
    rw [hw'.own, hown₁]
    exact ⟨by simp [rotations, rotation], Or.inr (Or.inr ⟨rfl, Or.inl (by simp)⟩)⟩
  refine backed_call_safe hown₁ trivial trivial
    (refreshEnd_threw (by simp [rotations, rotation]) (by rintro _ _ ⟨⟩)) ?_
  intro w₂ now _ _ _ hown₂
  show (evidence services).Safe i _
    (Response.tokens <$> RefreshSession.exchange services.toSettings session token now) w₂
  unfold RefreshSession.exchange
  split
  · -- a spent token
    rename_i hspent
    exact rejectAsReuse_backed token hown₂ ⟨by simp, by simp⟩ (by simp [rotations, rotation])
      (Or.inl hspent)
  rename_i hunspent
  split
  · -- an expired session
    rename_i hexpired
    intro w' hw'
    rw [hw'.own, hown₂]
    refine ⟨by simp [rotations, rotation], Or.inr (Or.inr ⟨rfl, Or.inr ⟨session, token, ?_, ?_⟩⟩)⟩
    · exact ⟨by simp, by simp⟩
    · exact Or.inr (Or.inl ⟨now, by simp, hexpired⟩)
  rename_i hvalid
  rw [map_bind]
  refine backed_call_safe hown₂ trivial trivial
    (refreshEnd_threw (by simp [rotations, rotation]) (by rintro _ _ ⟨⟩)) ?_
  intro w₃ minted s₃ _ hmint hown₃
  refine backed_call_safe hown₃ trivial trivial
    (refreshEnd_threw (by simp [rotations, rotation]) (by rintro _ _ ⟨⟩)) ?_
  intro w₄ id _ _ _ hown₄
  refine backed_call_safe hown₄ ?_ (by simp [Unrotated, rotations, rotation])
    (refreshEnd_threw (by simp [rotations, rotation]) (by rintro _ _ ⟨⟩)) ?_
  · exact ⟨input, session, token, ⟨by simp, by simp⟩, not_not.mp hunspent, by simp,
      not_le.mp hvalid, rfl, rfl, rfl⟩
  intro w₅ rotated _ _ _ hown₅
  cases rotated with
  | false =>
    -- the race was lost
    refine rejectAsReuse_backed token hown₅ ⟨by simp, by simp⟩ (by simp [rotations, rotation]) (Or.inr ?_)
    exact ⟨_, now, List.mem_append_right _ (List.mem_singleton_self _)⟩
  | true =>
    -- the race was won: the access token is issued for the rotated session
    refine backed_call_safe hown₅ ?_ trivial ?_ ?_
    · exact ⟨session, now, rfl, by simp, Or.inr ⟨input, token, _, ⟨by simp, by simp⟩,
        List.mem_append_right _ (List.mem_singleton_self _)⟩⟩
    · intro _ _ _ hno
      exact hno.elim
    · intro w₆ accessToken _ _ _ hown₆ w' hw'
      rw [hw'.own, hown₆]
      refine ⟨_, session, token, _, now, rfl, ⟨by simp, by simp⟩, List.mem_append_left _
        (List.mem_append_right _ (List.mem_singleton_self _)), rfl, ?_⟩
      exact hmint.2

/-! ## Every run -/

/-- What is proved of every finished execution; only refreshes say anything. -/
def ended (services : Services) (i : ℕ) :
    Request → IdentityWorld services → Except Failure Response → Prop
  | .refresh input, w, out => RefreshEnd services (w.own i) i input out
  | _, _, _ => True

theorem sound_evidence : (evidence services).Sound (ended services) := by
  intro i request w _ hown
  have hfree : ∀ (w : IdentityWorld services) c, Free c → (evidence services).allowed w i c :=
    fun w c hc => hc.why (w.own i) i
  cases request with
  | register input =>
    exact Discipline.safe_of_only hfree (only_map (register_free input) Response.user) w
  | login input => exact login_safe input hown
  | refresh input => exact refresh_safe input hown
  | getProfile handle =>
    exact Discipline.safe_of_only hfree (only_map (getProfile_free handle) Response.profile) w
  | updateProfile input => exact updateProfile_safe input hown

/-- Every run from a store without sessions keeps to the discipline of reasons. -/
theorem good_evidence {accounts : UserTables services.lower} {τ : List IdentityEvent}
    {c : IdentityConfig services}
    (hrun : Run (machine services) (.initial (.noSessions accounts)) τ c) :
    (evidence services).Good (ended services) τ c := by
  have hempty : @Recorded services ⟨[], .noSessions accounts⟩ :=
    ⟨fun h => (nomatch h), fun h => (nomatch h), fun h => (nomatch h), fun _ h => (nomatch h)⟩
  have hinit : (evidence services).Good (ended services) [] (.initial (.noSessions accounts)) :=
    Discipline.good_initial hempty
  exact hinit.run sound_evidence hrun

end XClone.Identity
