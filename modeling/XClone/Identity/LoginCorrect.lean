import XClone.Identity.Registration

/-!
# XClone.Identity.LoginCorrect — a login succeeds exactly for registered credentials

The lookup of a login joins the user of the handle with its credentials. Both are unique,
and both were written by the one registration that used the handle, so what is verified
is the password against the hash of that registration. With an ideal hasher
(`IdealHasher`) a login whose calls answer succeeds exactly when that password is its
own, and then everything it issues is for that account.
-/

namespace XClone.Identity

open Js Interleaving AccessToken

/-! ## Finding credentials -/

namespace DrizzleUserRepository

variable {lower : JsString → JsString}

/-- The join finds the credentials of the user with the handle, whichever row it comes
to first. -/
theorem findCredentialsByHandle_of_mem {t : UserTables lower} {handle : JsString} {user : UserRow}
    {row : CredentialsRow} (huser : user ∈ t.users.rows)
    (hhandle : lower user.handle = lower handle) (hrow : row ∈ t.credentials.rows)
    (hid : row.userId = user.id) :
    findCredentialsByHandle t handle = some ⟨user.id, row.passwordHash⟩ := by
  cases hfound : findCredentialsByHandle t handle with
  | none =>
    -- the join has their row
    have hmem : (⟨user.id, row.passwordHash⟩ : StoredCredentials) ∈
        (t.users.rows.filter fun user => lower user.handle = lower handle).flatMap
          fun user => (t.credentials.rows.filter (·.userId = user.id)).map
            fun row => ⟨user.id, row.passwordHash⟩ := by
      refine List.mem_flatMap.mpr ⟨user, List.mem_filter.mpr ⟨huser, decide_eq_true hhandle⟩, ?_⟩
      exact List.mem_map.mpr ⟨row, List.mem_filter.mpr ⟨hrow, decide_eq_true hid⟩, rfl⟩
    rw [List.head?_eq_none_iff.mp hfound] at hmem
    cases hmem
  | some found =>
    rcases findCredentialsByHandle_some hfound with ⟨hfoundRow, user', huser', hid', hhandle'⟩
    have hsame : user' = user :=
      t.users.eq_of_column (List.mem_cons_of_mem _ List.mem_cons_self) huser' huser
        (hhandle'.trans hhandle.symm)
    have hrowSame : (⟨found.userId, found.passwordHash⟩ : CredentialsRow) = row :=
      t.credentials.eq_of_column List.mem_cons_self hfoundRow hrow
        (by rw [← hid', hsame, hid])
    rw [← hrowSame, ← hsame, hid']

end DrizzleUserRepository

/-! ## Registered credentials -/

variable {services : Services} {τ : List IdentityEvent} {c : IdentityConfig services}

/-- The hasher's verification is right about every hash it has computed. -/
def IdealHasher (services : Services) (τ : List IdentityEvent) : Prop :=
  ∀ i password hash, .returned i (.hashPassword password) hash ∈ τ →
    ∀ candidate, services.passwordMatches hash candidate = true ↔ candidate = password

/-- A registration of `user` with the handle, ignoring case, and the password was
committed in the history. -/
def Registered (services : Services) (τ : List IdentityEvent) (handle password : JsString)
    (user : User) : Prop :=
  ∃ j input passwordHash, .start j (.register input) ∈ τ ∧
    .returned j (.createUser user passwordHash) () ∈ τ ∧
    services.lower input.handle = services.lower handle ∧ input.password = password

/-- It was committed before execution `i` looked the handle up. -/
def RegisteredBefore (services : Services) (τ : List IdentityEvent) (i : ℕ) (input : LoginInput)
    (user : User) : Prop :=
  ∃ τ₁ τ₂ found, τ = τ₁ ++ .returned i (.findCredentialsByHandle input.handle) found :: τ₂ ∧
    Registered services τ₁ input.handle input.password user

/-- The credentials of a handle are those its registration left. -/
theorem credentials_registered
    (hrun : Run (machine services) (.initial (.blank services.lower)) τ c) {handle : JsString}
    {credentials : StoredCredentials}
    (hfound : DrizzleUserRepository.findCredentialsByHandle c.store.accounts handle =
      some credentials) :
    ∃ j input user, .start j (.register input) ∈ τ ∧
      .returned j (.createUser user credentials.passwordHash) () ∈ τ ∧
      user.id = credentials.userId ∧ services.lower input.handle = services.lower handle ∧
      .returned j (.hashPassword input.password) credentials.passwordHash ∈ τ := by
  rcases DrizzleUserRepository.findCredentialsByHandle_some hfound with
    ⟨hrow, row, huser, hid, hhandle⟩
  rcases row_returned hrun huser with ⟨j, input, user, hreturned, hsame⟩
  rcases returned_created hrun hreturned with ⟨passwordHash, hcreated, hhash, huserHandle⟩
  have huserId : user.id = credentials.userId := by
    rw [← hid, hsame]
    rfl
  -- one credentials row for the account
  have hcredentials : (⟨user.id, passwordHash⟩ : CredentialsRow) =
      ⟨credentials.userId, credentials.passwordHash⟩ :=
    c.store.accounts.credentials.eq_of_column List.mem_cons_self (created_row hrun hcreated).2 hrow
      huserId
  have hpasswordHash : passwordHash = credentials.passwordHash :=
    congrArg CredentialsRow.passwordHash hcredentials
  rw [hpasswordHash] at hcreated hhash
  refine ⟨j, input, user, ?_, hcreated, huserId, ?_, hhash⟩
  · rcases hrun.did hreturned with ⟨events, hdid⟩
    exact hdid.started
  · rw [← hhandle, hsame, ← huserHandle]
    rfl

/-- And a lookup finds them. -/
theorem registered_credentials
    (hrun : Run (machine services) (.initial (.blank services.lower)) τ c)
    {handle password : JsString} {user : User} (h : Registered services τ handle password user) :
    ∃ j passwordHash, .returned j (.hashPassword password) passwordHash ∈ τ ∧
      DrizzleUserRepository.findCredentialsByHandle c.store.accounts handle =
        some ⟨user.id, passwordHash⟩ := by
  rcases h with ⟨j, input, passwordHash, hstart, hcreated, hhandle, rfl⟩
  rcases created_returned hrun hcreated with ⟨input', hthread, huserHandle, -, hhash⟩
  have hinput : input' = input := by
    rcases hrun.did hthread with ⟨events, hdid⟩
    exact Request.register.inj (hrun.start_unique hdid.started hstart)
  subst hinput
  rcases created_row hrun hcreated with ⟨hrow, hcredentials⟩
  refine ⟨j, passwordHash, hhash, ?_⟩
  have hrowHandle : services.lower
      (applied (commits τ user.id) (DrizzleUserRepository.userRow user)).handle =
        services.lower handle := by
    rw [← hhandle, ← huserHandle]
    rfl
  exact DrizzleUserRepository.findCredentialsByHandle_of_mem hrow hrowHandle hcredentials rfl

/-! ## Logins -/

/-- The lookup of a login saw what was committed before it. -/
theorem lookup_found (hrun : Run (machine services) (.initial (.blank services.lower)) τ c) {i : ℕ}
    {handle : JsString} {found : Option StoredCredentials}
    (hmem : .returned i (.findCredentialsByHandle handle) found ∈ τ) :
    ∃ τ₁ τ₂ c₁, τ = τ₁ ++ .returned i (.findCredentialsByHandle handle) found :: τ₂ ∧
      Run (machine services) (.initial (.blank services.lower)) τ₁ c₁ ∧
      found = DrizzleUserRepository.findCredentialsByHandle c₁.store.accounts handle := by
  rcases hrun.answered_at hmem with ⟨τ₁, τ₂, c₁, c₂, hsplit, hbefore, hreturns, -⟩
  exact ⟨τ₁, τ₂, c₁, hsplit, hbefore, hreturns.2⟩

/-- What was verified is a registered password. -/
theorem verified_registered
    (hrun : Run (machine services) (.initial (.blank services.lower)) τ c)
    (hideal : IdealHasher services τ) {i : ℕ} {input : LoginInput} {credentials : StoredCredentials}
    (hfound : .returned i (.findCredentialsByHandle input.handle) (some credentials) ∈ τ)
    (hverified : .returned i (.verifyPassword credentials.passwordHash input.password) true ∈ τ) :
    ∃ user, user.id = credentials.userId ∧ RegisteredBefore services τ i input user := by
  rcases lookup_found hrun hfound with ⟨τ₁, τ₂, c₁, hsplit, hbefore, hlookup⟩
  rcases credentials_registered hbefore hlookup.symm with
    ⟨j, registration, user, hstart, hcreated, hid, hhandle, hhash⟩
  have hmatches : services.passwordMatches credentials.passwordHash input.password = true := by
    rcases hrun.answered hverified with ⟨s, s', -, hanswer⟩
    exact hanswer.symm
  have hhash' : .returned j (.hashPassword registration.password) credentials.passwordHash ∈ τ := by
    rw [hsplit]
    exact List.mem_append_left _ hhash
  have hpassword := (hideal j _ _ hhash' input.password).mp hmatches
  exact ⟨user, hid, τ₁, τ₂, some credentials, hsplit, j, registration, credentials.passwordHash,
    hstart, hcreated, hhandle, hpassword.symm⟩

/-- What was registered before the lookup is found, and its password verifies. -/
theorem registered_verifies
    (hrun : Run (machine services) (.initial (.blank services.lower)) τ c)
    (hideal : IdealHasher services τ) {i : ℕ} {input : LoginInput} {user : User}
    (h : RegisteredBefore services τ i input user) :
    ∃ credentials, .returned i (.findCredentialsByHandle input.handle) (some credentials) ∈ τ ∧
      credentials.userId = user.id ∧
      services.passwordMatches credentials.passwordHash input.password = true := by
  rcases h with ⟨τ₁, τ₂, found, rfl, hregistered⟩
  rcases hrun.split with ⟨c₁, hbefore, hafter⟩
  rcases registered_credentials hbefore hregistered with ⟨j, passwordHash, hhash, hfound⟩
  have hlookup : found = some ⟨user.id, passwordHash⟩ := by
    rcases hafter.first with ⟨c₂, hstep, -⟩
    cases hstep with
    | returned _ hreturns => exact hreturns.2.trans hfound
  subst hlookup
  refine ⟨⟨user.id, passwordHash⟩, ?_, rfl, ?_⟩
  · exact List.mem_append_right _ List.mem_cons_self
  · exact (hideal j _ _ (List.mem_append_left _ hhash) input.password).mpr rfl

/-- An execution looks credentials up once. -/
theorem lookup_unique {settings : Settings} {input : LoginInput} {i j k : ℕ}
    {handle handle' : JsString} {found found' : Option StoredCredentials}
    {events : List IdentityEvent} {p : UseCase Response}
    (h : Went i (execute settings (.login input)) events p)
    (hmem : .returned j (.findCredentialsByHandle handle) found ∈ events)
    (hmem' : .returned k (.findCredentialsByHandle handle') found' ∈ events) : found = found' := by
  rcases h.called hmem with ⟨τ₁, τ₂, next, hevents, hbefore⟩
  rcases h.called hmem' with ⟨τ₃, τ₄, next', hevents', hbefore'⟩
  obtain rfl := login_finds hbefore
  obtain rfl := login_finds hbefore'
  rw [hevents] at hevents'
  cases hevents'
  rfl

/-- What a login that returned tokens issued, and for whom. Where the issuer is
`Hs256AccessTokenIssuer`, the token itself names the account. -/
structure IssuedTo (services : Services) (τ : List IdentityEvent) (i : ℕ) (tokens : IssuedTokens)
    (userId : JsString) : Prop where
  returned : tokens.userId = userId
  session : ∃ session firstToken claims, .returned i (.createSession session firstToken) () ∈ τ ∧
    session.userId = userId ∧ .returned i (.issueAccessToken claims) tokens.accessToken ∈ τ ∧
    claims.sessionId = session.id ∧ (payloadRecord claims).get (js "sub") = some (.str userId) ∧
    ∀ (node : Node) (issuer : Hs256AccessTokenIssuer), node.Lawful →
      services.issue = issuer.issue node → ValidDate claims.issuedAt →
      ValidDate claims.expiresAt → Names node tokens.accessToken userId session.id

/-- A login that returned tokens found credentials, verified their password, and issued to
their account. -/
theorem login_returned (hrun : Run (machine services) (.initial (.blank services.lower)) τ c)
    {i : ℕ} {input : LoginInput} {response : Response}
    (hthread : c.threads i = some ⟨.login input, .done response⟩) :
    ∃ credentials tokens, response = .tokens tokens ∧
      .returned i (.findCredentialsByHandle input.handle) (some credentials) ∈ τ ∧
      .returned i (.verifyPassword credentials.passwordHash input.password) true ∈ τ ∧
      IssuedTo services τ i tokens credentials.userId := by
  rcases hrun.did hthread with ⟨events, hdid⟩
  rcases login_done hdid.went.done with
    ⟨credentials, now, id, minted, tokenId, accessToken, rfl, hresponse⟩
  refine ⟨credentials, _, hresponse, hdid.subset (by simp), hdid.subset (by simp), rfl, ?_⟩
  have hissued : .returned i (.issueAccessToken (accessClaims services.toSettings
      (loginSession services.toSettings input credentials id now) now)) accessToken ∈ τ :=
    hdid.subset (by simp)
  -- the session carries the account, and the claims the session
  exact ⟨loginSession services.toSettings input credentials id now,
    mintedRow minted tokenId id now, _, hdid.subset (by simp), rfl, hissued, rfl, rfl,
    issued_names hrun hissued⟩

/-- A login with registered credentials is not rejected. -/
theorem registered_not_rejected
    (hrun : Run (machine services) (.initial (.blank services.lower)) τ c)
    (hideal : IdealHasher services τ) {i : ℕ} {input : LoginInput} {e : Failure}
    (hthread : c.threads i = some ⟨.login input, .failed e⟩) (hthrow : NoThrow τ i) {user : User}
    (hregistered : RegisteredBefore services τ i input user) : False := by
  rcases registered_verifies hrun hideal hregistered with ⟨credentials, hfound, -, hmatches⟩
  rcases hrun.did hthread with ⟨events, hdid⟩
  have hpath : Path i (execute services.toSettings (.login input)) events (.failed e) :=
    hdid.went.quiet fun call e hmem => hthrow call e (hdid.threw.mpr hmem)
  have hlookup := hdid.returned.mp hfound
  rcases (login_rejected hpath).2 with ⟨hash, hevents⟩ | ⟨other, hevents⟩
  · -- the handle was found
    have hnone : .returned i (.findCredentialsByHandle input.handle) none ∈ events := by
      rw [hevents]
      exact List.mem_cons_self
    cases lookup_unique hdid.went hlookup hnone
  · -- and the password verifies
    have hsome : .returned i (.findCredentialsByHandle input.handle) (some other) ∈ events := by
      rw [hevents]
      exact List.mem_cons_self
    cases lookup_unique hdid.went hlookup hsome
    have hverify : .returned i (.verifyPassword credentials.passwordHash input.password) false ∈
        τ := hdid.subset (by rw [hevents]; simp)
    rcases hrun.answered hverify with ⟨s, s', -, hanswer⟩
    rw [hmatches] at hanswer
    cases hanswer

/-- Login is correct, in every run from empty tables: a login that ended, and none of whose
calls failed, returned tokens exactly when its handle, ignoring case, and its password had
been registered before its lookup; and then the account it returns, opens a session for
and issues an access token to is the registered one. -/
theorem login_succeeds_iff_registered (services : Services) {τ : List IdentityEvent}
    {c : IdentityConfig services}
    (hrun : Run (machine services) (.initial (.blank services.lower)) τ c)
    (hideal : IdealHasher services τ) {i : ℕ} {input : LoginInput} {p : UseCase Response}
    (hthread : c.threads i = some ⟨.login input, p⟩) (hcompleted : p.Completed)
    (hthrow : NoThrow τ i) :
    ((∃ tokens, p = .done (.tokens tokens)) ↔ ∃ user, RegisteredBefore services τ i input user) ∧
    ∀ tokens user, p = .done (.tokens tokens) → RegisteredBefore services τ i input user →
      IssuedTo services τ i tokens user.id := by
  constructor
  · constructor
    · -- it verified a registered password
      rintro ⟨tokens, rfl⟩
      rcases login_returned hrun hthread with ⟨credentials, -, -, hfound, hverified, -⟩
      rcases verified_registered hrun hideal hfound hverified with ⟨user, -, hregistered⟩
      exact ⟨user, hregistered⟩
    · -- a registered password is not rejected
      rintro ⟨user, hregistered⟩
      cases p with
      | done response =>
        rcases login_returned hrun hthread with ⟨-, tokens, rfl, -⟩
        exact ⟨tokens, rfl⟩
      | failed e => exact (registered_not_rejected hrun hideal hthread hthrow hregistered).elim
      | call call next => exact hcompleted.elim
  · rintro tokens user rfl hregistered
    rcases registered_verifies hrun hideal hregistered with ⟨credentials, hfound, huser, -⟩
    rcases login_returned hrun hthread with ⟨credentials', tokens', hresponse, hfound', -, hissued⟩
    cases hresponse
    -- both are what the one lookup answered
    rcases hrun.did hthread with ⟨events, hdid⟩
    cases lookup_unique hdid.went (hdid.returned.mp hfound) (hdid.returned.mp hfound')
    rw [← huser]
    exact hissued

/-! ## The login of the sign-up -/

/-- The hashes computed in a history, each with its password. -/
def hashes (τ : List IdentityEvent) : List (JsString × JsString) :=
  τ.filterMap fun
    | .returned _ (.hashPassword password) hash => some (password, hash)
    | _ => none

/-- The sample hasher is ideal about the one hash of the sign-up. -/
theorem sampleSignedUp_ideal : IdealHasher sampleServices sampleSignedUp.2 := by
  have hhashes : hashes sampleSignedUp.2 =
      [(js "correct horse 1", js "hashed:" ++ js "correct horse 1")] := by
    decide +kernel
  intro i password hash hmem candidate
  have hone : (password, hash) ∈ hashes sampleSignedUp.2 := List.mem_filterMap.mpr ⟨_, hmem, rfl⟩
  rw [hhashes] at hone
  cases List.mem_singleton.mp hone
  show decide (js "hashed:" ++ js "correct horse 1" = js "hashed:" ++ candidate) = true ↔ _
  rw [decide_eq_true_eq, List.append_cancel_left_eq]
  exact eq_comm

/-- The login of `sam` after the sign-up succeeds, for account 7. -/
theorem sample_login_succeeds :
    ∃ tokens, sampleSignedUp.1.threads 2 =
      some ⟨.login ⟨js "SAM", js "correct horse 1", none⟩, .done (.tokens tokens)⟩ ∧
      IssuedTo sampleServices sampleSignedUp.2 2 tokens (js "7") := by
  have hthread : ∃ tokens, sampleSignedUp.1.threads 2 =
      some ⟨.login ⟨js "SAM", js "correct horse 1", none⟩, .done (.tokens tokens)⟩ ∧
        tokens.userId = js "7" := ⟨_, rfl, rfl⟩
  rcases hthread with ⟨tokens, hthread, huser⟩
  rcases login_succeeds_iff_registered sampleServices sampleSignedUp_run sampleSignedUp_ideal
    hthread trivial (noThrow_of_isSome sampleSignUp_plays 2) with ⟨hiff, hissued⟩
  rcases hiff.mp ⟨tokens, rfl⟩ with ⟨user, hregistered⟩
  have hto := hissued tokens user rfl hregistered
  have hid : user.id = js "7" := hto.returned.symm.trans huser
  exact ⟨tokens, hthread, hid ▸ hto⟩

end XClone.Identity
