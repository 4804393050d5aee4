import XClone.Identity.Evidence
import XClone.Identity.Executions
import XClone.Identity.RefreshRotation

/-!
# XClone.Identity.SessionTerms — what a login fixes for its session

A login fixes who a session is and when it ends: `OpenedBy` are those terms, and
rotations keep to them however long the chain gets and whatever interleaves. Every pair
of tokens carries them, and from the deadline on no refresh returns a pair or inserts a
token. The clock may read anything, also backwards.
-/

namespace XClone.Identity

open Js Interleaving SessionTables AccessToken

variable {services : Services}

/-! ## Terms -/

variable (services) in
/-- Login `k` opened this session when its clock read `now`. -/
structure OpenedBy (τ : List IdentityEvent) (k : ℕ) (input : LoginInput) (now : Date)
    (session : Session) : Prop where
  started : .start k (.login input) ∈ τ
  read : .returned k .now now ∈ τ
  created : ∃ firstToken, .returned k (.createSession session firstToken) () ∈ τ
  expiresAt : session.expiresAt = now + services.lifetimes.refreshTokenMs
  createdAt : session.createdAt = now
  userAgent : session.userAgent = input.userAgent
  live : session.revokedAt = none

/-- Execution `i` returned this pair. -/
def Returned (c : IdentityConfig services) (i : ℕ) (tokens : IssuedTokens) : Prop :=
  ∃ request, c.threads i = some ⟨request, .done (.tokens tokens)⟩

/-- The answer of execution `i`, once it has one. -/
def answerOf (c : IdentityConfig services) (i : ℕ) : Option Response :=
  match c.threads i with
  | some ⟨_, .done response⟩ => some response
  | _ => none

theorem returned_of_answer {c : IdentityConfig services} {i : ℕ} {tokens : IssuedTokens}
    (h : answerOf c i = some (.tokens tokens)) : Returned c i tokens := by
  unfold answerOf at h
  split at h
  · rename_i request response hthread
    cases h
    exact ⟨request, hthread⟩
  · cases h

/-- The refresh token of a pair belongs to this session. -/
def TokenOf (c : IdentityConfig services) (tokens : IssuedTokens) (sessionId : JsString) : Prop :=
  ∃ row ∈ c.store.tables.refreshTokens.rows,
    row.tokenHash = services.hashRefreshToken tokens.refreshToken ∧ row.sessionId = sessionId

/-- The pair execution `i` returned, whose clock read `now`, keeps to the terms of the
session. -/
structure KeepsTerms (τ : List IdentityEvent) (c : IdentityConfig services) (i : ℕ) (now : Date)
    (tokens : IssuedTokens) (session : Session) : Prop where
  read : .returned i .now now ∈ τ
  token : TokenOf c tokens session.id
  userId : tokens.userId = session.userId
  deadline : tokens.refreshTokenExpiresAt = session.expiresAt
  accessDeadline : tokens.accessTokenExpiresAt = now + services.lifetimes.accessTokenMs
  access : tokens.accessToken = services.issue (accessClaims services.toSettings session now)
  sub : (payloadRecord (accessClaims services.toSettings session now)).get (js "sub") =
    some (.str session.userId)
  sid : (payloadRecord (accessClaims services.toSettings session now)).get (js "sid") =
    some (.str session.id)
  /-- Where the issuer is `Hs256AccessTokenIssuer`, the token itself names them. -/
  names : ∀ (node : Node) (issuer : Hs256AccessTokenIssuer), node.Lawful →
    services.issue = issuer.issue node → ValidDate now →
    ValidDate (now + services.lifetimes.accessTokenMs) →
      Names node tokens.accessToken session.userId session.id

/-! ## Sessions keep their terms -/

section Runs

variable {accounts : UserTables services.lower} {τ : List IdentityEvent}
  {c : IdentityConfig services}

/-- A session that was created has the terms of the login that created it. -/
theorem created_opened (hrun : Run (machine services) (.initial (.noSessions accounts)) τ c)
    {k : ℕ} {session : Session} {firstToken : StoredRefreshToken} {u : Unit}
    (hmem : .returned k (.createSession session firstToken) u ∈ τ) :
    ∃ input now, OpenedBy services τ k input now session := by
  rcases (good_evidence hrun).inv.why hmem with ⟨credentials, ⟨input, hstart, -, -⟩, -, -⟩
  rcases hrun.done_by hmem (i := k) rfl with ⟨request, p, events, -, hdid⟩
  have hrequest : request = .login input := hrun.start_unique hdid.started hstart
  subst hrequest
  rcases hdid.went.called (hdid.returned.mp hmem) with ⟨τ₁, τ₂, next, rfl, hbefore⟩
  rcases login_opens hbefore with ⟨found, id, minted, tokenId, now, rfl, rfl, -⟩
  have hread : .returned k .now now ∈ τ := hdid.subset (by simp)
  exact ⟨input, now, hstart, hread, ⟨firstToken, hmem⟩, rfl, rfl, rfl, rfl⟩

/-- What became of a session that was opened live. -/
theorem SessionTables.SessionLater.terms {session row : Session} (h : SessionLater session row)
    (hlive : session.revokedAt = none) : { row with revokedAt := none } = session := by
  rw [← h.1, ← hlive]

/-- One id, one session. -/
theorem opened_unique (hrun : Run (machine services) (.initial (.noSessions accounts)) τ c)
    {k k' : ℕ} {input input' : LoginInput} {now now' : Date} {session session' : Session}
    (h : OpenedBy services τ k input now session)
    (h' : OpenedBy services τ k' input' now' session') (hid : session.id = session'.id) :
    session = session' := by
  rcases h.created with ⟨firstToken, hcreated⟩
  rcases h'.created with ⟨firstToken', hcreated'⟩
  rcases (created_stays hrun hcreated).1 with ⟨row, hrow, hlater⟩
  rcases (created_stays hrun hcreated').1 with ⟨row', hrow', hlater'⟩
  have hrowid : row.id = row'.id := by
    rw [hlater.id, hlater'.id]
    exact hid
  obtain rfl := c.store.tables.session_unique hrow hrow' hrowid
  rw [← hlater.terms h.live, ← hlater'.terms h'.live]

/-- The session a token was found on was opened by a login. -/
theorem found_opened (hrun : Run (machine services) (.initial (.noSessions accounts)) τ c)
    {i : ℕ} {tokenHash : JsString} {session : Session} {token : StoredRefreshToken}
    (hfound : .returned i (.findByTokenHash tokenHash) (some ⟨session, token⟩) ∈ τ) :
    ∃ k input now opened, OpenedBy services τ k input now opened ∧
      { session with revokedAt := none } = opened := by
  have hrecorded := (good_evidence hrun).inv
  rcases hrecorded.found hfound with ⟨-, -, -, row, hrow, hlater⟩
  rcases hrecorded.opened row hrow with ⟨k, opened, firstToken, hcreated, hopened⟩
  rcases created_opened hrun hcreated with ⟨input, now, hterms⟩
  refine ⟨k, input, now, opened, hterms, ?_⟩
  calc { session with revokedAt := none } = { row with revokedAt := none } := by rw [← hlater.1]
    _ = opened := hopened.terms hterms.live

/-! ## Every pair keeps to them -/

/-- A pair issued on a session, with a refresh token that is stored, keeps to its terms. -/
theorem issued_keeps (hrun : Run (machine services) (.initial (.noSessions accounts)) τ c)
    {i : ℕ} {session : Session} {minted : RefreshToken} {tokenId accessToken : JsString}
    {now : Date} (hread : .returned i .now now ∈ τ)
    (hminted : .returned i .createRefreshToken minted ∈ τ)
    (hstored : ∃ row ∈ c.store.tables.refreshTokens.rows,
      SessionTables.TokenLater (mintedRow minted tokenId session.id now) row)
    (hissued : .returned i (.issueAccessToken (accessClaims services.toSettings session now))
      accessToken ∈ τ) :
    KeepsTerms τ c i now (issuedTokens services.toSettings session accessToken minted.token now)
      session := by
  rcases hstored with ⟨row, hrow, hlater⟩
  rcases hrun.answered hminted with ⟨s, s', -, hhash⟩
  rcases hrun.answered hissued with ⟨t, t', -, hissue⟩
  exact
    { read := hread
      token := ⟨row, hrow, hlater.tokenHash.trans hhash, hlater.sessionId⟩
      userId := rfl
      deadline := rfl
      accessDeadline := rfl
      access := hissue
      sub := rfl
      sid := rfl
      names := issued_names hrun hissued }

/-- Whether the session is revoked is none of its terms. -/
theorem KeepsTerms.unrevoked {i : ℕ} {now : Date} {tokens : IssuedTokens} {session : Session}
    (h : KeepsTerms τ c i now tokens session) :
    KeepsTerms τ c i now tokens { session with revokedAt := none } :=
  ⟨h.read, h.token, h.userId, h.deadline, h.accessDeadline, h.access, h.sub, h.sid, h.names⟩

/-- The pair a login returned. -/
theorem login_keeps (hrun : Run (machine services) (.initial (.noSessions accounts)) τ c)
    {i : ℕ} {input : LoginInput} {tokens : IssuedTokens}
    (hi : c.threads i = some ⟨.login input, .done (.tokens tokens)⟩) :
    ∃ now session, OpenedBy services τ i input now session ∧
      KeepsTerms τ c i now tokens session := by
  rcases hrun.did hi with ⟨events, hdid⟩
  rcases login_done hdid.went.done with
    ⟨credentials, now, id, minted, tokenId, accessToken, rfl, hresponse⟩
  cases hresponse
  have hcreated : .returned i (.createSession
      (loginSession services.toSettings input credentials id now)
      (mintedRow minted tokenId id now)) () ∈ τ := hdid.subset (by simp)
  have hissued : .returned i (.issueAccessToken (accessClaims services.toSettings
      (loginSession services.toSettings input credentials id now) now)) accessToken ∈ τ :=
    hdid.subset (by simp)
  have hminted : .returned i .createRefreshToken minted ∈ τ := hdid.subset (by simp)
  have hread : .returned i .now now ∈ τ := hdid.subset (by simp)
  refine ⟨now, loginSession services.toSettings input credentials id now, ?_, ?_⟩
  · exact ⟨hdid.started, hread, ⟨_, hcreated⟩, rfl, rfl, rfl, rfl⟩
  · exact issued_keeps hrun hread hminted (created_stays hrun hcreated).2 hissued

/-- The pair a refresh returned. -/
theorem refresh_keeps (hrun : Run (machine services) (.initial (.noSessions accounts)) τ c)
    {i : ℕ} {input : RefreshSessionInput} {tokens : IssuedTokens}
    (hi : c.threads i = some ⟨.refresh input, .done (.tokens tokens)⟩) :
    ∃ k login opened session now, OpenedBy services τ k login opened session ∧
      KeepsTerms τ c i now tokens session ∧ now < session.expiresAt := by
  rcases hrun.did hi with ⟨events, hdid⟩
  rcases refresh_done hdid.went.done with
    ⟨session, token, now, minted, id, accessToken, rfl, -, hlive, hresponse⟩
  cases hresponse
  have hfound : .returned i (.findByTokenHash (services.hashRefreshToken input.refreshToken))
      (some ⟨session, token⟩) ∈ τ := hdid.subset (by simp)
  have hrotated : .returned i (.rotate token.id (mintedRow minted id session.id now) now) true ∈ τ :=
    hdid.subset (by simp)
  have hissued : .returned i (.issueAccessToken (accessClaims services.toSettings session now))
      accessToken ∈ τ := hdid.subset (by simp)
  have hminted : .returned i .createRefreshToken minted ∈ τ := hdid.subset (by simp)
  have hread : .returned i .now now ∈ τ := hdid.subset (by simp)
  -- the session it found is the one the login opened, but for a revocation
  rcases found_opened hrun hfound with ⟨k, login, opened, _, hopened, rfl⟩
  have hkeeps := issued_keeps hrun hread hminted (rotated_stays hrun hrotated) hissued
  exact ⟨k, login, opened, _, now, hopened, hkeeps.unrevoked, hlive⟩

/-- Only these two use cases return a pair. -/
theorem returned_by (hrun : Run (machine services) (.initial (.noSessions accounts)) τ c) {i : ℕ}
    {tokens : IssuedTokens} (hi : Returned c i tokens) :
    (∃ input, c.threads i = some ⟨.login input, .done (.tokens tokens)⟩) ∨
      ∃ input, c.threads i = some ⟨.refresh input, .done (.tokens tokens)⟩ := by
  rcases hi with ⟨request, hi⟩
  rcases hrun.did hi with ⟨events, hdid⟩
  have hpath : Path i (execute services.toSettings request) events (.done (.tokens tokens)) :=
    hdid.went.done
  have hkind := execute_kind hpath
  cases request with
  | login input => exact Or.inl ⟨input, hi⟩
  | refresh input => exact Or.inr ⟨input, hi⟩
  | register input | getProfile input | updateProfile input =>
    rcases hkind with ⟨value, heq⟩
    cases heq

theorem returned_keeps (hrun : Run (machine services) (.initial (.noSessions accounts)) τ c)
    {i : ℕ} {tokens : IssuedTokens} (hi : Returned c i tokens) :
    ∃ k login opened session now, OpenedBy services τ k login opened session ∧
      KeepsTerms τ c i now tokens session := by
  rcases returned_by hrun hi with ⟨input, hi⟩ | ⟨input, hi⟩
  · rcases login_keeps hrun hi with ⟨now, session, hopened, hkeeps⟩
    exact ⟨i, input, now, session, now, hopened, hkeeps⟩
  · rcases refresh_keeps hrun hi with ⟨k, login, opened, session, now, hopened, hkeeps, -⟩
    exact ⟨k, login, opened, session, now, hopened, hkeeps⟩

/-- Pairs of one session have its terms in common. -/
theorem pairs_agree (hrun : Run (machine services) (.initial (.noSessions accounts)) τ c)
    {i j : ℕ} {tokens tokens' : IssuedTokens} {sessionId : JsString} (hi : Returned c i tokens)
    (hj : Returned c j tokens') (htoken : TokenOf c tokens sessionId)
    (htoken' : TokenOf c tokens' sessionId) :
    tokens.userId = tokens'.userId ∧
      tokens.refreshTokenExpiresAt = tokens'.refreshTokenExpiresAt := by
  -- a refresh token has one row, so its session is that of the pair
  have same {tokens : IssuedTokens} {id : JsString} (h : TokenOf c tokens id)
      (h' : TokenOf c tokens sessionId) : id = sessionId := by
    rcases h with ⟨row, hrow, hhash, rfl⟩
    rcases h' with ⟨row', hrow', hhash', rfl⟩
    rw [c.store.tables.hash_unique hrow hrow' (hhash.trans hhash'.symm)]
  rcases returned_keeps hrun hi with ⟨_, _, _, session, _, hopened, hkeeps⟩
  rcases returned_keeps hrun hj with ⟨_, _, _, session', _, hopened', hkeeps'⟩
  have hid : session.id = session'.id :=
    (same hkeeps.token htoken).trans (same hkeeps'.token htoken').symm
  obtain rfl := opened_unique hrun hopened hopened' hid
  exact ⟨hkeeps.userId.trans hkeeps'.userId.symm, hkeeps.deadline.trans hkeeps'.deadline.symm⟩

/-! ## The deadline -/

/-- A refresh whose clock reads the deadline of its session, or later, rotates nothing and
returns nothing. -/
theorem expired_refresh (hrun : Run (machine services) (.initial (.noSessions accounts)) τ c)
    {i : ℕ} {input : RefreshSessionInput} (hstart : .start i (.refresh input) ∈ τ)
    {token : StoredRefreshToken} (htoken : token ∈ c.store.tables.refreshTokens.rows)
    (hhash : token.tokenHash = services.hashRefreshToken input.refreshToken) {session : Session}
    (hsession : session ∈ c.store.tables.sessions.rows) (hid : session.id = token.sessionId)
    {now : Date} (hnow : .returned i .now now ∈ τ) (hexpired : session.expiresAt ≤ now) :
    (∀ tokens, ¬ Returned c i tokens) ∧
      ∀ spentTokenId next spentAt answer,
        .returned i (.rotate spentTokenId next spentAt) answer ∉ τ := by
  rcases hrun.done_by hnow (i := i) rfl with ⟨request, p, events, hthread, hdid⟩
  obtain rfl : request = .refresh input := hrun.start_unique hdid.started hstart
  -- the clock is read once, after the token was found
  rcases hdid.went.called (hdid.returned.mp hnow) with ⟨τ₁, τ₂, next, rfl, hbefore⟩
  rcases refresh_reads hbefore with ⟨found, rfl⟩
  have hfound : .returned i (.findByTokenHash (services.hashRefreshToken input.refreshToken))
      (some found) ∈ τ := hdid.subset (by simp)
  -- what it found is the session of the stored token
  have hdeadline : found.session.expiresAt ≤ now := by
    rcases (good_evidence hrun).inv.found hfound with
      ⟨hhash', hid', ⟨row, hrow, hlater⟩, ⟨owner, howner, hlater'⟩⟩
    have hrowhash : row.tokenHash = token.tokenHash := by
      rw [hlater.tokenHash]
      exact hhash'.trans hhash.symm
    obtain rfl := c.store.tables.hash_unique hrow htoken hrowhash
    have hownerid : owner.id = session.id := by
      rw [hlater'.id, hid, hlater.sessionId]
      exact hid'
    obtain rfl := c.store.tables.session_unique howner hsession hownerid
    rw [hlater'.expiresAt] at hexpired
    exact hexpired
  constructor
  · rintro tokens ⟨request, hdone⟩
    rw [hthread] at hdone
    cases hdone
    rcases refresh_done hdid.went.done with
      ⟨session', token', now', minted, id, accessToken, hevents, -, hlive, -⟩
    cases hevents
    exact absurd hdeadline (not_le.mpr hlive)
  · intro spentTokenId next' spentAt answer hrotate
    rcases hdid.went.called (hdid.returned.mp hrotate) with ⟨τ₃, τ₄, next'', hevents, hbefore'⟩
    rcases refresh_rotates hbefore' with ⟨session', token', minted, id, rfl, -, hlive, -, -⟩
    cases hevents
    exact absurd hdeadline (not_le.mpr hlive)

/-- A step that is no rotation and opens no session leaves the refresh tokens alone. -/
theorem tokens_unchanged {c₁ c₂ : IdentityConfig services} {e : IdentityEvent}
    (hstep : Step (machine services) c₁ e c₂)
    (hcreate : ∀ i session firstToken u, e ≠ .returned i (.createSession session firstToken) u)
    (hrotate : ∀ i spentTokenId next spentAt answer,
      e ≠ .returned i (.rotate spentTokenId next spentAt) answer) :
    c₂.store.tables.refreshTokens = c₁.store.tables.refreshTokens := by
  cases hstep with
  | start i request hnone => rfl
  | threw hthread hthrows => rfl
  | @returned i request call rest answer s hthread hreturns =>
    show s.tables.refreshTokens = c₁.store.tables.refreshTokens
    cases wrote hreturns with
    | nothing _ hsame => rw [hsame]
    | created session firstToken _ => exact absurd rfl (hcreate i session firstToken ())
    | rotated spentTokenId next spentAt answer _ =>
      exact absurd rfl (hrotate i spentTokenId next spentAt answer)
    | revoked sessionId revokedAt hrevoke =>
      rw [hrevoke]
      rfl

/-- No step of such a refresh inserts a token. -/
theorem expired_refresh_step (hrun : Run (machine services) (.initial (.noSessions accounts)) τ c)
    {i : ℕ} {input : RefreshSessionInput} (hstart : .start i (.refresh input) ∈ τ)
    (hrotated : ∀ spentTokenId next spentAt answer,
      .returned i (.rotate spentTokenId next spentAt) answer ∉ τ)
    {e : IdentityEvent} (hmem : e ∈ τ) (hthread : e.thread = i) {c₁ c₂ : IdentityConfig services}
    (hstep : Step (machine services) c₁ e c₂) :
    c₂.store.tables.refreshTokens = c₁.store.tables.refreshTokens := by
  subst hthread
  refine tokens_unchanged hstep ?_ ?_
  · -- a refresh opens no session
    rintro j opened firstToken u rfl
    rcases hrun.done_by hmem rfl with ⟨request, p, events, -, hdid⟩
    obtain rfl : request = .refresh input := hrun.start_unique hdid.started hstart
    exact hdid.went.only (refresh_calls input) (hdid.returned.mp hmem)
  · -- and this one rotates nothing
    rintro j spentTokenId next spentAt answer rfl
    exact hrotated spentTokenId next spentAt answer hmem

end Runs

/-- Rotation changes neither who a session is nor when it ends, in any run from a store
without sessions: a stored session has the terms its login opened it with, and keeps
them; a session has one login; every pair, the login's own included, keeps to its terms,
and so do all pairs of one session; and a refresh whose clock reads the deadline or later
returns no pair and inserts no token. -/
theorem rotation_keeps_the_terms (services : Services) {accounts : UserTables services.lower}
    {τ : List IdentityEvent} {c : IdentityConfig services}
    (hrun : Run (machine services) (.initial (.noSessions accounts)) τ c) :
    (∀ row ∈ c.store.tables.sessions.rows, ∃ k input now session,
      OpenedBy services τ k input now session ∧ { row with revokedAt := none } = session) ∧
    (∀ τ' c', Run (machine services) c τ' c' → ∀ row ∈ c.store.tables.sessions.rows,
      ∃ row' ∈ c'.store.tables.sessions.rows,
        row'.id = row.id ∧ row'.userId = row.userId ∧ row'.expiresAt = row.expiresAt ∧
        row'.userAgent = row.userAgent ∧ row'.createdAt = row.createdAt) ∧
    (∀ k k' input input' now now' session session', OpenedBy services τ k input now session →
      OpenedBy services τ k' input' now' session' → session.id = session'.id →
        session = session') ∧
    (∀ k input tokens, c.threads k = some ⟨.login input, .done (.tokens tokens)⟩ →
      ∃ now session, OpenedBy services τ k input now session ∧
        KeepsTerms τ c k now tokens session) ∧
    (∀ i tokens, Returned c i tokens → ∃ k input opened session now,
      OpenedBy services τ k input opened session ∧ KeepsTerms τ c i now tokens session) ∧
    (∀ i j tokens tokens' sessionId, Returned c i tokens → Returned c j tokens' →
      TokenOf c tokens sessionId → TokenOf c tokens' sessionId →
        tokens.userId = tokens'.userId ∧
          tokens.refreshTokenExpiresAt = tokens'.refreshTokenExpiresAt) ∧
    (∀ i input, .start i (.refresh input) ∈ τ → ∀ token ∈ c.store.tables.refreshTokens.rows,
      token.tokenHash = services.hashRefreshToken input.refreshToken →
      ∀ session ∈ c.store.tables.sessions.rows, session.id = token.sessionId →
      ∀ now, .returned i .now now ∈ τ → session.expiresAt ≤ now →
        (∀ tokens, ¬ Returned c i tokens) ∧
        ∀ τ₁ τ₂ e c₁ c₂, τ = τ₁ ++ e :: τ₂ → e.thread = i →
          Run (machine services) (.initial (.noSessions accounts)) τ₁ c₁ →
          Step (machine services) c₁ e c₂ →
            c₂.store.tables.refreshTokens = c₁.store.tables.refreshTokens) := by
  refine ⟨?_, ?_, ?_, ?_, ?_, ?_, ?_⟩
  · -- a row was opened by a login
    intro row hrow
    rcases (good_evidence hrun).inv.opened row hrow with ⟨k, opened, firstToken, hcreated, hlater⟩
    rcases created_opened hrun hcreated with ⟨input, now, hopened⟩
    exact ⟨k, input, now, opened, hopened, hlater.terms hopened.live⟩
  · -- and stays what it is
    intro τ' c' hrun' row hrow
    rcases (run_later hrun').tables.session row hrow with ⟨row', hrow', hlater⟩
    refine ⟨row', hrow', ?_⟩
    rw [← hlater.1]
    exact ⟨rfl, rfl, rfl, rfl, rfl⟩
  · intro k k' input input' now now' session session' hopened hopened' hid
    exact opened_unique hrun hopened hopened' hid
  · intro k input tokens hk
    exact login_keeps hrun hk
  · intro i tokens hi
    exact returned_keeps hrun hi
  · intro i j tokens tokens' sessionId hi hj htoken htoken'
    exact pairs_agree hrun hi hj htoken htoken'
  · -- a refresh at the deadline
    intro i input hstart token htoken hhash session hsession hid now hnow hexpired
    rcases expired_refresh hrun hstart htoken hhash hsession hid hnow hexpired with
      ⟨hreturned, hrotated⟩
    refine ⟨hreturned, ?_⟩
    rintro τ₁ τ₂ e c₁ c₂ rfl hthread hbefore hstep
    have hmem : e ∈ τ₁ ++ e :: τ₂ := List.mem_append_right _ List.mem_cons_self
    exact expired_refresh_step hrun hstart hrotated hmem hthread hstep

/-- The sample login and its refresh keep to the terms of session 9. -/
theorem sample_pairs_keep_the_terms :
    ∃ tokens tokens', Returned sampleRefreshed.1 0 tokens ∧ Returned sampleRefreshed.1 1 tokens' ∧
      tokens.userId = tokens'.userId ∧
      tokens.refreshTokenExpiresAt = tokens'.refreshTokenExpiresAt := by
  have hrun : Run (machine sampleServices) sampleStart sampleRefreshed.2 sampleRefreshed.1 :=
    run_of_isSome sampleRefresh_plays
  have hlogin : ∃ tokens, Returned sampleRefreshed.1 0 tokens ∧
      TokenOf sampleRefreshed.1 tokens (js "9") := by
    refine ⟨_, ⟨_, rfl⟩, ?_⟩
    unfold TokenOf
    decide +kernel
  have hrefresh : ∃ tokens, Returned sampleRefreshed.1 1 tokens ∧
      TokenOf sampleRefreshed.1 tokens (js "9") := by
    refine ⟨_, ⟨_, rfl⟩, ?_⟩
    unfold TokenOf
    decide +kernel
  rcases hlogin with ⟨tokens, hi, htoken⟩
  rcases hrefresh with ⟨tokens', hj, htoken'⟩
  have hterms := (rotation_keeps_the_terms sampleServices hrun).2.2.2.2.2.1
  exact ⟨tokens, tokens', hi, hj, hterms 0 1 tokens tokens' (js "9") hi hj htoken htoken'⟩

end XClone.Identity
