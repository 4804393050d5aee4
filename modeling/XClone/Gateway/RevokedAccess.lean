import XClone.Gateway.Contract
import XClone.Gateway.PublishedDeadline
import XClone.Identity.Reasons

/-!
# XClone.Gateway.RevokedAccess — what a revocation takes away, and when

Nothing can revoke an access token before it expires. A revocation ends the session in
Identity at once: no rotation of it succeeds from then on. The Gateway is not told, and
accepts each access token of the session to its last second. What bounds the access that
is left is when the tokens were issued: a refresh that is slow may issue one after the
revocation, but not at a clock reading taken after it. So one access token's life after
the last reading that precedes the revocation, the session gives no access any more.
-/

namespace XClone.Identity

open Js Interleaving SessionTables

/-! ## After a revocation -/

variable {services : Services} {accounts : UserTables services.lower} {τ τ₁ τ₂ : List IdentityEvent}
  {c c' : IdentityConfig services} {sessionId : JsString}

/-- No token of a revoked session is rotated. -/
theorem rotates_elsewhere (h : Run (machine services) c τ c')
    (hrevoked : c.store.tables.Revoked sessionId) {i : ℕ} {spentTokenId : JsString}
    {next : StoredRefreshToken} {spentAt : Date}
    (hmem : .returned i (.rotate spentTokenId next spentAt) true ∈ τ) :
    next.sessionId ≠ sessionId := by
  rcases h.answered_at hmem with ⟨before, after, c₁, c₂, -, hbefore, hreturns, -⟩
  rcases DrizzleSessionRepository.rotate_cases hreturns.2 with ⟨-, hrotated⟩ | ⟨hno, -⟩
  · rintro rfl
    exact hrotated.not_revoked ((run_later hbefore).tables.revoked hrevoked)
  · cases hno

/-- No session is opened under its id. -/
theorem opens_elsewhere (h : Run (machine services) c τ c')
    (hrevoked : c.store.tables.Revoked sessionId) {i : ℕ} {session : Session}
    {firstToken : StoredRefreshToken} {u : Unit}
    (hmem : .returned i (.createSession session firstToken) u ∈ τ) : session.id ≠ sessionId := by
  rcases h.answered_at hmem with ⟨before, after, c₁, c₂, -, hbefore, hreturns, -⟩
  have hfresh := (DrizzleSessionRepository.create_spec hreturns.2).1
  rcases (run_later hbefore).tables.revoked hrevoked with ⟨row, hrow, hid, -⟩
  rintro rfl
  exact fresh_session hfresh hrow hid

variable {i : ℕ} {revokedAt : Date}

/-- A revocation is of a session that is stored, and leaves it revoked. -/
theorem revoked_at (hrun : Run (machine services) (.initial (.noSessions accounts))
      (τ₁ ++ .returned i (.revoke sessionId revokedAt) () :: τ₂) c) :
    ∃ c₁ c₂, Run (machine services) (.initial (.noSessions accounts)) τ₁ c₁ ∧
      Run (machine services) c₂ τ₂ c ∧ c₂.store.tables.Revoked sessionId := by
  rw [List.append_cons] at hrun
  rcases hrun.split with ⟨c₂, hrevoked, hafter⟩
  rcases hrevoked.last with ⟨c₁, hbefore, hstep⟩
  refine ⟨c₁, c₂, hbefore, hafter, ?_⟩
  -- the session was found by the refresh that revokes it
  have hmem : .returned i (.revoke sessionId revokedAt) () ∈
      τ₁ ++ [.returned i (.revoke sessionId revokedAt) ()] :=
    List.mem_append_right _ (List.mem_singleton_self _)
  rcases answered_why hrevoked hmem with ⟨input, session, token, hpresented, rfl, -⟩
  have hfound : .returned i (.findByTokenHash (services.hashRefreshToken input.refreshToken))
      (some ⟨session, token⟩) ∈ τ₁ := by
    rcases List.mem_append.mp hpresented.2 with hmem | hmem
    · exact hmem
    · cases List.mem_singleton.mp hmem
  rcases found_stored hbefore hfound with ⟨-, -, -, row, hrow, hlater⟩
  have hreturns : returns services (.revoke session.id revokedAt) c₁.store () c₂.store := by
    cases hstep with
    | returned _ hreturns => exact hreturns
  rcases hreturns with ⟨-, htables⟩
  rw [htables, ← hlater.id]
  exact DrizzleSessionRepository.revoke_revoked hrow revokedAt

/-- The access tokens of a session are those of clock readings that precede its revocation,
also where they are issued later. -/
theorem issued_before_revoked (hrun : Run (machine services) (.initial (.noSessions accounts))
      (τ₁ ++ .returned i (.revoke sessionId revokedAt) () :: τ₂) c) {j : ℕ}
    {claims : AccessToken.AccessTokenClaims} {token : JsString}
    (hissued : .returned j (.issueAccessToken claims) token ∈
      τ₁ ++ .returned i (.revoke sessionId revokedAt) () :: τ₂)
    (hsession : claims.sessionId = sessionId) : .returned j .now claims.issuedAt ∈ τ₁ := by
  rcases revoked_at hrun with ⟨c₁, c₂, hbefore, hafter, hrevoked⟩
  rcases hrun.done_by hissued rfl with ⟨request, p, events, -, hdid⟩
  rcases hdid.went.called (hdid.returned.mp hissued) with ⟨before, after, next, hevents, hpath⟩
  have hown : ∀ e ∈ before, e ∈ τ₁ ++ .returned i (.revoke sessionId revokedAt) () :: τ₂ := by
    intro e he
    apply hdid.subset
    rw [hevents]
    exact List.mem_append_left _ he
  rcases issues_access hpath with ⟨session, now, rfl, -, hopened⟩
  cases hopened with
  | login hcreated hnow =>
    -- a login opened the session, before it was revoked
    rcases List.mem_append.mp (hown _ hcreated) with hearly | hlate
    · rcases created_opened hbefore hearly with ⟨input, read, hterms⟩
      have hread : read = now := hterms.createdAt.symm.trans hnow
      rw [← hread]
      exact hterms.read
    · rcases List.mem_cons.mp hlate with heq | hlate
      · cases heq
      · exact absurd hsession (opens_elsewhere hafter hrevoked hlate)
  | refresh _ hrotated hid =>
    -- a refresh rotated one of its tokens, before it was revoked
    rcases List.mem_append.mp (hown _ hrotated) with hearly | hlate
    · rcases answered_why hbefore hearly with ⟨_, _, _, -, -, hread, -⟩
      exact hread
    · rcases List.mem_cons.mp hlate with heq | hlate
      · cases heq
      · exact absurd (hid.trans hsession) (rotates_elsewhere hafter hrevoked hlate)

end XClone.Identity

namespace XClone.Gateway

open Js Interleaving Identity AccessToken

variable {d : Deployment} {accounts : UserTables d.services.lower} {s : Service d}
  {b : Backend d}

/-! ## What the Gateway goes on accepting -/

/-- An issued access token is accepted to its last second, whatever has become of its
session. -/
theorem Backend.Traced.issued_refused (h : b.Traced accounts) {j : ℕ} {claims : AccessTokenClaims}
    {token : JsString} (hissued : .returned j (.issueAccessToken claims) token ∈ b.history)
    (t : Date) : Refuses d token t ↔ expirySecond claims ≤ t := by
  rcases h.recorded.why hissued with ⟨session, now, rfl, hnow, -⟩
  rcases h.run.answered hissued with ⟨store, store', -, hissue⟩
  rcases h.dates j now hnow with ⟨hvalid, hexpiry⟩
  rw [show token = _ from hissue]
  exact refuses_issued hvalid hexpiry t

/-- Whom the guard lets in it knows from a token that was issued to them, on that session. -/
theorem Backend.Traced.let_in (h : b.Traced accounts) {token : JsString} {now : Date}
    {principal : VerifiedAccessToken}
    (hforged : NotForged d.node d.secret (Backend.Signed d.node b.history) token)
    (hverify : (Hs256AccessTokenVerifier.mk d.secret).verify d.node now token = .ok principal) :
    ∃ j claims, .returned j (.issueAccessToken claims) token ∈ b.history ∧
      claims.userId = principal.userId ∧ claims.sessionId = principal.sessionId ∧
      now < expirySecond claims := by
  rcases h.accepted_issued hforged hverify with ⟨j, claims, hissued, huser, hlive⟩
  refine ⟨j, claims, hissued, huser, ?_, hlive⟩
  rcases h.recorded.why hissued with ⟨session, read, rfl, hread, -⟩
  rcases h.run.answered hissued with ⟨store, store', -, hissue⟩
  rcases h.dates j read hread with ⟨hvalid, hexpiry⟩
  have hverified := @verify_issued d.node d.lawful ⟨d.secret⟩ ⟨d.secret⟩ rfl
    (accessClaims d.services.toSettings session read) hvalid hexpiry now
  have htoken : token = (Hs256AccessTokenIssuer.mk d.secret).issue d.node
      (accessClaims d.services.toSettings session read) := by
    rw [← d.issues]
    exact hissue
  rw [← htoken, hverify] at hverified
  split at hverified
  · cases hverified
  · cases hverified
    rfl

/-- A revocation takes hold. In any run of both services in which session `sessionId` is
revoked: no rotation of it succeeds from then on; its access tokens are those of clock
readings that precede the revocation, also the ones issued after it, and the Gateway
accepts each to its last second; so once the life of one access token has passed since
those readings, no request is let in on that session. -/
theorem revocation_takes_hold (hreaches : Service.Reaches (.initial accounts) s)
    {before after : List IdentityEvent} {i : ℕ} {sessionId : JsString} {revokedAt : Date}
    (hrevoked : s.backend.history = before ++ .returned i (.revoke sessionId revokedAt) () :: after) :
    (∀ j spentTokenId next spentAt,
      .returned j (.rotate spentTokenId next spentAt) true ∈ after → next.sessionId ≠ sessionId) ∧
    (∀ j claims token, .returned j (.issueAccessToken claims) token ∈ s.backend.history →
      claims.sessionId = sessionId → .returned j .now claims.issuedAt ∈ before ∧
        ∀ t, Accepts d token t ↔ t < expirySecond claims) ∧
    ∀ last, (∀ j now, .returned j .now now ∈ before → now ≤ last) →
      ∀ k request now, Service.Assumed s (.receive k request now) →
        last + d.services.lifetimes.accessTokenMs ≤ now →
        ∀ principal, d.guard.canActivate now request.authorization = .ok principal →
          principal.sessionId ≠ sessionId := by
  have htraced := hreaches.traced.backend
  have hrun := htraced.run
  rw [hrevoked] at hrun
  refine ⟨?_, ?_, ?_⟩
  · intro j spentTokenId next spentAt hrotated
    rcases revoked_at hrun with ⟨c₁, c₂, -, hafter, hended⟩
    exact rotates_elsewhere hafter hended hrotated
  · intro j claims token hissued hsession
    constructor
    · rw [hrevoked] at hissued
      exact issued_before_revoked hrun hissued hsession
    · intro t
      rw [accepts_iff, htraced.issued_refused hissued]
      exact not_le
  · intro last hlast k request now hassumed hlate principal hguard hsession
    rcases AccessTokenGuard.canActivate_ok hguard with ⟨token, hbearer, hverify⟩
    have hunforged := hassumed.unforged k request now token rfl hbearer
    rcases htraced.let_in hunforged hverify with ⟨j, claims, hissued, -, hid, hlive⟩
    have hmem := hissued
    rw [hrevoked] at hmem
    have hread := issued_before_revoked hrun hmem (hid.trans hsession)
    rcases htraced.recorded.token_origin hissued with ⟨-, -, hexpires, -⟩
    have hdead : expirySecond claims ≤ now := by
      calc expirySecond claims ≤ claims.expiresAt := Int.ediv_mul_le _ (by decide)
        _ = claims.issuedAt + d.services.lifetimes.accessTokenMs := hexpires
        _ ≤ last + d.services.lifetimes.accessTokenMs := add_le_add_left (hlast j _ hread) _
        _ ≤ now := hlate
    exact absurd hlive (not_lt.mpr hdead)

/-- The sessions a history revokes and the claims it issues access tokens for, in order. -/
def accessMarks (τ : List IdentityEvent) : List (JsString ⊕ AccessTokenClaims) :=
  τ.filterMap fun
    | .returned _ (.revoke sessionId _) _ => some (.inl sessionId)
    | .returned _ (.issueAccessToken claims) _ => some (.inr claims)
    | _ => none

/-- A token that is issued after a session is revoked. -/
theorem issued_after_revoked {τ : List IdentityEvent} {sessionId : JsString}
    {first claims : AccessTokenClaims}
    (h : accessMarks τ = [.inr first, .inl sessionId, .inr claims]) :
    ∃ before after i revokedAt j token,
      τ = before ++ .returned i (.revoke sessionId revokedAt) () :: after ∧
        .returned j (.issueAccessToken claims) token ∈ after := by
  rcases List.filterMap_eq_cons_iff.mp h with ⟨l₁, e₁, l₂, rfl, -, -, hrest⟩
  rcases List.filterMap_eq_cons_iff.mp hrest with ⟨l₃, e₂, l₄, rfl, -, hrevoke, hlast⟩
  have hmem : .inr claims ∈ accessMarks l₄ := by
    rw [show accessMarks l₄ = _ from hlast]
    exact List.mem_singleton_self _
  rcases List.mem_filterMap.mp hmem with ⟨e₃, he₃, hissue⟩
  split at hrevoke <;> cases hrevoke
  rename_i i revokedAt answer
  cases answer
  split at hissue <;> cases hissue
  rename_i j token
  exact ⟨l₁ ++ e₁ :: l₃, l₄, i, revokedAt, j, token, by simp, he₃⟩

/-- The sample refresh token, presented by the request of exchange `k`. -/
def sampleRefreshMove (k : ℕ) : Service.Move :=
  .receive k
    { route := .refresh, authorization := none, userAgent := none
      body := some (.obj [(js "refreshToken", .str (js "opaque-1"))]) } 1767225600000

/-- `sam` logs in, and the refresh token is presented twice. The first refresh rotates it,
and issues its access token when the second has revoked the session. -/
def sampleRevocation : List Service.Move :=
  [.receive 0
      { route := .login, authorization := none, userAgent := none
        body := some (.obj [(js "handle", .str (js "SAM")),
          (js "password", .str (js "correct horse 1"))]) } 1767225600000,
    .deliver 0 0, .answer 0 .none, .answer 0 .none, .answer 0 (.at 1767225600123),
    .answer 0 (.id 9), .answer 0 (.text (js "opaque-1")), .answer 0 (.id 10), .answer 0 .none,
    .answer 0 .none, .complete 0,
    sampleRefreshMove 1, .deliver 1 1, .answer 1 .none, .answer 1 (.at 1767225700000),
    .answer 1 (.text (js "opaque-2")), .answer 1 (.id 11), .answer 1 .none,
    sampleRefreshMove 2, .deliver 2 2, .answer 2 .none, .answer 2 (.at 1767225700500),
    .answer 2 .none, .complete 2,
    .answer 1 .none, .complete 1]

theorem sampleRevocation_plays :
    (Schedule.play Service.attempt Service.copied (@Service.initial sampleDeployment sampleAccounts)
      sampleRevocation).isSome = true := by
  decide +kernel

/-- The session is revoked, and all three requests have been answered. -/
def sampleRevoked : Service sampleDeployment := (Schedule.play _ _ _ _).get sampleRevocation_plays

/-- What the slow refresh issued its access token for. -/
def sampleLateClaims : AccessTokenClaims where
  userId := js "7"
  sessionId := js "9"
  issuedAt := 1767225700000
  expiresAt := 1767226600000

/-- The token issued after the revocation is accepted for fifteen minutes from its clock
reading; half a second later nothing is accepted on the session. -/
theorem late_token_runs_out : ∃ before after i revokedAt j token,
    sampleRevoked.backend.history =
        before ++ .returned i (.revoke (js "9") revokedAt) () :: after ∧
      .returned j (.issueAccessToken sampleLateClaims) token ∈ after ∧
      (∀ t, Accepts sampleDeployment token t ↔ t < 1767226600000) ∧
      ∀ k request, Service.Assumed sampleRevoked (.receive k request 1767226600500) →
        ∀ principal, sampleDeployment.guard.canActivate 1767226600500 request.authorization =
          .ok principal → principal.sessionId ≠ js "9" := by
  have hreaches : Service.Reaches (@Service.initial sampleDeployment sampleAccounts)
      sampleRevoked :=
    Service.play_reaches (Option.some_get sampleRevocation_plays).symm
  have hmarks : accessMarks sampleRevoked.backend.history =
      [.inr ⟨js "7", js "9", 1767225600123, 1767226500123⟩, .inl (js "9"),
        .inr sampleLateClaims] := by
    decide +kernel
  have hreadings : ∀ now ∈ readings sampleRevoked.backend.history, now ≤ 1767225700500 := by
    decide +kernel
  rcases issued_after_revoked hmarks with ⟨before, after, i, revokedAt, j, token, hsplit, hissued⟩
  have hlate : .returned j (.issueAccessToken sampleLateClaims) token ∈
      sampleRevoked.backend.history := by
    rw [hsplit]
    exact List.mem_append_right _ (List.mem_cons_of_mem _ hissued)
  have hlast : ∀ j now, .returned j .now now ∈ before → now ≤ 1767225700500 := by
    intro j now hmem
    apply hreadings
    rw [hsplit]
    exact List.mem_filterMap.mpr ⟨_, List.mem_append_left _ hmem, rfl⟩
  rcases revocation_takes_hold hreaches hsplit with ⟨-, htokens, hlet⟩
  refine ⟨before, after, i, revokedAt, j, token, hsplit, hissued, ?_, ?_⟩
  · exact (htokens j _ token hlate rfl).2
  · intro k request hassumed
    exact hlet _ hlast k request _ hassumed (by decide)

end XClone.Gateway
