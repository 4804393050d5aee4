import XClone.Gateway.OwnProfile
import XClone.Identity.SessionTerms

/-!
# XClone.Gateway.SessionLifetime — how long a session gives access

The deadline of a session bounds when its access tokens are issued, not when they
expire: each lives its full lifetime from the clock reading it was issued at. So a
refresh in the last minutes of a session gives access past its end, for less than one
access token's life, and no longer.
-/

namespace XClone.Gateway

open Js Interleaving Identity AccessToken

/-- `loadConfig`'s `tokenLifetimes`: fifteen minutes and thirty days. -/
def tokenLifetimes : TokenLifetimes := ⟨15 * 60 * 1000, 30 * 24 * 60 * 60 * 1000⟩

variable {d : Deployment}

/-- What Identity's clock read were dates, and still are when the access token issued
then expires. -/
def ReadsDates (d : Deployment) (τ : List IdentityEvent) : Prop :=
  ∀ i now, .returned i .now now ∈ τ →
    ValidDate now ∧ ValidDate (now + d.services.lifetimes.accessTokenMs)

/-- The Gateway refuses this access token at the instant `t`. -/
def Refuses (d : Deployment) (token : JsString) (t : Date) : Prop :=
  d.guard.verifier.verify d.node t token = .error .invalidAccessToken

/-- An access token issued at `now` is refused from its last whole second on. -/
theorem refuses_issued {session : Session} {now : Date} (hnow : ValidDate now)
    (hexpiry : ValidDate (now + d.services.lifetimes.accessTokenMs)) (t : Date) :
    Refuses d (d.services.issue (accessClaims d.services.toSettings session now)) t ↔
      expirySecond (accessClaims d.services.toSettings session now) ≤ t := by
  have hverify := @verify_issued d.node d.lawful ⟨d.secret⟩ d.guard.verifier rfl
    (accessClaims d.services.toSettings session now) hnow hexpiry t
  unfold Refuses
  rw [d.issues, hverify]
  split
  · rename_i hexpired
    exact ⟨fun _ => hexpired, fun _ => rfl⟩
  · rename_i hlive
    exact ⟨fun hno => (nomatch hno), fun hexpired => absurd hexpired hlive⟩

/-- With the configured lifetimes a pair is issued before its session's deadline, and a
login's pair an access token's life before it. -/
theorem issued_before_deadline (hlifetimes : d.services.lifetimes = tokenLifetimes)
    {accounts : UserTables d.services.lower} {τ : List IdentityEvent}
    {c : IdentityConfig d.services}
    (hrun : Run (machine d.services) (.initial (.noSessions accounts)) τ c) {i : ℕ}
    {tokens : IssuedTokens} (hi : Returned c i tokens) :
    ∃ k login opened session now, OpenedBy d.services τ k login opened session ∧
      KeepsTerms τ c i now tokens session ∧ now < session.expiresAt ∧
      ((∃ input, .start i (.login input) ∈ τ) →
        now + tokenLifetimes.accessTokenMs ≤ session.expiresAt) := by
  rcases returned_by hrun hi with ⟨input, hi⟩ | ⟨input, hi⟩
  · -- a login fixes the deadline itself
    rcases login_keeps hrun hi with ⟨now, session, hopened, hkeeps⟩
    have hdeadline : session.expiresAt = now + tokenLifetimes.refreshTokenMs := by
      rw [hopened.expiresAt, hlifetimes]
    have hends : now < session.expiresAt ∧
        now + tokenLifetimes.accessTokenMs ≤ session.expiresAt := by
      rw [hdeadline]
      constructor
      · exact lt_add_of_pos_right now (by decide)
      · exact add_le_add_right (by decide) now
    exact ⟨i, input, now, session, now, hopened, hkeeps, hends.1, fun _ => hends.2⟩
  · rcases refresh_keeps hrun hi with ⟨k, login, opened, session, now, hopened, hkeeps, hlive⟩
    refine ⟨k, login, opened, session, now, hopened, hkeeps, hlive, ?_⟩
    rintro ⟨other, hstart⟩
    rcases hrun.did hi with ⟨events, hdid⟩
    cases hrun.start_unique hdid.started hstart

/-- The deadline of a session bounds the issue of its access tokens: with the configured
lifetimes, a pair is issued before the deadline, its access token expires by the deadline
exactly when it was issued fifteen minutes before it, as at a login, and is refused at
every instant from the deadline on exactly when its last whole second is by then; and
fifteen minutes past the deadline every access token of the session is refused. -/
theorem access_ends_after_the_session (d : Deployment)
    (hlifetimes : d.services.lifetimes = tokenLifetimes) {accounts : UserTables d.services.lower}
    {τ : List IdentityEvent} {c : IdentityConfig d.services}
    (hrun : Run (machine d.services) (.initial (.noSessions accounts)) τ c)
    (hdates : ReadsDates d τ) {i : ℕ} {tokens : IssuedTokens} (hi : Returned c i tokens) :
    ∃ k login opened session now, OpenedBy d.services τ k login opened session ∧
      KeepsTerms τ c i now tokens session ∧ now < session.expiresAt ∧
      (tokens.accessTokenExpiresAt ≤ tokens.refreshTokenExpiresAt ↔
        now ≤ session.expiresAt - tokenLifetimes.accessTokenMs) ∧
      ((∃ input, .start i (.login input) ∈ τ) →
        now ≤ session.expiresAt - tokenLifetimes.accessTokenMs) ∧
      ((∀ t, session.expiresAt ≤ t → Refuses d tokens.accessToken t) ↔
        (now + tokenLifetimes.accessTokenMs) / 1000 * 1000 ≤ session.expiresAt) ∧
      ∀ t, session.expiresAt + tokenLifetimes.accessTokenMs ≤ t →
        Refuses d tokens.accessToken t := by
  rcases issued_before_deadline hlifetimes hrun hi with
    ⟨k, login, opened, session, now, hopened, hkeeps, hlive, hlogin⟩
  rcases hdates i now hkeeps.read with ⟨hnow, hexpiry⟩
  have hrefuses (t : Date) : Refuses d tokens.accessToken t ↔
      (now + tokenLifetimes.accessTokenMs) / 1000 * 1000 ≤ t := by
    have hissued := @refuses_issued d session now hnow hexpiry t
    rw [← hkeeps.access, expirySecond, accessClaims, hlifetimes] at hissued
    exact hissued
  have hround : (now + tokenLifetimes.accessTokenMs) / 1000 * 1000 ≤
      now + tokenLifetimes.accessTokenMs := Int.ediv_mul_le _ (by decide)
  refine ⟨k, login, opened, session, now, hopened, hkeeps, hlive, ?_, ?_, ?_, ?_⟩
  · -- the two deadlines of the pair
    rw [hkeeps.accessDeadline, hkeeps.deadline, hlifetimes]
    exact le_sub_iff_add_le.symm
  · intro hstart
    exact le_sub_iff_add_le.mpr (hlogin hstart)
  · constructor
    · intro hall
      exact (hrefuses _).mp (hall session.expiresAt le_rfl)
    · intro hends t ht
      exact (hrefuses t).mpr (hends.trans ht)
  · -- no token outlives the session by more than its own life
    intro t ht
    have hbefore : now + tokenLifetimes.accessTokenMs ≤
        session.expiresAt + tokenLifetimes.accessTokenMs := by
      exact add_le_add_left (le_of_lt hlive) _
    exact (hrefuses t).mpr (hround.trans (hbefore.trans ht))

/-! ## A refresh in the last second -/

/-- What the access token of the late refresh signs. -/
def lateSigningInput : JsString :=
  js ("eyJhbGciOiJIUzI1NiIsInR5cCI6IkpXVCJ9." ++
    "eyJzdWIiOiI3Iiwic2lkIjoiOSIsImlhdCI6MTc2OTgxNzU5OSwiZXhwIjoxNzY5ODE4NDk5fQ")

/-- HMAC-SHA256 of the two signing inputs under `sampleSecret`. -/
def lateMac (key data : Bytes) : Bytes :=
  if key = utf8 AccessToken.sampleSecret ∧ data = utf8 lateSigningInput then
    [2, 153, 166, 39, 217, 80, 174, 243, 113, 175, 199, 195, 118, 35, 97, 108,
      58, 33, 90, 248, 128, 245, 60, 217, 110, 103, 89, 194, 67, 180, 93, 115]
  else sampleMac key data

/-- Both services with the sample secret. -/
def lateDeployment : Deployment where
  node := Reference.node lateMac
  lawful := Reference.node_lawful lateMac
  secret := sampleKey
  toLowerCase := asciiLower
  services :=
    { sampleServices with
      issue := (Hs256AccessTokenIssuer.mk sampleKey).issue (Reference.node lateMac) }
  issues := rfl

/-- The sample login, and a refresh one second before its session ends. -/
def lateRefresh : List Identity.Move :=
  sampleLogin ++ [.start 1 (.refresh sampleRefreshInput), .answer 1 .none,
    .answer 1 (.at 1769817599123), .answer 1 (.text (js "opaque-2")), .answer 1 (.id 11),
    .answer 1 .none, .answer 1 .none]

def lateStart : IdentityConfig lateDeployment.services := .initial (.noSessions sampleAccounts)

theorem lateRefresh_plays :
    (simulate lateDeployment.services lateStart lateRefresh).isSome = true := by
  decide +kernel

/-- The late refresh has been served. -/
def lateRefreshed : IdentityConfig lateDeployment.services × List IdentityEvent :=
  (simulate lateDeployment.services lateStart lateRefresh).get lateRefresh_plays

/-- The pair it returned. -/
def lateTokens : IssuedTokens where
  userId := js "7"
  accessToken := dotted lateSigningInput (js "ApmmJ9lQrvNxr8fDdiNhbDohWviA9TzZbmdZwkO0XXM")
  accessTokenExpiresAt := 1769818499123
  refreshToken := js "opaque-2"
  refreshTokenExpiresAt := 1769817600123

theorem late_run : Run (machine lateDeployment.services) (.initial (.noSessions sampleAccounts))
    lateRefreshed.2 lateRefreshed.1 :=
  run_of_isSome lateRefresh_plays

theorem late_returned : Returned lateRefreshed.1 1 lateTokens := by
  apply returned_of_answer
  decide +kernel

/-- The readings of Identity's clock. -/
def readings (τ : List IdentityEvent) : List Date :=
  τ.filterMap fun
    | .returned _ .now now => some now
    | _ => none

theorem readsDates_of_readings {τ : List IdentityEvent}
    (h : ∀ now ∈ readings τ, ValidDate now ∧
      ValidDate (now + d.services.lifetimes.accessTokenMs)) : ReadsDates d τ := by
  intro i now hmem
  exact h now (List.mem_filterMap.mpr ⟨_, hmem, rfl⟩)

theorem late_dates : ReadsDates lateDeployment lateRefreshed.2 := by
  apply readsDates_of_readings
  decide +kernel

/-- Fifteen minutes past the end of the sample session its last access token is refused. -/
theorem late_token_is_refused_in_the_end :
    ∃ k login opened session now,
      OpenedBy lateDeployment.services lateRefreshed.2 k login opened session ∧
      KeepsTerms lateRefreshed.2 lateRefreshed.1 1 now lateTokens session ∧
      Refuses lateDeployment lateTokens.accessToken
        (session.expiresAt + tokenLifetimes.accessTokenMs) := by
  rcases access_ends_after_the_session lateDeployment rfl late_run late_dates late_returned with
    ⟨k, login, opened, session, now, hopened, hkeeps, -, -, -, -, hrefused⟩
  exact ⟨k, login, opened, session, now, hopened, hkeeps, hrefused _ le_rfl⟩

/-- The access token of the late pair expires after its refresh token, and the Gateway
accepts it when the session has ended. -/
theorem late_token_outlives_its_session :
    Run (machine lateDeployment.services) (.initial (.noSessions sampleAccounts))
      lateRefreshed.2 lateRefreshed.1 ∧
    lateDeployment.services.lifetimes = tokenLifetimes ∧
    Returned lateRefreshed.1 1 lateTokens ∧
    lateTokens.refreshTokenExpiresAt < lateTokens.accessTokenExpiresAt ∧
    lateDeployment.guard.verifier.verify lateDeployment.node lateTokens.refreshTokenExpiresAt
      lateTokens.accessToken = .ok ⟨js "7", js "9", some 1769818499000⟩ := by
  refine ⟨late_run, rfl, late_returned, by decide, ?_⟩
  decide +kernel

end XClone.Gateway
