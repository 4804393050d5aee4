import XClone.Gateway.SessionLifetime

/-!
# XClone.Gateway.PublishedDeadline — when the access token stops being accepted

The response of a login or a refresh names the instant its access token stops being
accepted. It names it in milliseconds, and the token itself in whole seconds, rounded
down: in the last fraction of a second the Gateway refuses a token that the response says
is still good (`published_deadline_iff`).
-/

namespace XClone.Gateway

open Js Interleaving Identity AccessToken

variable {d : Deployment}

/-- The Gateway accepts this access token at the instant `t`. -/
def Accepts (d : Deployment) (token : JsString) (t : Date) : Prop :=
  ∃ verified, d.guard.verifier.verify d.node t token = .ok verified

/-- A token is accepted or refused, with the one error. -/
theorem accepts_iff {token : JsString} {t : Date} : Accepts d token t ↔ ¬ Refuses d token t := by
  unfold Accepts Refuses
  cases hverify : d.guard.verifier.verify d.node t token with
  | error e => simp [Hs256AccessTokenVerifier.verify_error hverify]
  | ok verified => simp

/-- The access token of a pair is accepted before its last whole second, and from then on
no more. -/
theorem accepts_returned {store : Store d.services.lower} {τ : List IdentityEvent}
    {c : IdentityConfig d.services} (hrun : Run (machine d.services) (.initial store) τ c) {i : ℕ}
    {tokens : IssuedTokens} (hi : Returned c i tokens) {now : Date}
    (hread : .returned i .now now ∈ τ) (hnow : ValidDate now)
    (hexpiry : ValidDate (now + d.services.lifetimes.accessTokenMs)) :
    tokens.accessTokenExpiresAt = now + d.services.lifetimes.accessTokenMs ∧
      ∀ t, Accepts d tokens.accessToken t ↔
        t < (now + d.services.lifetimes.accessTokenMs) / 1000 * 1000 := by
  rcases hi with ⟨request, hi⟩
  rcases hrun.did hi with ⟨events, hdid⟩
  have hpath : Path i (execute d.services.toSettings request) events (.done (.tokens tokens)) :=
    hdid.went.done
  rcases tokens_issued hpath with ⟨session, now', honce, hissued, hdeadline⟩
  obtain rfl := honce now (hdid.returned.mp hread)
  refine ⟨hdeadline, ?_⟩
  rcases hrun.answered (hdid.subset hissued) with ⟨s, s', -, hissue⟩
  intro t
  rw [accepts_iff, show tokens.accessToken = _ from hissue, refuses_issued hnow hexpiry]
  exact not_le

/-- No instant is lost to rounding down to whole seconds exactly where there is nothing to
round, or no instant at all. -/
theorem dropped_fraction (now life : ℤ) :
    (∀ t, now ≤ t → (t < (now + life) / 1000 * 1000 ↔ t < now + life)) ↔
      (now + life) % 1000 = 0 ∨ life ≤ 0 := by
  constructor
  · intro hall
    -- the later of the reading and the last whole second
    have hlate := hall (max now ((now + life) / 1000 * 1000)) (le_max_left _ _)
    omega
  · intro hwhole t ht
    omega

/-- The deadline the response publishes is the real one exactly where it is a whole second
(or where tokens have no life at all). -/
theorem published_deadline_iff (d : Deployment) {store : Store d.services.lower}
    {τ : List IdentityEvent} {c : IdentityConfig d.services}
    (hrun : Run (machine d.services) (.initial store) τ c) {i : ℕ} {tokens : IssuedTokens}
    (hi : Returned c i tokens) {now : Date} (hread : .returned i .now now ∈ τ)
    (hnow : ValidDate now) (hexpiry : ValidDate (now + d.services.lifetimes.accessTokenMs)) :
    (∀ t, now ≤ t → (Accepts d tokens.accessToken t ↔ t < tokens.accessTokenExpiresAt)) ↔
      (now + d.services.lifetimes.accessTokenMs) % 1000 = 0 ∨
        d.services.lifetimes.accessTokenMs ≤ 0 := by
  rcases accepts_returned hrun hi hread hnow hexpiry with ⟨hdeadline, haccepts⟩
  simp only [hdeadline, haccepts]
  exact dropped_fraction now d.services.lifetimes.accessTokenMs

/-- The late refresh, at a reading that is no whole second: its deadline is not the real
one. -/
theorem late_deadline_is_not_real :
    ¬ ∀ t, 1769817599123 ≤ t →
      (Accepts lateDeployment lateTokens.accessToken t ↔ t < lateTokens.accessTokenExpiresAt) := by
  have hread : .returned 1 .now 1769817599123 ∈ lateRefreshed.2 :=
    List.mem_of_getElem? (i := 11) rfl
  rw [published_deadline_iff lateDeployment late_run late_returned hread (by decide) (by decide)]
  decide

/-- At the start of its last second the access token of the late refresh is refused,
though the response says it is good for another 123 milliseconds. -/
theorem published_deadline_is_late :
    Run (machine lateDeployment.services) (.initial (.noSessions sampleAccounts))
      lateRefreshed.2 lateRefreshed.1 ∧
    Returned lateRefreshed.1 1 lateTokens ∧
    .returned 1 .now 1769817599123 ∈ lateRefreshed.2 ∧
    (1769817599123 : Date) ≤ 1769818499000 ∧ 1769818499000 < lateTokens.accessTokenExpiresAt ∧
    lateDeployment.guard.verifier.verify lateDeployment.node 1769818499000
      lateTokens.accessToken = .error .invalidAccessToken := by
  refine ⟨late_run, late_returned, List.mem_of_getElem? (i := 11) rfl, by decide, by decide, ?_⟩
  decide +kernel

end XClone.Gateway
