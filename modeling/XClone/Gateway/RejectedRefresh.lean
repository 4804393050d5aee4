import XClone.Gateway.ProblemDetails
import XClone.Identity.Executions
import XClone.Identity.RefreshRotation

/-!
# XClone.Gateway.RejectedRefresh — what a rejected refresh answers with

`docs/04-api-contracts.md` promises one 401 for every rejected refresh, byte for byte,
"with no `detail` and no `field`". All causes do get one answer, and it has no field; but
`toProblemDetails` forwards the message of every 4xx, so it has a detail.
-/

namespace XClone.Gateway

open Js Interleaving Identity

/-- The 401 of the contract. -/
def documentedRefusal : HttpResponse where
  status := 401
  contentType := js "application/problem+json"
  body := [(js "type", .str (js "about:blank")), (js "title", .str (js "Unauthorized")),
    (js "status", .num (.finite 401))]

/-- The 401 a rejected refresh gets. -/
def refreshRefusal : HttpResponse where
  status := 401
  contentType := js "application/problem+json"
  body := [(js "type", .str (js "about:blank")), (js "title", .str (js "Unauthorized")),
    (js "status", .num (.finite 401)), (js "detail", .str (js "invalid refresh token"))]

theorem respond_invalidRefreshToken : respond .invalidRefreshToken = refreshRefusal := rfl

/-- The contract has one member less. -/
theorem refreshRefusal_ne_documented : refreshRefusal ≠ documentedRefusal := by
  intro heq
  have hlength : refreshRefusal.body.length = documentedRefusal.body.length := by rw [heq]
  exact absurd hlength (by decide)

variable {services : Services} {s : Store services.lower} {τ : List IdentityEvent}
  {c : IdentityConfig services} {i : ℕ} {input : RefreshSessionInput}

/-- A refresh that raised the error did so itself: no port throws it. -/
theorem rejected_because (hrun : Run (machine services) (.initial s) τ c)
    (hthread : c.threads i = some ⟨.refresh input, .failed .invalidRefreshToken⟩) :
    ∃ events, Did (machine services) τ i (.refresh input) events (.failed .invalidRefreshToken) ∧
      RefreshRejection services.toSettings i input events := by
  rcases hrun.did hthread with ⟨events, hdid⟩
  have hwent := hdid.went
  cases hwent with
  | answered hpath =>
    have hpath : Path i (execute services.toSettings (.refresh input)) events
        (.failed .invalidRefreshToken) := hpath
    exact ⟨events, hdid, (refresh_rejected hpath).2⟩
  | threw e hpath =>
    -- the ports only throw errors of their own
    have hthrown := hdid.subset (List.mem_append_right _ (List.mem_singleton_self _))
    rcases hrun.thrown hthrown with ⟨s₁, hthrows⟩
    rcases throws_cases hthrows with heq | heq | ⟨user, passwordHash, -, heq⟩
    · cases heq
    · cases heq
    · cases heq

/-- No rejected refresh gets the answer of the contract. In every run from any store, a
refresh that raised `InvalidRefreshTokenError` had an unknown, a spent or an expired token,
or its rotation failed on a revoked session or a lost race; whichever it was, the answer
is one fixed 401 without a field, and with a detail. -/
theorem rejected_refresh_has_a_detail (hrun : Run (machine services) (.initial s) τ c)
    {e : Failure} (hthread : c.threads i = some ⟨.refresh input, .failed e⟩)
    (hrejected : e = .invalidRefreshToken) :
    (∃ events, Did (machine services) τ i (.refresh input) events (.failed e) ∧
      RefreshRejection services.toSettings i input events) ∧
    respond e = refreshRefusal ∧ respond e ≠ documentedRefusal := by
  subst hrejected
  refine ⟨rejected_because hrun hthread, respond_invalidRefreshToken, ?_⟩
  rw [respond_invalidRefreshToken]
  exact refreshRefusal_ne_documented

/-! ## Two rejected refreshes -/

/-- The replay of a spent token gets a detail. -/
theorem sample_replay_has_a_detail :
    ((simulate sampleServices sampleRefreshed.1 sampleReplay).get sampleReplay_plays).1.threads 2 =
      some ⟨.refresh sampleRefreshInput, .failed .invalidRefreshToken⟩ ∧
    respond .invalidRefreshToken ≠ documentedRefusal := by
  have hrun := (run_of_isSome sampleRefresh_plays).append (run_of_isSome sampleReplay_plays)
  have hthread : ((simulate sampleServices sampleRefreshed.1 sampleReplay).get
      sampleReplay_plays).1.threads 2 =
        some ⟨.refresh sampleRefreshInput, .failed .invalidRefreshToken⟩ := rfl
  exact ⟨hthread, (rejected_refresh_has_a_detail hrun hthread rfl).2.2⟩

/-- Thread 0 presents a token nobody was given. -/
def sampleUnknownToken : List Identity.Move :=
  [.start 0 (.refresh sampleRefreshInput), .answer 0 .none]

theorem sampleUnknownToken_plays :
    (simulate sampleServices (.initial (.blank asciiLower)) sampleUnknownToken).isSome = true := by
  decide +kernel

/-- So does an unknown token, on empty tables. -/
theorem sample_unknown_token_refuted :
    ¬ ∀ {τ : List IdentityEvent} {c : IdentityConfig sampleServices},
      Run (machine sampleServices) (.initial (.blank asciiLower)) τ c →
      c.threads 0 = some ⟨.refresh sampleRefreshInput, .failed .invalidRefreshToken⟩ →
      respond .invalidRefreshToken = documentedRefusal := by
  intro hclaim
  have hdocumented := hclaim (run_of_isSome sampleUnknownToken_plays) rfl
  rw [respond_invalidRefreshToken] at hdocumented
  exact refreshRefusal_ne_documented hdocumented

end XClone.Gateway
