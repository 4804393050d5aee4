import XClone.Gateway.AccessTokenGuard
import XClone.AccessToken.Agreement
import XClone.Js.LowerCase

/-!
# XClone.Gateway.GuardedRequest — what the guard does to a request

`canActivate` on the request and the response themselves: the principal it leaves on the
one, the header it sets on the other, and whether it asked the verifier. It admits the
bearer headers whose token verifies, and everything else gets one answer
(`guard_is_exact_and_uniform`).
-/

namespace XClone.Gateway

open Js AccessToken

/-- What the guard reads of the execution context, and leaves on it. -/
structure HttpContext where
  /-- `request.headers.authorization` -/
  authorization : Option JsString
  /-- `request.principal` -/
  principal : Option VerifiedAccessToken
  /-- The headers of the response. -/
  responseHeaders : JsString → Option JsString
  /-- The tokens the verifier was given. -/
  consulted : List JsString

namespace HttpContext

/-- `response.setHeader(name, value)`. -/
def setHeader (context : HttpContext) (name value : JsString) : HttpContext :=
  { context with responseHeaders := Function.update context.responseHeaders name (some value) }

/-- `throw unauthorized(response)`. -/
def reject (context : HttpContext) : Except ProblemDetails Bool × HttpContext :=
  (.error unauthorized.problem, context.setHeader (js "WWW-Authenticate") (js "Bearer"))

/-- The verifier is given a token. -/
def consult (context : HttpContext) (token : JsString) : HttpContext :=
  { context with consulted := context.consulted ++ [token] }

theorem reject_header (context : HttpContext) :
    context.reject.2.responseHeaders (js "WWW-Authenticate") = some (js "Bearer") := by
  simp only [HttpContext.reject, HttpContext.setHeader, Function.update_self]

end HttpContext

/-- `canActivate(context)` with the clock at `now`: what it returns or throws, and the
context it leaves. -/
def AccessTokenGuard.activate (guard : AccessTokenGuard) (now : Date) (context : HttpContext) :
    Except ProblemDetails Bool × HttpContext :=
  match guard.readBearerToken context.authorization with
  | none => context.reject
  | some token =>
    match guard.verifier.verify guard.node now token with
    | .ok principal => (.ok true, { context.consult token with principal := some principal })
    | .error _ => (context.consult token).reject

/-- The rest of the Gateway sees the guard through `canActivate`: the same principal, or the
same problem and the same header, and no principal. -/
theorem activate_canActivate (guard : AccessTokenGuard) (now : Date) (context : HttpContext) :
    match guard.canActivate now context.authorization with
    | .ok principal => (guard.activate now context).1 = .ok true ∧
        (guard.activate now context).2.principal = some principal
    | .error rejection => (guard.activate now context).1 = .error rejection.problem ∧
        (guard.activate now context).2.responseHeaders (js "WWW-Authenticate") =
          rejection.wwwAuthenticate ∧
        (guard.activate now context).2.principal = context.principal := by
  unfold AccessTokenGuard.canActivate AccessTokenGuard.activate
  cases guard.readBearerToken context.authorization with
  | none => exact ⟨rfl, context.reject_header, rfl⟩
  | some token =>
    simp only
    cases guard.verifier.verify guard.node now token with
    | ok principal => exact ⟨rfl, rfl⟩
    | error e => exact ⟨rfl, (context.consult token).reject_header, rfl⟩

/-! ## The header -/

/-- `Bearer <token>`: exactly two parts around a single space, the first `bearer` in any
case, the second not empty. -/
def BearerHeader (authorization : Option JsString) (token : JsString) : Prop :=
  ∃ scheme, authorization = some (scheme ++ space :: token) ∧ space ∉ scheme ∧ space ∉ token ∧
    scheme.map lowerUnit = js "bearer" ∧ token ≠ []

/-- `readBearerToken` reads those headers, and no others. -/
theorem readBearerToken_iff {guard : AccessTokenGuard} {table : LowerCasing}
    (hlower : guard.toLowerCase = toLowerCase table) (htable : table.Unicode)
    {authorization : Option JsString} {token : JsString} :
    guard.readBearerToken authorization = some token ↔ BearerHeader authorization token := by
  have hscheme (scheme : JsString) :
      guard.toLowerCase scheme = js "bearer" ↔ scheme.map lowerUnit = js "bearer" := by
    rw [hlower]
    exact toLowerCase_eq_iff htable (js_printable rfl).isAscii (by decide)
  constructor
  · intro h
    unfold AccessTokenGuard.readBearerToken at h
    split at h
    · cases h
    split at h
    · rename_i header scheme rest hsplit
      split at h
      · cases h
      · rename_i hwell
        cases h
        rw [not_or, not_not, hscheme] at hwell
        rcases splitOn_eq_pair.mp hsplit with ⟨hheader, hfirst, hsecond⟩
        exact ⟨scheme, by rw [hheader], hfirst, hsecond, hwell.1, hwell.2⟩
    · cases h
  · rintro ⟨scheme, rfl, hfirst, hsecond, hcase, hne⟩
    have hsplit : (scheme ++ space :: token).splitOn space = [scheme, token] :=
      splitOn_eq_pair.mpr ⟨rfl, hfirst, hsecond⟩
    have hwell : ¬ (guard.toLowerCase scheme ≠ js "bearer" ∨ token = []) := by
      rw [not_or, not_not, hscheme]
      exact ⟨hcase, hne⟩
    simp only [AccessTokenGuard.readBearerToken, hsplit]
    exact if_neg hwell

/-! ## One answer -/

/-- What the client is told when the guard refuses a request. -/
structure Refusal where
  response : HttpResponse
  wwwAuthenticate : Option JsString

/-- The thrown problem as the filter renders it, and the header that goes with it. -/
def refusal : Except ProblemDetails Bool × HttpContext → Option Refusal
  | (.ok _, _) => none
  | (.error problem, context) =>
    some ⟨sendProblemDetails problem, context.responseHeaders (js "WWW-Authenticate")⟩

/-- The one answer. -/
def unauthorizedRefusal : Refusal where
  response :=
    { status := 401, contentType := js "application/problem+json"
      body := [(js "type", .str (js "about:blank")), (js "title", .str (js "Unauthorized")),
        (js "status", .num (.finite 401))] }
  wwwAuthenticate := js "Bearer"

section Decisions

variable {guard : AccessTokenGuard} {now : Date} {context : HttpContext}

/-- All the guard can do. -/
theorem activate_cases (guard : AccessTokenGuard) (now : Date) (context : HttpContext) :
    (∃ token principal, guard.readBearerToken context.authorization = some token ∧
      guard.verifier.verify guard.node now token = .ok principal ∧
      guard.activate now context =
        (.ok true, { context.consult token with principal := some principal })) ∨
    (∃ token e, guard.readBearerToken context.authorization = some token ∧
      guard.verifier.verify guard.node now token = .error e ∧
      guard.activate now context = (context.consult token).reject) ∨
    (guard.readBearerToken context.authorization = none ∧
      guard.activate now context = context.reject) := by
  unfold AccessTokenGuard.activate
  cases guard.readBearerToken context.authorization with
  | none => exact Or.inr (Or.inr ⟨rfl, rfl⟩)
  | some token =>
    cases hverify : guard.verifier.verify guard.node now token with
    | ok principal => exact Or.inl ⟨token, principal, rfl, hverify, by simp only [hverify]⟩
    | error e => exact Or.inr (Or.inl ⟨token, e, rfl, hverify, by simp only [hverify]⟩)

/-- A request that is not admitted gets the one answer, and no principal. -/
theorem refused (h : (guard.activate now context).1 ≠ .ok true) :
    refusal (guard.activate now context) = unauthorizedRefusal ∧
      (guard.activate now context).2.principal = context.principal := by
  have hsame := activate_canActivate guard now context
  cases hdecided : guard.canActivate now context.authorization with
  | ok principal =>
    rw [hdecided] at hsame
    exact absurd hsame.1 h
  | error rejection =>
    obtain rfl := AccessTokenGuard.canActivate_error hdecided
    rw [hdecided] at hsame
    rcases hsame with ⟨hproblem, hheader, hprincipal⟩
    refine ⟨?_, hprincipal⟩
    calc refusal (guard.activate now context)
        = some ⟨sendProblemDetails unauthorized.problem, unauthorized.wwwAuthenticate⟩ := by
          rw [← hheader]
          generalize guard.activate now context = outcome at hproblem
          rcases outcome with ⟨answer, after⟩
          obtain rfl : answer = .error unauthorized.problem := hproblem
          rfl
      _ = unauthorizedRefusal := rfl

end Decisions

/-- The guard admits the bearer headers whose token verifies, and leaves what `verify`
returned on the request. Any two requests it does not admit, for whatever reason, under
whatever clock and guard, get the same answer and no principal; and the verifier is asked
about the token of a bearer header, or not at all. -/
theorem guard_is_exact_and_uniform {guard : AccessTokenGuard} {table : LowerCasing}
    (hlower : guard.toLowerCase = toLowerCase table) (htable : table.Unicode) (now : Date)
    (context : HttpContext) :
    ((guard.activate now context).1 = .ok true ↔ ∃ token principal,
      BearerHeader context.authorization token ∧
        guard.verifier.verify guard.node now token = .ok principal) ∧
    (∀ token principal, BearerHeader context.authorization token →
      guard.verifier.verify guard.node now token = .ok principal →
      (guard.activate now context).2.principal = some principal) ∧
    ((guard.activate now context).1 ≠ .ok true →
      (guard.activate now context).2.principal = context.principal ∧
      refusal (guard.activate now context) = unauthorizedRefusal ∧
      ∀ guard' now' context', (AccessTokenGuard.activate guard' now' context').1 ≠ .ok true →
        refusal (guard.activate now context) = refusal (guard'.activate now' context')) ∧
    ((guard.activate now context).2.consulted = context.consulted ∨
      ∃ token, BearerHeader context.authorization token ∧
        (guard.activate now context).2.consulted = context.consulted ++ [token]) := by
  have hread (token : JsString) : guard.readBearerToken context.authorization = some token ↔
      BearerHeader context.authorization token := readBearerToken_iff hlower htable
  refine ⟨?_, ?_, ?_, ?_⟩
  · constructor
    · intro hadmitted
      rcases activate_cases guard now context with
        ⟨token, principal, hbearer, hverify, -⟩ | ⟨token, e, -, -, heq⟩ | ⟨-, heq⟩
      · exact ⟨token, principal, (hread token).mp hbearer, hverify⟩
      · rw [heq] at hadmitted
        cases hadmitted
      · rw [heq] at hadmitted
        cases hadmitted
    · rintro ⟨token, principal, hbearer, hverify⟩
      simp only [AccessTokenGuard.activate, (hread token).mpr hbearer, hverify]
  · intro token principal hbearer hverify
    simp only [AccessTokenGuard.activate, (hread token).mpr hbearer, hverify]
  · intro hrefused
    rcases refused hrefused with ⟨hanswer, hprincipal⟩
    refine ⟨hprincipal, hanswer, ?_⟩
    intro guard' now' context' hrefused'
    rw [hanswer, (refused hrefused').1]
  · rcases activate_cases guard now context with
      ⟨token, principal, hbearer, -, heq⟩ | ⟨token, e, hbearer, -, heq⟩ | ⟨-, heq⟩
    · exact Or.inr ⟨token, (hread token).mp hbearer, by rw [heq]; rfl⟩
    · exact Or.inr ⟨token, (hread token).mp hbearer, by rw [heq]; rfl⟩
    · exact Or.inl (by rw [heq]; rfl)

/-! ## A sample -/

/-- A table that lower-cases the Kelvin sign and leaves the rest of the basic plane alone. -/
def sampleLowerCasing : LowerCasing := fun _ c _ =>
  if c = kelvinSign then js "k"
  else if c < 0x10000 then [c.toUInt16]
  else [0xFFFD]

theorem sampleLowerCasing_unicode : sampleLowerCasing.Unicode := by
  constructor
  · intro before after
    exact if_pos rfl
  · intro before c after hbeyond hkelvin
    unfold sampleLowerCasing
    rw [if_neg hkelvin]
    split
    · rename_i hplane
      refine ⟨c.toUInt16, List.mem_singleton_self _, ?_⟩
      have hunit : c.toUInt16.toNat = c := Nat.mod_eq_of_lt hplane
      rw [UInt16.le_iff_toNat_le, hunit]
      exact hbeyond
    · exact ⟨0xFFFD, List.mem_singleton_self _, by decide⟩

/-- The sample guard. -/
def sampleGuard : AccessTokenGuard where
  node := sampleNode
  verifier := ⟨AccessToken.sampleKey⟩
  toLowerCase := toLowerCase sampleLowerCasing

/-- A request with the sample token, the scheme in capitals. -/
def sampleContext : HttpContext where
  authorization := some (js "BEARER" ++ space :: sampleToken)
  principal := none
  responseHeaders _ := none
  consulted := []

/-- It is admitted to the last millisecond of its token, as the account the token names. -/
theorem sample_request_is_admitted :
    (sampleGuard.activate 1767226499999 sampleContext).1 = .ok true ∧
      (sampleGuard.activate 1767226499999 sampleContext).2.principal =
        some ⟨js "7", js "9", some 1767226500000⟩ := by
  have hbearer : BearerHeader sampleContext.authorization sampleToken := by
    refine ⟨js "BEARER", rfl, by decide, by decide +kernel, by decide, by decide +kernel⟩
  have hlower : sampleGuard.toLowerCase = toLowerCase sampleLowerCasing := rfl
  rcases guard_is_exact_and_uniform hlower sampleLowerCasing_unicode 1767226499999 sampleContext
    with ⟨hadmits, hprincipal, -, -⟩
  exact ⟨hadmits.mpr ⟨sampleToken, _, hbearer, verify_sample_token.1⟩,
    hprincipal _ _ hbearer verify_sample_token.1⟩

end XClone.Gateway
