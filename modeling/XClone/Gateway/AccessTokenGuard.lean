import XClone.AccessToken.Verifier
import XClone.Gateway.ProblemDetails

/-!
# XClone.Gateway.AccessTokenGuard — who the caller is

`AccessTokenGuard` proves the caller's identity from the `Authorization` header alone,
with no call to Identity, and answers every failure with the same 401.
-/

namespace XClone.Gateway

open Js AccessToken

/-- A rejected request: its problem, and the `WWW-Authenticate` header where one is set. -/
structure Rejection where
  problem : ProblemDetails
  wwwAuthenticate : Option JsString
deriving DecidableEq

/-- `unauthorized(response)`: one 401 for every failure. -/
def unauthorized : Rejection where
  problem := { status := 401, title := reasonPhrase 401, detail := none, field := none }
  wwwAuthenticate := js "Bearer"

/-- The separator of a header's parts. -/
def space : UInt16 := 32

/-- `AccessTokenGuard`, with the `toLowerCase` of JavaScript's strings. -/
structure AccessTokenGuard where
  node : Node
  verifier : Hs256AccessTokenVerifier
  toLowerCase : JsString → JsString

namespace AccessTokenGuard

variable (guard : AccessTokenGuard)

/-- `readBearerToken(header)`: `Authorization: Bearer <token>`, and nothing else. -/
def readBearerToken : Option JsString → Option JsString
  | none => none
  | some header =>
    match header.splitOn space with
    | [scheme, token] =>
      if guard.toLowerCase scheme ≠ js "bearer" ∨ token = [] then none else some token
    | _ => none

/-- `canActivate(context)` with the clock at `now`: the principal it leaves on the
request. -/
def canActivate (now : Date) (authorization : Option JsString) :
    Except Rejection VerifiedAccessToken :=
  match guard.readBearerToken authorization with
  | none => .error unauthorized
  | some token =>
    match guard.verifier.verify guard.node now token with
    | .ok principal => .ok principal
    | .error _ => .error unauthorized

variable {guard}

/-- Whoever is let in presented a token that verifies. -/
theorem canActivate_ok {now : Date} {authorization : Option JsString}
    {principal : VerifiedAccessToken} (h : guard.canActivate now authorization = .ok principal) :
    ∃ token, guard.readBearerToken authorization = some token ∧
      guard.verifier.verify guard.node now token = .ok principal := by
  unfold canActivate at h
  split at h
  · cases h
  · rename_i token hbearer
    split at h
    · rename_i verified hverify
      cases h
      exact ⟨token, hbearer, hverify⟩
    · cases h

/-- Every refusal is the same. -/
theorem canActivate_error {now : Date} {authorization : Option JsString} {rejection : Rejection}
    (h : guard.canActivate now authorization = .error rejection) : rejection = unauthorized := by
  unfold canActivate at h
  split at h
  · cases h
    rfl
  · split at h
    · cases h
    · cases h
      rfl

end AccessTokenGuard

end XClone.Gateway
