import XClone.Identity.UseCases

/-!
# XClone.Identity.GrpcController — the gRPC side of the Identity service

The messages of `identity.v1.IdentityService` with the use case each of them runs, and
`toRpcException`: the status, message and field violation a failed use case answers
with. A call carries its message unchanged, and an optional field it does not set
arrives absent.
-/

namespace XClone.Identity

open Js

/-! ## Messages -/

structure RegisterRequest where
  handle : JsString
  password : JsString
deriving DecidableEq

/-- proto3 has no null: an absent user agent is `''`. -/
structure LoginRequest where
  handle : JsString
  password : JsString
  userAgent : JsString
deriving DecidableEq

structure RefreshRequest where
  refreshToken : JsString
deriving DecidableEq

structure GetProfileRequest where
  handle : JsString
deriving DecidableEq

/-- `display_name` and `bio` are `optional`. -/
structure UpdateProfileRequest where
  userId : JsString
  displayName : Option JsString
  bio : Option JsString
deriving DecidableEq

/-- A call of `IdentityService`. -/
inductive Rpc where
  | register (data : RegisterRequest)
  | login (data : LoginRequest)
  | refresh (data : RefreshRequest)
  | getProfile (data : GetProfileRequest)
  | updateProfile (data : UpdateProfileRequest)
deriving DecidableEq

/-- The use case `IdentityGrpcController` runs for a call, with its input. -/
def Rpc.request : Rpc → Request
  | .register data => .register { handle := data.handle, password := data.password }
  | .login data =>
    .login
      { handle := data.handle, password := data.password
        userAgent := if data.userAgent ≠ [] then some data.userAgent else none }
  | .refresh data => .refresh { refreshToken := data.refreshToken }
  | .getProfile data => .getProfile data.handle
  | .updateProfile data =>
    .updateProfile { userId := data.userId, displayName := data.displayName, bio := data.bio }

/-! ## Failures -/

/-- gRPC status codes. -/
inductive GrpcStatus where
  | ok
  | cancelled
  | unknown
  | invalidArgument
  | deadlineExceeded
  | notFound
  | alreadyExists
  | permissionDenied
  | resourceExhausted
  | failedPrecondition
  | aborted
  | outOfRange
  | unimplemented
  | internal
  | unavailable
  | dataLoss
  | unauthenticated
deriving DecidableEq

/-- The rejected field, carried in the metadata of a gRPC error. -/
structure FieldViolation where
  field : JsString
  reason : JsString
deriving DecidableEq

structure RpcException where
  code : GrpcStatus
  message : JsString
  violation : Option FieldViolation
deriving DecidableEq

/-- `toRpcException`. What the domain does not name is an internal error. -/
def toRpcException : Failure → RpcException
  | .domainValidation field reason => ⟨.invalidArgument, reason, some ⟨field, reason⟩⟩
  | .invalidCredentials => ⟨.unauthenticated, js "invalid handle or password", none⟩
  | .invalidRefreshToken => ⟨.unauthenticated, js "invalid refresh token", none⟩
  | .profileNotFoundByHandle handle =>
    ⟨.notFound, js "no account with handle \"" ++ handle ++ js "\"", none⟩
  | .profileNotFoundById userId =>
    ⟨.notFound, js "no account with id \"" ++ userId ++ js "\"", none⟩
  | .emptyProfileUpdate => ⟨.invalidArgument, js "no supported field was given to update", none⟩
  | .handleTaken handle =>
    let message := js "handle \"" ++ handle ++ js "\" is already taken"
    ⟨.alreadyExists, message, some ⟨js "handle", message⟩⟩
  | .constraintViolation | .unavailable => ⟨.internal, js "internal error", none⟩

/-- The errors of the domain keep their message, but for a validation error, which
sends its reason. -/
theorem toRpcException_message {e : Failure} {message : JsString} (h : e.message = some message)
    (hvalidation : ∀ field reason, e ≠ .domainValidation field reason) :
    (toRpcException e).message = message := by
  cases e with
  | domainValidation field reason => exact absurd rfl (hvalidation field reason)
  | constraintViolation | unavailable => cases h
  | invalidCredentials | invalidRefreshToken | handleTaken | profileNotFoundByHandle
  | profileNotFoundById | emptyProfileUpdate => exact Option.some.inj h

/-- Only the two credential rejections are unauthenticated. -/
theorem toRpcException_unauthenticated {e : Failure} :
    (toRpcException e).code = .unauthenticated ↔
      e = .invalidCredentials ∨ e = .invalidRefreshToken := by
  cases e <;> simp [toRpcException]

end XClone.Identity
