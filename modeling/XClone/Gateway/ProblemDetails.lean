import XClone.Identity.GrpcController
import XClone.Js.Json

/-!
# XClone.Gateway.ProblemDetails — gRPC failures as HTTP problems

The Gateway's table from gRPC codes to HTTP statuses, the stable titles, and
`toProblemDetails`: a 4xx keeps the message and the field it was given, a 5xx
carries nothing. `sendProblemDetails` renders a problem; `respond` is the answer to a
use case that failed.
-/

namespace XClone.Gateway

open Js Identity

/-- What a rejected request answers with: a `ProblemDetailsException`. Nothing sets the
type or the instance. -/
structure ProblemDetails where
  status : ℕ
  title : JsString
  detail : Option JsString
  field : Option JsString
  problemType : JsString := js "about:blank"
  instanceUri : Option JsString := none
deriving DecidableEq

/-- `FIRST_SERVER_ERROR_STATUS`. -/
def firstServerErrorStatus : ℕ := 500

/-- `REASON_PHRASES`. -/
def reasonPhrases : ℕ → Option JsString
  | 400 => js "Bad Request"
  | 401 => js "Unauthorized"
  | 403 => js "Forbidden"
  | 404 => js "Not Found"
  | 405 => js "Method Not Allowed"
  | 409 => js "Conflict"
  | 413 => js "Payload Too Large"
  | 415 => js "Unsupported Media Type"
  | 422 => js "Unprocessable Content"
  | 429 => js "Too Many Requests"
  | 500 => js "Internal Server Error"
  | 502 => js "Bad Gateway"
  | 503 => js "Service Unavailable"
  | 504 => js "Gateway Timeout"
  | _ => none

/-- `reasonPhrase(status)`. -/
def reasonPhrase (status : ℕ) : JsString :=
  match reasonPhrases status with
  | some phrase => phrase
  | none =>
    if firstServerErrorStatus ≤ status then js "Internal Server Error" else js "Request Error"

/-- `HTTP_STATUS`. -/
def httpStatus : GrpcStatus → Option ℕ
  | .invalidArgument => some 400
  | .notFound => some 404
  | .alreadyExists => some 409
  | .permissionDenied => some 403
  | .unauthenticated => some 401
  | .resourceExhausted => some 429
  | .deadlineExceeded => some 504
  | .unavailable => some 503
  | _ => none

/-- `toProblemDetails` of a gRPC failure. -/
def toProblemDetails (error : RpcException) : ProblemDetails :=
  let status := (httpStatus error.code).getD firstServerErrorStatus
  let title := reasonPhrase status
  if firstServerErrorStatus ≤ status then { status, title, detail := none, field := none }
  else { status, title, detail := some error.message, field := error.violation.map (·.field) }

theorem toProblemDetails_status (error : RpcException) :
    (toProblemDetails error).status = (httpStatus error.code).getD firstServerErrorStatus := by
  unfold toProblemDetails
  dsimp only
  split <;> rfl

/-- A server error says nothing. -/
theorem toProblemDetails_bare {error : RpcException}
    (h : firstServerErrorStatus ≤ (toProblemDetails error).status) :
    (toProblemDetails error).detail = none ∧ (toProblemDetails error).field = none := by
  rw [toProblemDetails_status] at h
  unfold toProblemDetails
  dsimp only
  rw [if_pos h]
  exact ⟨rfl, rfl⟩

/-- Only an unauthenticated call is a 401. -/
theorem toProblemDetails_unauthorized {error : RpcException} :
    (toProblemDetails error).status = 401 ↔ error.code = .unauthenticated := by
  rw [toProblemDetails_status]
  cases error.code <;> simp [httpStatus, firstServerErrorStatus]

/-! ## Rendering -/

/-- `...(value !== undefined && { [key]: value })`. -/
def optionalMember (key : JsString) (value : Option JsString) : Record :=
  (value.map fun text => (key, Json.str text)).toList

/-- `ProblemDetailsException.toBody()`. -/
def ProblemDetails.toBody (problem : ProblemDetails) : Record :=
  [(js "type", .str problem.problemType), (js "title", .str problem.title),
    (js "status", .num (.finite problem.status))] ++
    optionalMember (js "detail") problem.detail ++
    optionalMember (js "instance") problem.instanceUri ++
    optionalMember (js "field") problem.field

/-- A rendered HTTP answer. -/
structure HttpResponse where
  status : ℕ
  contentType : JsString
  body : Record

/-- `sendProblemDetails` of a problem. -/
def sendProblemDetails (problem : ProblemDetails) : HttpResponse :=
  { status := problem.status, contentType := js "application/problem+json"
    body := problem.toBody }

/-- What the client is told of a use case that failed. -/
def respond (e : Failure) : HttpResponse :=
  sendProblemDetails (toProblemDetails (toRpcException e))

end XClone.Gateway
