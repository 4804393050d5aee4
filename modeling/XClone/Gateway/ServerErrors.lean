import XClone.Gateway.FailureReport

/-!
# XClone.Gateway.ServerErrors — what a server error gives away

Anything can be thrown, and two classifiers look at it: `toProblemDetails` asks whether it
has the shape of a gRPC failure, `toProblemDetailsBody` what class it is of and which
status it claims. Both are here over arbitrary values, of which only the members that are
read matter.

* Upstream failures with one server error status are told apart by nothing: they render
  as `serverErrorBody`, and so does an `HttpException`.
* What is thrown below Nest counts by its `status` and `statusCode` only.

No message reaches the client (`no_message_leaks`).
-/

namespace XClone.Gateway

open Js Identity Proto

/-! ## Thrown values -/

inductive Primitive where
  | undefined
  | null
  | boolean (value : Bool)
  | number (value : JsNumber)
  | bigint (value : ℤ)
  | string (value : JsString)
  | symbol (id : ℕ)

section Values

variable (grpc : MetadataClass)

/-- What a member holds. An object is not looked into, but for gRPC metadata. -/
inductive Value where
  | primitive (value : Primitive)
  | object (reference : ℕ)
  | function (reference : ℕ)
  | metadata (metadata : grpc.Metadata)

/-- The members of an object, its own and the inherited; `none` where `in` finds none. -/
abbrev Members := JsString → Option (Value grpc)

/-- An `HttpException` of Nest: what its methods return, and its message. -/
structure HttpException where
  getStatus : JsNumber
  getResponse : Value grpc
  message : JsString

/-- What `instanceof` tells of an object. -/
inductive Instance where
  | other
  | httpException (exception : HttpException grpc)
  | problemDetails (problem : ProblemDetails)

/-- A value of type `unknown`, thrown and caught. -/
inductive Caught where
  | primitive (value : Primitive)
  | function (members : Members grpc)
  | object (of : Instance grpc) (members : Members grpc)

end Values

variable {grpc : MetadataClass}

/-- `key in object ? object[key] : undefined`. -/
def Members.read (members : Members grpc) (key : JsString) : Value grpc :=
  (members key).getD (.primitive .undefined)

/-- An object literal. -/
def Members.ofList (entries : List (JsString × Value grpc)) : Members grpc := fun key =>
  (entries.find? (·.1 = key)).map Prod.snd

namespace Caught

/-- The members of an object are read; a function is none. -/
def read (exception : Caught grpc) (key : JsString) : Value grpc :=
  match exception with
  | .object _ members => Members.read members key
  | .primitive _ | .function _ => .primitive .undefined

/-- `instanceof HttpException`; a `ProblemDetailsException` is one too. -/
def IsHttpException : Caught grpc → Prop
  | .object (.httpException _) _ | .object (.problemDetails _) _ => True
  | _ => False

end Caught

/-! ## Upstream failures -/

/-- The statuses, in the order of their codes. -/
def grpcStatuses : List GrpcStatus :=
  [.ok, .cancelled, .unknown, .invalidArgument, .deadlineExceeded, .notFound, .alreadyExists,
    .permissionDenied, .resourceExhausted, .failedPrecondition, .aborted, .outOfRange,
    .unimplemented, .internal, .unavailable, .dataLoss, .unauthenticated]

/-- `HTTP_STATUS[code]`. -/
def httpStatusOf (code : JsNumber) : Option ℕ := do
  let status ← grpcStatuses[← code.key]?
  httpStatus status

namespace Caught

/-- `isGrpcFailure(error)`, with the code and the details it finds. -/
def isGrpcFailure (error : Caught grpc) : Option (JsNumber × JsString) :=
  match error.read (js "code"), error.read (js "details") with
  | .primitive (.number code), .primitive (.string details) => some (code, details)
  | _, _ => none

/-- The status `toProblemDetails` maps a value to. -/
def httpStatus (error : Caught grpc) : ℕ :=
  match error.isGrpcFailure with
  | some (code, _) => (httpStatusOf code).getD firstServerErrorStatus
  | none => firstServerErrorStatus

/-- `toProblemDetails(error)`; `none` is a `TypeError`, of metadata that is not metadata. -/
def toProblemDetails (node : Node) (error : Caught grpc) : Option ProblemDetails :=
  let status := error.httpStatus
  let title := reasonPhrase status
  match error.isGrpcFailure with
  | none => some { status, title, detail := none, field := none }
  | some (_, details) =>
    if firstServerErrorStatus ≤ status then some { status, title, detail := none, field := none }
    else
      match error.read (js "metadata") with
      | .primitive .undefined => some { status, title, detail := details, field := none }
      | .metadata metadata =>
        some
          { status, title, detail := details
            field := (readFieldViolation grpc node metadata).map (·.field) }
      | _ => none

end Caught

/-! ## Rendering -/

structure ProblemDetailsBody where
  problemType : JsString := js "about:blank"
  title : JsString
  status : JsNumber
  detail : Option JsString := none
  instanceUri : Option JsString := none
  field : Option JsString := none

/-- `ProblemDetailsException.toBody()`. -/
def ProblemDetails.body (problem : ProblemDetails) : ProblemDetailsBody where
  problemType := problem.problemType
  title := problem.title
  status := .finite problem.status
  detail := problem.detail
  instanceUri := problem.instanceUri
  field := problem.field

/-- `reasonPhrase(status)`, of any number. -/
def reasonPhraseOf (status : JsNumber) : JsString :=
  match status.key.bind reasonPhrases with
  | some phrase => phrase
  | none =>
    if status.ge firstServerErrorStatus then js "Internal Server Error" else js "Request Error"

/-- `MIDDLEWARE_DETAILS`. -/
def middlewareDetails : ℕ → Option JsString
  | 400 => js "the request body could not be parsed"
  | 413 => js "the request body is too large"
  | 415 => js "the request content type is not supported"
  | _ => none

/-- What is thrown below Nest, or a bug. -/
def middlewareBody : Option JsNumber → ProblemDetailsBody
  | some status =>
    { title := reasonPhraseOf status, status, detail := status.key.bind middlewareDetails }
  | none => { title := js "Internal Server Error", status := .finite 500 }

/-- `clientErrorStatusOf` of an object with these members: `status` if it is a number, else
`statusCode`. `NaN` is neither below 400 nor from 500 on. -/
def clientErrorStatus (status statusCode : Value grpc) : Option JsNumber :=
  let candidate :=
    match status with
    | .primitive (.number _) => status
    | _ => statusCode
  match candidate with
  | .primitive (.number value) => if value.lt 400 || value.ge 500 then none else some value
  | _ => none

namespace Caught

/-- `clientErrorStatusOf(exception)`. -/
def clientErrorStatusOf (exception : Caught grpc) : Option JsNumber :=
  match exception with
  | .primitive _ | .function _ => none
  | .object _ members =>
    clientErrorStatus (Members.read members (js "status"))
      (Members.read members (js "statusCode"))

/-- `toProblemDetailsBody(exception)`. -/
def toProblemDetailsBody (exception : Caught grpc) : ProblemDetailsBody :=
  match exception with
  | .object (.problemDetails problem) _ => problem.body
  | .object (.httpException http) _ =>
    let status := http.getStatus
    if status.ge firstServerErrorStatus then { title := reasonPhraseOf status, status }
    else
      let detail :=
        match http.getResponse with
        | .primitive (.string response) => response
        | _ => http.message
      { title := reasonPhraseOf status, status, detail }
  | _ => middlewareBody exception.clientErrorStatusOf

end Caught

/-- What `sendProblemDetails` puts on a response. -/
structure SentProblem where
  status : JsNumber
  contentType : JsString
  body : ProblemDetailsBody

/-- `sendProblemDetails(response, exception)`, and so `ProblemDetailsFilter.catch`. -/
def Caught.sendProblemDetails (exception : Caught grpc) : SentProblem :=
  let body := exception.toProblemDetailsBody
  { status := body.status, contentType := js "application/problem+json", body }

/-- `jsonBodyFailures(error, …)`; `none` is `next(error)`. -/
def jsonBodyFailures (headersSent : Bool) (error : Caught grpc) : Option SentProblem :=
  if headersSent then none else some error.sendProblemDetails

/-- The body as JSON: absent members are left out. -/
def ProblemDetailsBody.record (body : ProblemDetailsBody) : Record :=
  [(js "type", .str body.problemType), (js "title", .str body.title),
    (js "status", .num body.status)] ++
    optionalMember (js "detail") body.detail ++
    optionalMember (js "instance") body.instanceUri ++
    optionalMember (js "field") body.field

/-- What goes out, where the status is one a response can have. -/
def SentProblem.response (sent : SentProblem) : Option HttpResponse :=
  sent.status.key.map fun status =>
    { status, contentType := sent.contentType, body := sent.body.record }

/-! ## What is rendered of it -/

/-- A server error, of which nothing is told but its status. -/
def serverErrorBody (status : JsNumber) : ProblemDetailsBody where
  title := reasonPhraseOf status
  status := status

theorem reasonPhraseOf_natCast (status : ℕ) :
    reasonPhraseOf (.finite status) = reasonPhrase status := by
  unfold reasonPhraseOf reasonPhrase
  rw [JsNumber.key_natCast, Option.bind_some]
  cases reasonPhrases status with
  | some phrase => rfl
  | none => simp

namespace Caught

/-- Of a value that maps to a server error the status is kept. -/
theorem toProblemDetails_server (node : Node) {error : Caught grpc}
    (h : firstServerErrorStatus ≤ error.httpStatus) :
    ∃ problem, error.toProblemDetails node = some problem ∧
      problem.body = serverErrorBody (.finite error.httpStatus) := by
  refine ⟨
    { status := error.httpStatus, title := reasonPhrase error.httpStatus
      detail := none, field := none }, ?_, ?_⟩
  · unfold toProblemDetails
    cases error.isGrpcFailure with
    | none => rfl
    | some found =>
      dsimp only
      rw [if_pos h]
  · rw [serverErrorBody, reasonPhraseOf_natCast]
    rfl

theorem clientErrorStatusOf_read (exception : Caught grpc) :
    exception.clientErrorStatusOf =
      clientErrorStatus (exception.read (js "status")) (exception.read (js "statusCode")) := by
  cases exception with
  | primitive value => rfl
  | function members => rfl
  | object of members => rfl

/-- What is not an `HttpException` counts by the status it claims. -/
theorem body_of_other {exception : Caught grpc} (h : ¬ exception.IsHttpException) :
    exception.toProblemDetailsBody = middlewareBody
      (clientErrorStatus (exception.read (js "status")) (exception.read (js "statusCode"))) := by
  rw [← clientErrorStatusOf_read]
  cases exception with
  | primitive value => rfl
  | function members => rfl
  | object of members =>
    cases of with
    | other => rfl
    | httpException http => exact absurd trivial h
    | problemDetails problem => exact absurd trivial h

/-- An `HttpException` that is a server error counts by its status. -/
theorem body_of_server {http : HttpException grpc} {members : Members grpc}
    (h : http.getStatus.ge firstServerErrorStatus = true) :
    (object (.httpException http) members).toProblemDetailsBody =
      serverErrorBody http.getStatus := by
  unfold toProblemDetailsBody
  dsimp only
  rw [if_pos h]
  rfl

end Caught

/-! ## What the body parser throws -/

/-- The statuses of its errors: a body that is no JSON, or was cut short; one that is too
large; an encoding or a charset it does not know; and its own faults. -/
def bodyParserStatuses : List ℕ := [400, 413, 415, 500]

/-- `json` of Express fails with an object that has this status. -/
structure FromBodyParser (status : ℕ) (error : Caught grpc) : Prop where
  known : status ∈ bodyParserStatuses
  claimed : error.read (js "status") = .primitive (.number (.finite status))
  other : ¬ error.IsHttpException

/-- The answer to such a body: a fixed detail for its status. -/
def unparsedProblem (status : ℕ) : ProblemDetails where
  status := status
  title := reasonPhrase status
  detail := middlewareDetails status
  field := none

/-- A rendered problem goes out as it is. -/
theorem response_of_body (problem : ProblemDetails) :
    SentProblem.response ⟨.finite problem.status, js "application/problem+json", problem.body⟩ =
      some (Gateway.sendProblemDetails problem) := by
  unfold SentProblem.response
  rw [JsNumber.key_natCast]
  rfl

theorem clientErrorStatus_natCast (status : ℕ) (statusCode : Value grpc) :
    clientErrorStatus (.primitive (.number (.finite status))) statusCode =
      if status < 400 ∨ 500 ≤ status then none else some (.finite status) := by
  have hlow : (JsNumber.finite status).lt 400 = decide (status < 400) := by
    simp [JsNumber.lt]
  unfold clientErrorStatus
  dsimp only
  rw [hlow, JsNumber.ge_natCast]
  simp only [Bool.or_eq_true, decide_eq_true_eq]

theorem middlewareBody_natCast (status : ℕ) :
    middlewareBody (some (.finite status)) = (unparsedProblem status).body := by
  unfold middlewareBody
  dsimp only
  rw [reasonPhraseOf_natCast, JsNumber.key_natCast]
  rfl

theorem middlewareBody_unparsed {status : ℕ} (h : status ∈ bodyParserStatuses)
    (statusCode : Value grpc) :
    middlewareBody (clientErrorStatus (.primitive (.number (.finite status))) statusCode) =
      (unparsedProblem status).body := by
  rw [clientErrorStatus_natCast]
  simp only [bodyParserStatuses, List.mem_cons, List.not_mem_nil, or_false] at h
  rcases h with rfl | rfl | rfl | rfl
  · exact middlewareBody_natCast 400
  · exact middlewareBody_natCast 413
  · exact middlewareBody_natCast 415
  · -- a fault of the parser
    rfl

/-- A body that could not be parsed is answered by its status alone. -/
theorem unparsed_response {status : ℕ} {error : Caught grpc} (h : FromBodyParser status error) :
    (jsonBodyFailures false error).bind SentProblem.response =
      some (Gateway.sendProblemDetails (unparsedProblem status)) := by
  have hbody : error.toProblemDetailsBody = (unparsedProblem status).body := by
    rw [Caught.body_of_other h.other, h.claimed, middlewareBody_unparsed h.known]
  rw [← response_of_body]
  show SentProblem.response error.sendProblemDetails = _
  unfold Caught.sendProblemDetails
  rw [hbody]
  rfl

/-- An error of the body parser, with its status and nothing else. -/
def parserError (status : ℕ) : Caught referenceMetadata :=
  .object .other (.ofList [(js "status", .primitive (.number (.finite status)))])

theorem fromBodyParser_parserError {status : ℕ} (h : status ∈ bodyParserStatuses) :
    FromBodyParser status (parserError status) := ⟨h, rfl, id⟩

/-! ## The two failures agree -/

/-- A failure of the client as the value it is. -/
def GrpcFailure.caught (failure : GrpcFailure grpc) : Caught grpc :=
  .object .other (.ofList
    ([(js "code", .primitive (.number (.finite (grpcStatuses.idxOf failure.code)))),
      (js "details", .primitive (.string failure.details))] ++
      (failure.metadata.map fun metadata => (js "metadata", Value.metadata metadata)).toList))

theorem httpStatusOf_idxOf (status : GrpcStatus) :
    httpStatusOf (.finite (grpcStatuses.idxOf status)) = httpStatus status := by
  unfold httpStatusOf
  rw [JsNumber.key_natCast]
  cases status <;> rfl

/-- `toProblemDetails` does to such a failure what it does to the exception received. -/
theorem toProblemDetails_caught (node : Node) (failure : GrpcFailure grpc) :
    failure.caught.toProblemDetails node = some (toProblemDetails (failure.received node)) := by
  have hfound : failure.caught.isGrpcFailure =
      some (.finite (grpcStatuses.idxOf failure.code), failure.details) := rfl
  have hstatus : failure.caught.httpStatus =
      (httpStatus failure.code).getD firstServerErrorStatus := by
    unfold Caught.httpStatus
    rw [hfound]
    dsimp only
    rw [httpStatusOf_idxOf]
  unfold Caught.toProblemDetails
  rw [hstatus, hfound]
  dsimp only
  by_cases hserver : firstServerErrorStatus ≤ (httpStatus failure.code).getD firstServerErrorStatus
  · -- a server error, whatever came with it
    rw [if_pos hserver]
    exact congrArg some (if_pos hserver).symm
  · rw [if_neg hserver]
    refine Eq.trans ?_ (congrArg some (if_neg hserver).symm)
    rcases failure with ⟨code, details, metadata⟩
    cases metadata with
    | none => rfl
    | some metadata => rfl

/-! ## No message leaks -/

/-- `exception[key]`, of a function too. A primitive has neither of the two members. -/
def Caught.property (exception : Caught grpc) (key : JsString) : Value grpc :=
  match exception with
  | .object _ members | .function members => Members.read members key
  | .primitive _ => .primitive .undefined

/-- `{ status: 413 }`. -/
def tooLarge : Members referenceMetadata :=
  .ofList [(js "status", .primitive (.number (.finite 413)))]

/-- A thrown function claims a status to no effect, where an object is believed. -/
theorem function_claims_no_status :
    ¬ ∀ exception exception' : Caught referenceMetadata, ¬ exception.IsHttpException →
      ¬ exception'.IsHttpException →
      exception.property (js "status") = exception'.property (js "status") →
      exception.property (js "statusCode") = exception'.property (js "statusCode") →
      exception.toProblemDetailsBody = exception'.toProblemDetailsBody := by
  intro hclaim
  have hbody := hclaim (.object .other tooLarge) (.function tooLarge) id id rfl rfl
  have hstatus : JsNumber.finite 413 = .finite 500 := congrArg ProblemDetailsBody.status hbody
  exact absurd hstatus (by decide)

/-- Two upstream failures that map to one server error status render the same body, with
no detail and no field, whatever they were. Two thrown values that are no `HttpException`
and of which the same `status` and `statusCode` are read render the same body and give the
same response. And an `HttpException` that is a server error renders from its status. -/
theorem no_message_leaks (node : Node) :
    (∀ error error' : Caught grpc, error.httpStatus = error'.httpStatus →
      firstServerErrorStatus ≤ error.httpStatus →
      ∃ problem problem', error.toProblemDetails node = some problem ∧
        error'.toProblemDetails node = some problem' ∧ ∀ members members' : Members grpc,
        (Caught.object (.problemDetails problem) members).toProblemDetailsBody =
            (Caught.object (.problemDetails problem') members').toProblemDetailsBody ∧
          (Caught.object (.problemDetails problem) members).toProblemDetailsBody.detail = none ∧
          (Caught.object (.problemDetails problem) members).toProblemDetailsBody.field = none) ∧
    (∀ exception exception' : Caught grpc, ¬ exception.IsHttpException →
      ¬ exception'.IsHttpException →
      exception.read (js "status") = exception'.read (js "status") →
      exception.read (js "statusCode") = exception'.read (js "statusCode") →
      exception.toProblemDetailsBody = exception'.toProblemDetailsBody ∧
        exception.sendProblemDetails = exception'.sendProblemDetails ∧
        ∀ headersSent,
          jsonBodyFailures headersSent exception = jsonBodyFailures headersSent exception') ∧
    ∀ (http : HttpException grpc) members, http.getStatus.ge firstServerErrorStatus = true →
      (Caught.object (.httpException http) members).toProblemDetailsBody =
        serverErrorBody http.getStatus := by
  refine ⟨?_, ?_, ?_⟩
  · intro error error' hsame hserver
    rcases Caught.toProblemDetails_server node hserver with ⟨problem, hproblem, hbody⟩
    rw [hsame] at hserver
    rcases Caught.toProblemDetails_server node hserver with ⟨problem', hproblem', hbody'⟩
    refine ⟨problem, problem', hproblem, hproblem', ?_⟩
    intro members members'
    -- a thrown problem is rendered as it is
    have hrendered : (Caught.object (.problemDetails problem) members).toProblemDetailsBody =
        serverErrorBody (.finite error.httpStatus) := hbody
    have hrendered' : (Caught.object (.problemDetails problem') members').toProblemDetailsBody =
        serverErrorBody (.finite error'.httpStatus) := hbody'
    rw [hrendered, hrendered', hsame]
    exact ⟨rfl, rfl, rfl⟩
  · intro exception exception' hother hother' hstatus hstatusCode
    have hbody : exception.toProblemDetailsBody = exception'.toProblemDetailsBody := by
      rw [Caught.body_of_other hother, Caught.body_of_other hother', hstatus, hstatusCode]
    have hsent : exception.sendProblemDetails = exception'.sendProblemDetails := by
      unfold Caught.sendProblemDetails
      rw [hbody]
    refine ⟨hbody, hsent, ?_⟩
    intro headersSent
    unfold jsonBodyFailures
    rw [hsent]
  · intro http members hserver
    exact Caught.body_of_server hserver

/-- `UNAVAILABLE` with this text for us. -/
def sampleUnavailable (details : JsString) : Caught referenceMetadata :=
  .object .other (.ofList
    [(js "code", .primitive (.number (.finite 14))), (js "details", .primitive (.string details))])

/-- What the body parser throws, with this message. -/
def sampleSyntaxError (message : JsString) : Caught referenceMetadata :=
  .object .other (.ofList
    [(js "status", .primitive (.number (.finite 400))),
      (js "message", .primitive (.string message))])

/-- An `InternalServerErrorException` with this message. -/
def sampleInternal (message : JsString) : HttpException referenceMetadata where
  getStatus := .finite 500
  getResponse := .object 0
  message := message

/-- An address, a password and a stack are kept from the client. -/
theorem sample_messages_are_kept :
    (∃ problem problem',
      (sampleUnavailable (js "connect ECONNREFUSED 10.0.1.7:8081")).toProblemDetails
        AccessToken.sampleNode = some problem ∧
      (sampleUnavailable (js "")).toProblemDetails AccessToken.sampleNode = some problem' ∧
      (Caught.object (.problemDetails problem) tooLarge).toProblemDetailsBody =
        (Caught.object (.problemDetails problem') tooLarge).toProblemDetailsBody) ∧
    (sampleSyntaxError (js "hunter2")).toProblemDetailsBody =
      (sampleSyntaxError (js "")).toProblemDetailsBody ∧
    (Caught.object (.httpException (sampleInternal (js "10.0.1.7:5432"))) tooLarge).toProblemDetailsBody =
      serverErrorBody (.finite 500) := by
  rcases @no_message_leaks referenceMetadata AccessToken.sampleNode with
    ⟨hupstream, hthrown, hhttp⟩
  refine ⟨?_, ?_, ?_⟩
  · rcases hupstream (sampleUnavailable (js "connect ECONNREFUSED 10.0.1.7:8081"))
      (sampleUnavailable (js "")) rfl (by decide) with ⟨problem, problem', hproblem, hproblem', hsame⟩
    exact ⟨problem, problem', hproblem, hproblem', (hsame _ _).1⟩
  · exact (hthrown _ _ id id rfl rfl).1
  · exact hhttp _ _ (by decide)

end XClone.Gateway
