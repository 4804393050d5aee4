import XClone.Gateway.ProblemDetails
import XClone.Identity.NormalForm
import XClone.Proto.GrpcErrors

/-!
# XClone.Gateway.FailureReport — a rejection on its way to the client

`toRpcException` and `toProblemDetails` speak of a field violation; between them it is
JSON text in a metadata value, and grpc-js refuses a value that is not printable ASCII.

* `RpcError.build` — the exception with its metadata, or the error thrown in its place;
* `Carries` — the gRPC status takes code, message and metadata across;
* `GrpcFailure.received` — what the Gateway reads back.

Every violation Identity sends is printable: the reasons are literals, and the one
message that quotes its input quotes a handle that has passed its check.
-/

namespace XClone.Gateway

open Js Interleaving Identity Proto

/-! ## Across the wire -/

section Wire

variable (grpc : MetadataClass) (node : Node)

/-- What a `new RpcException({ code, message, metadata })` carries. -/
structure RpcError where
  code : GrpcStatus
  message : JsString
  metadata : Option grpc.Metadata

/-- The exception with `withFieldViolation(new Metadata(), violation)` where it has a
violation; `none` if that throws. -/
def RpcError.build (error : RpcException) : Option (RpcError grpc) :=
  match error.violation with
  | none => some { code := error.code, message := error.message, metadata := none }
  | some violation => do
    let metadata ← withFieldViolation grpc node grpc.empty violation
    return { code := error.code, message := error.message, metadata }

/-- `GrpcFailure`: what the Gateway's client rejects with, and `isGrpcFailure` accepts. -/
structure GrpcFailure where
  code : GrpcStatus
  details : JsString
  metadata : Option grpc.Metadata

variable {grpc} in
/-- The status carries an exception verbatim. One without metadata arrives without, or
with empty metadata. -/
structure Carries (error : RpcError grpc) (failure : GrpcFailure grpc) : Prop where
  code : failure.code = error.code
  details : failure.details = error.message
  metadata : failure.metadata = error.metadata ∨
    error.metadata = none ∧ failure.metadata = some grpc.empty

variable {grpc} in
/-- What `toProblemDetails` reads of a failure. -/
def GrpcFailure.received (failure : GrpcFailure grpc) : RpcException :=
  { code := failure.code, message := failure.details
    violation := failure.metadata.bind (readFieldViolation grpc node) }

variable {grpc node}

/-- A sendable exception is built, and is received as it was. -/
theorem received_of_sendable (hgrpc : grpc.Lawful) (hnode : node.Lawful)
    (hprintable : node.StringifiesPrintable) {error : RpcException}
    (h : ∀ violation ∈ error.violation, Sendable violation) :
    ∃ built, RpcError.build grpc node error = some built ∧
      ∀ failure : GrpcFailure grpc, Carries built failure → failure.received node = error := by
  rcases error with ⟨code, message, violation⟩
  cases violation with
  | none =>
    -- no metadata was set, so whatever arrives carries no detail
    refine ⟨_, rfl, ?_⟩
    intro failure hcarries
    have hviolation : failure.metadata.bind (readFieldViolation grpc node) = none := by
      rcases hcarries.metadata with habsent | ⟨-, hempty⟩
      · rw [habsent]
        rfl
      · rw [hempty]
        exact read_empty hgrpc
    unfold GrpcFailure.received
    rw [hcarries.code, hcarries.details, hviolation]
  | some violation =>
    -- one detail was set; it arrives and is read back
    rcases withFieldViolation_sendable hgrpc hprintable grpc.empty (h violation rfl) with
      ⟨metadata, hset⟩
    refine ⟨{ code, message, metadata }, ?_, ?_⟩
    · unfold RpcError.build
      dsimp only
      rw [hset]
      rfl
    · intro failure hcarries
      have hmetadata : failure.metadata = some metadata := by
        rcases hcarries.metadata with hsame | ⟨hno, -⟩
        · exact hsame
        · cases hno
      have hviolation : failure.metadata.bind (readFieldViolation grpc node) = some violation := by
        rw [hmetadata]
        exact read_withFieldViolation hgrpc hnode hset
      unfold GrpcFailure.received
      rw [hcarries.code, hcarries.details, hviolation]

end Wire

/-! ## What Identity sends -/

theorem handle_printable {handle : JsString} (h : assertValidHandle handle = .ok ()) :
    IsPrintable handle := by
  refine isPrintable_of_range ?_
  intro u hu
  have hunit := (handlePattern_spec (handlePattern_of_valid h)).1 u hu
  omega

/-- Whatever Identity rejects a request with can be sent. -/
theorem rejectedWith_sendable {request : Request} {e : Failure} (h : RejectedWith request e) :
    ∀ violation ∈ (toRpcException e).violation, Sendable violation := by
  intro violation hviolation
  cases h.rejection with
  | violation hfield hreason =>
    cases hviolation
    exact ⟨hfield, hreason⟩
  | handleTaken input hhandle =>
    -- the message quotes a valid handle
    cases hviolation
    have hquoted := isPrintable_append (js_printable (s := "handle \"") rfl) (handle_printable hhandle)
    exact ⟨js_printable rfl, isPrintable_append hquoted (js_printable rfl)⟩
  | credentials | refreshToken | unknownHandle | unknownId | empty => cases hviolation

/-! ## What the client gets -/

/-- The problem a failure is to be reported as. -/
def reportedProblem (e : Failure) : ProblemDetails :=
  match e with
  | .domainValidation field reason =>
    { status := 400, title := js "Bad Request", detail := some reason, field := some field }
  | .handleTaken _ =>
    { status := 409, title := js "Conflict", detail := e.message, field := js "handle" }
  | .profileNotFoundByHandle _ | .profileNotFoundById _ =>
    { status := 404, title := js "Not Found", detail := e.message, field := none }
  | .emptyProfileUpdate =>
    { status := 400, title := js "Bad Request", detail := e.message, field := none }
  | _ => { status := 500, title := js "Internal Server Error", detail := none, field := none }

/-- The requests whose rejections are reported so. -/
def ReportsFields : Request → Prop
  | .register _ | .getProfile _ | .updateProfile _ => True
  | .login _ | .refresh _ => False

/-- Such a request is not rejected for its credentials. -/
theorem rejectedWith_other {request : Request} {e : Failure} (hrequest : ReportsFields request)
    (h : RejectedWith request e) : e ≠ .invalidCredentials ∧ e ≠ .invalidRefreshToken := by
  cases h.rejection with
  | credentials input => exact hrequest.elim
  | refreshToken input => exact hrequest.elim
  | violation | handleTaken | unknownHandle | unknownId | empty => exact ⟨nofun, nofun⟩

/-- The two mappings together. -/
theorem toProblemDetails_reported {e : Failure}
    (h : e ≠ .invalidCredentials ∧ e ≠ .invalidRefreshToken) :
    toProblemDetails (toRpcException e) = reportedProblem e := by
  cases e with
  | invalidCredentials => exact absurd rfl h.1
  | invalidRefreshToken => exact absurd rfl h.2
  | _ => rfl

/-- The client gets this problem: its status, and in the body its detail and its field,
each only where the problem has one. -/
structure Reports (problem : ProblemDetails) (response : HttpResponse) : Prop where
  rendered : response = sendProblemDetails problem
  status : response.status = problem.status
  detail : response.body.get (js "detail") = problem.detail.map .str
  field : response.body.get (js "field") = problem.field.map .str

theorem reports_sendProblemDetails {problem : ProblemDetails} :
    Reports problem (sendProblemDetails problem) := by
  rcases problem with ⟨status, title, detail, field, problemType, instanceUri⟩
  constructor
  · rfl
  · rfl
  · cases detail <;> cases instanceUri <;> cases field <;> rfl
  · cases detail <;> cases instanceUri <;> cases field <;> rfl

/-- A rejection reaches the client naming the right field. In every run from any store, a
registration, a profile read or a profile update that failed gives an exception that can
be built, and whatever failure its status arrives as, the client gets the problem of the
error: a broken rule a 400 with its field and reason, a taken handle a 409 on `handle`, an
unknown profile a 404 and an empty update a 400 with their messages and no field, and
everything else a bare 500. -/
theorem rejections_name_their_field {grpc : MetadataClass} {node : Node} (hgrpc : grpc.Lawful)
    (hnode : node.Lawful) (hprintable : node.StringifiesPrintable) {services : Services}
    {s : Store services.lower} {τ : List IdentityEvent} {c : IdentityConfig services}
    (hrun : Run (machine services) (.initial s) τ c) {i : ℕ} {request : Request} {e : Failure}
    (hrequest : ReportsFields request) (hthread : c.threads i = some ⟨request, .failed e⟩) :
    ∃ error, RpcError.build grpc node (toRpcException e) = some error ∧
      ∀ failure : GrpcFailure grpc, Carries error failure →
        Reports (reportedProblem e) (sendProblemDetails (toProblemDetails (failure.received node))) := by
  have hfailed := failed_with hrun hthread
  have hsendable : ∀ violation ∈ (toRpcException e).violation, Sendable violation := by
    rcases hfailed with hrejected | rfl | rfl
    · exact rejectedWith_sendable hrejected
    · intro violation hviolation
      cases hviolation
    · intro violation hviolation
      cases hviolation
  have hother : e ≠ .invalidCredentials ∧ e ≠ .invalidRefreshToken := by
    rcases hfailed with hrejected | rfl | rfl
    · exact rejectedWith_other hrequest hrejected
    · exact ⟨nofun, nofun⟩
    · exact ⟨nofun, nofun⟩
  rcases received_of_sendable hgrpc hnode hprintable hsendable with ⟨error, hbuilt, hreceived⟩
  refine ⟨error, hbuilt, ?_⟩
  intro failure hcarries
  rw [hreceived failure hcarries, toProblemDetails_reported hother]
  exact reports_sendProblemDetails

/-! ## A taken handle -/

/-- After the sign-up, thread 3 registers `SAM`. -/
def sampleTaken : List Identity.Move :=
  sampleSignUp ++ [.start 3 (.register ⟨js "SAM", js "correct horse 1"⟩), .answer 3 .none]

theorem sampleTaken_plays :
    (simulate sampleServices (.initial (.blank asciiLower)) sampleTaken).isSome = true := by
  decide +kernel

/-- The second registration is a 409 on `handle`, its quoted handle sent and read back. -/
theorem sample_taken_handle :
    ∃ error, RpcError.build referenceMetadata AccessToken.sampleNode
        (toRpcException (.handleTaken (js "SAM"))) = some error ∧
      ∀ failure : GrpcFailure referenceMetadata, Carries error failure →
        Reports (reportedProblem (.handleTaken (js "SAM")))
          (sendProblemDetails (toProblemDetails (failure.received AccessToken.sampleNode))) := by
  have hthread : ((simulate sampleServices (.initial (.blank asciiLower)) sampleTaken).get
      sampleTaken_plays).1.threads 3 = some ⟨.register ⟨js "SAM", js "correct horse 1"⟩,
        .failed (.handleTaken (js "SAM"))⟩ := rfl
  have hrequest : ReportsFields (.register ⟨js "SAM", js "correct horse 1"⟩) := trivial
  exact rejections_name_their_field referenceMetadata_lawful AccessToken.sampleNode_lawful
    (Reference.node_stringifiesPrintable _) (run_of_isSome sampleTaken_plays) hrequest hthread

end XClone.Gateway
