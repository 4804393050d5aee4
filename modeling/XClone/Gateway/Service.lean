import XClone.Gateway.Answers
import XClone.Gateway.OwnProfile
import XClone.Gateway.RefreshRetry
import XClone.Gateway.ServerErrors

/-!
# XClone.Gateway.Service — requests and their answers

Gateway and Identity as their clients meet them, any number of requests under way:

1. the Gateway answers at once what it cannot parse and what it rejects, and calls Identity
   for everything else;
2. the call starts an execution of Identity when it gets there, if it does;
3. the Gateway answers with what the execution ended with, or gives up on the call: the
   deadline has passed, or the connection failed. A call it has given up may still get
   there, and its execution goes on.
-/

namespace XClone.Gateway

open Js Interleaving Identity AccessToken Proto

/-! ## The system -/

/-- The codes with which gRPC itself may fail a call. The others it leaves to services, but
`UNAUTHENTICATED` is among them: it is what it makes of an HTTP 401. -/
def transportCodes : List GrpcStatus :=
  [.cancelled, .unknown, .deadlineExceeded, .permissionDenied, .resourceExhausted,
    .unimplemented, .internal, .unavailable, .unauthenticated]

/-- A request the Gateway has received: when, its call, the execution that serves it, and
what it was answered. -/
structure Exchange where
  request : HttpRequest
  now : Date
  call : Option Rpc
  execution : Option ℕ
  reply : Option Reply

/-- The two services, and the requests by their number. -/
structure Service (d : Deployment) where
  backend : Backend d
  exchanges : ℕ → Option Exchange

namespace Service

variable {d : Deployment}

inductive Action where
  | receive (k : ℕ) (request : HttpRequest) (now : Date)
  | deliver (k i : ℕ)
  | identity (e : IdentityEvent)
  | complete (k : ℕ)
  | giveUp (k : ℕ) (error : RpcException)

/-- Nothing was asked for yet, and nobody is logged in. -/
def initial (accounts : UserTables d.services.lower) : Service d :=
  ⟨.initial accounts, fun _ => none⟩

/-- Request `k`, as it is now. -/
def record (s : Service d) (k : ℕ) (x : Exchange) : Service d :=
  { s with exchanges := Function.update s.exchanges k (some x) }

@[simp] theorem record_backend (s : Service d) (k : ℕ) (x : Exchange) :
    (s.record k x).backend = s.backend := rfl

@[simp] theorem record_self (s : Service d) (k : ℕ) (x : Exchange) :
    (s.record k x).exchanges k = some x :=
  Function.update_self _ _ _

theorem record_of_ne (s : Service d) {k k' : ℕ} (h : k' ≠ k) (x : Exchange) :
    (s.record k x).exchanges k' = s.exchanges k' :=
  Function.update_of_ne h _ _

/-- One step. A body that the parser refuses is answered before any handler sees the
request. -/
inductive Step : Service d → Action → Service d → Prop where
  | unparsed {s : Service d} {k : ℕ} {request : HttpRequest} {now : Date} {grpc : MetadataClass}
      {status : ℕ} {error : Caught grpc} {response : HttpResponse} :
      s.exchanges k = none → request.body = none → FromBodyParser status error →
      (jsonBodyFailures false error).bind SentProblem.response = some response →
      Step s (.receive k request now)
        (s.record k ⟨request, now, none, none, some (.unparsed response)⟩)
  | reject {s : Service d} {k : ℕ} {request : HttpRequest} {now : Date} {rejection : Rejection} :
      s.exchanges k = none → dispatch d.guard now request = .error rejection →
      Step s (.receive k request now)
        (s.record k ⟨request, now, none, none, some (.rejected rejection)⟩)
  | call {s : Service d} {k : ℕ} {request : HttpRequest} {now : Date} {rpc : Rpc} :
      s.exchanges k = none → dispatch d.guard now request = .ok rpc →
      Step s (.receive k request now) (s.record k ⟨request, now, some rpc, none, none⟩)
  | deliver {s : Service d} {k i : ℕ} {x : Exchange} {b : Backend d} :
      s.exchanges k = some x → x.call ≠ none → x.execution = none →
      Backend.Step s.backend (.forward i x.request x.now) b →
      Step s (.deliver k i)
        ({ s with backend := b }.record k { x with execution := some i })
  | identity {s : Service d} {e : IdentityEvent} {b : Backend d} :
      Backend.Step s.backend (.identity e) b → Step s (.identity e) { s with backend := b }
  | complete {s : Service d} {k i : ℕ} {x : Exchange} {request : Request}
      {outcome : Except Failure Response} :
      s.exchanges k = some x → x.execution = some i → x.reply = none →
      s.backend.identity.threads i = some ⟨request, .ofExcept outcome⟩ →
      Step s (.complete k)
        (s.record k { x with reply := some (.completed x.request.route outcome) })
  | giveUp {s : Service d} {k : ℕ} {x : Exchange} {grpc : MetadataClass}
      {failure : GrpcFailure grpc} {problem : ProblemDetails} :
      s.exchanges k = some x → x.call ≠ none → x.reply = none → failure.code ∈ transportCodes →
      failure.caught.toProblemDetails d.node = some problem →
      Step s (.giveUp k (failure.received d.node))
        (s.record k { x with reply := some (.problem problem) })

/-- Any number of steps. -/
def Runs : Service d → Service d → Prop :=
  Relation.ReflTransGen fun s s' => ∃ action, Step s action s'

/-- Any number of steps that are allowed. -/
def RunsUnder (allowed : Service d → Action → Prop) : Service d → Service d → Prop :=
  Relation.ReflTransGen fun s s' => ∃ action, allowed s action ∧ Step s action s'

theorem RunsUnder.mono {allowed allowed' : Service d → Action → Prop} {s s' : Service d}
    (h : RunsUnder allowed s s')
    (hallowed : ∀ s action s', Step s action s' → allowed s action → allowed' s action) :
    RunsUnder allowed' s s' := by
  induction h with
  | refl => exact .refl
  | tail _ hstep ih =>
    rcases hstep with ⟨action, hold, hstep⟩
    exact ih.tail ⟨action, hallowed _ _ _ hstep hold, hstep⟩

theorem RunsUnder.runs {allowed : Service d → Action → Prop} {s s' : Service d}
    (h : RunsUnder allowed s s') : Runs s s' := by
  induction h with
  | refl => exact .refl
  | tail _ hstep ih =>
    rcases hstep with ⟨action, -, hstep⟩
    exact ih.tail ⟨action, hstep⟩

/-- gRPC itself fails no call, or with one of these codes. -/
def Over (codes : List GrpcStatus) (_ : Service d) (action : Action) : Prop :=
  ∀ k error, action = .giveUp k error → error.code ∈ codes

theorem Step.over {s s' : Service d} {action : Action} (h : Step s action s') :
    Over transportCodes s action := by
  rintro k error rfl
  cases h with
  | giveUp _ _ _ hcode _ => exact hcode

/-- What is assumed of a step: nobody but the issuer computes a MAC, and Identity's clock
reads dates. -/
structure Assumed (s : Service d) (action : Action) : Prop where
  unforged : ∀ k request now token, action = .receive k request now →
    d.guard.readBearerToken request.authorization = some token →
    NotForged d.node d.secret (Backend.Signed d.node s.backend.history) token
  dates : ∀ i now, action = .identity (.returned i .now now) →
    ValidDate now ∧ ValidDate (now + d.services.lifetimes.accessTokenMs)

/-- Runs whose steps all meet the assumptions. -/
def Reaches : Service d → Service d → Prop := RunsUnder Assumed

/-- Those in which gRPC itself fails calls with these codes only. -/
def ReachesOver (codes : List GrpcStatus) : Service d → Service d → Prop :=
  RunsUnder fun s action => Assumed s action ∧ Over codes s action

theorem Reaches.runs {s s' : Service d} (h : Reaches s s') : Runs s s' := RunsUnder.runs h

theorem Reaches.over {s s' : Service d} (h : Reaches s s') : ReachesOver transportCodes s s' :=
  RunsUnder.mono h fun _ _ _ hstep hassumed => ⟨hassumed, hstep.over⟩

theorem ReachesOver.reaches {codes : List GrpcStatus} {s s' : Service d}
    (h : ReachesOver codes s s') : Reaches s s' :=
  RunsUnder.mono h fun _ _ _ _ hboth => hboth.1

theorem ReachesOver.runsOver {codes : List GrpcStatus} {s s' : Service d}
    (h : ReachesOver codes s s') : RunsUnder (Over codes) s s' :=
  RunsUnder.mono h fun _ _ _ _ hboth => hboth.2

end Service

variable {d : Deployment} {accounts : UserTables d.services.lower} {s s' : Service d}
  {codes : List GrpcStatus}

/-! ## The two services behind it -/

/-- What Identity's executions did is kept. -/
theorem Backend.Step.kept {b b' : Backend d} {action : Backend.Action} (h : b.Step action b') :
    b.history <+: b'.history ∧ ∀ i t, b.identity.threads i = some t →
      ∃ t', b'.identity.threads i = some t' ∧ t'.request = t.request ∧
        (t.program.Completed → t' = t) := by
  have moved {c : IdentityConfig d.services} {e : IdentityEvent}
      (hmove : Interleaving.Step (machine d.services) b.identity e c) (i : ℕ)
      (t : Thread Request PortCall Answer Failure Response) (ht : b.identity.threads i = some t) :
      ∃ t', c.threads i = some t' ∧ t'.request = t.request ∧ (t.program.Completed → t' = t) := by
    rcases hmove.request ht with ⟨t', ht', hrequest⟩
    refine ⟨t', ht', hrequest, fun hdone => ?_⟩
    have hkept := (hmove.completed ht hdone).1
    rw [ht'] at hkept
    exact Option.some.inj hkept
  cases h with
  | reject _ => exact ⟨List.prefix_rfl, fun i t ht => ⟨t, ht, rfl, fun _ => rfl⟩⟩
  | lose _ => exact ⟨List.prefix_rfl, fun i t ht => ⟨t, ht, rfl, fun _ => rfl⟩⟩
  | forward _ hmove => exact ⟨List.prefix_append _ _, moved hmove⟩
  | identity _ hmove => exact ⟨List.prefix_append _ _, moved hmove⟩

/-- A step of the service is one of the two services behind it, or none. -/
theorem Service.Step.backend {action : Service.Action} (h : s.Step action s') :
    s'.backend = s.backend ∨ ∃ action', s.backend.Step action' s'.backend := by
  cases h with
  | unparsed _ _ _ _ | reject _ _ | call _ _ | complete _ _ _ _ | giveUp _ _ _ _ _ =>
    exact Or.inl rfl
  | deliver _ _ _ hforward => exact Or.inr ⟨_, hforward⟩
  | identity hmove => exact Or.inr ⟨_, hmove⟩

/-- Signatures stay signatures. -/
theorem signed_later {τ τ' : List IdentityEvent} (h : τ <+: τ') {token : JsString}
    (hforged : NotForged d.node d.secret (Backend.Signed d.node τ) token) :
    NotForged d.node d.secret (Backend.Signed d.node τ') token := by
  intro input htoken
  rcases hforged input htoken with ⟨j, claims, issued, hmem, hinput⟩
  exact ⟨j, claims, issued, h.subset hmem, hinput⟩

/-! ## Why a request was answered as it was -/

/-- The Gateway could not parse the request or rejected it, its execution ended, or the call
was given up with one of the codes. -/
inductive Exchange.Because (codes : List GrpcStatus) (c : IdentityConfig d.services) (x : Exchange) :
    Reply → Prop where
  | unparsed {status : ℕ} : status ∈ bodyParserStatuses → x.call = none →
      Because codes c x (.unparsed (sendProblemDetails (unparsedProblem status)))
  | rejected {rejection : Rejection} :
      dispatch d.guard x.now x.request = .error rejection → x.call = none →
      Because codes c x (.rejected rejection)
  | completed {rpc : Rpc} {i : ℕ} {outcome : Except Failure Response} :
      x.call = some rpc → x.execution = some i →
      c.threads i = some ⟨rpc.request, .ofExcept outcome⟩ →
      Because codes c x (.completed x.request.route outcome)
  | gaveUp {rpc : Rpc} {error : RpcException} :
      x.call = some rpc → error.code ∈ codes → Because codes c x (.failed error)

/-- What holds of request `k`. -/
structure Exchange.Kept (codes : List GrpcStatus) (s : Service d) (x : Exchange) : Prop where
  called : ∀ rpc, x.call = some rpc → dispatch d.guard x.now x.request = .ok rpc
  served : ∀ i, x.execution = some i → ∃ rpc program, x.call = some rpc ∧
    s.backend.identity.threads i = some ⟨rpc.request, program⟩
  because : ∀ reply, x.reply = some reply → x.Because codes s.backend.identity reply

/-- Every request, and no two served by one execution. -/
structure Service.Kept (codes : List GrpcStatus) (s : Service d) : Prop where
  each : ∀ k x, s.exchanges k = some x → x.Kept codes s
  distinct : ∀ k k' x x' i, s.exchanges k = some x → s.exchanges k' = some x' →
    x.execution = some i → x'.execution = some i → k = k'

theorem ofExcept_completed (outcome : Except Failure Response) :
    (Program.ofExcept outcome : UseCase Response).Completed := by
  cases outcome <;> trivial

/-- Whatever the services behind it do, a request that is not touched is as it was. -/
theorem Exchange.Kept.later {x : Exchange} (h : x.Kept codes s) {action : Backend.Action}
    (hstep : s.backend.Step action s'.backend) : x.Kept codes s' := by
  rcases hstep.kept with ⟨-, hthreads⟩
  refine ⟨h.called, ?_, ?_⟩
  · intro i hi
    rcases h.served i hi with ⟨rpc, program, hcall, hthread⟩
    rcases hthreads i _ hthread with ⟨⟨request, program'⟩, hthread', hrequest, -⟩
    cases hrequest
    exact ⟨rpc, program', hcall, hthread'⟩
  · intro reply hreply
    cases h.because reply hreply with
    | unparsed hstatus hnone => exact .unparsed hstatus hnone
    | rejected hdispatch hnone => exact .rejected hdispatch hnone
    | gaveUp hcall hcode => exact .gaveUp hcall hcode
    | @completed rpc i outcome hcall hexecution hthread =>
      rcases hthreads i _ hthread with ⟨t', hthread', -, hsame⟩
      rw [hsame (ofExcept_completed outcome)] at hthread'
      exact .completed hcall hexecution hthread'

/-- A step that records request `k`, with an execution only it has. -/
theorem Service.Kept.record (h : s.Kept codes) {k : ℕ} {x : Exchange}
    (hx : x.Kept codes (s.record k x))
    (hfresh : ∀ k' x' i, s.exchanges k' = some x' → x'.execution = some i →
      x.execution = some i → k' = k) : (s.record k x).Kept codes := by
  constructor
  · intro k' x' hx'
    by_cases hk : k' = k
    · rw [hk, Service.record_self] at hx'
      cases hx'
      exact hx
    · rw [Service.record_of_ne _ hk] at hx'
      rcases h.each k' x' hx' with ⟨hcalled, hserved, hbecause⟩
      exact ⟨hcalled, hserved, hbecause⟩
  · intro k₁ k₂ x₁ x₂ i h₁ h₂ hi₁ hi₂
    by_cases hk₁ : k₁ = k <;> by_cases hk₂ : k₂ = k
    · rw [hk₁, hk₂]
    · rw [hk₁, Service.record_self] at h₁
      rw [Service.record_of_ne _ hk₂] at h₂
      cases h₁
      exact hk₁.trans (hfresh k₂ x₂ i h₂ hi₂ hi₁).symm
    · rw [hk₂, Service.record_self] at h₂
      rw [Service.record_of_ne _ hk₁] at h₁
      cases h₂
      exact (hfresh k₁ x₁ i h₁ hi₁ hi₂).trans hk₂.symm
    · rw [Service.record_of_ne _ hk₁] at h₁
      rw [Service.record_of_ne _ hk₂] at h₂
      exact h.distinct k₁ k₂ x₁ x₂ i h₁ h₂ hi₁ hi₂

/-- A request that comes in. -/
theorem Service.Kept.received (h : s.Kept codes) {k : ℕ} {x : Exchange}
    (hcalled : ∀ rpc, x.call = some rpc → dispatch d.guard x.now x.request = .ok rpc)
    (hexecution : x.execution = none)
    (hbecause : ∀ reply, x.reply = some reply → x.Because codes s.backend.identity reply) :
    (s.record k x).Kept codes := by
  apply h.record
  · refine ⟨hcalled, fun i hi => ?_, hbecause⟩
    rw [hexecution] at hi
    cases hi
  · intro k' x' i _ _ hi
    rw [hexecution] at hi
    cases hi

/-- A request that is answered. -/
theorem Service.Kept.replied (h : s.Kept codes) {k : ℕ} {x : Exchange}
    (hx : s.exchanges k = some x) {reply : Reply}
    (hbecause : { x with reply := some reply }.Because codes s.backend.identity reply) :
    (s.record k { x with reply := some reply }).Kept codes := by
  have hkept := h.each k x hx
  apply h.record
  · refine ⟨hkept.called, hkept.served, fun reply' hreply => ?_⟩
    cases hreply
    exact hbecause
  · intro k' x' i hx' hi' hi
    exact h.distinct k' k x' x i hx' hx hi' hi

/-- A call that gets there. -/
theorem Service.Kept.delivered (h : s.Kept codes) {k i : ℕ} {x : Exchange} {b : Backend d}
    (hx : s.exchanges k = some x) (hcall : x.call ≠ none) (hnone : x.execution = none)
    (hforward : s.backend.Step (.forward i x.request x.now) b) :
    ({ s with backend := b }.record k { x with execution := some i }).Kept codes := by
  have hlater : ({ s with backend := b } : Service d).Kept codes :=
    ⟨fun k' x' hx' => (h.each k' x' hx').later hforward, h.distinct⟩
  have hkept := hlater.each k x hx
  cases hforward with
  | @forward _ _ _ rpc c hdispatch hstart =>
  apply hlater.record
  · refine ⟨hkept.called, ?_, ?_⟩
    · intro i' hi'
      cases hi'
      rcases Option.ne_none_iff_exists'.mp hcall with ⟨rpc', hrpc'⟩
      have hsame := hkept.called rpc' hrpc'
      rw [hdispatch] at hsame
      cases hsame
      cases hstart
      exact ⟨rpc, _, hrpc', Function.update_self _ _ _⟩
    · intro reply hreply
      cases hkept.because reply hreply with
      | unparsed _ hno => exact absurd hno hcall
      | rejected hdispatch' hno => exact absurd hno hcall
      | gaveUp hsome hcode => exact .gaveUp hsome hcode
      | completed _ hi _ =>
        rw [hnone] at hi
        cases hi
  · -- the execution is a new one
    intro k' x' i' hx' hi' heq
    cases heq
    rcases (h.each k' x' hx').served i hi' with ⟨rpc', program, -, hthread⟩
    cases hstart with
    | start _ _ hfree =>
      rw [hfree] at hthread
      cases hthread

/-- Every step keeps them. -/
theorem Service.Kept.step (h : s.Kept codes) {action : Service.Action}
    (hcodes : Service.Over codes s action) (hstep : s.Step action s') : s'.Kept codes := by
  cases hstep with
  | unparsed hnone hbody hparser hresponse =>
    rw [unparsed_response hparser] at hresponse
    cases hresponse
    refine h.received (fun rpc hno => ?_) rfl fun reply hreply => ?_
    · cases hno
    · cases hreply
      exact .unparsed hparser.known rfl
  | reject hnone hdispatch =>
    refine h.received (fun rpc hno => ?_) rfl fun reply hreply => ?_
    · cases hno
    · cases hreply
      exact .rejected hdispatch rfl
  | call hnone hdispatch =>
    refine h.received (fun rpc hrpc => ?_) rfl fun reply hno => ?_
    · cases hrpc
      exact hdispatch
    · cases hno
  | deliver hx hcall hnone hforward => exact h.delivered hx hcall hnone hforward
  | identity hmove => exact ⟨fun k' x' hx' => (h.each k' x' hx').later hmove, h.distinct⟩
  | @complete k i x request outcome hx hi hnone hthread =>
    rcases (h.each k x hx).served i hi with ⟨rpc, program, hcall, hthread'⟩
    rw [hthread] at hthread'
    cases hthread'
    exact h.replied hx (.completed hcall hi hthread)
  | @giveUp k x grpc failure problem hx hcall hnone hcode hproblem =>
    rw [toProblemDetails_caught] at hproblem
    cases hproblem
    rcases Option.ne_none_iff_exists'.mp hcall with ⟨rpc, hrpc⟩
    exact h.replied hx (.gaveUp hrpc (hcodes k _ rfl))

theorem Service.kept_of_runs (h : Service.RunsUnder (Service.Over codes) (.initial accounts) s) :
    s.Kept codes := by
  induction h with
  | refl =>
    constructor
    · intro k x hx
      cases hx
    · intro k k' x x' i hx
      cases hx
  | tail _ hstep ih =>
    rcases hstep with ⟨action, hcodes, hstep⟩
    exact ih.step hcodes hstep

/-! ## Playing requests -/

namespace Service

/-- What the scheduler does next. -/
inductive Move where
  | receive (k : ℕ) (request : HttpRequest) (now : Date)
  | unparsed (k : ℕ) (route : Route) (now : Date) (status : ℕ)
  | deliver (k i : ℕ)
  | answer (i : ℕ) (draw : Draw)
  | complete (k : ℕ)
  | giveUp (k : ℕ) (code : GrpcStatus)

/-- A failure without details and metadata. -/
def unanswering (code : GrpcStatus) : GrpcFailure referenceMetadata := ⟨code, [], none⟩

/-- One move, and what it did. -/
def attempt (s : Service d) : Move → Option (Service d × Action)
  | .receive k request now =>
    match s.exchanges k, dispatch d.guard now request with
    | none, .ok rpc =>
      some (s.record k ⟨request, now, some rpc, none, none⟩, .receive k request now)
    | none, .error rejection =>
      some (s.record k ⟨request, now, none, none, some (.rejected rejection)⟩,
        .receive k request now)
    | some _, _ => none
  | .unparsed k route now status =>
    let request : HttpRequest := ⟨route, none, none, none⟩
    match s.exchanges k with
    | none =>
      if status ∈ bodyParserStatuses then
        some (s.record k ⟨request, now, none, none,
          some (.unparsed (sendProblemDetails (unparsedProblem status)))⟩, .receive k request now)
      else none
    | some _ => none
  | .deliver k i =>
    match s.exchanges k with
    | some ⟨request, now, some rpc, none, reply⟩ =>
      (Backend.attempt s.backend (.forward i request now)).map fun (b, _) =>
        ({ s with backend := b }.record k ⟨request, now, some rpc, some i, reply⟩, .deliver k i)
    | _ => none
  | .answer i draw =>
    match Backend.attempt s.backend (.answer i draw) with
    | some (b, .identity e) => some ({ s with backend := b }, .identity e)
    | _ => none
  | .complete k =>
    match s.exchanges k with
    | some ⟨request, now, call, some i, none⟩ =>
      match s.backend.identity.threads i with
      | some t => (outcome t.program).map fun out =>
        (s.record k ⟨request, now, call, some i, some (.completed request.route out)⟩, .complete k)
      | none => none
    | _ => none
  | .giveUp k code =>
    match s.exchanges k with
    | some ⟨request, now, some rpc, execution, none⟩ =>
      if code = .deadlineExceeded ∨ code = .unavailable then
        some (s.record k ⟨request, now, some rpc, execution, some (.failed (noAnswer code))⟩,
          .giveUp k (noAnswer code))
      else none
    | _ => none

/-- Whoever sends a bearer token has copied one that was issued. -/
def copied (s : Service d) : Action → Bool
  | .receive k request now => Backend.copied s.backend (.forward k request now)
  | .identity e => Backend.copied s.backend (.identity e)
  | _ => true

theorem outcome_ofExcept {program : UseCase Response} {out : Except Failure Response}
    (h : outcome program = some out) : program = .ofExcept out := by
  cases program <;> cases h <;> rfl

theorem attempt_step {move : Move} {next : Service d × Action} (h : attempt s move = some next) :
    Step s next.2 next.1 := by
  cases move with
  | receive k request now =>
    simp only [attempt] at h
    split at h
    · rename_i hnone hdispatch
      cases h
      exact .call hnone hdispatch
    · rename_i hnone hdispatch
      cases h
      exact .reject hnone hdispatch
    · cases h
  | unparsed k route now status =>
    simp only [attempt] at h
    split at h
    · rename_i hnone
      split at h
      · rename_i hstatus
        cases h
        have hparser := fromBodyParser_parserError hstatus
        exact .unparsed hnone rfl hparser (unparsed_response hparser)
      · cases h
    · cases h
  | deliver k i =>
    simp only [attempt] at h
    split at h
    · rename_i request now rpc reply hx
      rcases Option.map_eq_some_iff.mp h with ⟨⟨b, action⟩, hforward, heq⟩
      cases heq
      have hstep := Backend.attempt_step hforward
      have hsame : action = .forward i request now := by
        simp only [Backend.attempt] at hforward
        split at hforward
        · rcases Option.map_eq_some_iff.mp hforward with ⟨played, -, heq⟩
          exact (congrArg Prod.snd heq).symm
        · cases hforward
      rw [hsame] at hstep
      exact .deliver hx (Option.some_ne_none _) rfl hstep
    · cases h
  | answer i draw =>
    simp only [attempt] at h
    split at h
    · rename_i b e hmove
      cases h
      exact .identity (Backend.attempt_step hmove)
    · cases h
  | complete k =>
    simp only [attempt] at h
    split at h
    · rename_i request now call i hx
      split at h
      · rename_i t ht
        rcases Option.map_eq_some_iff.mp h with ⟨out, hout, heq⟩
        cases heq
        cases t with
        | mk served program =>
          obtain rfl := outcome_ofExcept hout
          exact .complete hx rfl rfl ht
      · cases h
    · cases h
  | giveUp k code =>
    simp only [attempt] at h
    split at h
    · rename_i request now rpc execution hx
      split at h
      · rename_i hcode
        cases h
        have hfrom : code ∈ transportCodes := by
          rcases hcode with rfl | rfl <;> decide
        have hproblem := toProblemDetails_caught d.node (unanswering code)
        exact .giveUp hx (Option.some_ne_none _) rfl hfrom hproblem
      · cases h
    · cases h

/-- Copying forges nothing. -/
theorem assumed_of_copied {action : Action} (h : copied s action = true) : Assumed s action := by
  constructor
  · rintro k request now token rfl hbearer
    have hcopied : Backend.copied s.backend (.forward k request now) = true := h
    exact (Backend.assumed_of_copied hcopied).unforged k request now token rfl hbearer
  · rintro i now rfl
    have hcopied : Backend.copied s.backend (.identity (.returned i .now now)) = true := h
    exact (Backend.assumed_of_copied hcopied).dates i now rfl

/-- What is played is a run. -/
theorem play_reaches {moves : List Move} (h : Schedule.play attempt copied s moves = some s') :
    Reaches s s' :=
  Schedule.play_reaches attempt_step (fun _ _ => assumed_of_copied) h

end Service

end XClone.Gateway
