import XClone.Gateway.Service
import XClone.Identity.OperationPoints

/-!
# XClone.Gateway.Contract — every answer is a documented one

The public contract lists, for each route, how it answers: one success, its rejections,
and nothing of the Gateway's own inside a server error. Whatever requests are under way,
every answer keeps to it. That a PATCH is never answered with 404 is no fact about its
handler: the account of an accepted token has been registered, and accounts are not
deleted.
-/

namespace XClone.Gateway

open Js Interleaving Identity AccessToken

/-! ## What the contract says -/

/-- The members of a route's JSON. -/
def Route.members : Route → List JsString
  | .register => [js "id", js "handle", js "displayName", js "createdAt"]
  | .login | .refresh => [js "accessToken", js "accessTokenExpiresAt", js "refreshToken",
      js "refreshTokenExpiresAt", js "userId"]
  | .profile _ | .updateOwnProfile => [js "id", js "handle", js "displayName", js "bio",
      js "createdAt"]

/-- The rejections of a route. -/
def Route.rejections : Route → List ℕ
  | .register => [400, 409]
  | .login | .refresh => [400, 401]
  | .profile _ => [400, 404]
  | .updateOwnProfile => [400, 401]

/-- The statuses of a body that could not be parsed. -/
def unreadable : List ℕ := [400, 413, 415]

/-- The status of a call gRPC itself failed. -/
def statusOf (code : GrpcStatus) : ℕ := (httpStatus code).getD firstServerErrorStatus

/-- The statuses of a call that was not answered, where gRPC fails calls with these codes,
or by an error nobody expected. -/
def unanswered (codes : List GrpcStatus) : List ℕ := 500 :: codes.map statusOf

/-- With all of them: 401, 403, 429, 500, 503 and 504. -/
example : unanswered transportCodes = [500, 500, 500, 504, 403, 429, 500, 500, 503, 401] := by
  decide

/-- A problem a route may answer with: the title is that of its status; a server error says
nothing more; and it is one of the route's rejections, or what a body that could not be
parsed is told, whatever is in it, or the problem of a call that was not answered. -/
structure DocumentedProblem (codes : List GrpcStatus) (route : Route) (problem : ProblemDetails) :
    Prop where
  title : problem.title = reasonPhrase problem.status
  silent : firstServerErrorStatus ≤ problem.status → problem.detail = none ∧ problem.field = none
  listed : problem.status ∈ route.rejections ∨
    (problem.status ∈ unreadable ∧ problem = unparsedProblem problem.status) ∨
    problem.status ∈ unanswered codes

/-- The contract: success has the route's code and the members of its JSON, and anything
else is a documented problem; and nothing but the guard's 401 challenges, as every 401 to a
PATCH does that gRPC did not make. -/
structure Documented (codes : List GrpcStatus) (route : Route) (reply : Reply) : Prop where
  answer : (reply.response.status = route.httpCode ∧
      reply.response.body.map Prod.fst = route.members) ∨
    ∃ problem, reply.response = sendProblemDetails problem ∧ DocumentedProblem codes route problem
  bare : reply = .rejected unauthorized ∨ reply.wwwAuthenticate = none
  challenge : route = .updateOwnProfile → reply.response.status = 401 →
    reply.wwwAuthenticate = some (js "Bearer") ∨ .unauthenticated ∈ codes

/-! ## Requests the Gateway rejects -/

theorem requireString_error {value : Option Json} {field : JsString} {problem : ProblemDetails}
    (h : requireString value field = .error problem) :
    ∃ detail, problem = badRequest detail (some field) := by
  unfold requireString at h
  split at h <;> cases h
  · exact ⟨_, rfl⟩
  · exact ⟨_, rfl⟩

theorem optionalString_bad {value : Option Json} {field : JsString} {problem : ProblemDetails}
    (h : optionalString value field = .error problem) :
    ∃ detail, problem = badRequest detail (some field) := by
  unfold optionalString at h
  split at h <;> cases h
  exact ⟨_, rfl⟩

/-- A problem of a body: a 400 with a reason. -/
def IsBadRequest (problem : ProblemDetails) : Prop :=
  ∃ detail field, problem = badRequest detail field

theorem parseRegisterBody_error {body : Option Json} {problem : ProblemDetails}
    (h : parseRegisterBody body = .error problem) : IsBadRequest problem := by
  unfold parseRegisterBody at h
  split at h
  · cases h
    exact ⟨_, _, rfl⟩
  · rename_i fields hfields
    cases hhandle : requireString (fields.get (js "handle")) (js "handle") with
    | error other =>
      rw [hhandle] at h
      cases h
      rcases requireString_error hhandle with ⟨detail, heq⟩
      exact ⟨detail, _, heq⟩
    | ok handle =>
      cases hpassword : requireString (fields.get (js "password")) (js "password") with
      | error other =>
        rw [hhandle, hpassword] at h
        cases h
        rcases requireString_error hpassword with ⟨detail, heq⟩
        exact ⟨detail, _, heq⟩
      | ok password =>
        rw [hhandle, hpassword] at h
        cases h

theorem parseLoginBody_bad {body : Option Json} {problem : ProblemDetails}
    (h : parseLoginBody body = .error problem) : IsBadRequest problem := by
  unfold parseLoginBody at h
  split at h
  · cases h
    exact ⟨_, _, rfl⟩
  · dsimp only at h
    split at h <;> cases h
    exact ⟨_, _, rfl⟩

theorem parseRefreshBody_error {body : Option Json} {problem : ProblemDetails}
    (h : parseRefreshBody body = .error problem) : IsBadRequest problem := by
  unfold parseRefreshBody at h
  split at h
  · cases h
    exact ⟨_, _, rfl⟩
  · rename_i fields hfields
    cases htoken : requireString (fields.get (js "refreshToken")) (js "refreshToken") with
    | error other =>
      rw [htoken] at h
      cases h
      rcases requireString_error htoken with ⟨detail, heq⟩
      exact ⟨detail, _, heq⟩
    | ok token =>
      rw [htoken] at h
      cases h

theorem parseUpdateProfileBody_error {body : Option Json} {problem : ProblemDetails}
    (h : parseUpdateProfileBody body = .error problem) : IsBadRequest problem := by
  unfold parseUpdateProfileBody at h
  split at h
  · cases h
    exact ⟨_, _, rfl⟩
  · rename_i fields hfields
    cases hname : optionalString (fields.get (js "displayName")) (js "displayName") with
    | error other =>
      rw [hname] at h
      cases h
      rcases optionalString_bad hname with ⟨detail, heq⟩
      exact ⟨detail, _, heq⟩
    | ok displayName =>
      cases hbio : optionalString (fields.get (js "bio")) (js "bio") with
      | error other =>
        rw [hname, hbio] at h
        cases h
        rcases optionalString_bad hbio with ⟨detail, heq⟩
        exact ⟨detail, _, heq⟩
      | ok bio =>
        rw [hname, hbio] at h
        cases h

theorem rejecting_map {α β : Type} {f : α → β} {result : Except ProblemDetails α}
    {rejection : Rejection} (h : rejecting (f <$> result) = .error rejection) :
    ∃ problem, result = .error problem ∧ rejection = ⟨problem, none⟩ := by
  cases result with
  | ok value => cases h
  | error problem =>
    cases h
    exact ⟨problem, rfl, rfl⟩

theorem rejecting_bind {α β : Type} {f : α → β} {result : Except ProblemDetails α}
    {rejection : Rejection}
    (h : rejecting (result >>= fun value => pure (f value)) = .error rejection) :
    ∃ problem, result = .error problem ∧ rejection = ⟨problem, none⟩ := by
  cases result with
  | ok value => cases h
  | error problem =>
    cases h
    exact ⟨problem, rfl, rfl⟩

/-- The guard's 401, or a 400 that sets no header. -/
theorem dispatch_error {guard : AccessTokenGuard} {now : Date} {request : HttpRequest}
    {rejection : Rejection} (h : dispatch guard now request = .error rejection) :
    (request.route = .updateOwnProfile ∧ rejection = unauthorized) ∨
      ∃ problem, IsBadRequest problem ∧ rejection = ⟨problem, none⟩ := by
  unfold dispatch at h
  split at h
  · rcases rejecting_map h with ⟨problem, hbody, rfl⟩
    exact Or.inr ⟨problem, parseRegisterBody_error hbody, rfl⟩
  · rcases rejecting_bind h with ⟨problem, hbody, rfl⟩
    exact Or.inr ⟨problem, parseLoginBody_bad hbody, rfl⟩
  · rcases rejecting_map h with ⟨problem, hbody, rfl⟩
    exact Or.inr ⟨problem, parseRefreshBody_error hbody, rfl⟩
  · cases h
  · rename_i hroute
    cases hguard : guard.canActivate now request.authorization with
    | error other =>
      rw [hguard] at h
      cases h
      exact Or.inl ⟨hroute, AccessTokenGuard.canActivate_error hguard⟩
    | ok principal =>
      rw [hguard] at h
      rcases rejecting_bind h with ⟨problem, hbody, rfl⟩
      exact Or.inr ⟨problem, parseUpdateProfileBody_error hbody, rfl⟩

/-- The route of a call. -/
def Rpc.isOf : Rpc → Route → Prop
  | .register _, route => route = .register
  | .login _, route => route = .login
  | .refresh _, route => route = .refresh
  | .getProfile data, route => route = .profile data.handle
  | .updateProfile _, route => route = .updateOwnProfile

theorem dispatch_route {guard : AccessTokenGuard} {now : Date} {request : HttpRequest} {rpc : Rpc}
    (h : dispatch guard now request = .ok rpc) : Rpc.isOf rpc request.route := by
  unfold dispatch at h
  split at h
  · rename_i hroute
    have hcall := rejecting_ok h
    unfold AuthController.register at hcall
    cases hbody : parseRegisterBody request.body <;> rw [hbody] at hcall <;> cases hcall
    exact hroute
  · rename_i hroute
    have hcall := rejecting_ok h
    unfold AuthController.login at hcall
    cases hbody : parseLoginBody request.body <;> rw [hbody] at hcall <;> cases hcall
    exact hroute
  · rename_i hroute
    have hcall := rejecting_ok h
    unfold AuthController.refresh at hcall
    cases hbody : parseRefreshBody request.body <;> rw [hbody] at hcall <;> cases hcall
    exact hroute
  · rename_i handle hroute
    cases h
    exact hroute
  · rename_i hroute
    cases hguard : guard.canActivate now request.authorization with
    | error rejection =>
      rw [hguard] at h
      cases h
    | ok principal =>
      rw [hguard] at h
      have hcall := rejecting_ok h
      unfold UsersController.updateOwnProfile at hcall
      cases hbody : parseUpdateProfileBody request.body <;> rw [hbody] at hcall <;> cases hcall
      exact hroute

/-! ## No account is unknown to its own PATCH -/

variable {d : Deployment} {accounts : UserTables d.services.lower} {s s' : Service d}

/-- An update that broke no rule has not failed before its call. -/
theorem updateProfile_not_unknown (settings : Settings) (input : UpdateProfileInput) :
    execute settings (.updateProfile input) ≠ .failed (.profileNotFoundById input.userId) := by
  intro h
  rcases execute_checks settings (.updateProfile input) with ⟨e, hcheck, hfailed⟩ | ⟨-, call, next, hcall⟩
  · rw [hfailed] at h
    cases h
    simp only [Request.check] at hcheck
    cases hname : normalizeField normalizeDisplayName input.displayName with
    | error e =>
      rw [hname] at hcheck
      cases hcheck
      rcases normalizeField_error hname with ⟨given, -, hgiven⟩
      rcases normalizeDisplayName_error hgiven with ⟨reason, hno, -⟩
      cases hno
    | ok displayName =>
      cases hbio : normalizeField normalizeBio input.bio with
      | error e =>
        rw [hname, hbio] at hcheck
        cases hcheck
        rcases normalizeField_error hbio with ⟨given, -, hgiven⟩
        rcases normalizeBio_error hgiven with ⟨reason, hno, -⟩
        cases hno
      | ok bio =>
        rw [hname, hbio] at hcheck
        by_cases hempty : displayName = none ∧ bio = none
        · change (if displayName = none ∧ bio = none then _ else _) = _ at hcheck
          rw [if_pos hempty] at hcheck
          cases hcheck
        · change (if displayName = none ∧ bio = none then _ else _) = _ at hcheck
          rw [if_neg hempty] at hcheck
          cases hcheck
  · rw [hcall] at h
    cases h

/-- The account of an update that has started is registered. -/
theorem Backend.Traced.registered {b : Backend d} (h : b.Traced accounts) {i : ℕ}
    {input : UpdateProfileInput} {program : UseCase Response}
    (hthread : b.identity.threads i = some ⟨.updateProfile input, program⟩) :
    ∃ row ∈ b.identity.store.accounts.users.rows, row.id = input.userId := by
  rcases h.run.projected.went i _ hthread with ⟨events, hown, -⟩
  have hstart : .start i (.updateProfile input) ∈ (World.mk b.history b.identity.store).own i := by
    rw [hown]
    exact List.mem_cons_self
  rcases h.caused i input (World.mem_own.mp hstart).1 with ⟨cause, hcause⟩
  exact b.identity.store.accounts.credentialsUser _ hcause.stored

/-- No update has failed for want of its account. -/
def Backend.AllKnown (b : Backend d) : Prop :=
  ∀ i input, b.identity.threads i ≠
    some ⟨.updateProfile input, .failed (.profileNotFoundById input.userId)⟩

theorem Backend.Traced.all_known {b : Backend d} (h : b.Traced accounts) (hknown : b.AllKnown)
    {e : IdentityEvent} {c : IdentityConfig d.services}
    (hmove : Interleaving.Step (machine d.services) b.identity e c) :
    ∀ i input, c.threads i ≠
      some ⟨.updateProfile input, .failed (.profileNotFoundById input.userId)⟩ := by
  intro i input hfailed
  have kept {t : Thread Request PortCall Answer Failure Response} {j : ℕ} {store : Store d.services.lower}
      (hset : (b.identity.set store j t).threads i =
        some ⟨.updateProfile input, .failed (.profileNotFoundById input.userId)⟩) :
      i = j ∧ t = ⟨.updateProfile input, .failed (.profileNotFoundById input.userId)⟩ := by
    by_cases hij : i = j
    · rw [hij, Config.set_threads_self] at hset
      exact ⟨hij, Option.some.inj hset⟩
    · rw [Config.set_threads_of_ne _ _ hij] at hset
      exact absurd hset (hknown i input)
  cases hmove with
  | start j request hnone =>
    rcases kept hfailed with ⟨-, hthread⟩
    obtain rfl : request = .updateProfile input := congrArg Thread.request hthread
    exact updateProfile_not_unknown d.services.toSettings input (congrArg Thread.program hthread)
  | @threw j request call next e hcalling hthrows =>
    rcases kept hfailed with ⟨rfl, hthread⟩
    obtain rfl : request = .updateProfile input := congrArg Thread.request hthread
    have herror : Failure.profileNotFoundById input.userId = e := by
      cases hthread
      rfl
    rcases throws_cases hthrows with rfl | rfl | ⟨user, passwordHash, -, rfl⟩
    · cases herror
    · cases herror
    · cases herror
  | @returned j request call next r store hcalling hreturns =>
    rcases kept hfailed with ⟨rfl, hthread⟩
    obtain rfl : request = .updateProfile input := congrArg Thread.request hthread
    have hfound := h.registered hcalling
    rcases h.run.projected.went i _ hcalling with ⟨events, -, hwent⟩
    have hpath : Path i (execute d.services.toSettings (.updateProfile input)) events
      (.call call next) := hwent.calling
    rcases updateProfile_writes hpath with ⟨rfl, changes, -, rfl⟩
    -- its one call answers with the row it changed
    have hnext : next r = .failed (.profileNotFoundById input.userId) :=
      congrArg Thread.program hthread
    rcases updateProfile_cases d.services.toSettings input with ⟨e, hno, -⟩ | ⟨changes', -, hcall⟩
    · rw [hno] at hpath
      cases hpath
    · rw [hcall] at hpath
      cases hpath
      rcases hfound with ⟨row, hrow, hid⟩
      have hanswer := DrizzleProfileRepository.update_returned hreturns.2 hrow hid
      rw [hanswer] at hnext
      cases hnext

/-! ## Every answer -/

/-- Identity's invariant, no request with a forged token, and no update without its
account. -/
structure Service.Traced (accounts : UserTables d.services.lower) (s : Service d) : Prop where
  backend : s.backend.Traced accounts
  unforged : ∀ k x token, s.exchanges k = some x →
    d.guard.readBearerToken x.request.authorization = some token →
    NotForged d.node d.secret (Backend.Signed d.node s.backend.history) token
  known : s.backend.AllKnown

/-- A step of the services behind the requests. -/
theorem Service.Traced.behind (h : s.Traced accounts) {action : Backend.Action} {b : Backend d}
    (hassumed : Backend.Assumed s.backend action) (hstep : s.backend.Step action b) :
    ({ s with backend := b } : Service d).Traced accounts := by
  refine ⟨h.backend.step hassumed hstep, ?_, ?_⟩
  · intro k x token hx hbearer
    exact signed_later hstep.kept.1 (h.unforged k x token hx hbearer)
  · cases hstep with
    | reject _ | lose _ => exact h.known
    | forward _ hmove => exact h.backend.all_known h.known hmove
    | identity _ hmove => exact h.backend.all_known h.known hmove

/-- A step that records what has come of request `k`. -/
theorem Service.Traced.record (h : s.Traced accounts) {k : ℕ} {x x' : Exchange}
    (hx : s.exchanges k = some x) (hrequest : x'.request = x.request) :
    (s.record k x').Traced accounts := by
  refine ⟨h.backend, ?_, h.known⟩
  intro k' x'' token hx'' hbearer
  by_cases hk : k' = k
  · rw [hk, Service.record_self] at hx''
    cases hx''
    rw [hrequest] at hbearer
    exact h.unforged k x token hx hbearer
  · rw [Service.record_of_ne _ hk] at hx''
    exact h.unforged k' x'' token hx'' hbearer

/-- A request that comes in. -/
theorem Service.Traced.received (h : s.Traced accounts) {k : ℕ} {request : HttpRequest} {now : Date}
    {x : Exchange} (hassumed : Service.Assumed s (.receive k request now)) (hx : x.request = request) :
    (s.record k x).Traced accounts := by
  refine ⟨h.backend, ?_, h.known⟩
  intro k' x' token hx' hbearer
  by_cases hk : k' = k
  · rw [hk, Service.record_self] at hx'
    cases hx'
    rw [hx] at hbearer
    exact hassumed.unforged k request now token rfl hbearer
  · rw [Service.record_of_ne _ hk] at hx'
    exact h.unforged k' x' token hx' hbearer

theorem Service.Traced.step (h : s.Traced accounts) {action : Service.Action}
    (hassumed : Service.Assumed s action) (hstep : s.Step action s') : s'.Traced accounts := by
  cases hstep with
  | unparsed _ _ _ _ | reject _ _ | call _ _ => exact h.received hassumed rfl
  | complete hx _ _ _ => exact h.record hx rfl
  | giveUp hx _ _ _ _ => exact h.record hx rfl
  | @deliver k i x b hx _ _ hforward =>
    have hforge : Backend.Assumed s.backend (.forward i x.request x.now) := by
      constructor
      · intro i' request now token heq hbearer
        cases heq
        exact h.unforged k x token hx hbearer
      · intro i' now hno
        cases hno
    exact (h.behind hforge hforward).record hx rfl
  | @identity e b hmove =>
    have hdates : Backend.Assumed s.backend (.identity e) := by
      constructor
      · intro i request now token hno
        cases hno
      · intro i now heq
        cases heq
        exact hassumed.dates i now rfl
    exact h.behind hdates hmove

theorem Service.Reaches.traced (h : Service.Reaches (.initial accounts) s) : s.Traced accounts := by
  induction h with
  | refl =>
    refine ⟨Backend.Traced.reached .refl, ?_, ?_⟩
    · intro k x token hx
      cases hx
    · intro i input hthread
      cases hthread
  | tail _ hstep ih =>
    rcases hstep with ⟨action, hassumed, hstep⟩
    exact ih.step hassumed hstep

/-- The problems `toProblemDetails` makes. -/
theorem toProblemDetails_titled (error : RpcException) :
    (toProblemDetails error).title = reasonPhrase (toProblemDetails error).status := by
  unfold toProblemDetails
  dsimp only
  split <;> rfl

/-- A failed call is a problem, and sets no header. -/
theorem documented_failed {codes : List GrpcStatus} {route : Route} {error : RpcException}
    (hstatus : (toProblemDetails error).status ∈ route.rejections ∨
      (toProblemDetails error).status ∈ unanswered codes)
    (hchallenge : route = .updateOwnProfile → (toProblemDetails error).status = 401 →
      .unauthenticated ∈ codes) : Documented codes route (.failed error) := by
  constructor
  · refine Or.inr ⟨_, rfl, toProblemDetails_titled error, toProblemDetails_bare, ?_⟩
    exact hstatus.imp_right Or.inr
  · exact Or.inr rfl
  · intro hroute hunauthorized
    exact Or.inr (hchallenge hroute hunauthorized)

/-- The status of a failed use case. -/
def failureStatus : Failure → ℕ
  | .domainValidation _ _ | .emptyProfileUpdate => 400
  | .invalidCredentials | .invalidRefreshToken => 401
  | .profileNotFoundByHandle _ | .profileNotFoundById _ => 404
  | .handleTaken _ => 409
  | .constraintViolation | .unavailable => 500

theorem toProblemDetails_failure (e : Failure) :
    (toProblemDetails (toRpcException e)).status = failureStatus e := by
  cases e <;> rfl

/-- What Identity rejects a call with is documented for its route, but for a PATCH of
nobody. -/
theorem documented_rejection {rpc : Rpc} {route : Route} (hroute : Rpc.isOf rpc route) {e : Failure}
    (h : RejectedWith rpc.request e) (hknown : ∀ userId, e ≠ .profileNotFoundById userId) :
    Documented codes route (.failed (toRpcException e)) := by
  have hstatus : failureStatus e ∈ route.rejections ∧ (route = .updateOwnProfile → failureStatus e ≠ 401) := by
    cases rpc with
    | register data =>
      obtain rfl : route = .register := hroute
      refine ⟨?_, nofun⟩
      cases h.rejection <;> simp [Route.rejections, failureStatus]
    | login data =>
      obtain rfl : route = .login := hroute
      refine ⟨?_, nofun⟩
      cases h.rejection <;> simp [Route.rejections, failureStatus]
    | refresh data =>
      obtain rfl : route = .refresh := hroute
      refine ⟨?_, nofun⟩
      cases h.rejection <;> simp [Route.rejections, failureStatus]
    | getProfile data =>
      obtain rfl : route = .profile data.handle := hroute
      refine ⟨?_, nofun⟩
      cases h.rejection <;> simp [Route.rejections, failureStatus]
    | updateProfile data =>
      obtain rfl : route = .updateOwnProfile := hroute
      cases h.rejection with
      | violation => simp [Route.rejections, failureStatus]
      | unknownId input => exact absurd rfl (hknown _)
      | empty input => simp [Route.rejections, failureStatus]
  rw [← toProblemDetails_failure] at hstatus
  exact documented_failed (Or.inl hstatus.1) fun hroute hno => absurd hno (hstatus.2 hroute)

/-- gRPC's own failures have the statuses of its codes. -/
theorem transport_status {codes : List GrpcStatus} {error : RpcException} (h : error.code ∈ codes) :
    (toProblemDetails error).status ∈ unanswered codes := by
  rw [toProblemDetails_status]
  exact List.mem_cons_of_mem _ (List.mem_map.mpr ⟨_, h, rfl⟩)

/-- Where one of them is a 401, gRPC makes some. -/
theorem mem_of_unauthorized {codes : List GrpcStatus} {error : RpcException}
    (h : error.code ∈ codes) (hstatus : (toProblemDetails error).status = 401) :
    .unauthenticated ∈ codes := by
  rw [toProblemDetails_unauthorized.mp hstatus] at h
  exact h

/-- A body that could not be parsed. -/
theorem documented_unparsed {codes : List GrpcStatus} {route : Route} {status : ℕ}
    (h : status ∈ bodyParserStatuses) :
    Documented codes route (.unparsed (Gateway.sendProblemDetails (unparsedProblem status))) := by
  have hlisted : ∀ status ∈ bodyParserStatuses, (status ∈ unreadable ∨ status = 500) ∧
      status ≠ 401 ∧ (firstServerErrorStatus ≤ status → middlewareDetails status = none) := by
    decide
  rcases hlisted status h with ⟨hstatus, hauthorized, hbare⟩
  constructor
  · refine Or.inr ⟨_, rfl, rfl, fun hserver => ⟨hbare hserver, rfl⟩, Or.inr ?_⟩
    rcases hstatus with hunreadable | rfl
    · exact Or.inl ⟨hunreadable, rfl⟩
    · exact Or.inr List.mem_cons_self
  · exact Or.inr rfl
  · intro _ hno
    exact absurd hno hauthorized

/-- A use case that failed otherwise is a 500. -/
theorem documented_internal {codes : List GrpcStatus} {route : Route} {error : RpcException}
    (h : (toProblemDetails error).status = 500) : Documented codes route (.failed error) := by
  refine documented_failed (Or.inr ?_) fun _ hno => ?_
  · rw [h]
    exact List.mem_cons_self
  · rw [h] at hno
    cases hno

/-- A call that came back with an answer: its members are those of the route. -/
theorem documented_message {rpc : Rpc} {route : Route} (hroute : Rpc.isOf rpc route)
    {response : Response} {i : ℕ} {τ : List IdentityEvent} {settings : Settings}
    (h : Path i (execute settings rpc.request) τ (.done response)) :
    Documented codes route (.completed route (.ok response)) := by
  unfold Reply.completed
  dsimp only
  split
  · exact documented_internal rfl
  · rename_i message hmessage
    constructor
    · left
      refine ⟨rfl, ?_⟩
      have hkind := execute_kind h
      cases rpc with
      | register data =>
        obtain rfl : route = .register := hroute
        rcases hkind with ⟨user, rfl⟩
        rcases Option.map_eq_some_iff.mp hmessage with ⟨account, -, rfl⟩
        rfl
      | login data =>
        obtain rfl : route = .login := hroute
        rcases hkind with ⟨tokens, rfl⟩
        rcases Option.map_eq_some_iff.mp hmessage with ⟨issued, -, rfl⟩
        rfl
      | refresh data =>
        obtain rfl : route = .refresh := hroute
        rcases hkind with ⟨tokens, rfl⟩
        rcases Option.map_eq_some_iff.mp hmessage with ⟨issued, -, rfl⟩
        rfl
      | getProfile data =>
        obtain rfl : route = .profile data.handle := hroute
        rcases hkind with ⟨profile, rfl⟩
        rcases Option.map_eq_some_iff.mp hmessage with ⟨found, -, rfl⟩
        rfl
      | updateProfile data =>
        obtain rfl : route = .updateOwnProfile := hroute
        rcases hkind with ⟨profile, rfl⟩
        rcases Option.map_eq_some_iff.mp hmessage with ⟨found, -, rfl⟩
        rfl
    · exact Or.inr rfl
    · rintro rfl hno
      cases hno

/-- Whatever is under way, and whichever calls fail: every answer is a documented one. -/
theorem answers_are_documented {codes : List GrpcStatus}
    (hreaches : Service.ReachesOver codes (.initial accounts) s) {k : ℕ} {x : Exchange}
    {reply : Reply} (hx : s.exchanges k = some x) (hreply : x.reply = some reply) :
    Documented codes x.request.route reply := by
  have htraced := hreaches.reaches.traced
  have hkept := (Service.kept_of_runs hreaches.runsOver).each k x hx
  cases hkept.because reply hreply with
  | unparsed hstatus hnone => exact documented_unparsed hstatus
  | @rejected rejection hdispatch hnone =>
    rcases dispatch_error hdispatch with ⟨hroute, rfl⟩ | ⟨problem, ⟨detail, field, rfl⟩, rfl⟩
    · rw [hroute]
      refine ⟨?_, Or.inl rfl, fun _ _ => Or.inl rfl⟩
      exact Or.inr ⟨_, rfl, rfl, fun hserver => absurd hserver (by decide), Or.inl (by decide)⟩
    · refine ⟨Or.inr ⟨_, rfl, rfl, fun hserver => ?_, Or.inl ?_⟩, Or.inr rfl, ?_⟩
      · have hclient : (500 : ℕ) ≤ 400 := hserver
        omega
      · show 400 ∈ x.request.route.rejections
        cases x.request.route <;> exact List.mem_cons_self
      · intro _ hno
        cases hno
  | gaveUp hcall hcode =>
    exact documented_failed (Or.inr (transport_status hcode)) fun _ hunauthorized =>
      mem_of_unauthorized hcode hunauthorized
  | @completed rpc i outcome hcall hexecution hthread =>
    have hroute := dispatch_route (hkept.called rpc hcall)
    cases outcome with
    | ok response =>
      rcases htraced.backend.run.did hthread with ⟨events, hdid⟩
      have hpath : Path i (execute d.services.toSettings rpc.request) events (.done response) :=
        hdid.went.done
      exact documented_message hroute hpath
    | error e =>
      rcases failed_with htraced.backend.run hthread with hrejected | rfl | rfl
      · apply documented_rejection hroute hrejected
        rintro userId rfl
        -- only a PATCH could be answered so, and its account is known
        have hrejection := hrejected.rejection
        generalize hrequest : rpc.request = request at hrejection hthread
        cases hrejection with
        | unknownId input => exact htraced.known i input hthread
      · exact documented_internal rfl
      · exact documented_internal rfl

/-- `sam` logs in, and renames the account with the token of that login. -/
def sampleRename : List Service.Move :=
  [.receive 0
      { route := .login, authorization := none, userAgent := none
        body := some (.obj [(js "handle", .str (js "SAM")),
          (js "password", .str (js "correct horse 1"))]) } 1767225600000,
    .deliver 0 0, .answer 0 .none, .answer 0 .none, .answer 0 (.at 1767225600123), .answer 0 (.id 9),
    .answer 0 (.text (js "opaque-1")), .answer 0 (.id 10), .answer 0 .none, .answer 0 .none,
    .complete 0,
    .receive 1
      { route := .updateOwnProfile, authorization := some (js "bearer " ++ sampleToken)
        userAgent := none, body := some (.obj [(js "displayName", .str (js " Sam "))]) }
      1767226499999,
    .deliver 1 1, .answer 1 .none, .complete 1,
    .unparsed 2 .register 1767226499999 413]

theorem sampleRename_plays :
    (Schedule.play Service.attempt Service.copied (@Service.initial sampleDeployment sampleAccounts)
      sampleRename).isSome = true := by
  decide +kernel

/-- Both requests have been answered, and a third, whose body was too large. -/
def sampleRenamed : Service sampleDeployment := (Schedule.play _ _ _ _).get sampleRename_plays

/-- The PATCH is answered with 200 and the profile, and the body that is too large with
413. -/
theorem sample_rename_is_documented :
    (∃ x reply, sampleRenamed.exchanges 1 = some x ∧ x.reply = some reply ∧
      reply.response.status = 200 ∧ Documented transportCodes .updateOwnProfile reply) ∧
    ∃ x reply, sampleRenamed.exchanges 2 = some x ∧ x.reply = some reply ∧
      reply.response.status = 413 ∧ Documented transportCodes .register reply := by
  have hreaches : Service.Reaches (@Service.initial sampleDeployment sampleAccounts) sampleRenamed :=
    Service.play_reaches (Option.some_get sampleRename_plays).symm
  have documented {k : ℕ} {route : Route} {status : ℕ}
      (hanswered : (sampleRenamed.exchanges k).map (fun x =>
        (x.request.route, x.reply.map fun reply => reply.response.status)) =
          some (route, some status)) :
      ∃ x reply, sampleRenamed.exchanges k = some x ∧ x.reply = some reply ∧
        reply.response.status = status ∧ Documented transportCodes route reply := by
    rcases Option.map_eq_some_iff.mp hanswered with ⟨x, hx, heq⟩
    rcases Option.map_eq_some_iff.mp (congrArg Prod.snd heq) with ⟨reply, hreply, hstatus⟩
    have hroute : x.request.route = route := congrArg Prod.fst heq
    have hdocumented := answers_are_documented hreaches.over hx hreply
    rw [hroute] at hdocumented
    exact ⟨x, reply, hx, hreply, hstatus, hdocumented⟩
  constructor
  · apply documented
    decide +kernel
  · apply documented
    decide +kernel

end XClone.Gateway
