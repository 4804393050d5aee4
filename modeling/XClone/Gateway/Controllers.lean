import XClone.Gateway.AccessTokenGuard
import XClone.Js.Json

/-!
# XClone.Gateway.Controllers — the Gateway's routes

What the Gateway makes of an HTTP request before Identity is called: the body parsers,
`AuthController`, `UsersController`, and the guard of the one authenticated route. A
body is what Express's JSON parser made of it, `none` being `undefined`; `GET /health`
and paths without a handler call nothing and are left out.
-/

namespace XClone.Gateway

open Js Identity AccessToken

/-! ## Bodies -/

/-- `badRequest(detail, field)`. -/
def badRequest (detail : JsString) (field : Option JsString) : ProblemDetails :=
  { status := 400, title := reasonPhrase 400, detail := some detail, field }

/-- The fields of a body: not of `null`, of an array or of a scalar. -/
def bodyFields : Option Json → Option Record
  | some (.obj members) => some members
  | _ => none

/-- A field that has to be a string. -/
def requireString (value : Option Json) (field : JsString) : Except ProblemDetails JsString :=
  match value with
  | some (.str value) => .ok value
  | none => .error (badRequest (js "is required") field)
  | some _ => .error (badRequest (js "must be a string") field)

/-- A field that has to be a string where it is present. -/
def optionalString (value : Option Json) (field : JsString) :
    Except ProblemDetails (Option JsString) :=
  match value with
  | none => .ok none
  | some (.str value) => .ok (some value)
  | some _ => .error (badRequest (js "must be a string") field)

/-- `parseRegisterBody(body)`. -/
def parseRegisterBody (body : Option Json) : Except ProblemDetails RegisterRequest :=
  match bodyFields body with
  | none => .error (badRequest (js "expected a JSON object body") none)
  | some fields => do
    let handle ← requireString (fields.get (js "handle")) (js "handle")
    let password ← requireString (fields.get (js "password")) (js "password")
    return { handle, password }

/-- A login's handle and password. -/
structure LoginBody where
  handle : JsString
  password : JsString
deriving DecidableEq

/-- `parseLoginBody(body)`: one message for every malformed shape. -/
def parseLoginBody (body : Option Json) : Except ProblemDetails LoginBody :=
  let malformed :=
    Except.error (badRequest (js "expected a JSON object with a handle and a password") none)
  match bodyFields body with
  | none => malformed
  | some fields =>
    match fields.get (js "handle"), fields.get (js "password") with
    | some (.str handle), some (.str password) => .ok { handle, password }
    | _, _ => malformed

/-- `parseRefreshBody(body)`. -/
def parseRefreshBody (body : Option Json) : Except ProblemDetails RefreshRequest :=
  match bodyFields body with
  | none => .error (badRequest (js "expected a JSON object body") none)
  | some fields => do
    let refreshToken ← requireString (fields.get (js "refreshToken")) (js "refreshToken")
    return { refreshToken }

/-- What a PATCH asks for; an omitted field stays omitted. -/
structure UpdateProfileBody where
  displayName : Option JsString
  bio : Option JsString
deriving DecidableEq

/-- `parseUpdateProfileBody(body)`. -/
def parseUpdateProfileBody (body : Option Json) : Except ProblemDetails UpdateProfileBody :=
  match bodyFields body with
  | none => .error (badRequest (js "expected a JSON object body") none)
  | some fields => do
    let displayName ← optionalString (fields.get (js "displayName")) (js "displayName")
    let bio ← optionalString (fields.get (js "bio")) (js "bio")
    return { displayName, bio }

/-! ## Handlers -/

/-- `AuthController.register(body)`, up to its call. -/
def AuthController.register (body : Option Json) : Except ProblemDetails Rpc :=
  Rpc.register <$> parseRegisterBody body

/-- `AuthController.login(body, userAgent)`, up to its call. -/
def AuthController.login (body : Option Json) (userAgent : Option JsString) :
    Except ProblemDetails Rpc := do
  let credentials ← parseLoginBody body
  return .login
    { handle := credentials.handle, password := credentials.password
      userAgent := userAgent.getD [] }

/-- `AuthController.refresh(body)`, up to its call. -/
def AuthController.refresh (body : Option Json) : Except ProblemDetails Rpc :=
  Rpc.refresh <$> parseRefreshBody body

/-- `UsersController.profile(handle)`, up to its call. -/
def UsersController.profile (handle : JsString) : Rpc := .getProfile { handle }

/-- `UsersController.updateOwnProfile(principal, body)`, up to its call: the subject is
the principal's. -/
def UsersController.updateOwnProfile (principal : VerifiedAccessToken) (body : Option Json) :
    Except ProblemDetails Rpc := do
  let changes ← parseUpdateProfileBody body
  return .updateProfile
    { userId := principal.userId, displayName := changes.displayName, bio := changes.bio }

/-! ## Requests -/

/-- The handlers, by method and path. -/
inductive Route where
  /-- `POST /v1/auth/register` -/
  | register
  /-- `POST /v1/auth/login` -/
  | login
  /-- `POST /v1/auth/refresh` -/
  | refresh
  /-- `GET /v1/users/:handle` -/
  | profile (handle : JsString)
  /-- `PATCH /v1/users/me` -/
  | updateOwnProfile
deriving DecidableEq

/-- What the Gateway reads of an HTTP request. -/
structure HttpRequest where
  route : Route
  authorization : Option JsString
  userAgent : Option JsString
  body : Option Json

/-- A handler's own problem sets no header. -/
def rejecting {α : Type} : Except ProblemDetails α → Except Rejection α
  | .ok value => .ok value
  | .error problem => .error { problem, wwwAuthenticate := none }

/-- The call a request makes, or how it is rejected, with the clock at `now`. -/
def dispatch (guard : AccessTokenGuard) (now : Date) (request : HttpRequest) :
    Except Rejection Rpc :=
  match request.route with
  | .register => rejecting (AuthController.register request.body)
  | .login => rejecting (AuthController.login request.body request.userAgent)
  | .refresh => rejecting (AuthController.refresh request.body)
  | .profile handle => .ok (UsersController.profile handle)
  | .updateOwnProfile => do
    let principal ← guard.canActivate now request.authorization
    rejecting (UsersController.updateOwnProfile principal request.body)

theorem rejecting_ok {α : Type} {value : α} {result : Except ProblemDetails α}
    (h : rejecting result = .ok value) : result = .ok value := by
  cases result with
  | ok other =>
    cases h
    rfl
  | error problem => cases h

/-- Only the PATCH route updates a profile, and only its principal's. -/
theorem dispatch_updateProfile {guard : AccessTokenGuard} {now : Date} {request : HttpRequest}
    {data : UpdateProfileRequest} (h : dispatch guard now request = .ok (.updateProfile data)) :
    request.route = .updateOwnProfile ∧ ∃ principal,
      guard.canActivate now request.authorization = .ok principal ∧
        data.userId = principal.userId := by
  unfold dispatch at h
  split at h
  · -- register
    have hcall := rejecting_ok h
    unfold AuthController.register at hcall
    cases hbody : parseRegisterBody request.body <;> rw [hbody] at hcall <;> cases hcall
  · -- login
    have hcall := rejecting_ok h
    unfold AuthController.login at hcall
    cases hbody : parseLoginBody request.body <;> rw [hbody] at hcall <;> cases hcall
  · -- refresh
    have hcall := rejecting_ok h
    unfold AuthController.refresh at hcall
    cases hbody : parseRefreshBody request.body <;> rw [hbody] at hcall <;> cases hcall
  · cases h
  · -- the PATCH
    rename_i hroute
    refine ⟨hroute, ?_⟩
    cases hguard : guard.canActivate now request.authorization with
    | error rejection =>
      rw [hguard] at h
      cases h
    | ok principal =>
      rw [hguard] at h
      have hcall := rejecting_ok h
      unfold UsersController.updateOwnProfile at hcall
      cases hbody : parseUpdateProfileBody request.body with
      | error problem =>
        rw [hbody] at hcall
        cases hcall
      | ok changes =>
        rw [hbody] at hcall
        cases hcall
        exact ⟨principal, rfl, rfl⟩

end XClone.Gateway
