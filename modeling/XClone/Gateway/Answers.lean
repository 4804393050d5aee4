import XClone.Gateway.Controllers
import XClone.Identity.UseCases
import XClone.Js.IsoDate

/-!
# XClone.Gateway.Answers — what a request is answered

The way back: `IdentityGrpcController` makes a message of what its use case returned, with
its dates as text, and the Gateway's handlers make their JSON of the message, field by
field. A failure comes back as a problem.
-/

namespace XClone.Identity

open Js

/-! ## Messages of Identity -/

/-- `RegisterResponse`. -/
structure RegisterResponse where
  id : JsString
  handle : JsString
  displayName : JsString
  createdAt : JsString
deriving DecidableEq

/-- `IssuedTokens`, on the wire. -/
structure IssuedTokensMessage where
  accessToken : JsString
  refreshToken : JsString
  accessTokenExpiresAt : JsString
  refreshTokenExpiresAt : JsString
  userId : JsString
deriving DecidableEq

/-- `Profile`, on the wire. -/
structure ProfileMessage where
  id : JsString
  handle : JsString
  displayName : JsString
  bio : JsString
  createdAt : JsString
deriving DecidableEq

inductive Message where
  | registered (message : RegisterResponse)
  | issued (message : IssuedTokensMessage)
  | profile (message : ProfileMessage)
deriving DecidableEq

/-- The message of `IdentityGrpcController.register`. -/
def toRegisterResponse (user : User) : Option RegisterResponse := do
  let createdAt ← toISOString user.createdAt
  some { id := user.id, handle := user.handle, displayName := user.displayName, createdAt }

/-- `toIssuedTokensMessage(tokens)`. -/
def toIssuedTokensMessage (tokens : IssuedTokens) : Option IssuedTokensMessage := do
  let accessTokenExpiresAt ← toISOString tokens.accessTokenExpiresAt
  let refreshTokenExpiresAt ← toISOString tokens.refreshTokenExpiresAt
  some
    { accessToken := tokens.accessToken, refreshToken := tokens.refreshToken
      accessTokenExpiresAt, refreshTokenExpiresAt, userId := tokens.userId }

/-- `toProfileMessage(profile)`. -/
def toProfileMessage (profile : Profile) : Option ProfileMessage := do
  let createdAt ← toISOString profile.createdAt
  some
    { id := profile.id, handle := profile.handle, displayName := profile.displayName
      bio := profile.bio, createdAt }

/-- What the controller returns; `none` is the `RangeError` of a date without a text. -/
def Response.toMessage : Response → Option Message
  | .user account => Message.registered <$> toRegisterResponse account
  | .tokens issued => Message.issued <$> toIssuedTokensMessage issued
  | .profile found => Message.profile <$> toProfileMessage found

end XClone.Identity

namespace XClone.Gateway

open Js Identity

/-! ## Answers of the Gateway -/

/-- `RegisteredAccount`. -/
def toRegisteredAccount (account : RegisterResponse) : Record :=
  [(js "id", .str account.id), (js "handle", .str account.handle),
    (js "displayName", .str account.displayName), (js "createdAt", .str account.createdAt)]

/-- `toIssuedTokens(tokens)`. -/
def toIssuedTokens (tokens : IssuedTokensMessage) : Record :=
  [(js "accessToken", .str tokens.accessToken),
    (js "accessTokenExpiresAt", .str tokens.accessTokenExpiresAt),
    (js "refreshToken", .str tokens.refreshToken),
    (js "refreshTokenExpiresAt", .str tokens.refreshTokenExpiresAt),
    (js "userId", .str tokens.userId)]

/-- `toPublicProfile(profile)`. -/
def toPublicProfile (profile : ProfileMessage) : Record :=
  [(js "id", .str profile.id), (js "handle", .str profile.handle),
    (js "displayName", .str profile.displayName), (js "bio", .str profile.bio),
    (js "createdAt", .str profile.createdAt)]

/-- The JSON of a handler. -/
def jsonOf : Message → Record
  | .registered message => toRegisteredAccount message
  | .issued message => toIssuedTokens message
  | .profile message => toPublicProfile message

/-- `@HttpCode` of the handlers; a GET is answered with 200. -/
def Route.httpCode : Route → ℕ
  | .register => 201
  | .login | .refresh | .profile _ | .updateOwnProfile => 200

/-- What a client is sent. -/
structure Reply where
  response : HttpResponse
  wwwAuthenticate : Option JsString

/-- A request the Gateway rejected by itself. -/
def Reply.rejected (rejection : Rejection) : Reply :=
  ⟨sendProblemDetails rejection.problem, rejection.wwwAuthenticate⟩

/-- A request whose body could not be parsed. -/
def Reply.unparsed (response : HttpResponse) : Reply := ⟨response, none⟩

/-- A problem the filter sends. -/
def Reply.problem (problem : ProblemDetails) : Reply := ⟨sendProblemDetails problem, none⟩

/-- A call that failed. -/
def Reply.failed (error : RpcException) : Reply := .problem (toProblemDetails error)

/-- The `RangeError` is an error the controller does not know. -/
def internalException : RpcException := ⟨.internal, js "internal error", none⟩

/-- A call that came back with what its use case ended with. -/
def Reply.completed (route : Route) : Except Failure Response → Reply
  | .error e => .failed (toRpcException e)
  | .ok response =>
    match response.toMessage with
    | none => .failed internalException
    | some message =>
      ⟨{ status := route.httpCode, contentType := js "application/json; charset=utf-8"
         body := jsonOf message }, none⟩

@[simp] theorem Reply.rejected_status (rejection : Rejection) :
    (Reply.rejected rejection).response.status = rejection.problem.status := rfl

@[simp] theorem Reply.failed_status (error : RpcException) :
    (Reply.failed error).response.status = (toProblemDetails error).status := rfl

end XClone.Gateway
