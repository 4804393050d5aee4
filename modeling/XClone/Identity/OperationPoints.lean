import XClone.Lib.Linearization
import XClone.Identity.DrawnIds
import XClone.Identity.Ledger

/-!
# XClone.Identity.OperationPoints — when a request is served

Of all the calls an execution makes there is one whose answer settles its outcome: the
insert that went through or found the handle taken, the lookup that found nothing, the
password that did not match, the rotation. That call is where the ledger serves the
request. A refresh that is rejected as a reuse goes on to revoke its session, which is an
operation of its own. Each operation goes by the clock reading of its own execution.
-/

namespace XClone.Identity

open Js Interleaving Program

/-! ## The points -/

/-- The request an execution was started with. -/
def requestOf (own : List IdentityEvent) : Option Request := own.head?.bind Event.started

/-- What the lookup of a refresh found. -/
def lookedUp : IdentityEvent → Option SessionWithToken
  | .returned _ (.findByTokenHash _) found => found
  | _ => none

/-- What it presented. -/
def foundIn (own : List IdentityEvent) : Option SessionWithToken := own.findSome? lookedUp

/-- The token the execution minted. -/
def mintedIn (own : List IdentityEvent) : Option RefreshToken := own.findSome? mintedToken

/-- What an execution read off the clock. -/
def clockReading : IdentityEvent → Option Date
  | .returned _ .now now => some now
  | _ => none

/-- The clock reading the execution goes by. -/
def readingIn (own : List IdentityEvent) : Option Date := own.findSome? clockReading

variable (services : Services)

/-- The outcome of a registration, at the event that settles it. -/
def registerOutcome (input : RegisterUserInput) : IdentityEvent → Option (Except Failure Response)
  | .returned _ (.existsByHandle _) taken =>
    if taken then some (.error (.handleTaken input.handle)) else none
  | .returned _ (.createUser user _) _ => some (.ok (.user user))
  | .threw _ (.createUser _ _) (.handleTaken handle) => some (.error (.handleTaken handle))
  | _ => none

/-- The outcome of a login. -/
def loginOutcome (own : List IdentityEvent) : IdentityEvent → Option (Except Failure Response)
  | .returned _ (.findCredentialsByHandle _) found =>
    if found = none then some (.error .invalidCredentials) else none
  | .returned _ (.verifyPassword _ _) verified =>
    if verified then none else some (.error .invalidCredentials)
  | .returned _ (.createSession session _) _ => (mintedIn own).map fun minted =>
    .ok (.tokens (pairOn services session minted.token session.createdAt))
  | _ => none

/-- The outcome of a lookup. -/
def profileOutcome (handle : JsString) : IdentityEvent → Option (Except Failure Response)
  | .returned _ (.findByHandle _) found =>
    some (found.elim (.error (.profileNotFoundByHandle handle)) fun profile =>
      .ok (.profile profile))
  | _ => none

/-- The outcome of an update. -/
def updateOutcome (input : UpdateProfileInput) : IdentityEvent → Option (Except Failure Response)
  | .returned _ (.updateProfile _ _) returned =>
    some (returned.elim (.error (.profileNotFoundById input.userId)) fun profile =>
      .ok (.profile profile))
  | _ => none

/-- The operations of a refresh: its request, the rejection of a reuse, the revocation. -/
def refreshOperation (own : List IdentityEvent) (input : RefreshSessionInput) :
    IdentityEvent → Option Operation
  | .returned _ (.findByTokenHash _) found =>
    found.elim (some (.serve (.refresh input) none (.error .invalidRefreshToken))) fun found =>
      -- a token that is not unspent is settled here
      if found.token.spentAt = none then none else some (.reuse input.refreshToken)
  | .returned _ .now now => (foundIn own).bind fun found =>
    if found.token.spentAt = none ∧ found.session.expiresAt ≤ now then
      some (.serve (.refresh input) (some now) (.error .invalidRefreshToken))
    else none
  | .returned _ (.rotate _ _ spentAt) rotated =>
    if rotated then (foundIn own).bind fun found => (mintedIn own).map fun minted =>
      .serve (.refresh input) (readingIn own)
        (.ok (.tokens (pairOn services found.session minted.token spentAt)))
    else some (.reuse input.refreshToken)
  | .returned _ (.revoke sessionId _) _ =>
    (readingIn own).map (.revoke input.refreshToken sessionId)
  | _ => none

/-- The outcome of any other request, where the event settles it. -/
def outcomeAt (own : List IdentityEvent) : Request → IdentityEvent → Option (Except Failure Response)
  | .register input, e => registerOutcome input e
  | .login _, e => loginOutcome services own e
  | .refresh _, _ => none
  | .getProfile handle, e => profileOutcome handle e
  | .updateProfile input, e => updateOutcome input e

/-- What an event of its execution is to a request. -/
def operationFor (own : List IdentityEvent) (e : IdentityEvent) : Request → Option Operation
  | .refresh input => refreshOperation services own input e
  | request => (outcomeAt services own request e).map (.serve request (readingIn own))

/-- A request that breaks a rule is settled when it arrives. -/
def invalidAt (request : Request) : Option Operation :=
  match request.check with
  | .error e => some (.serve request none (.error e))
  | .ok _ => none

/-- The operation of an event. -/
def point (own : List IdentityEvent) : IdentityEvent → Option Operation
  | .start _ request => invalidAt request
  | e => (requestOf own).bind (operationFor services own e)

/-- The calls whose answers settle nothing. -/
def PortCall.Settles : PortCall → Prop
  | .hashPassword _ | .createRefreshToken | .nextId | .issueAccessToken _ => False
  | _ => True

theorem point_unsettled {i : ℕ} {own : List IdentityEvent} {c : PortCall} {answer : Answer c}
    (h : ¬ c.Settles) : point services own (.returned i c answer) = none := by
  have hnone (request : Request) :
      operationFor services own (.returned i c answer) request = none := by
    cases c with
    | hashPassword | createRefreshToken | nextId | issueAccessToken => cases request <;> rfl
    | _ => exact absurd trivial h
  simp only [point, hnone, Option.bind_fun_none]

/-! ## The checks -/

variable {services} {settings : Settings}

/-- A request that breaks a rule fails at once, with what the check says; any other goes on
to its calls. -/
theorem execute_checks (settings : Settings) (request : Request) :
    (∃ e, request.check = .error e ∧ execute settings request = .failed e) ∨
      (request.check = .ok () ∧ ∃ call next, execute settings request = .call call next) := by
  cases request with
  | login input | refresh input => exact Or.inr ⟨rfl, _, _, rfl⟩
  | register input =>
    simp only [Request.check, execute, RegisterUser.execute]
    cases assertValidHandle input.handle with
    | error e => exact Or.inl ⟨e, rfl, rfl⟩
    | ok u =>
      cases assertValidPassword input.password with
      | error e => exact Or.inl ⟨e, rfl, rfl⟩
      | ok u' => exact Or.inr ⟨rfl, _, _, rfl⟩
  | getProfile handle =>
    simp only [Request.check, execute, GetProfile.execute]
    cases assertValidHandle handle with
    | error e => exact Or.inl ⟨e, rfl, rfl⟩
    | ok u => exact Or.inr ⟨rfl, _, _, rfl⟩
  | updateProfile input =>
    simp only [Request.check, execute, UpdateProfile.execute]
    cases normalizeField normalizeDisplayName input.displayName with
    | error e => exact Or.inl ⟨e, rfl, rfl⟩
    | ok displayName =>
      cases normalizeField normalizeBio input.bio with
      | error e => exact Or.inl ⟨e, rfl, rfl⟩
      | ok bio =>
        by_cases hempty : displayName = none ∧ bio = none
        · -- nothing to update
          refine Or.inl ⟨.emptyProfileUpdate, if_pos hempty, ?_⟩
          show Response.profile <$> (if displayName = none ∧ bio = none then
            Program.failed Failure.emptyProfileUpdate else _) = _
          rw [if_pos hempty]
          rfl
        · refine Or.inr ⟨if_neg hempty, ?_⟩
          show ∃ call next, Response.profile <$> (if displayName = none ∧ bio = none then
            Program.failed Failure.emptyProfileUpdate else _) = .call call next
          rw [if_neg hempty]
          exact ⟨_, _, rfl⟩

/-- An execution that has made a call, or is at one, has passed the check. -/
theorem check_of_path {request : Request} {i : ℕ} {τ : List IdentityEvent} {p : UseCase Response}
    (h : Path i (execute settings request) τ p) (hgoes : τ ≠ [] ∨ ¬ p.Completed) :
    request.check = .ok () := by
  rcases execute_checks settings request with ⟨e, -, hfailed⟩ | ⟨hcheck, -⟩
  · rw [hfailed] at h
    rcases h.of_completed trivial with ⟨rfl, rfl⟩
    rcases hgoes with hno | hno
    · exact absurd rfl hno
    · exact absurd trivial hno
  · exact hcheck

/-- A lookup of a valid handle is one call. -/
theorem execute_getProfile {handle : JsString} (h : assertValidHandle handle = .ok ()) :
    execute settings (.getProfile handle) = .call (.findByHandle handle) fun found =>
      found.elim (.failed (.profileNotFoundByHandle handle)) fun profile =>
        .done (.profile profile) := by
  simp only [execute, GetProfile.execute, h]
  refine congrArg (Program.call _) (funext fun found => ?_)
  cases found <;> rfl

/-! ## What an execution comes to -/

/-- The operations of an execution that was answered: its request was served, with its
answer; or it was a refresh whose token was of no use, and revoked the session of that token. -/
inductive Answered : Request → Except Failure Response → List Operation → Prop where
  | served (request : Request) (reading : Option Date) (outcome : Except Failure Response) :
      Answered request outcome [.serve request reading outcome]
  | reused (input : RefreshSessionInput) (sessionId : JsString) (revokedAt : Date) :
      Answered (.refresh input) (.error .invalidRefreshToken)
        [.reuse input.refreshToken, .revoke input.refreshToken sessionId revokedAt]

variable {i : ℕ} {events : List IdentityEvent}

/-- The request arrives, and breaks no rule. -/
theorem ownFrom_start {request : Request} (h : request.check = .ok ()) :
    ownFrom (point services) [] (.start i request :: events) =
      ownFrom (point services) [.start i request] events := by
  simp [ownFrom, point, invalidAt, h]

/-- Nothing happened: it broke one. -/
theorem answered_invalid {request : Request} {e : Failure}
    (h : execute services.toSettings request = .failed e) :
    Answered request (.error e) (ownFrom (point services) [] [.start i request]) := by
  rcases execute_checks services.toSettings request with ⟨e', hcheck, hfailed⟩ | ⟨-, call, next, hcall⟩
  · rw [hfailed] at h
    cases h
    have hown : ownFrom (point services) [] [.start i request] =
        [.serve request none (.error e)] := by
      simp [ownFrom, point, invalidAt, hcheck]
    rw [hown]
    exact .served _ _ _
  · rw [hcall] at h
    cases h

theorem answered_register {input : RegisterUserInput} {response : Response}
    (h : Path i (execute services.toSettings (.register input)) events (.done response)) :
    Answered (.register input) (.ok response)
      (ownFrom (point services) [] (.start i (.register input) :: events)) := by
  rcases register_done h with ⟨passwordHash, id, createdAt, rfl, -, rfl⟩
  rw [ownFrom_start (check_of_path h (Or.inl (List.cons_ne_nil _ _)))]
  exact .served _ _ _

theorem answered_taken {input : RegisterUserInput} {e : Failure}
    (h : Path i (execute services.toSettings (.register input)) events (.failed e)) :
    Answered (.register input) (.error e)
      (ownFrom (point services) [] (.start i (.register input) :: events)) := by
  rcases register_rejected h with ⟨rfl, -⟩ | ⟨rfl, rfl⟩
  · generalize hprogram : execute services.toSettings (.register input) = p at h
    cases h
    exact answered_invalid hprogram
  · rw [ownFrom_start (check_of_path h (Or.inl (List.cons_ne_nil _ _)))]
    exact .served _ _ _

/-- What a login had done when it opened its session settles its outcome. -/
theorem point_createSession {input : LoginInput} {session : Session}
    {firstToken : StoredRefreshToken} {next : Unit → UseCase Response}
    (h : Path i (execute services.toSettings (.login input)) events
      (.call (.createSession session firstToken) next)) :
    ∃ minted, .returned i .createRefreshToken minted ∈ events ∧
      firstToken.tokenHash = minted.hash ∧
      point services (.start i (.login input) :: events)
          (.returned i (.createSession session firstToken) ()) =
        some (.serve (.login input) (some session.createdAt)
          (.ok (.tokens (pairOn services session minted.token session.createdAt)))) := by
  rcases login_opens h with ⟨credentials, id, minted, tokenId, now, rfl, rfl, rfl⟩
  refine ⟨minted, by simp, rfl, ?_⟩
  rfl

/-- So does the lookup of a refresh, unless it finds an unspent token. -/
theorem point_find {input : RefreshSessionInput} {tokenHash : JsString} (found : SessionWithToken) :
    point services [.start i (.refresh input)]
        (.returned i (.findByTokenHash tokenHash) (some found)) =
      if found.token.spentAt = none then none else some (.reuse input.refreshToken) := rfl

/-- Its clock reading, if it comes too late. -/
theorem point_now {input : RefreshSessionInput} {found : SessionWithToken} (now : Date) :
    point services [.start i (.refresh input),
        .returned i (.findByTokenHash (services.hashRefreshToken input.refreshToken)) (some found)]
        (.returned i .now now) =
      if found.token.spentAt = none ∧ found.session.expiresAt ≤ now then
        some (.serve (.refresh input) (some now) (.error .invalidRefreshToken))
      else none := rfl

/-- And its rotation. -/
theorem point_rotate {input : RefreshSessionInput} {session : Session} {token next : StoredRefreshToken}
    {minted : RefreshToken} {id spentTokenId : JsString} {now spentAt : Date} (rotated : Bool) :
    point services [.start i (.refresh input),
        .returned i (.findByTokenHash (services.hashRefreshToken input.refreshToken))
          (some ⟨session, token⟩), .returned i .now now, .returned i .createRefreshToken minted,
        .returned i .nextId id] (.returned i (.rotate spentTokenId next spentAt) rotated) =
      some (if rotated then .serve (.refresh input) (some now)
          (.ok (.tokens (pairOn services session minted.token spentAt)))
        else .reuse input.refreshToken) := by
  cases rotated <;> rfl

/-- The access tokens of these events are the issuer's. -/
def Issues (services : Services) (events : List IdentityEvent) : Prop :=
  ∀ i claims token, .returned i (.issueAccessToken claims) token ∈ events →
    token = services.issue claims

theorem answered_login {input : LoginInput} {response : Response}
    (h : Path i (execute services.toSettings (.login input)) events (.done response))
    (hissues : Issues services events) :
    Answered (.login input) (.ok response)
      (ownFrom (point services) [] (.start i (.login input) :: events)) := by
  rcases login_done h with ⟨credentials, now, id, minted, tokenId, accessToken, rfl, rfl⟩
  let session := loginSession services.toSettings input credentials id now
  have htoken : accessToken = services.issue (accessClaims services.toSettings session now) :=
    hissues i _ _ (by simp [session])
  rw [htoken]
  exact .served _ _ _

/-- What a login found or compared was not what it needed. -/
theorem answered_notLoggedIn {input : LoginInput} {e : Failure}
    (h : Path i (execute services.toSettings (.login input)) events (.failed e)) :
    Answered (.login input) (.error e)
      (ownFrom (point services) [] (.start i (.login input) :: events)) := by
  rcases login_rejected h with ⟨rfl, ⟨hash, rfl⟩ | ⟨credentials, rfl⟩⟩
  · exact .served _ _ _
  · exact .served _ _ _

/-- The first two answers of a refresh, of an unspent token and in time, settle nothing. -/
theorem ownFrom_unspent {input : RefreshSessionInput} {session : Session}
    {token : StoredRefreshToken} {now : Date} (hunspent : token.spentAt = none)
    (hvalid : now < session.expiresAt) :
    ownFrom (point services) [] (.start i (.refresh input) ::
        .returned i (.findByTokenHash (services.hashRefreshToken input.refreshToken))
          (some ⟨session, token⟩) :: .returned i .now now :: events) =
      ownFrom (point services) [.start i (.refresh input),
        .returned i (.findByTokenHash (services.hashRefreshToken input.refreshToken))
          (some ⟨session, token⟩), .returned i .now now] events := by
  have hfind : point services [.start i (.refresh input)]
      (.returned i (.findByTokenHash (services.hashRefreshToken input.refreshToken))
        (some ⟨session, token⟩)) = none := by
    rw [point_find, if_pos hunspent]
  have hnow := @point_now services i input ⟨session, token⟩ now
  rw [if_neg (fun hboth => absurd hboth.2 (not_le.mpr hvalid))] at hnow
  rw [ownFrom_start rfl, ownFrom, hfind, Option.toList_none, List.nil_append, ownFrom,
    List.singleton_append, hnow]
  rfl

theorem answered_refresh {input : RefreshSessionInput} {response : Response}
    (h : Path i (execute services.toSettings (.refresh input)) events (.done response))
    (hissues : Issues services events) :
    Answered (.refresh input) (.ok response)
      (ownFrom (point services) [] (.start i (.refresh input) :: events)) := by
  rcases refresh_done h with
    ⟨session, token, now, minted, id, accessToken, rfl, hunspent, hvalid, rfl⟩
  have htoken : accessToken = services.issue (accessClaims services.toSettings session now) :=
    hissues i _ _ (by simp)
  rw [htoken, ownFrom_unspent hunspent hvalid]
  exact .served _ _ _

theorem answered_notRefreshed {input : RefreshSessionInput} {e : Failure}
    (h : Path i (execute services.toSettings (.refresh input)) events (.failed e)) :
    Answered (.refresh input) (.error e)
      (ownFrom (point services) [] (.start i (.refresh input) :: events)) := by
  rcases refresh_rejected h with ⟨rfl, hrejected⟩
  cases hrejected with
  | unknown => exact .served _ _ _
  | spent session token now hspent =>
    -- settled by the lookup, then revoked
    have hfind := @point_find services i input
      (services.hashRefreshToken input.refreshToken) ⟨session, token⟩
    rw [if_neg hspent] at hfind
    have hnow := @point_now services i input ⟨session, token⟩ now
    rw [if_neg (fun hboth => hspent hboth.1)] at hnow
    rw [ownFrom_start rfl, ownFrom, hfind, ownFrom, List.singleton_append, hnow]
    exact .reused input session.id now
  | expired session token now hunspent hexpired =>
    have hfind := @point_find services i input
      (services.hashRefreshToken input.refreshToken) ⟨session, token⟩
    rw [if_pos hunspent] at hfind
    have hnow := @point_now services i input ⟨session, token⟩ now
    rw [if_pos ⟨hunspent, hexpired⟩] at hnow
    rw [ownFrom_start rfl, ownFrom, hfind, ownFrom, List.singleton_append, hnow]
    exact .served _ _ _
  | notRotated session token now minted id hunspent hvalid =>
    rw [ownFrom_unspent hunspent hvalid]
    exact .reused input session.id now

theorem ofExcept_completed (value : Except Failure Response) :
    (ofExcept value : UseCase Response).Completed := by
  cases value <;> trivial

theorem ofExcept_injective {value value' : Except Failure Response}
    (h : (ofExcept value : UseCase Response) = ofExcept value') : value = value' := by
  cases value <;> cases value' <;> cases h <;> rfl

/-- An execution of one call, whose answer settles the outcome. -/
theorem answered_single {request : Request} {call : PortCall}
    {outcomeOf : Answer call → Except Failure Response} {outcome : Except Failure Response}
    (hexecute : execute services.toSettings request = .call call fun r => ofExcept (outcomeOf r))
    (hpoint : ∀ r, point services [.start i request] (.returned i call r) =
      some (.serve request none (outcomeOf r)))
    (h : Path i (execute services.toSettings request) events (ofExcept outcome)) :
    Answered request outcome (ownFrom (point services) [] (.start i request :: events)) := by
  have hcheck : request.check = .ok () := by
    rcases execute_checks services.toSettings request with ⟨e, -, hfailed⟩ | ⟨hcheck, -⟩
    · rw [hexecute] at hfailed
      cases hfailed
    · exact hcheck
  rw [hexecute] at h
  generalize hend : ofExcept outcome = p at h
  cases h with
  | nil => cases outcome <;> cases hend
  | returned r h₁ =>
    rcases h₁.of_completed (ofExcept_completed _) with ⟨rfl, rfl⟩
    have hsame : outcome = outcomeOf r := ofExcept_injective hend
    rw [ownFrom_start hcheck, ownFrom, hpoint, hsame]
    exact .served _ _ _

theorem answered_getProfile {handle : JsString} {outcome : Except Failure Response}
    (h : Path i (execute services.toSettings (.getProfile handle)) events (ofExcept outcome)) :
    Answered (.getProfile handle) outcome
      (ownFrom (point services) [] (.start i (.getProfile handle) :: events)) := by
  rcases execute_checks services.toSettings (.getProfile handle) with
    ⟨e, -, hfailed⟩ | ⟨hcheck, -⟩
  · rw [hfailed] at h
    rcases h.of_completed trivial with ⟨rfl, heq⟩
    cases outcome with
    | ok response => cases heq
    | error e' =>
      cases heq
      exact answered_invalid hfailed
  · let outcomeOf : Option Profile → Except Failure Response := fun found => found.elim
      (.error (.profileNotFoundByHandle handle)) fun profile => .ok (.profile profile)
    refine @answered_single services i events _ (.findByHandle handle) outcomeOf outcome ?_ ?_ h
    · rw [execute_getProfile hcheck]
      refine congrArg (Program.call _) (funext fun found => ?_)
      cases found <;> rfl
    · intro found
      rfl

theorem answered_updateProfile {input : UpdateProfileInput} {outcome : Except Failure Response}
    (h : Path i (execute services.toSettings (.updateProfile input)) events (ofExcept outcome)) :
    Answered (.updateProfile input) outcome
      (ownFrom (point services) [] (.start i (.updateProfile input) :: events)) := by
  rcases updateProfile_cases services.toSettings input with ⟨e, hfailed, -⟩ | ⟨changes, -, hcall⟩
  · rw [hfailed] at h
    rcases h.of_completed trivial with ⟨rfl, heq⟩
    cases outcome with
    | ok response => cases heq
    | error e' =>
      cases heq
      exact answered_invalid hfailed
  · let outcomeOf : Option Profile → Except Failure Response := fun returned => returned.elim
      (.error (.profileNotFoundById input.userId)) fun profile => .ok (.profile profile)
    refine @answered_single services i events _ (.updateProfile input.userId changes) outcomeOf
      outcome ?_ ?_ h
    · rw [hcall]
      refine congrArg (Program.call _) (funext fun returned => ?_)
      cases returned <;> rfl
    · intro returned
      rfl

/-- Whichever way an execution came to its end on its own. -/
theorem answered_of_path {request : Request} {outcome : Except Failure Response}
    (h : Path i (execute services.toSettings request) events (ofExcept outcome))
    (hissues : Issues services events) :
    Answered request outcome (ownFrom (point services) [] (.start i request :: events)) := by
  cases request with
  | getProfile handle => exact answered_getProfile h
  | updateProfile input => exact answered_updateProfile h
  | register input =>
    cases outcome with
    | ok response => exact answered_register h
    | error e => exact answered_taken h
  | login input =>
    cases outcome with
    | ok response => exact answered_login h hissues
    | error e => exact answered_notLoggedIn h
  | refresh input =>
    cases outcome with
    | ok response => exact answered_refresh h hissues
    | error e => exact answered_notRefreshed h

/-- Or because the insert of its account found the handle taken. -/
theorem answered_threw {request : Request} {user : User} {passwordHash handle : JsString}
    {next : Unit → UseCase Response}
    (h : Path i (execute services.toSettings request) events
      (.call (.createUser user passwordHash) next)) :
    Answered request (.error (.handleTaken handle)) (ownFrom (point services) []
      (.start i request :: (events ++ [.threw i (.createUser user passwordHash) (.handleTaken handle)]))) := by
  rcases execute_creates h with ⟨input, rfl⟩
  have hcheck := check_of_path h (Or.inr id)
  rcases register_creates h with ⟨id, createdAt, rfl, -, -⟩
  rw [ownFrom_start hcheck]
  exact .served _ _ _

/-! ## What it goes by -/

/-- The reading of an execution is one of its own. -/
theorem mem_of_readingIn {own : List IdentityEvent} {now : Date} (h : readingIn own = some now) :
    ∃ j, .returned j .now now ∈ own := by
  rcases List.exists_of_findSome?_eq_some h with ⟨e, he, hreading⟩
  unfold clockReading at hreading
  split at hreading <;> cases hreading
  exact ⟨_, he⟩

theorem reading_of_refresh {own : List IdentityEvent} {input : RefreshSessionInput}
    {e : IdentityEvent} {op : Operation} {now : Date}
    (h : refreshOperation services own input e = some op) (hreading : op.reading = some now) :
    readingIn own = some now ∨ ∃ j, e = .returned j .now now := by
  unfold refreshOperation at h
  split at h
  · -- its lookup goes by none
    rename_i j tokenHash found
    cases found with
    | none =>
      cases h
      cases hreading
    | some found =>
      change (if found.token.spentAt = none then _ else _) = _ at h
      split at h <;> cases h
      cases hreading
  · -- it comes too late by this one
    rename_i j now'
    rcases Option.bind_eq_some_iff.mp h with ⟨found, -, hop⟩
    split at hop <;> cases hop
    cases hreading
    exact Or.inr ⟨j, rfl⟩
  · -- its rotation
    split at h
    · rcases Option.bind_eq_some_iff.mp h with ⟨found, -, hop⟩
      rcases Option.map_eq_some_iff.mp hop with ⟨minted, -, rfl⟩
      exact Or.inl hreading
    · cases h
      cases hreading
  · rcases Option.map_eq_some_iff.mp h with ⟨revokedAt, hown, rfl⟩
    cases hreading
    exact Or.inl hown
  · cases h

/-- An operation of an execution goes by its own clock reading. -/
theorem reading_of_point {own : List IdentityEvent} {e : IdentityEvent} {op : Operation} {now : Date}
    (h : point services own e = some op) (hreading : op.reading = some now) :
    ∃ j, .returned j .now now ∈ own ++ [e] := by
  have old (hown : readingIn own = some now) : ∃ j, .returned j .now now ∈ own ++ [e] := by
    rcases mem_of_readingIn hown with ⟨j, hmem⟩
    exact ⟨j, List.mem_append_left _ hmem⟩
  unfold point at h
  split at h
  · -- a request that breaks a rule goes by none
    unfold invalidAt at h
    split at h <;> cases h
    cases hreading
  rcases Option.bind_eq_some_iff.mp h with ⟨request, -, hop⟩
  cases request with
  | register input | login input | getProfile handle | updateProfile input =>
    rcases Option.map_eq_some_iff.mp hop with ⟨outcome, -, rfl⟩
    exact old hreading
  | refresh input =>
    rcases reading_of_refresh hop hreading with hown | ⟨j, rfl⟩
    · exact old hown
    · exact ⟨j, List.mem_append_right _ (List.mem_singleton_self _)⟩

/-! ## What an execution may still come to -/

/-- Some answer to a call, the issuer's for an access token. -/
def someAnswer (services : Services) : (c : PortCall) → Answer c
  | .existsByHandle _ | .rotate _ _ _ | .verifyPassword _ _ => false
  | .createUser _ _ | .createSession _ _ | .revoke _ _ => ()
  | .findCredentialsByHandle _ | .findByTokenHash _ | .findByHandle _ | .updateProfile _ _ => none
  | .hashPassword _ | .nextId => []
  | .createRefreshToken => ⟨[], []⟩
  | .now => (0 : ℤ)
  | .issueAccessToken claims => services.issue claims

/-- A program can always be answered to its end. -/
theorem path_ends (services : Services) (i : ℕ) (p : UseCase Response) :
    ∃ τ outcome, Path i p τ (ofExcept outcome) ∧ Issues services τ := by
  induction p with
  | done response => exact ⟨[], .ok response, .nil _, fun _ _ _ h => absurd h List.not_mem_nil⟩
  | failed e => exact ⟨[], .error e, .nil _, fun _ _ _ h => absurd h List.not_mem_nil⟩
  | call c next ih =>
    rcases ih (someAnswer services c) with ⟨τ, outcome, hpath, hissues⟩
    refine ⟨_, outcome, .returned _ hpath, ?_⟩
    intro j claims token hmem
    rcases List.mem_cons.mp hmem with heq | hmem
    · cases heq
      rfl
    · exact hissues j claims token hmem

/-- An exception settles nothing but a taken handle. -/
theorem point_threw {own : List IdentityEvent} {call : PortCall} {e : Failure} :
    point services own (.threw i call e) = none ∨
      ∃ user passwordHash handle, call = .createUser user passwordHash ∧ e = .handleTaken handle := by
  by_cases htaken : ∃ user passwordHash handle, call = .createUser user passwordHash ∧
      e = .handleTaken handle
  · exact Or.inr htaken
  · left
    have hnone (request : Request) : operationFor services own (.threw i call e) request = none := by
      cases request with
      | register input =>
        cases call with
        | createUser user passwordHash =>
          cases e with
          | handleTaken handle => exact absurd ⟨user, passwordHash, handle, rfl, rfl⟩ htaken
          | _ => rfl
        | _ => rfl
      | login | refresh | getProfile | updateProfile => rfl
    simp only [point, hnone, Option.bind_fun_none]

/-- The operations of an execution begin those of one that was answered: one request is
served, once, and what is revoked is revoked after that. -/
theorem operations_begin {request : Request} {p : UseCase Response}
    (h : Went i (execute services.toSettings request) events p) (hissues : Issues services events) :
    ∃ outcome ops, Answered request outcome ops ∧
      ownFrom (point services) [] (.start i request :: events) <+: ops := by
  have going {events : List IdentityEvent} {p : UseCase Response}
      (hpath : Path i (execute services.toSettings request) events p)
      (hissues : Issues services events) : ∃ outcome ops, Answered request outcome ops ∧
        ownFrom (point services) [] (.start i request :: events) <+: ops := by
    rcases path_ends services i p with ⟨τ, outcome, hrest, hissues'⟩
    refine ⟨outcome, _, answered_of_path (hpath.append hrest) ?_, ?_⟩
    · intro j claims token hmem
      rcases List.mem_append.mp hmem with hmem | hmem
      · exact hissues j claims token hmem
      · exact hissues' j claims token hmem
    · rw [← List.cons_append, ownFrom_append]
      exact List.prefix_append _ _
  cases h with
  | answered hpath => exact going hpath hissues
  | @threw before call next e hpath =>
    have hbefore : Issues services before := fun j claims token hmem =>
      hissues j claims token (List.mem_append_left _ hmem)
    rcases @point_threw services i (.start i request :: before) call e with
      hnone | ⟨user, passwordHash, handle, rfl, rfl⟩
    · have hlast : ownFrom (point services) (.start i request :: before) [.threw i call e] = [] := by
        rw [ownFrom, hnone]
        rfl
      rw [← List.cons_append, ownFrom_append, List.nil_append, hlast, List.append_nil]
      exact going hpath hbefore
    · exact ⟨_, _, answered_threw hpath, List.prefix_refl _⟩

end XClone.Identity
