import XClone.Gateway.ProblemDetails
import XClone.Identity.Scheduler
import XClone.Lib.Schedule

/-!
# XClone.Gateway.RefreshRetry — a client that retries its refreshes

One client, the Gateway's call to Identity, and Identity itself:

1. the client presents the refresh token it holds, one request at a time;
2. the Gateway waits for the execution that serves it, or answers 504 when its
   deadline fires, or 503 when Identity is unavailable; the execution runs on;
3. a 200 replaces the token, a 401 signs the client out, and after anything else the
   client may send the same token again.

`Honest` and `Uncut` say what a run may meet; `schedule` plays runs.
-/

namespace XClone.Gateway

open Js Interleaving Identity SessionTables

/-! ## The system -/

/-- The client: the token it holds and the execution its request waits for, or signed
out by a 401. -/
inductive Client where
  | holding (token : JsString) (call : Option ℕ)
  | signedOut
deriving DecidableEq

/-- Identity with its history, the client, and the executions its requests started. -/
structure System (services : Services) where
  identity : IdentityConfig services
  history : List IdentityEvent
  client : Client
  calls : List ℕ

inductive Action where
  | identity (e : IdentityEvent)
  | send (i : ℕ)
  | unreachable
  | cut (i : ℕ) (code : GrpcStatus)
  | answer (i : ℕ)

/-- The client after its refresh with `token` failed with this status. -/
def Client.rejected (token : JsString) (status : ℕ) : Client :=
  if status = 401 then .signedOut else .holding token none

/-- The client after the Gateway's call failed. -/
def Client.failed (token : JsString) (error : RpcException) : Client :=
  .rejected token (toProblemDetails error).status

/-- The error of a call that got no answer. -/
def noAnswer (code : GrpcStatus) : RpcException := ⟨code, [], none⟩

/-- The client after the answer of its execution. -/
def Client.answered (token : JsString) : Except Failure Response → Client
  | .ok (.tokens tokens) => .holding tokens.refreshToken none
  | .ok _ => .holding token none
  | .error e => .failed token (toRpcException e)

/-- What an ended execution answers. -/
def outcome : UseCase Response → Option (Except Failure Response)
  | .done response => some (.ok response)
  | .failed e => some (.error e)
  | .call _ _ => none

variable {services : Services}

namespace System

/-- The history and the store. -/
def world (sys : System services) : IdentityWorld services := ⟨sys.history, sys.identity.store⟩

/-- The client waits for execution `i`. -/
def Outstanding (sys : System services) (i : ℕ) : Prop :=
  ∃ token, sys.client = .holding token (some i)

end System

/-- One step. The requests of everyone else are steps of Identity. -/
inductive Step : System services → Action → System services → Prop where
  | identity {sys : System services} {e : IdentityEvent} {c : IdentityConfig services} :
      Interleaving.Step (machine services) sys.identity e c →
      Step sys (.identity e) { sys with identity := c, history := sys.history ++ [e] }
  | send {sys : System services} {token : JsString} {i : ℕ} {c : IdentityConfig services} :
      sys.client = .holding token none →
      Interleaving.Step (machine services) sys.identity (.start i (.refresh ⟨token⟩)) c →
      Step sys (.send i)
        { identity := c
          history := sys.history ++ [.start i (.refresh ⟨token⟩)]
          client := .holding token (some i)
          calls := i :: sys.calls }
  | unreachable {sys : System services} {token : JsString} :
      sys.client = .holding token none →
      Step sys .unreachable { sys with client := .failed token (noAnswer .unavailable) }
  | cut {sys : System services} {token : JsString} {i : ℕ} {code : GrpcStatus} :
      sys.client = .holding token (some i) → code = .deadlineExceeded ∨ code = .unavailable →
      Step sys (.cut i code) { sys with client := .failed token (noAnswer code) }
  | answer {sys : System services} {token : JsString} {i : ℕ} {request : Request}
      {program : UseCase Response} {out : Except Failure Response} :
      sys.client = .holding token (some i) →
      sys.identity.threads i = some ⟨request, program⟩ → outcome program = some out →
      Step sys (.answer i) { sys with client := .answered token out }

/-- Runs whose steps all satisfy `meets`. -/
def Reaches (meets : System services → Action → Prop) : System services → System services → Prop :=
  Relation.ReflTransGen fun sys sys' => ∃ action, meets sys action ∧ Step sys action sys'

/-- The client holds the unspent token of a live session. Whoever presented a token of
that session before has been answered. -/
structure Holds (session : Session) (secret : JsString → Prop) (token : JsString)
    (sys : System services) : Prop where
  reached : ∃ accounts, Run (machine services) (.initial (.noSessions accounts)) sys.history
    sys.identity
  client : sys.client = .holding token none
  calls : sys.calls = []
  stored : session ∈ sys.identity.store.tables.sessions.rows
  live : session.revokedAt = none
  unspent : ∃ row ∈ sys.identity.store.tables.refreshTokens.rows,
    row.tokenHash = services.hashRefreshToken token ∧ row.sessionId = session.id ∧
      row.spentAt = none
  known : ∀ i input, .start i (.refresh input) ∈ sys.history →
    secret (services.hashRefreshToken input.refreshToken) →
    ∃ t, sys.identity.threads i = some t ∧ t.program.Completed

/-- Nobody else presents a token whose digest is `secret`, and the client's executions
read the clock before the session expires. -/
def Honest (session : Session) (secret : JsString → Prop) (sys : System services) : Action → Prop
  | .identity (.start _ (.refresh input)) => ¬ secret (services.hashRefreshToken input.refreshToken)
  | .identity (.returned i .now now) => i ∈ sys.calls → now < session.expiresAt
  | _ => True

/-- No answer is lost once its execution has rotated; an execution the client no longer
waits for neither rotates nor reads a token that has been spent. -/
def Uncut (sys : System services) : Action → Prop
  | .cut i _ => ∀ r ∈ rotations (sys.world.own i), r.answer = false
  | .identity (.returned i (.rotate _ _ _) _) => i ∈ sys.calls → sys.Outstanding i
  | .identity (.returned i (.findByTokenHash tokenHash) _) => i ∈ sys.calls →
      sys.Outstanding i ∨ ∀ row ∈ sys.identity.store.tables.refreshTokens.rows,
        row.tokenHash = tokenHash → row.spentAt = none
  | _ => True

/-! ## Schedules -/

instance (sys : System services) (i : ℕ) : Decidable (sys.Outstanding i) :=
  match h : sys.client with
  | .holding token (some j) =>
    if hj : j = i then isTrue ⟨token, hj ▸ h⟩
    else isFalse fun ⟨_, hother⟩ => by
      rw [h] at hother
      cases hother
      exact hj rfl
  | .holding _ none => isFalse fun ⟨_, hother⟩ => by
      rw [h] at hother
      cases hother
  | .signedOut => isFalse fun ⟨_, hother⟩ => by
      rw [h] at hother
      cases hother

instance (session : Session) (secret : JsString → Prop) [DecidablePred secret]
    (sys : System services) (action : Action) : Decidable (Honest session secret sys action) := by
  unfold Honest
  split <;> infer_instance

instance (sys : System services) (action : Action) : Decidable (Uncut sys action) := by
  unfold Uncut
  split <;> infer_instance

/-- What the scheduler does next. -/
inductive Move where
  | identity (move : Identity.Move)
  | send (i : ℕ)
  | cut (i : ℕ) (code : GrpcStatus)
  | answer (i : ℕ)

/-- One move, and what it did. -/
def attempt (sys : System services) : Move → Option (System services × Action)
  | .identity move =>
    (play services sys.identity move).map fun (c, e) =>
      ({ sys with identity := c, history := sys.history ++ [e] }, .identity e)
  | .send i =>
    match sys.client with
    | .holding token none =>
      (play services sys.identity (.start i (.refresh ⟨token⟩))).map fun (c, _) =>
        ({ identity := c
           history := sys.history ++ [.start i (.refresh ⟨token⟩)]
           client := .holding token (some i)
           calls := i :: sys.calls }, .send i)
    | _ => none
  | .cut i code =>
    match sys.client with
    | .holding token (some j) =>
      if j = i ∧ (code = .deadlineExceeded ∨ code = .unavailable) then
        some ({ sys with client := .failed token (noAnswer code) }, .cut i code)
      else none
    | _ => none
  | .answer i =>
    match sys.client with
    | .holding token (some j) =>
      if j = i then
        (sys.identity.threads i).bind fun t => (outcome t.program).map fun out =>
          ({ sys with client := .answered token out }, .answer i)
      else none
    | _ => none

/-- A schedule all of whose moves pass `meets`. -/
def schedule (meets : System services → Action → Bool) (sys : System services)
    (moves : List Move) : Option (System services) :=
  Schedule.play attempt meets sys moves

theorem attempt_step {sys sys' : System services} {move : Move} {action : Action}
    (h : attempt sys move = some (sys', action)) : Step sys action sys' := by
  cases move with
  | identity move =>
    rcases Option.map_eq_some_iff.mp h with ⟨⟨c, e⟩, hplay, heq⟩
    cases heq
    exact .identity (play_step hplay)
  | send i =>
    simp only [attempt] at h
    split at h
    · rename_i token hclient
      rcases Option.map_eq_some_iff.mp h with ⟨⟨c, e⟩, hplay, heq⟩
      cases heq
      have hstep := play_step hplay
      simp only [play] at hplay
      split at hplay
      · cases hplay
        exact .send hclient hstep
      · cases hplay
    · cases h
  | cut i code =>
    simp only [attempt] at h
    split at h
    · rename_i token j hclient
      -- the execution cut must be the one the client waits for
      split at h
      · rename_i hcode
        cases h
        exact .cut (hcode.1 ▸ hclient) hcode.2
      · cases h
    · cases h
  | answer i =>
    simp only [attempt] at h
    split at h
    · rename_i token j hclient
      -- and the one answered too, once it has completed
      split at h
      · rename_i hj
        rcases Option.bind_eq_some_iff.mp h with ⟨⟨request, program⟩, hthread, hout⟩
        rcases Option.map_eq_some_iff.mp hout with ⟨out, hended, heq⟩
        cases heq
        exact .answer (hj ▸ hclient) hthread hended
      · cases h
    · cases h

/-- What is scheduled is a run whose steps pass. -/
theorem schedule_reaches {meets : System services → Action → Bool}
    {P : System services → Action → Prop} (hP : ∀ sys action, meets sys action = true → P sys action)
    {sys sys' : System services} {moves : List Move} (h : schedule meets sys moves = some sys') :
    Reaches P sys sys' :=
  Schedule.play_reaches attempt_step hP h

end XClone.Gateway
