import XClone.AccessToken.Genuine
import XClone.Gateway.Controllers
import XClone.Identity.Evidence
import XClone.Identity.Scheduler
import XClone.Lib.Schedule

/-!
# XClone.Gateway.OwnProfile — only the account itself changes its profile

Gateway and Identity with one JWT secret, under any requests of any clients:

1. the Gateway rejects a request, loses the call it makes, or starts an execution of
   Identity with it;
2. Identity's executions interleave, and any of their calls may fail.

Clients may copy tokens, forge headers and put anything in bodies and paths; what they
cannot do is compute a MAC (`Assumed`). They may send what they like, so what they were
answered is left out. The invariant is that every profile update was asked for by a
PATCH whose token was issued to the account it names.
-/

namespace XClone.Gateway

open Js Interleaving Identity AccessToken

/-! ## The two services -/

/-- Gateway and Identity deployed with one JWT secret. -/
structure Deployment where
  node : Node
  lawful : node.Lawful
  secret : Secret
  toLowerCase : JsString → JsString
  services : Services
  issues : services.issue = (Hs256AccessTokenIssuer.mk secret).issue node

/-- The Gateway's guard. -/
def Deployment.guard (d : Deployment) : AccessTokenGuard := ⟨d.node, ⟨d.secret⟩, d.toLowerCase⟩

/-- A request that reached Identity: the execution it started, the Gateway's clock when
it was handled, and what had happened to Identity before. -/
structure Forwarded where
  thread : ℕ
  request : HttpRequest
  now : Date
  before : List IdentityEvent

/-- Identity with its history, and the requests that reached it. -/
structure Backend (d : Deployment) where
  identity : IdentityConfig d.services
  history : List IdentityEvent
  forwarded : List Forwarded

namespace Backend

inductive Action where
  | reject (request : HttpRequest) (now : Date)
  | lose (request : HttpRequest) (now : Date)
  | forward (i : ℕ) (request : HttpRequest) (now : Date)
  | identity (e : IdentityEvent)

variable {d : Deployment}

/-- Nothing has happened yet, and nobody is logged in. -/
def initial (accounts : UserTables d.services.lower) : Backend d :=
  ⟨.initial (.noSessions accounts), [], []⟩

/-- One step. -/
inductive Step : Backend d → Action → Backend d → Prop where
  | reject {b : Backend d} {request : HttpRequest} {now : Date} {rejection : Rejection} :
      dispatch d.guard now request = .error rejection → Step b (.reject request now) b
  | lose {b : Backend d} {request : HttpRequest} {now : Date} {rpc : Rpc} :
      dispatch d.guard now request = .ok rpc → Step b (.lose request now) b
  | forward {b : Backend d} {i : ℕ} {request : HttpRequest} {now : Date} {rpc : Rpc}
      {c : IdentityConfig d.services} :
      dispatch d.guard now request = .ok rpc →
      Interleaving.Step (machine d.services) b.identity (.start i rpc.request) c →
      Step b (.forward i request now)
        { identity := c
          history := b.history ++ [.start i rpc.request]
          forwarded := ⟨i, request, now, b.history⟩ :: b.forwarded }
  | identity {b : Backend d} {e : IdentityEvent} {c : IdentityConfig d.services} :
      e.started = none → Interleaving.Step (machine d.services) b.identity e c →
      Step b (.identity e) { b with identity := c, history := b.history ++ [e] }

/-- Somebody has computed the MAC of `input`: the issuer, for an access token. -/
def Signed (node : Node) (τ : List IdentityEvent) (input : JsString) : Prop :=
  ∃ j claims token, .returned j (.issueAccessToken claims) token ∈ τ ∧
    input = Hs256AccessTokenIssuer.signingInput node claims

/-- What is assumed of a step: nobody else computes a MAC, and what Identity's clock
reads is a date, and still one when the access token expires. -/
structure Assumed (b : Backend d) (action : Action) : Prop where
  unforged : ∀ i request now token, action = .forward i request now →
    d.guard.readBearerToken request.authorization = some token →
    NotForged d.node d.secret (Signed d.node b.history) token
  dates : ∀ i now, action = .identity (.returned i .now now) →
    ValidDate now ∧ ValidDate (now + d.services.lifetimes.accessTokenMs)

/-- Runs whose steps all meet the assumptions. -/
def Reaches : Backend d → Backend d → Prop :=
  Relation.ReflTransGen fun b b' => ∃ action, Assumed b action ∧ Step b action b'

end Backend

/-! ## What a profile update was asked for by -/

/-- Where a profile update comes from: the request, the token it carried, and the
executions that issued the token and opened its session. -/
structure Cause where
  request : Forwarded
  token : JsString
  claims : AccessTokenClaims
  issuer : ℕ
  login : ℕ
  session : Session
  credentials : StoredCredentials

variable {d : Deployment} {accounts : UserTables d.services.lower} {b b' : Backend d}

/-- Execution `i`, an update of the profile of `userId`, was started by a PATCH of that
account: its token was issued by a login or a refresh for a session which a login had
opened on verifying the account's stored hash, and it had not expired. -/
structure Cause.Explains (cause : Cause) (b : Backend d) (i : ℕ) (userId : JsString) : Prop where
  forwarded : cause.request ∈ b.forwarded
  thread : cause.request.thread = i
  started : ∃ input : UpdateProfileInput, input.userId = userId ∧
    cause.request.before ++ [.start i (.updateProfile input)] <+: b.history
  route : cause.request.request.route = .updateOwnProfile
  bearer : d.guard.readBearerToken cause.request.request.authorization = some cause.token
  issued : .returned cause.issuer (.issueAccessToken cause.claims) cause.token ∈ cause.request.before
  issuer : (∃ input, .start cause.issuer (.login input) ∈ cause.request.before) ∨
    ∃ input, .start cause.issuer (.refresh input) ∈ cause.request.before
  claims : cause.claims.sessionId = cause.session.id ∧ cause.claims.userId = userId
  session : cause.session.userId = userId ∧ ∃ firstToken,
    .returned cause.login (.createSession cause.session firstToken) () ∈ cause.request.before
  verified : Verified cause.request.before cause.login cause.credentials ∧
    cause.credentials.userId = userId
  stored : ⟨userId, cause.credentials.passwordHash⟩ ∈ b.identity.store.accounts.credentials.rows
  unexpired : cause.request.now < expirySecond cause.claims

/-- A cause stays a cause. -/
theorem Cause.Explains.later {cause : Cause} {i : ℕ} {userId : JsString}
    (h : cause.Explains b i userId) (hforwarded : b.forwarded ⊆ b'.forwarded)
    (hhistory : b.history <+: b'.history)
    (hstore : Store.Later b.identity.store b'.identity.store) : cause.Explains b' i userId := by
  rcases h.started with ⟨input, hinput, hstarted⟩
  exact
    { h with
      forwarded := hforwarded h.forwarded
      started := ⟨input, hinput, hstarted.trans hhistory⟩
      stored := hstore.accounts.credentials _ h.stored }

/-! ## The invariant -/

/-- Identity has run from a store without sessions, its clock read dates, and every
profile update has its cause. -/
structure Backend.Traced (accounts : UserTables d.services.lower) (b : Backend d) : Prop where
  run : Run (machine d.services) (.initial (.noSessions accounts)) b.history b.identity
  dates : ∀ i now, .returned i .now now ∈ b.history →
    ValidDate now ∧ ValidDate (now + d.services.lifetimes.accessTokenMs)
  caused : ∀ i input, .start i (.updateProfile input) ∈ b.history →
    ∃ cause : Cause, cause.Explains b i input.userId

namespace Backend.Traced

theorem recorded (h : b.Traced accounts) : Recorded ⟨b.history, b.identity.store⟩ :=
  (good_evidence h.run).inv

/-- A token the guard accepts was issued, to the principal it is accepted for, and has
not expired. -/
theorem accepted_issued (h : b.Traced accounts) {token : JsString} {now : Date}
    {principal : VerifiedAccessToken}
    (hforged : NotForged d.node d.secret (Signed d.node b.history) token)
    (hverify : (Hs256AccessTokenVerifier.mk d.secret).verify d.node now token = .ok principal) :
    ∃ j claims, .returned j (.issueAccessToken claims) token ∈ b.history ∧
      claims.userId = principal.userId ∧ now < expirySecond claims := by
  rcases Hs256AccessTokenVerifier.verify_ok hverify with ⟨eh, ep, header, payload, haccepted⟩
  rcases hforged _ haccepted.text with ⟨j, claims, issued, hissued, hinput⟩
  -- the token is the one that was issued for these claims
  have htoken : token = (Hs256AccessTokenIssuer.mk d.secret).issue d.node claims := by
    rw [haccepted.text, hinput]
    rfl
  have hsame : issued = token := by
    rcases h.run.answered hissued with ⟨s, s', -, hanswer⟩
    rw [htoken, ← d.issues]
    exact hanswer
  rw [hsame] at hissued
  -- and what the verifier reads is what the issuer wrote
  rcases h.recorded.token_origin hissued with ⟨-, hnow, hexpires, -⟩
  rcases h.dates j _ hnow with ⟨hiat, hexp⟩
  rw [← hexpires] at hexp
  have hread := @verify_issued d.node d.lawful ⟨d.secret⟩ ⟨d.secret⟩ rfl claims hiat hexp now
  rw [← htoken, hverify] at hread
  split at hread
  · cases hread
  · rename_i hlive
    cases hread
    exact ⟨j, claims, hissued, rfl, not_le.mp hlive⟩

/-- The PATCH that starts a profile update is its cause. -/
theorem forward_update (h : b.Traced accounts) {i : ℕ} {request : HttpRequest} {now : Date}
    {data : UpdateProfileRequest} (hassumed : Assumed b (.forward i request now))
    (hdispatch : dispatch d.guard now request = .ok (.updateProfile data))
    (hforwarded : ⟨i, request, now, b.history⟩ ∈ b'.forwarded)
    (hhistory : b'.history = b.history ++ [.start i (Rpc.updateProfile data).request])
    (hstore : Store.Later b.identity.store b'.identity.store) :
    ∃ cause : Cause, cause.Explains b' i data.userId := by
  rcases dispatch_updateProfile hdispatch with ⟨hroute, principal, hguard, hsubject⟩
  rcases AccessTokenGuard.canActivate_ok hguard with ⟨token, hbearer, hverify⟩
  have hunforged := hassumed.unforged i request now token rfl hbearer
  rcases h.accepted_issued hunforged hverify with ⟨j, claims, hissued, huser, hlive⟩
  rcases h.recorded.token_origin hissued with
    ⟨hissuer, -, -, k, session, firstToken, credentials, hcreated, hid, howner, hverified, haccount⟩
  -- the account is carried unchanged from the credentials to the request
  have hclaims : claims.userId = data.userId := huser.trans hsubject.symm
  have hcredentials : credentials.userId = data.userId := haccount.trans hclaims
  have hstored : ⟨data.userId, credentials.passwordHash⟩ ∈
      b.identity.store.accounts.credentials.rows := by
    rcases hverified with ⟨input, -, hfound, -⟩
    rw [← hcredentials]
    exact h.recorded.credentials hfound
  have hstarted : b.history ++ [.start i (.updateProfile ⟨data.userId, data.displayName, data.bio⟩)]
      <+: b'.history := by
    rw [hhistory]
    exact List.prefix_rfl
  refine ⟨⟨⟨i, request, now, b.history⟩, token, claims, j, k, session, credentials⟩, ?_⟩
  exact
    { forwarded := hforwarded
      thread := rfl
      started := ⟨⟨data.userId, data.displayName, data.bio⟩, rfl, hstarted⟩
      route := hroute
      bearer := hbearer
      issued := hissued
      issuer := hissuer
      claims := ⟨hid.symm, hclaims⟩
      session := ⟨howner.trans hclaims, firstToken, hcreated⟩
      verified := ⟨hverified, hcredentials⟩
      stored := hstore.accounts.credentials _ hstored
      unexpired := hlive }

/-- A step that starts no profile update leaves every update with its cause. -/
theorem caused_later (h : b.Traced accounts) {e : IdentityEvent} {i : ℕ}
    {input : UpdateProfileInput} (hstart : .start i (.updateProfile input) ∈ b'.history)
    (hquiet : ∀ j other, e ≠ .start j (.updateProfile other))
    (hforwarded : b.forwarded ⊆ b'.forwarded) (hhistory : b'.history = b.history ++ [e])
    (hstore : Store.Later b.identity.store b'.identity.store) :
    ∃ cause : Cause, cause.Explains b' i input.userId := by
  have hprefix : b.history <+: b'.history := by
    rw [hhistory]
    exact List.prefix_append _ _
  rw [hhistory] at hstart
  rcases List.mem_append.mp hstart with hold | hlast
  · rcases h.caused i input hold with ⟨cause, hcause⟩
    exact ⟨cause, hcause.later hforwarded hprefix hstore⟩
  · exact absurd (List.mem_singleton.mp hlast).symm (hquiet i input)

/-- Every step keeps the invariant. -/
theorem step (h : b.Traced accounts) {action : Action} (hassumed : Assumed b action)
    (hstep : Step b action b') : b'.Traced accounts := by
  cases hstep with
  | reject _ => exact h
  | lose _ => exact h
  | @forward i request now rpc c hdispatch hstart =>
    have hsame : c.store = b.identity.store := by
      cases hstart
      rfl
    have hstore : Store.Later b.identity.store c.store := by
      rw [hsame]
      exact .refl _
    constructor
    · exact h.run.snoc hstart
    · intro j now' hmem
      rcases List.mem_append.mp hmem with hold | hlast
      · exact h.dates j now' hold
      · cases List.mem_singleton.mp hlast
    · intro j input hmem
      by_cases hupdate : ∃ data, rpc = .updateProfile data
      · rcases hupdate with ⟨data, rfl⟩
        rcases List.mem_append.mp hmem with hold | hlast
        · -- an update that was started before
          rcases h.caused j input hold with ⟨cause, hcause⟩
          exact ⟨cause, hcause.later (List.subset_cons_self _ _) (List.prefix_append _ _) hstore⟩
        · -- the update this request asks for
          cases List.mem_singleton.mp hlast
          exact h.forward_update hassumed hdispatch List.mem_cons_self rfl hstore
      · -- some other call
        refine h.caused_later hmem ?_ (List.subset_cons_self _ _) rfl hstore
        intro k input' heq
        cases rpc with
        | updateProfile data => exact hupdate ⟨data, rfl⟩
        | register | login | refresh | getProfile => cases heq
  | @identity e c hquiet hmove =>
    have hstore : Store.Later b.identity.store c.store := by
      cases hmove with
      | start i request hnone => exact .refl _
      | returned hthread hreturns => exact returns_later hreturns
      | threw hthread hthrows => exact .refl _
    constructor
    · exact h.run.snoc hmove
    · intro j now hmem
      rcases List.mem_append.mp hmem with hold | hlast
      · exact h.dates j now hold
      · cases List.mem_singleton.mp hlast
        exact hassumed.dates j now rfl
    · intro j input hmem
      refine h.caused_later hmem ?_ (fun _ hf => hf) rfl hstore
      rintro i input' rfl
      cases hquiet

/-- The invariant holds in every state of every run. -/
theorem reached (hreaches : Reaches (.initial accounts) b) : b.Traced accounts := by
  induction hreaches with
  | refl =>
    constructor
    · exact .nil _
    · intro i now hmem
      cases hmem
    · intro i input hmem
      cases hmem
  | tail _ hstep ih =>
    rcases hstep with ⟨action, hassumed, hstep⟩
    exact ih.step hassumed hstep

end Backend.Traced

/-! ## Only the account itself -/

open Backend in
/-- Only the account itself changes its profile: whatever changes the display name or the
bio of a registered account is an update of its profile, and was asked for by a PATCH of
that account. -/
theorem only_the_account_changes_its_profile {action : Action}
    (hreaches : Reaches (.initial accounts) b) (hassumed : Assumed b action)
    (hstep : Step b action b') {user user' : UserRow}
    (huser : user ∈ b.identity.store.accounts.users.rows)
    (huser' : user' ∈ b'.identity.store.accounts.users.rows) (hid : user'.id = user.id)
    (hchanged : user'.displayName ≠ user.displayName ∨ user'.bio ≠ user.bio) :
    ∃ i changes answer, action = .identity (.returned i (.updateProfile user.id changes) answer) ∧
      ∃ cause : Cause, cause.Explains b i user.id := by
  have htraced := Backend.Traced.reached hreaches
  have hne : user' ≠ user := by
    rintro rfl
    rcases hchanged with hname | hbio
    · exact hname rfl
    · exact hbio rfl
  -- only an answered call writes
  have unchanged (hsame : b'.identity.store = b.identity.store) : user' = user := by
    rw [hsame] at huser'
    exact b.identity.store.accounts.user_unique huser' huser hid
  have hafter := (htraced.step hassumed hstep).recorded
  cases hstep with
  | reject _ => exact absurd (unchanged rfl) hne
  | lose _ => exact absurd (unchanged rfl) hne
  | forward _ hstart =>
    cases hstart
    exact absurd (unchanged rfl) hne
  | identity hquiet hmove =>
    cases hmove with
    | start i request _ => cases hquiet
    | threw _ _ => exact absurd (unchanged rfl) hne
    | @returned i request call next answer s hthread hreturns =>
      rcases profile_changed hreturns huser huser' hid hne with ⟨changes, rfl⟩
      refine ⟨i, changes, answer, rfl, ?_⟩
      -- the call names the account its execution was started for
      rcases hafter.why (List.mem_append_right _ (List.mem_singleton_self _)) with
        ⟨input, hstart, hsubject⟩
      rw [hsubject]
      rcases List.mem_append.mp hstart with hold | hlast
      · exact htraced.caused i input hold
      · cases List.mem_singleton.mp hlast

/-! ## One update -/

namespace Backend

/-- What the scheduler does next. -/
inductive Move where
  | forward (i : ℕ) (request : HttpRequest) (now : Date)
  | answer (i : ℕ) (draw : Draw)

/-- One move, and what it did. -/
def attempt (b : Backend d) : Move → Option (Backend d × Action)
  | .forward i request now =>
    match dispatch d.guard now request with
    | .ok rpc =>
      (play d.services b.identity (.start i rpc.request)).map fun (c, _) =>
        ({ identity := c
           history := b.history ++ [.start i rpc.request]
           forwarded := ⟨i, request, now, b.history⟩ :: b.forwarded }, .forward i request now)
    | .error _ => none
  | .answer i draw =>
    (play d.services b.identity (.answer i draw)).map fun (c, e) =>
      ({ b with identity := c, history := b.history ++ [e] }, .identity e)

/-- The claims of the access tokens issued so far. -/
def issuedClaims (τ : List IdentityEvent) : List AccessTokenClaims :=
  τ.filterMap fun
    | .returned _ (.issueAccessToken claims) _ => some claims
    | _ => none

/-- Whoever sends a bearer token has copied one that was issued. -/
def copied (b : Backend d) : Action → Bool
  | .forward _ request _ =>
    match d.guard.readBearerToken request.authorization with
    | some token => (issuedClaims b.history).any fun claims => token = d.services.issue claims
    | none => true
  | .identity (.returned _ .now now) =>
    decide (ValidDate now ∧ ValidDate (now + d.services.lifetimes.accessTokenMs))
  | _ => true

theorem attempt_step {move : Move} {next : Backend d × Action} (h : attempt b move = some next) :
    Step b next.2 next.1 := by
  cases move with
  | forward i request now =>
    simp only [attempt] at h
    split at h
    · rename_i rpc hdispatch
      rcases Option.map_eq_some_iff.mp h with ⟨⟨c, e⟩, hplay, heq⟩
      cases heq
      have hstep := play_step hplay
      simp only [play] at hplay
      split at hplay
      · cases hplay
        exact .forward hdispatch hstep
      · cases hplay
    · cases h
  | answer i draw =>
    rcases Option.map_eq_some_iff.mp h with ⟨⟨c, e⟩, hplay, heq⟩
    cases heq
    have hstep := play_step hplay
    simp only [play] at hplay
    split at hplay
    · split at hplay
      · cases hplay
        exact .identity rfl hstep
      · cases hplay
    · cases hplay

/-- Copying forges nothing. -/
theorem assumed_of_copied {action : Action} (h : copied b action = true) : Assumed b action := by
  constructor
  · rintro i request now token rfl hbearer input htoken
    simp only [copied, hbearer] at h
    rcases List.any_eq_true.mp h with ⟨claims, hclaims, hcopied⟩
    rcases List.mem_filterMap.mp hclaims with ⟨e, he, hissue⟩
    split at hissue
    · rename_i j claims' answer
      cases hissue
      refine ⟨j, claims, answer, he, ?_⟩
      rw [of_decide_eq_true hcopied, d.issues] at htoken
      exact (dotted_inj (dot_notMem_hs256 _ _) (dot_notMem_hs256 _ _) htoken).1.symm
    · cases hissue
  · rintro i now rfl
    exact of_decide_eq_true h

/-- What is played is a run. -/
theorem play_reaches {moves : List Move} (h : Schedule.play attempt copied b moves = some b') :
    Reaches b b' :=
  Schedule.play_reaches attempt_step (fun _ _ => assumed_of_copied) h

end Backend

open Backend

/-- Both services with the sample secret. -/
def sampleDeployment : Deployment where
  node := sampleNode
  lawful := sampleNode_lawful
  secret := sampleKey
  toLowerCase := asciiLower
  services := sampleServices
  issues := rfl

/-- `sam` logs in, and asks for another display name with the token of that login. -/
def sampleTraffic : List Backend.Move :=
  [.forward 0
      { route := .login, authorization := none, userAgent := none
        body := some (.obj [(js "handle", .str (js "SAM")),
          (js "password", .str (js "correct horse 1"))]) } 1767225600000,
    .answer 0 .none, .answer 0 .none, .answer 0 (.at 1767225600123), .answer 0 (.id 9),
    .answer 0 (.text (js "opaque-1")), .answer 0 (.id 10), .answer 0 .none, .answer 0 .none,
    .forward 1
      { route := .updateOwnProfile, authorization := some (js "bearer " ++ sampleToken)
        userAgent := none, body := some (.obj [(js "displayName", .str (js " Sam "))]) }
      1767226499999]

theorem sampleTraffic_plays :
    (Schedule.play attempt copied (@Backend.initial sampleDeployment sampleAccounts)
      sampleTraffic).isSome = true := by
  decide +kernel

/-- The update is under way. -/
def sampleAsked : Backend sampleDeployment := (Schedule.play _ _ _ _).get sampleTraffic_plays

theorem sampleUpdate_plays : (attempt sampleAsked (.answer 1 .none)).isSome = true := by
  decide +kernel

/-- The update itself. -/
def sampleUpdate : Backend sampleDeployment × Action := (attempt _ _).get sampleUpdate_plays

/-- The update of `sam` has its cause. -/
theorem sample_update_is_sams_own :
    ∃ i changes answer,
      sampleUpdate.2 = .identity (.returned i (.updateProfile (js "7") changes) answer) ∧
      ∃ cause : Cause, cause.Explains sampleAsked i (js "7") := by
  have hreaches : Reaches (@Backend.initial sampleDeployment sampleAccounts) sampleAsked :=
    play_reaches (Option.some_get sampleTraffic_plays).symm
  have hstep : Step sampleAsked sampleUpdate.2 sampleUpdate.1 :=
    attempt_step (Option.some_get sampleUpdate_plays).symm
  -- one evaluation of the run for all three
  have hplayed : copied sampleAsked sampleUpdate.2 = true ∧
      (⟨⟨js "7", js "sam", js "sam", [], 1767225000000⟩, none, 0, 0, false⟩ : UserRow) ∈
        sampleAsked.identity.store.accounts.users.rows ∧
      (⟨⟨js "7", js "sam", js "Sam", [], 1767225000000⟩, none, 0, 0, false⟩ : UserRow) ∈
        sampleUpdate.1.identity.store.accounts.users.rows := by
    decide +kernel
  rcases hplayed with ⟨hcopied, huser, huser'⟩
  have hchanged : js "Sam" ≠ js "sam" := by decide
  have hassumed := assumed_of_copied hcopied
  exact only_the_account_changes_its_profile hreaches hassumed hstep huser
    huser' rfl (Or.inl hchanged)

end XClone.Gateway
