import XClone.Gateway.FailedLogin

/-!
# XClone.Gateway.LoginAnswers — what a login is answered with

Login checks neither the handle nor the password, so that a handle nobody could have is
just a handle nobody has. One handle is more than that: Postgres has no text with U+0000,
and rejects the lookup itself. With a database that fails on nothing else, a login is
answered 200 or the uniform 401 exactly when its handle holds no U+0000
(`login_answered_iff`).
-/

namespace XClone.Gateway

open Js Interleaving Identity

/-! ## What Postgres cannot hold -/

/-- U+0000. -/
def nul : UInt16 := 0

/-- The text parameters of the queries a call makes; ids are numbers. -/
def textParameters : PortCall → List JsString
  | .existsByHandle handle | .findCredentialsByHandle handle | .findByHandle handle => [handle]
  | .createUser user passwordHash => [user.handle, user.displayName, passwordHash]
  | .createSession session firstToken => firstToken.tokenHash :: session.userAgent.toList
  | .findByTokenHash tokenHash => [tokenHash]
  | .rotate _ next _ => [next.tokenHash]
  | .updateProfile _ changes => changes.displayName.toList ++ changes.bio.toList
  | .revoke _ _ | .hashPassword _ | .verifyPassword _ _ | .createRefreshToken | .nextId | .now
  | .issueAccessToken _ => []

/-- A text parameter of the call holds U+0000. -/
def HoldsNul (call : PortCall) : Prop := ∃ text ∈ textParameters call, nul ∈ text

/-- The calls of execution `i` failed where a text parameter held U+0000, and nowhere else. -/
structure FailsOnNul (τ : List IdentityEvent) (i : ℕ) : Prop where
  threw : ∀ call e, .threw i call e ∈ τ → HoldsNul call
  returned : ∀ call (answer : Answer call), .returned i call answer ∈ τ → ¬ HoldsNul call

/-- A login that is answered 200, or with the 401 of an unknown handle. -/
inductive LoginAnswered (p : UseCase Response) : Prop where
  | ok (tokens : IssuedTokens) : p = .done (.tokens tokens) → LoginAnswered p
  | refused (e : Failure) : p = .failed e → respond e = loginRefusal → LoginAnswered p

/-- A failure that is not the client's is no refusal. -/
theorem not_answered_of_unavailable : ¬ LoginAnswered (.failed .unavailable) := by
  rintro (⟨tokens, hno⟩ | ⟨e, he, hresponse⟩)
  · cases hno
  · cases he
    have hstatus := congrArg HttpResponse.status hresponse
    exact absurd hstatus (by decide)

/-! ## One login -/

section Runs

variable {services : Services} {s : Store services.lower} {τ : List IdentityEvent}
  {c : IdentityConfig services} {i : ℕ} {input : LoginInput} {p : UseCase Response}

/-- A login whose handle holds U+0000 fails at its lookup. -/
theorem login_with_nul (hrun : Run (machine services) (.initial s) τ c)
    (hthread : c.threads i = some ⟨.login input, p⟩) (hcompleted : p.Completed)
    (hfails : FailsOnNul τ i) (hnul : nul ∈ input.handle) : p = .failed .unavailable := by
  have hholds : HoldsNul (.findCredentialsByHandle input.handle) :=
    ⟨input.handle, List.mem_singleton_self _, hnul⟩
  rcases hrun.did hthread with ⟨events, hdid⟩
  have hnever : ∀ found, .returned i (.findCredentialsByHandle input.handle) found ∉ events :=
    fun found hmem => hfails.returned _ _ (hdid.subset hmem) hholds
  cases hdid.went with
  | answered hpath =>
    have hpath : Path i (execute services.toSettings (.login input)) events p := hpath
    cases hpath with
    | nil => exact hcompleted.elim
    | returned found _ => exact absurd List.mem_cons_self (hnever found)
  | @threw before call next e hpath =>
    have hpath : Path i (execute services.toSettings (.login input)) before (.call call next) :=
      hpath
    cases hpath with
    | returned found _ => exact absurd (List.mem_append_left _ List.mem_cons_self) (hnever found)
    | nil =>
      have hmem : .threw i (.findCredentialsByHandle input.handle) e ∈ τ :=
        hdid.subset (List.mem_append_right _ (List.mem_singleton_self _))
      rcases hrun.thrown hmem with ⟨s₁, hthrows⟩
      have hunavailable : e = .unavailable := hthrows
      rw [hunavailable]

/-- The other calls of a login send no text that holds U+0000. -/
theorem login_sends_no_nul {before : List IdentityEvent} {call : PortCall}
    {next : Answer call → UseCase Response}
    (h : Path i (execute services.toSettings (.login input)) before (.call call next))
    (hhandle : nul ∉ input.handle) (hagent : ∀ agent ∈ input.userAgent, nul ∉ agent)
    (hminted : ∀ minted, .returned i .createRefreshToken minted ∈ before → nul ∉ minted.hash) :
    ¬ HoldsNul call := by
  rintro ⟨text, htext, hnul⟩
  have hlogs : LogsIn call := h.only (login_calls input)
  cases call with
  | findCredentialsByHandle handle =>
    obtain rfl := login_finds h
    cases h
    rw [List.mem_singleton.mp htext] at hnul
    exact hhandle hnul
  | createSession session firstToken =>
    rcases login_opens h with ⟨credentials, id, minted, tokenId, now, rfl, rfl, rfl⟩
    rcases List.mem_cons.mp htext with rfl | hagent'
    · exact hminted minted (List.mem_of_getElem? (i := 4) rfl) hnul
    · exact hagent text (Option.mem_toList.mp hagent') hnul
  | hashPassword | verifyPassword | now | nextId | createRefreshToken | issueAccessToken =>
    cases htext
  | existsByHandle | createUser | findByTokenHash | rotate | revoke | findByHandle
  | updateProfile => exact hlogs

/-- A login whose handle holds none is answered. -/
theorem login_without_nul (hdigest : ∀ token, nul ∉ services.hashRefreshToken token)
    (hrun : Run (machine services) (.initial s) τ c)
    (hthread : c.threads i = some ⟨.login input, p⟩) (hcompleted : p.Completed)
    (hfails : FailsOnNul τ i) (hhandle : nul ∉ input.handle)
    (hagent : ∀ agent ∈ input.userAgent, nul ∉ agent) : LoginAnswered p := by
  rcases hrun.did hthread with ⟨events, hdid⟩
  cases hdid.went with
  | answered hpath =>
    have hpath : Path i (execute services.toSettings (.login input)) events p := hpath
    cases p with
    | call call next => exact hcompleted.elim
    | failed e =>
      obtain rfl := (login_rejected hpath).1
      exact .refused _ rfl rfl
    | done response =>
      rcases execute_kind hpath with ⟨tokens, rfl⟩
      exact .ok tokens rfl
  | @threw before call next e hpath =>
    have hpath : Path i (execute services.toSettings (.login input)) before (.call call next) :=
      hpath
    have hthrew : .threw i call e ∈ τ :=
      hdid.subset (List.mem_append_right _ (List.mem_singleton_self _))
    refine absurd (hfails.threw call e hthrew) (login_sends_no_nul hpath hhandle hagent ?_)
    intro minted hmem
    rcases hrun.answered (hdid.subset (List.mem_append_left _ hmem)) with ⟨s₁, s₂, -, hhash⟩
    rw [hhash]
    exact hdigest minted.token

end Runs

/-! ## Through the Gateway -/

/-- `POST /v1/auth/login` with a string handle and a string password, over a database that
is up and fails on U+0000 alone: a login that has ended was answered 200 or with the uniform
401 exactly when the handle holds no U+0000. Digests are hexadecimal, and a header cannot
hold U+0000 either. -/
theorem login_answered_iff (services : Services)
    (hdigest : ∀ token, nul ∉ services.hashRefreshToken token) {s : Store services.lower}
    {τ : List IdentityEvent} {c : IdentityConfig services}
    (hrun : Run (machine services) (.initial s) τ c) (guard : AccessTokenGuard) (now : Date)
    {request : HttpRequest} (hroute : request.route = .login)
    (hagent : ∀ agent ∈ request.userAgent, nul ∉ agent) {fields : Record}
    (hbody : request.body = some (.obj fields)) {handle password : JsString}
    (hhandle : fields.get (js "handle") = some (.str handle))
    (hpassword : fields.get (js "password") = some (.str password)) :
    ∃ rpc, dispatch guard now request = .ok rpc ∧
      ∀ {i : ℕ} {p : UseCase Response}, c.threads i = some ⟨rpc.request, p⟩ → p.Completed →
        FailsOnNul τ i → (LoginAnswered p ↔ nul ∉ handle) := by
  have hparsed : parseLoginBody request.body = .ok ⟨handle, password⟩ := by
    rw [hbody]
    unfold parseLoginBody bodyFields
    simp only [hhandle, hpassword]
  have hdispatch : dispatch guard now request =
      .ok (.login ⟨handle, password, request.userAgent.getD []⟩) := by
    unfold dispatch AuthController.login
    rw [hroute]
    dsimp only
    rw [hparsed]
    rfl
  refine ⟨_, hdispatch, ?_⟩
  intro i p hthread hcompleted hfails
  constructor
  · intro hanswered hnul
    rw [login_with_nul hrun hthread hcompleted hfails hnul] at hanswered
    exact not_answered_of_unavailable hanswered
  · intro hno
    refine login_without_nul hdigest hrun hthread hcompleted hfails hno ?_
    -- the user agent is the header's, or absent
    intro agent hmem
    dsimp only [Rpc.request] at hmem
    split at hmem
    · cases hmem
      cases hheader : request.userAgent with
      | none => exact List.not_mem_nil
      | some header => exact hagent header hheader
    · cases hmem

/-! ## A handle with U+0000 -/

/-- A login as U+0000, which JSON writes `\u0000`. -/
def nulLogin : HttpRequest where
  route := .login
  authorization := none
  userAgent := none
  body := some (.obj [(js "handle", .str [nul]), (js "password", .str (js "correct horse 1"))])

/-- The input Identity gets. -/
def nulInput : LoginInput := ⟨[nul], js "correct horse 1", none⟩

/-- What happens to it. -/
def nulEvents : List IdentityEvent :=
  [.start 0 (.login nulInput), .threw 0 (.findCredentialsByHandle [nul]) .unavailable]

theorem nulEvents_fail : FailsOnNul nulEvents 0 := by
  constructor
  · intro call e hmem
    simp only [nulEvents, List.mem_cons, List.not_mem_nil, or_false] at hmem
    rcases hmem with hno | hthrew
    · cases hno
    · cases hthrew
      exact ⟨[nul], List.mem_singleton_self _, List.mem_singleton_self _⟩
  · intro call answer hmem
    simp only [nulEvents, List.mem_cons, List.not_mem_nil, or_false] at hmem
    rcases hmem with hno | hno <;> cases hno

theorem nulLogin_runs : ∃ c : IdentityConfig sampleServices,
    Run (machine sampleServices) (.initial (.blank asciiLower)) nulEvents c ∧
      c.threads 0 = some ⟨.login nulInput, .failed .unavailable⟩ := by
  have hrun : Run (machine sampleServices) (.initial (.blank asciiLower))
      ([] ++ [.start 0 (.login nulInput)] ++
        [.threw 0 (.findCredentialsByHandle [nul]) .unavailable]) _ :=
    ((Run.nil _).snoc (.start 0 (Request.login nulInput) rfl)).snoc (.threw rfl rfl)
  exact ⟨_, hrun, Config.set_threads_self _ _ _ _⟩

theorem sampleDigest_nul (token : JsString) : nul ∉ sampleDigest token := by
  unfold sampleDigest
  split
  · decide
  split
  · decide
  split
  · decide
  split
  · decide
  · exact List.not_mem_nil

/-- The login as U+0000 is not answered as documented. -/
theorem nul_login_is_not_answered : ∃ c p,
    Run (machine sampleServices) (.initial (.blank asciiLower)) nulEvents c ∧
      c.threads 0 = some ⟨.login nulInput, p⟩ ∧ ¬ LoginAnswered p := by
  rcases nulLogin_runs with ⟨c, hrun, hthread⟩
  have hroute : nulLogin.route = .login := rfl
  have hbody : nulLogin.body =
      some (.obj [(js "handle", .str [nul]), (js "password", .str (js "correct horse 1"))]) := rfl
  have hhandle : Record.get [(js "handle", .str [nul]), (js "password", .str (js "correct horse 1"))]
      (js "handle") = some (.str [nul]) := rfl
  have hpassword : Record.get [(js "handle", .str [nul]),
      (js "password", .str (js "correct horse 1"))] (js "password") =
        some (.str (js "correct horse 1")) := rfl
  rcases login_answered_iff sampleServices sampleDigest_nul hrun sampleDeployment.guard 0
    hroute (by rintro _ ⟨⟩) hbody hhandle hpassword with ⟨rpc, hdispatch, hanswered⟩
  cases hdispatch
  refine ⟨c, _, hrun, hthread, ?_⟩
  rw [hanswered hthread trivial nulEvents_fail]
  decide

/-- It is answered 500, where any other unknown handle is answered 401. -/
theorem nul_login_is_a_server_error : ∃ c rpc p,
    Run (machine sampleServices) (.initial (.blank asciiLower)) nulEvents c ∧
      dispatch sampleDeployment.guard 0 nulLogin = .ok rpc ∧
      c.threads 0 = some ⟨rpc.request, p⟩ ∧ FailsOnNul nulEvents 0 ∧
      ∃ e, p = .failed e ∧ respond e = internalError ∧ internalError.status = 500 := by
  rcases nulLogin_runs with ⟨c, hrun, hthread⟩
  exact ⟨c, _, _, hrun, rfl, hthread, nulEvents_fail, _, rfl, rfl, rfl⟩

end XClone.Gateway
