import XClone.Gateway.OwnProfile
import XClone.Identity.LoginCorrect

/-!
# XClone.Gateway.FailedLogin — what a failed login tells its caller

A handle nobody has, a handle nobody could have and a wrong password are answered alike.

The argument follows one execution:

* `login_wrong` — a login with wrong credentials looks its handle up, makes one call of
  the password hasher, and stops;
* `wrong_own` — so those are its events in any run, whatever ran beside it;
* `Unrevealing` — what that shows: the answer, one operation of the hasher, and a store
  left as it was.

A body without a handle and a password is turned away before Identity is called.
-/

namespace XClone.Gateway

open Js Interleaving Identity

/-! ## What a login does -/

/-- The operations of the password hasher. -/
def isHasherCall : PortCall → Bool
  | .hashPassword _ | .verifyPassword _ _ => true
  | _ => false

/-- The calls that mint an id or a token, or issue one. -/
def isMintingCall : PortCall → Bool
  | .nextId | .createRefreshToken | .issueAccessToken _ => true
  | _ => false

/-- The call an event ends. -/
def callOf : IdentityEvent → Option PortCall
  | .start _ _ => none
  | .returned _ call _ => some call
  | .threw _ call _ => some call

/-- The calls execution `i` has made, in order. -/
def callsOf (τ : List IdentityEvent) (i : ℕ) : List PortCall :=
  (τ.filter fun e => decide (e.thread = i)).filterMap callOf

/-- The lookup of login `i` answered, and the credentials are wrong: nobody was found with
that handle, or the password does not match. -/
def WrongCredentials (services : Services) (τ : List IdentityEvent) (i : ℕ) (input : LoginInput) :
    Prop :=
  ∃ found, .returned i (.findCredentialsByHandle input.handle) found ∈ τ ∧
    ∀ credentials ∈ found, services.passwordMatches credentials.passwordHash input.password = false

/-- The one call that follows the lookup. -/
def hasherCall (input : LoginInput) : Option StoredCredentials → PortCall
  | none => .hashPassword input.password
  | some credentials => .verifyPassword credentials.passwordHash input.password

theorem hasherCall_hashes (input : LoginInput) (found : Option StoredCredentials) :
    isHasherCall (hasherCall input found) = true := by
  cases found <;> rfl

/-- After a lookup that found no match, a login is at its call of the hasher, or that
call has answered and the login has failed. -/
theorem login_wrong {settings : Settings} {i : ℕ} {input : LoginInput} {τ : List IdentityEvent}
    {p : UseCase Response} (h : Path i (execute settings (.login input)) τ p)
    {found : Option StoredCredentials}
    (hfound : .returned i (.findCredentialsByHandle input.handle) found ∈ τ)
    (hwrong : ∀ credentials ∈ found,
      .returned i (.verifyPassword credentials.passwordHash input.password) true ∉ τ) :
    (τ = [.returned i (.findCredentialsByHandle input.handle) found] ∧
      ∃ next, p = .call (hasherCall input found) next) ∨
    ∃ answer, τ = [.returned i (.findCredentialsByHandle input.handle) found,
      .returned i (hasherCall input found) answer] ∧ p = .failed .invalidCredentials := by
  -- the lookup is the first event
  rcases h.called hfound with ⟨τ₁, τ₂, next, rfl, hbefore, hafter⟩
  obtain rfl := login_finds hbefore
  cases hbefore
  cases found with
  | none =>
    -- an unknown handle costs a hash
    cases hafter with
    | nil => exact Or.inl ⟨rfl, _, rfl⟩
    | returned hash h₁ =>
      cases h₁
      exact Or.inr ⟨hash, rfl, rfl⟩
  | some credentials =>
    -- a known one a verification
    cases hafter with
    | nil => exact Or.inl ⟨rfl, _, rfl⟩
    | returned verified h₁ =>
      cases verified with
      | false =>
        cases h₁
        exact Or.inr ⟨false, rfl, rfl⟩
      | true =>
        refine absurd ?_ (hwrong credentials rfl)
        exact List.mem_cons_of_mem _ List.mem_cons_self

/-! ## In a run -/

section Runs

variable {services : Services} {s : Store services.lower} {τ : List IdentityEvent}
  {c : IdentityConfig services} {i : ℕ} {input : LoginInput} {p : UseCase Response}

/-- The last event of a login with wrong credentials, and what it came to. -/
def Ends (i : ℕ) (call : PortCall) (e : IdentityEvent) (p : UseCase Response) : Prop :=
  (∃ answer, e = .returned i call answer ∧ p = .failed .invalidCredentials) ∨
    (e = .threw i call .unavailable ∧ p = .failed .unavailable)

/-- A login with wrong credentials that has ended did two things in the run: it looked the
handle up, and it used the hasher. -/
theorem wrong_own (hrun : Run (machine services) (.initial s) τ c)
    (hthread : c.threads i = some ⟨.login input, p⟩) (hcompleted : p.Completed)
    (hwrong : WrongCredentials services τ i input) :
    ∃ found last, (World.mk τ c.store).own i = [.start i (.login input),
        .returned i (.findCredentialsByHandle input.handle) found, last] ∧
      Ends i (hasherCall input found) last p := by
  rcases hwrong with ⟨found, hfound, hmatches⟩
  rcases hrun.projected.went i _ hthread with ⟨events, hown, hwent⟩
  have hmem {e : IdentityEvent} (he : e ∈ events) : e ∈ τ := by
    have hin : e ∈ (World.mk τ c.store).own i := by
      rw [hown]
      exact List.mem_cons_of_mem _ he
    exact (World.mem_own.mp hin).1
  have hlookup : .returned i (.findCredentialsByHandle input.handle) found ∈ events := by
    have hin : .returned i (.findCredentialsByHandle input.handle) found ∈
        (World.mk τ c.store).own i := World.mem_own.mpr ⟨hfound, rfl⟩
    rw [hown] at hin
    rcases List.mem_cons.mp hin with heq | hin
    · cases heq
    · exact hin
  -- the verification of a wrong password does not answer `true`
  have hverify : ∀ credentials ∈ found,
      .returned i (.verifyPassword credentials.passwordHash input.password) true ∉ events := by
    intro credentials hcredentials hverified
    rcases hrun.answered (hmem hverified) with ⟨s₁, s₂, -, hanswer⟩
    have hno := hmatches credentials hcredentials
    rw [← hanswer] at hno
    cases hno
  cases hwent with
  | answered hpath =>
    have hpath : Path i (execute services.toSettings (.login input)) events p := hpath
    rcases login_wrong hpath hlookup hverify with ⟨-, next, hcall⟩ | ⟨answer, hevents, hp⟩
    · rw [hcall] at hcompleted
      exact hcompleted.elim
    · refine ⟨found, _, ?_, Or.inl ⟨answer, rfl, hp⟩⟩
      rw [hown, hevents]
  | @threw before call next e hpath =>
    have hpath : Path i (execute services.toSettings (.login input)) before (.call call next) :=
      hpath
    -- the call that threw is not the lookup, which answered
    have hlookup' : .returned i (.findCredentialsByHandle input.handle) found ∈ before := by
      simpa using hlookup
    have hverify' : ∀ credentials ∈ found,
        .returned i (.verifyPassword credentials.passwordHash input.password) true ∉ before :=
      fun credentials hcredentials hin =>
        hverify credentials hcredentials (List.mem_append_left _ hin)
    rcases login_wrong hpath hlookup' hverify' with ⟨hevents, next', hcall⟩ | ⟨answer, -, hp⟩
    · cases hcall
      have hthrown : .threw i (hasherCall input found) e ∈ τ :=
        hmem (List.mem_append_right _ (List.mem_singleton_self _))
      have hunavailable : e = .unavailable := by
        rcases hrun.thrown hthrown with ⟨s₁, hthrows⟩
        cases found <;> exact hthrows
      refine ⟨found, _, ?_, Or.inr ⟨rfl, by rw [hunavailable]⟩⟩
      rw [hown, hevents, hunavailable]
      rfl
    · cases hp

/-- A step with an event of the hasher, or of a lookup of credentials, leaves the store as
it was. -/
theorem step_keeps {c c' : IdentityConfig services} {e : IdentityEvent}
    (hstep : Interleaving.Step (machine services) c e c')
    (hcall : ∀ call ∈ callOf e,
      isHasherCall call = true ∨ ∃ handle, call = .findCredentialsByHandle handle) :
    c'.store = c.store := by
  cases hstep with
  | start i request hnone => rfl
  | threw hthread hthrows => rfl
  | @returned i request call next answer s' hthread hreturns =>
    rcases hcall call rfl with hhasher | ⟨handle, rfl⟩
    · cases call with
      | hashPassword password => exact hreturns
      | verifyPassword hash password => exact hreturns.1
      | _ => cases hhasher
    · exact hreturns.1

end Runs

/-! ## What it shows -/

/-- The 401 of a failed login. -/
def loginRefusal : HttpResponse where
  status := 401
  contentType := js "application/problem+json"
  body := [(js "type", .str (js "about:blank")), (js "title", .str (js "Unauthorized")),
    (js "status", .num (.finite 401)), (js "detail", .str (js "invalid handle or password"))]

/-- The 500 of a failure that is not the client's. -/
def internalError : HttpResponse where
  status := 500
  contentType := js "application/problem+json"
  body := [(js "type", .str (js "about:blank")), (js "title", .str (js "Internal Server Error")),
    (js "status", .num (.finite 500))]

/-- The 400 of a login body of the wrong shape. -/
def malformedLogin : HttpResponse where
  status := 400
  contentType := js "application/problem+json"
  body := [(js "type", .str (js "about:blank")), (js "title", .str (js "Bad Request")),
    (js "status", .num (.finite 400)),
    (js "detail", .str (js "expected a JSON object with a handle and a password"))]

/-- Execution `i`, which ended as `p`, failed with this answer, after one operation of the
password hasher; it minted no id, issued no token and changed no row. -/
structure Unrevealing (services : Services) (τ : List IdentityEvent) (i : ℕ)
    (p : UseCase Response) (response : HttpResponse) : Prop where
  answer : ∃ e, p = .failed e ∧ respond e = response
  hashesOnce : ((callsOf τ i).filter isHasherCall).length = 1
  mintsNothing : ∀ call ∈ callsOf τ i, isMintingCall call = false
  changesNothing : ∀ e ∈ τ, e.thread = i → ∀ {c c' : IdentityConfig services},
    Interleaving.Step (machine services) c e c' → c'.store = c.store

/-- Two calls, and what they show. -/
theorem unrevealing_of_own {services : Services} {s : Store services.lower}
    {τ : List IdentityEvent} {i : ℕ} {input : LoginInput} {p : UseCase Response}
    {found : Option StoredCredentials} {last : IdentityEvent} {response : HttpResponse}
    (hown : (World.mk τ s).own i = [.start i (.login input),
      .returned i (.findCredentialsByHandle input.handle) found, last])
    (hlast : callOf last = some (hasherCall input found))
    (hanswer : ∃ e, p = .failed e ∧ respond e = response) :
    Unrevealing services τ i p response := by
  have hcalls : callsOf τ i =
      [.findCredentialsByHandle input.handle, hasherCall input found] := by
    show ((World.mk τ s).own i).filterMap callOf = _
    have hlookup : callOf (.returned i (.findCredentialsByHandle input.handle) found) =
        some (.findCredentialsByHandle input.handle) := rfl
    rw [hown, List.filterMap_cons_none rfl, List.filterMap_cons_some hlookup,
      List.filterMap_cons_some hlast, List.filterMap_nil]
  have hhashes := hasherCall_hashes input found
  have hmints : isMintingCall (hasherCall input found) = false := by
    cases found <;> rfl
  constructor
  · exact hanswer
  · -- the lookup is no hasher call, the second call is
    rw [hcalls, List.filter_cons_of_neg (by simp [isHasherCall]), List.filter_cons_of_pos hhashes]
    rfl
  · intro call hcall
    rw [hcalls] at hcall
    rcases List.mem_cons.mp hcall with rfl | hcall
    · rfl
    · rw [List.mem_singleton.mp hcall]
      exact hmints
  · -- neither the lookup nor the hasher writes
    intro e he hi c c' hstep
    refine step_keeps hstep ?_
    intro call hcall
    have hmem : call ∈ callsOf τ i := by
      refine List.mem_filterMap.mpr ⟨e, ?_, hcall⟩
      exact List.mem_filter.mpr ⟨he, decide_eq_true hi⟩
    rw [hcalls] at hmem
    rcases List.mem_cons.mp hmem with rfl | hmem
    · exact Or.inr ⟨input.handle, rfl⟩
    · left
      rw [List.mem_singleton.mp hmem]
      exact hhashes

/-- A rejected login body is always the same problem. -/
theorem parseLoginBody_error {body : Option Json} {problem : ProblemDetails}
    (h : parseLoginBody body = .error problem) :
    problem = badRequest (js "expected a JSON object with a handle and a password") none := by
  unfold parseLoginBody at h
  dsimp only at h
  split at h
  · cases h
    rfl
  split at h
  · cases h
  · cases h
    rfl

/-- A failed login does not say whether the handle exists. In every run from any store, a
login that has ended with its lookup answered and its credentials wrong, whatever its
handle, password and user agent, did one operation of the password hasher and left
nothing behind; if the hasher answered, the client gets the one fixed 401, without a
field, and if it did not, a bare 500. And any two login bodies of the wrong shape get the
one fixed 400, without a field and without a call to Identity. -/
theorem failed_logins_look_alike (services : Services) :
    (∀ {s : Store services.lower} {τ : List IdentityEvent} {c : IdentityConfig services} {i : ℕ}
      {input : LoginInput} {p : UseCase Response}, Run (machine services) (.initial s) τ c →
      c.threads i = some ⟨.login input, p⟩ → p.Completed → WrongCredentials services τ i input →
      (NoThrow τ i → Unrevealing services τ i p loginRefusal) ∧
      (¬ NoThrow τ i → Unrevealing services τ i p internalError)) ∧
    (∀ (guard : AccessTokenGuard) (now : Date) (request : HttpRequest) (problem : ProblemDetails),
      request.route = .login → parseLoginBody request.body = .error problem →
      sendProblemDetails problem = malformedLogin ∧
        dispatch guard now request = .error ⟨problem, none⟩) ∧
    loginRefusal.body.get (js "field") = none ∧ malformedLogin.body.get (js "field") = none := by
  refine ⟨?_, ?_, rfl, rfl⟩
  · intro s τ c i input p hrun hthread hcompleted hwrong
    rcases wrong_own hrun hthread hcompleted hwrong with ⟨found, last, hown, hends⟩
    have hlast : last ∈ τ := by
      have hin : last ∈ (World.mk τ c.store).own i := by simp [hown]
      exact (World.mem_own.mp hin).1
    rcases hends with ⟨answer, rfl, rfl⟩ | ⟨rfl, rfl⟩
    · -- the hasher answered
      constructor
      · exact fun _ => unrevealing_of_own hown rfl ⟨_, rfl, rfl⟩
      · intro hthrew
        refine absurd ?_ hthrew
        intro call e hmem
        have hin : .threw i call e ∈ (World.mk τ c.store).own i := World.mem_own.mpr ⟨hmem, rfl⟩
        rw [hown] at hin
        simp at hin
    · -- the hasher threw
      constructor
      · exact fun hno => absurd hlast (hno _ _)
      · exact fun _ => unrevealing_of_own hown rfl ⟨_, rfl, rfl⟩
  · intro guard now request problem hroute hbody
    rw [parseLoginBody_error hbody]
    refine ⟨rfl, ?_⟩
    unfold dispatch AuthController.login
    rw [hroute]
    dsimp only
    rw [hbody, parseLoginBody_error hbody]
    rfl

/-! ## Two failed logins -/

/-- After the sign-up, thread 3 logs in as `nobody`, and thread 4 as `sam` with a wrong
password. -/
def sampleFailedLogins : List Identity.Move :=
  sampleSignUp ++
    [.start 3 (.login ⟨js "nobody", js "correct horse 1", none⟩), .answer 3 .none,
      .start 4 (.login ⟨js "sam", js "wrong horse 1", some (js "curl")⟩), .answer 4 .none,
      .answer 3 (.text (js "hashed:correct horse 1")), .answer 4 .none]

theorem sampleFailedLogins_plays :
    (simulate sampleServices (.initial (.blank asciiLower)) sampleFailedLogins).isSome = true := by
  decide +kernel

/-- Both logins have been served. -/
def sampleLoginsFailed : IdentityConfig sampleServices × List IdentityEvent :=
  (simulate sampleServices (.initial (.blank asciiLower)) sampleFailedLogins).get
    sampleFailedLogins_plays

/-- The unknown handle and the wrong password get the same answer, and a body without a
password the 400. -/
theorem sample_failed_logins :
    (∃ p, sampleLoginsFailed.1.threads 3 =
      some ⟨.login ⟨js "nobody", js "correct horse 1", none⟩, p⟩ ∧
      Unrevealing sampleServices sampleLoginsFailed.2 3 p loginRefusal) ∧
    (∃ p, sampleLoginsFailed.1.threads 4 =
      some ⟨.login ⟨js "sam", js "wrong horse 1", some (js "curl")⟩, p⟩ ∧
      Unrevealing sampleServices sampleLoginsFailed.2 4 p loginRefusal) ∧
    ∃ problem, dispatch sampleDeployment.guard 0
        ⟨.login, none, none, some (.obj [(js "handle", .str (js "sam"))])⟩ =
      .error ⟨problem, none⟩ ∧ sendProblemDetails problem = malformedLogin := by
  rcases failed_logins_look_alike sampleServices with ⟨hlogins, hbodies, -⟩
  have hrun := run_of_isSome sampleFailedLogins_plays
  have hquiet := noThrow_of_isSome sampleFailedLogins_plays
  have hthread : ∃ p, sampleLoginsFailed.1.threads 3 =
      some ⟨.login ⟨js "nobody", js "correct horse 1", none⟩, p⟩ ∧ p.Completed :=
    ⟨_, rfl, trivial⟩
  have hthread' : ∃ p, sampleLoginsFailed.1.threads 4 =
      some ⟨.login ⟨js "sam", js "wrong horse 1", some (js "curl")⟩, p⟩ ∧ p.Completed :=
    ⟨_, rfl, trivial⟩
  rcases hthread with ⟨p, hp, hcompleted⟩
  rcases hthread' with ⟨p', hp', hcompleted'⟩
  refine ⟨⟨p, hp, (hlogins hrun hp hcompleted ?_).1 (hquiet 3)⟩,
    ⟨p', hp', (hlogins hrun hp' hcompleted' ?_).1 (hquiet 4)⟩, ?_⟩
  · -- nobody was found
    refine ⟨none, List.mem_of_getElem? (i := 18) rfl, ?_⟩
    intro credentials hcredentials
    cases hcredentials
  · -- the account was, and its hash is that of another password
    refine ⟨some ⟨js "7", js "hashed:correct horse 1"⟩, List.mem_of_getElem? (i := 20) rfl, ?_⟩
    intro credentials hcredentials
    cases hcredentials
    decide +kernel
  · have hbody : parseLoginBody (some (.obj [(js "handle", .str (js "sam"))])) =
        .error (badRequest (js "expected a JSON object with a handle and a password") none) := rfl
    rcases hbodies sampleDeployment.guard 0
      ⟨.login, none, none, some (.obj [(js "handle", .str (js "sam"))])⟩ _ rfl hbody with
      ⟨hresponse, hdispatch⟩
    exact ⟨_, hdispatch, hresponse⟩

end XClone.Gateway
