import XClone.Gateway.Contract
import XClone.Identity.Linearizable

/-!
# XClone.Gateway.PublicApi — what an answer tells

The public API is linearizable, as far as its clients are answered. Behind any number of
requests, some of them lost, given up or late, stands one ledger. A request with a
definite status was served by it, once, with the outcome the answer renders, between its
arrival and its answer, or never reached it; one with any other status was served at most
once, and may yet be.
-/

namespace XClone.Gateway

open Js Interleaving Identity

variable {d : Deployment} {accounts : UserTables d.services.lower} {s s' : Service d}
  {codes : List GrpcStatus}

/-! ## Identity behind the requests -/

/-- What Identity does between two states is a run. -/
theorem Service.Runs.identity (h : Service.Runs s s') :
    ∃ τ, s'.backend.history = s.backend.history ++ τ ∧
      Run (machine d.services) s.backend.identity τ s'.backend.identity := by
  induction h with
  | refl => exact ⟨[], (List.append_nil _).symm, .nil _⟩
  | @tail s₁ s₂ hruns hstep ih =>
    rcases ih with ⟨τ, hhistory, hrun⟩
    rcases hstep with ⟨action, hstep⟩
    rcases hstep.backend with hsame | ⟨action', hmove⟩
    · rw [hsame]
      exact ⟨τ, hhistory, hrun⟩
    · have moved {e : IdentityEvent} {c : IdentityConfig d.services}
          (hidentity : Interleaving.Step (machine d.services) s₁.backend.identity e c)
          (hnew : s₂.backend.identity = c) (hlonger : s₂.backend.history = s₁.backend.history ++ [e]) :
          ∃ τ, s₂.backend.history = s.backend.history ++ τ ∧
            Run (machine d.services) s.backend.identity τ s₂.backend.identity := by
        refine ⟨τ ++ [e], ?_, ?_⟩
        · rw [hlonger, hhistory, List.append_assoc]
        · rw [hnew]
          exact hrun.snoc hidentity
      generalize hb : s₂.backend = b at hmove moved
      cases hmove with
      | reject _ | lose _ => exact ⟨τ, hhistory, hrun⟩
      | forward _ hidentity => exact moved hidentity rfl rfl
      | identity _ hidentity => exact moved hidentity rfl rfl

theorem Service.Runs.run (h : Service.Runs (.initial accounts) s) :
    Run (machine d.services) (.initial (.noSessions accounts)) s.backend.history
      s.backend.identity := by
  rcases h.identity with ⟨τ, hhistory, hrun⟩
  rw [hhistory]
  exact hrun

/-- An execution keeps its number. -/
theorem Service.Runs.thread (h : Service.Runs s s') {i : ℕ}
    (hnone : s'.backend.identity.threads i = none) : s.backend.identity.threads i = none := by
  induction h with
  | refl => exact hnone
  | tail hruns hstep ih =>
    apply ih
    rcases hstep with ⟨action, hstep⟩
    rcases hstep.backend with hsame | ⟨action', hmove⟩
    · rw [← hsame]
      exact hnone
    · refine Option.eq_none_iff_forall_ne_some.mpr fun t ht => ?_
      rcases hmove.kept.2 i t ht with ⟨t', ht', -⟩
      rw [hnone] at ht'
      cases ht'

/-- A step gives no request an execution but a new one. -/
theorem Service.Step.execution {action : Service.Action} (h : s.Step action s') {k i : ℕ}
    {x' : Exchange} (hx' : s'.exchanges k = some x') (hi : x'.execution = some i) :
    (∃ x, s.exchanges k = some x ∧ x.execution = some i) ∨
      s.backend.identity.threads i = none := by
  have recorded {k' : ℕ} {y : Exchange} {b : Backend d}
      (hs : ({ s with backend := b }.record k' y : Service d).exchanges k = some x')
      (hy : y.execution = some i → (∃ x, s.exchanges k' = some x ∧ x.execution = some i) ∨
        s.backend.identity.threads i = none) :
      (∃ x, s.exchanges k = some x ∧ x.execution = some i) ∨
        s.backend.identity.threads i = none := by
    by_cases hk : k = k'
    · rw [hk, Service.record_self] at hs
      cases hs
      rw [hk]
      exact hy hi
    · rw [Service.record_of_ne _ hk] at hs
      exact Or.inl ⟨x', hs, hi⟩
  cases h with
  | unparsed _ _ _ _ | reject _ _ | call _ _ =>
    refine recorded hx' fun hno => ?_
    cases hno
  | complete hx _ _ _ => exact recorded hx' fun hsame => Or.inl ⟨_, hx, hsame⟩
  | giveUp hx _ _ _ _ => exact recorded hx' fun hsame => Or.inl ⟨_, hx, hsame⟩
  | identity _ => exact Or.inl ⟨x', hx', hi⟩
  | deliver _ _ _ hforward =>
    refine recorded hx' fun hsame => Or.inr ?_
    cases hsame
    cases hforward with
    | forward _ hstart =>
      cases hstart with
      | start _ _ hfree => exact hfree

/-- A request keeps its execution. -/
theorem Service.Step.execution_kept {action : Service.Action} (h : s.Step action s') {k i : ℕ}
    {x : Exchange} (hx : s.exchanges k = some x) (hi : x.execution = some i) :
    ∃ x', s'.exchanges k = some x' ∧ x'.execution = some i := by
  have recorded {k' : ℕ} {y : Exchange} {b : Backend d}
      (hy : k = k' → y.execution = some i) :
      ∃ x', ({ s with backend := b }.record k' y : Service d).exchanges k = some x' ∧
        x'.execution = some i := by
    by_cases hk : k = k'
    · refine ⟨y, ?_, hy hk⟩
      rw [hk]
      exact Service.record_self _ _ _
    · refine ⟨x, ?_, hi⟩
      rw [Service.record_of_ne _ hk]
      exact hx
  cases h with
  | unparsed hnone _ _ _ | reject hnone _ | call hnone _ =>
    apply recorded
    rintro rfl
    rw [hnone] at hx
    cases hx
  | complete hx' _ _ _ | giveUp hx' _ _ _ _ =>
    apply recorded
    rintro rfl
    rw [hx] at hx'
    cases hx'
    exact hi
  | identity _ => exact ⟨x, hx, hi⟩
  | deliver hx' _ hnone _ =>
    apply recorded
    rintro rfl
    rw [hx] at hx'
    cases hx'
    rw [hi] at hnone
    cases hnone

/-- The execution of a request that has come since is new since. -/
theorem Service.Runs.new_execution (h : Service.Runs s s') {k i : ℕ} {x : Exchange}
    (hnone : s.exchanges k = none) (hx : s'.exchanges k = some x) (hi : x.execution = some i) :
    s.backend.identity.threads i = none := by
  induction h generalizing x with
  | refl =>
    rw [hnone] at hx
    cases hx
  | tail hruns hstep ih =>
    rcases hstep with ⟨action, hstep⟩
    rcases hstep.execution hx hi with ⟨x', hx', hi'⟩ | hfree
    · exact ih hx' hi'
    · exact Service.Runs.thread hruns hfree

/-- Every execution serves a request. -/
theorem Service.Runs.served (h : Service.Runs (.initial accounts) s) {i : ℕ}
    {t : Thread Request PortCall Answer Failure Response}
    (ht : s.backend.identity.threads i = some t) :
    ∃ k x, s.exchanges k = some x ∧ x.execution = some i := by
  induction h generalizing t with
  | refl => cases ht
  | @tail s₁ s₂ hruns hstep ih =>
    rcases hstep with ⟨action, hstep⟩
    cases hbefore : s₁.backend.identity.threads i with
    | some t' =>
      rcases ih hbefore with ⟨k, x, hx, hi⟩
      rcases hstep.execution_kept hx hi with ⟨x', hx', hi'⟩
      exact ⟨k, x', hx', hi'⟩
    | none =>
      -- only a call that gets there starts one
      have quiet {e : IdentityEvent} {c : IdentityConfig d.services}
          (hmove : Interleaving.Step (machine d.services) s₁.backend.identity e c) (hquiet : e.started = none)
          (hthread : c.threads i = some t) : False := by
        cases hmove with
        | start _ _ _ => cases hquiet
        | @returned j request call next r store hcalling _ | @threw j request call next e hcalling _ =>
          by_cases hij : i = j
          · rw [hij, hcalling] at hbefore
            cases hbefore
          · rw [Config.set_threads_of_ne _ _ hij, hbefore] at hthread
            cases hthread
      cases hstep with
      | unparsed _ _ _ _ | reject _ _ | call _ _ | complete _ _ _ _ | giveUp _ _ _ _ _ =>
        rw [Service.record_backend, hbefore] at ht
        cases ht
      | identity hmove =>
        cases hmove with
        | identity hquiet hmove => exact (quiet hmove hquiet ht).elim
      | @deliver k j x b hx _ _ hforward =>
        refine ⟨k, { x with execution := some j }, Service.record_self _ _ _, ?_⟩
        cases hforward with
        | forward _ hstart =>
          cases hstart with
          | start _ _ _ =>
            by_cases hij : i = j
            · rw [hij]
            · have hother : (s₁.backend.identity.set s₁.backend.identity.store j
                  ⟨_, (machine d.services).code _⟩).threads i = some t := ht
              rw [Config.set_threads_of_ne _ _ hij, hbefore] at hother
              cases hother

/-! ## What an answer tells -/

/-- What happened so far. -/
def Service.operations (s : Service d) : List (ℕ × Operation) :=
  Interleaving.operations (point d.services) s.backend.history

/-- The public API is linearizable, where gRPC itself fails calls with these codes. -/
structure Service.Linearized (codes : List GrpcStatus) (s : Service d) : Prop where
  /-- A ledger has served the requests, one after the other. -/
  served : ∃ ledger, Replays (Ledger.Performs d.services) .empty
    (s.operations.map Prod.snd) ledger ∧
    Represents d.services s.backend.history s.backend.identity.store ledger
  /-- Nothing else has happened to it. -/
  asked : ∀ i op, (i, op) ∈ s.operations → ∃ k x, s.exchanges k = some x ∧ x.execution = some i
  /-- A definite answer: the Gateway could not parse the request or rejected it, or the
  ledger served it with this outcome. -/
  told : ∀ k x reply, s.exchanges k = some x → x.reply = some reply →
    reply.response.status ∉ unanswered codes →
    (x.call = none ∧ x.execution = none) ∨ ∃ rpc i outcome, x.call = some rpc ∧
      x.execution = some i ∧ reply = .completed x.request.route outcome ∧
      Answered rpc.request outcome (operationsOf i s.operations)
  /-- Whatever else a request was answered, it is served at most once. -/
  once : ∀ k x i, s.exchanges k = some x → x.execution = some i → ∃ rpc outcome ops,
    x.call = some rpc ∧ Answered rpc.request outcome ops ∧ operationsOf i s.operations <+: ops
  /-- Each operation goes by the clock reading of its own execution. -/
  readings : ∀ i op now, (i, op) ∈ s.operations → op.reading = some now →
    .returned i .now now ∈ s.backend.history
  /-- Since any earlier state of the run: a request that has come since was served since,
  and one that had a definite answer was served before. -/
  order : ∀ s₁, Service.RunsUnder (Service.Over codes) (.initial .empty) s₁ → Service.Runs s₁ s →
    ∃ later, s.operations = s₁.operations ++ later ∧
      (∀ k x i, s₁.exchanges k = none → s.exchanges k = some x → x.execution = some i →
        ∀ op ∈ s₁.operations, op.1 ≠ i) ∧
      ∀ k x reply i, s₁.exchanges k = some x → x.reply = some reply →
        reply.response.status ∉ unanswered codes → x.execution = some i →
        ∀ op ∈ later, op.1 ≠ i

/-- A definite answer is the Gateway's own, or the execution's. -/
theorem definite_because {x : Exchange} {reply : Reply} {c : IdentityConfig d.services}
    (h : x.Because codes c reply) (hdefinite : reply.response.status ∉ unanswered codes) :
    x.call = none ∨ ∃ rpc i outcome, x.call = some rpc ∧ x.execution = some i ∧
      reply = .completed x.request.route outcome ∧
      c.threads i = some ⟨rpc.request, .ofExcept outcome⟩ := by
  cases h with
  | unparsed _ hnone | rejected _ hnone => exact Or.inl hnone
  | gaveUp _ hcode => exact absurd (transport_status hcode) hdefinite
  | completed hcall hexecution hthread =>
    exact Or.inr ⟨_, _, _, hcall, hexecution, rfl, hthread⟩

/-- Without its call a request has no execution. -/
theorem Exchange.Kept.uncalled {x : Exchange} (h : x.Kept codes s) (hcall : x.call = none) :
    x.execution = none := by
  refine Option.eq_none_iff_forall_ne_some.mpr fun i hi => ?_
  rcases h.served i hi with ⟨rpc, program, hsome, -⟩
  rw [hcall] at hsome
  cases hsome

/-- What a definite answer tells of its execution: all of it has happened. -/
theorem settled_of_runs {s₁ : Service d}
    (hbefore : Service.RunsUnder (Service.Over codes) (.initial accounts) s₁) {k i : ℕ}
    {x : Exchange} {reply : Reply} (hx : s₁.exchanges k = some x) (hreply : x.reply = some reply)
    (hdefinite : reply.response.status ∉ unanswered codes) (hi : x.execution = some i)
    {τ : List IdentityEvent} (hrun : Run (machine d.services) s₁.backend.identity τ s.backend.identity) :
    ∀ e ∈ τ, e.thread ≠ i := by
  have hkept := (Service.kept_of_runs hbefore).each k x hx
  rcases definite_because (hkept.because reply hreply) hdefinite with
    hnone | ⟨rpc, j, outcome, -, hj, -, hthread⟩
  · rw [hkept.uncalled hnone] at hi
    cases hi
  · rw [hi] at hj
    cases hj
    exact (hrun.completed hthread (ofExcept_completed outcome)).2

/-- The public API is linearizable: what its clients are definitely answered is what one
ledger has done, in an order that keeps to when they asked and were answered. -/
theorem public_api_is_linearizable
    (hruns : Service.RunsUnder (Service.Over codes) (.initial .empty) s)
    (hideal : Ideal d.services s.backend.history) : s.Linearized codes := by
  have hrun : Run (machine d.services) (.initial (.blank d.services.lower)) s.backend.history
    s.backend.identity := Service.Runs.run hruns.runs
  have hall := Service.kept_of_runs hruns
  constructor
  · exact served_of_run hideal hrun
  · intro i op hop
    rcases thread_of_operation hop with ⟨e, he, hthread⟩
    rcases hrun.done_by he hthread with ⟨request, program, -, ht, -⟩
    exact Service.Runs.served hruns.runs ht
  · intro k x reply hx hreply hdefinite
    have hkept := hall.each k x hx
    rcases definite_because (hkept.because reply hreply) hdefinite with
      hnone | ⟨rpc, i, outcome, hcall, hi, rfl, hthread⟩
    · exact Or.inl ⟨hnone, hkept.uncalled hnone⟩
    · refine Or.inr ⟨rpc, i, outcome, hcall, hi, rfl, ?_⟩
      apply answered_of_run hrun hideal.fresh hthread
      rintro rfl
      exact hdefinite List.mem_cons_self
  · intro k x i hx hi
    rcases (hall.each k x hx).served i hi with ⟨rpc, program, hcall, hthread⟩
    rcases begun_of_run hrun hthread with ⟨outcome, ops, hanswered, hbegun⟩
    exact ⟨rpc, outcome, ops, hcall, hanswered, hbegun⟩
  · intro i op now hop hreading
    exact reading_of_operation hop hreading
  · intro s₁ hbefore hafter
    rcases hafter.identity with ⟨τ, hhistory, hidentity⟩
    refine ⟨operationsFrom (point d.services) s₁.backend.history τ, ?_, ?_, ?_⟩
    · rw [Service.operations, hhistory, operations_append]
      rfl
    · rintro k x i hnone hx hi ⟨j, op⟩ hop rfl
      rcases thread_of_operation hop with ⟨e, he, hthread⟩
      have hown : e ∈ (World.mk s₁.backend.history s₁.backend.identity.store).own j :=
        World.mem_own.mpr ⟨he, hthread⟩
      rw [(Service.Runs.run hbefore.runs).projected.fresh j (hafter.new_execution hnone hx hi)] at hown
      cases hown
    · rintro k x reply i hx hreply hdefinite hi ⟨j, op⟩ hop rfl
      rcases thread_of_operation hop with ⟨e, he, hthread⟩
      exact settled_of_runs hbefore hx hreply hdefinite hi hidentity e he hthread

/-- `sam` registers and logs in, and the Gateway gives up on the login while it is under
way. -/
def sampleSlowLogin : List Service.Move :=
  [.receive 0
      { route := .register, authorization := none, userAgent := none
        body := some (.obj [(js "handle", .str (js "sam")),
          (js "password", .str (js "correct horse 1"))]) } 1767225000000,
    .deliver 0 0, .answer 0 .none, .answer 0 (.text (js "hashed:correct horse 1")),
    .answer 0 (.id 7), .answer 0 (.at 1767225000000), .answer 0 .none, .complete 0,
    .receive 1
      { route := .login, authorization := none, userAgent := none
        body := some (.obj [(js "handle", .str (js "SAM")),
          (js "password", .str (js "correct horse 1"))]) } 1767225600000,
    .deliver 1 1, .answer 1 .none, .giveUp 1 .deadlineExceeded, .answer 1 .none,
    .answer 1 (.at 1767225600123), .answer 1 (.id 9), .answer 1 (.text (js "opaque-1")),
    .answer 1 (.id 10), .answer 1 .none, .answer 1 .none]

theorem sampleSlowLogin_plays :
    (Schedule.play Service.attempt Service.copied (@Service.initial sampleDeployment .empty)
      sampleSlowLogin).isSome = true := by
  decide +kernel

/-- The session is open, and its client was answered with 504. -/
def sampleSlowlyLoggedIn : Service sampleDeployment :=
  (Schedule.play _ _ _ _).get sampleSlowLogin_plays

theorem slow_login_is_linearized : sampleSlowlyLoggedIn.Linearized transportCodes := by
  have hreaches : Service.Reaches (@Service.initial sampleDeployment .empty) sampleSlowlyLoggedIn :=
    Service.play_reaches (Option.some_get sampleSlowLogin_plays).symm
  have hideal : Ideal sampleServices sampleSlowlyLoggedIn.backend.history := by
    refine ⟨⟨by decide +kernel, by decide +kernel⟩, sampleHasher_ideal (by decide +kernel), ?_⟩
    unfold DigestApart
    decide +kernel
  exact public_api_is_linearizable hreaches.over.runsOver hideal

end XClone.Gateway
