import XClone.Gateway.RefreshRetry
import XClone.Identity.Evidence

/-!
# XClone.Gateway.RetrySafety — when retrying a refresh is safe

An honest client that follows the documented retry rule loses its session when an
answer is lost after its execution has rotated (`lost_answer_costs_the_session`). In
every run without such a loss, and in which no abandoned execution rotates or reads a
spent token, it gets no 401 and its session stays live (`retries_keep_the_session`).
The invariant is that the client can always go on: the token it holds is unspent, or
the execution it waits for has spent it and inserted the one it will answer with.
-/

namespace XClone.Gateway

open Js Interleaving Identity SessionTables

variable {services : Services}

/-! ## What the condition keeps -/

/-- A stored token of the session, not yet spent. -/
def Unspent (session : Session) (tokenHash : JsString) (s : Store services.lower) : Prop :=
  ∃ row ∈ s.tables.refreshTokens.rows,
    row.tokenHash = tokenHash ∧ row.sessionId = session.id ∧ row.spentAt = none

/-- The client can go on: the token it holds is unspent, or the execution it waits for
has spent it and inserted the next one. -/
inductive Client.CanGoOn (session : Session) (w : IdentityWorld services) (calls : List ℕ) :
    Client → Prop where
  | idle {token : JsString} :
      Unspent session (services.hashRefreshToken token) w.store →
      CanGoOn session w calls (.holding token none)
  | waiting {token : JsString} {i : ℕ} :
      i ∈ calls → .start i (.refresh ⟨token⟩) ∈ w.history →
      (rotations (w.own i) = [] → Unspent session (services.hashRefreshToken token) w.store) →
      (∀ spentTokenId next spentAt, .returned i (.rotate spentTokenId next spentAt) true ∈ w.history →
        Unspent session next.tokenHash w.store) →
      CanGoOn session w calls (.holding token (some i))

/-- What holds in every state of a run that meets the condition. -/
structure Kept (session : Session) (secret : JsString → Prop) (sys : System services) : Prop where
  reached : ∃ accounts, Run (machine services) (.initial (.noSessions accounts)) sys.history
    sys.identity
  stored : session ∈ sys.identity.store.tables.sessions.rows
  client : sys.client.CanGoOn session sys.world sys.calls
  presented : ∀ i ∈ sys.calls, ∃ token, .start i (.refresh ⟨token⟩) ∈ sys.history ∧
    ∃ row ∈ sys.identity.store.tables.refreshTokens.rows,
      row.tokenHash = services.hashRefreshToken token ∧ row.sessionId = session.id
  found : ∀ i ∈ sys.calls, ∀ tokenHash found,
    .returned i (.findByTokenHash tokenHash) found ∈ sys.history →
    ∃ token, found = some ⟨session, token⟩ ∧ token.spentAt = none
  rotated : ∀ i ∈ sys.calls, ∀ r ∈ rotations (sys.world.own i), r.answer = true
  clock : ∀ i ∈ sys.calls, ∀ now, .returned i .now now ∈ sys.history → now < session.expiresAt
  others : ∀ i input, .start i (.refresh input) ∈ sys.history → i ∉ sys.calls →
    secret (services.hashRefreshToken input.refreshToken) →
    ∃ t, sys.identity.threads i = some t ∧ t.program.Completed

variable {session : Session} {secret : JsString → Prop} {sys : System services}

theorem Kept.of_holds {token : JsString} (h : Holds session secret token sys) :
    Kept session secret sys := by
  have hnone : ∀ i, i ∉ sys.calls := by
    intro i hi
    rw [h.calls] at hi
    cases hi
  constructor
  · exact h.reached
  · exact h.stored
  · rw [h.client]
    exact .idle h.unspent
  · exact fun i hi => absurd hi (hnone i)
  · exact fun i hi => absurd hi (hnone i)
  · exact fun i hi => absurd hi (hnone i)
  · exact fun i hi => absurd hi (hnone i)
  · exact fun i input hstart _ hsecret => h.known i input hstart hsecret

/-- The reasons of every call of the run. -/
theorem Kept.good (h : Kept session secret sys) :
    (evidence services).Good (ended services) sys.history sys.identity := by
  rcases h.reached with ⟨accounts, hrun⟩
  exact good_evidence hrun

/-- An execution is the client's or somebody else's from its start on. -/
theorem Kept.started (h : Kept session secret sys) {i : ℕ} (hi : i ∈ sys.calls) :
    ∃ t, sys.identity.threads i = some t := by
  rcases h.presented i hi with ⟨token, hstart, -⟩
  rcases h.reached with ⟨accounts, hrun⟩
  rcases hrun.started hstart with ⟨t, ht, -⟩
  exact ⟨t, ht⟩

/-- The row of a presented token stays a row of its session. -/
theorem row_of_session_later {s s' : Store services.lower} (h : Store.Later s s')
    {tokenHash sessionId : JsString}
    (hrow : ∃ row ∈ s.tables.refreshTokens.rows,
      row.tokenHash = tokenHash ∧ row.sessionId = sessionId) :
    ∃ row ∈ s'.tables.refreshTokens.rows,
      row.tokenHash = tokenHash ∧ row.sessionId = sessionId := by
  rcases hrow with ⟨row, hrow, hhash, hid⟩
  rcases h.tables.token row hrow with ⟨row', hrow', hsame, -⟩
  refine ⟨row', hrow', ?_, ?_⟩
  · rw [← hsame]
    exact hhash
  · rw [← hsame]
    exact hid

/-- A step of Identity after which the client can go on. -/
theorem Kept.after (h : Kept session secret sys) {e : IdentityEvent} {c : IdentityConfig services}
    {client : Client} {calls : List ℕ}
    (hstep : Interleaving.Step (machine services) sys.identity e c)
    (hlater : Store.Later sys.identity.store c.store)
    (hstored : session ∈ c.store.tables.sessions.rows)
    (hclient : client.CanGoOn session ⟨sys.history ++ [e], c.store⟩ calls)
    (hcalls : ∀ i ∈ calls, i ∈ sys.calls ∨ sys.identity.threads i = none ∧
      ∃ token, e = .start i (.refresh ⟨token⟩) ∧
        Unspent session (services.hashRefreshToken token) sys.identity.store)
    (hkept : ∀ i ∈ sys.calls, i ∈ calls)
    (hfound : ∀ i ∈ sys.calls, ∀ tokenHash found, e = .returned i (.findByTokenHash tokenHash) found →
      ∃ token, found = some ⟨session, token⟩ ∧ token.spentAt = none)
    (hrotated : ∀ i ∈ sys.calls, e.thread = i → ∀ r, rotation e = some r → r.answer = true)
    (hclock : ∀ i ∈ sys.calls, ∀ now, e = .returned i .now now → now < session.expiresAt)
    (hothers : ∀ i input, e = .start i (.refresh input) → i ∉ calls →
      ¬ secret (services.hashRefreshToken input.refreshToken)) :
    Kept session secret ⟨c, sys.history ++ [e], client, calls⟩ := by
  -- a new call of the client has no events but its start
  have hold : ∀ i ∈ calls, ∀ e' ∈ sys.history, e'.thread = i → i ∈ sys.calls := by
    intro i hi e' he' hthread
    rcases hcalls i hi with hi | ⟨hnone, -⟩
    · exact hi
    · have hown := h.good.fresh i hnone
      have hmem : e' ∈ sys.world.own i := World.mem_own.mpr ⟨he', hthread⟩
      rw [System.world, hown] at hmem
      cases hmem
  have hlast : ∀ i ∈ calls, e.thread = i → (∀ token, e ≠ .start i (.refresh ⟨token⟩)) →
      i ∈ sys.calls := by
    intro i hi _ hne
    rcases hcalls i hi with hi | ⟨-, token, he, -⟩
    · exact hi
    · exact absurd he (hne token)
  constructor
  · rcases h.reached with ⟨accounts, hrun⟩
    exact ⟨accounts, hrun.snoc hstep⟩
  · exact hstored
  · exact hclient
  · -- presented
    intro i hi
    rcases hcalls i hi with hi | ⟨-, token, rfl, row, hrow, hhash, hid, -⟩
    · rcases h.presented i hi with ⟨token, hstart, hrow⟩
      exact ⟨token, List.mem_append_left _ hstart, row_of_session_later hlater hrow⟩
    · exact ⟨token, List.mem_append_right _ (List.mem_singleton_self _),
        row_of_session_later hlater ⟨row, hrow, hhash, hid⟩⟩
  · -- found
    intro i hi tokenHash found hmem
    rcases List.mem_append.mp hmem with hmem | hmem
    · exact h.found i (hold i hi _ hmem rfl) tokenHash found hmem
    · have he := (List.mem_singleton.mp hmem).symm
      exact hfound i (hlast i hi (by rw [he]; rfl) (by rw [he]; exact fun _ hno => nomatch hno))
        tokenHash found he
  · -- rotated
    intro i hi r hr
    rcases mem_rotations.mp hr with ⟨e', he', hr'⟩
    rcases World.mem_own.mp he' with ⟨hmem, hthread⟩
    rcases List.mem_append.mp hmem with hmem | hmem
    · -- an earlier rotation
      have hi' := hold i hi e' hmem hthread
      exact h.rotated i hi' r (mem_rotations.mpr ⟨e', World.mem_own.mpr ⟨hmem, hthread⟩, hr'⟩)
    · rw [List.mem_singleton.mp hmem] at hthread hr'
      refine hrotated i (hlast i hi hthread ?_) hthread r hr'
      rintro token rfl
      cases hr'
  · -- clock
    intro i hi now hmem
    rcases List.mem_append.mp hmem with hmem | hmem
    · exact h.clock i (hold i hi _ hmem rfl) now hmem
    · have he := (List.mem_singleton.mp hmem).symm
      exact hclock i (hlast i hi (by rw [he]; rfl) (by rw [he]; exact fun _ hno => nomatch hno))
        now he
  · -- others
    intro i input hmem hi hsecret
    rcases List.mem_append.mp hmem with hmem | hmem
    · rcases h.others i input hmem (fun hi' => hi (hkept i hi')) hsecret with ⟨t, ht, hdone⟩
      exact ⟨t, (hstep.completed ht hdone).1, hdone⟩
    · exact absurd hsecret (hothers i input (List.mem_singleton.mp hmem).symm hi)

/-! ### The calls of Identity -/

/-- A session stays as it is until it is revoked. -/
theorem stored_kept {c : PortCall} {r : Answer c} {s s' : Store services.lower}
    (h : returns services c s r s') (hc : ∀ revokedAt, c ≠ .revoke session.id revokedAt)
    (hstored : session ∈ s.tables.sessions.rows) : session ∈ s'.tables.sessions.rows := by
  cases wrote h with
  | nothing _ hsame =>
    rw [hsame]
    exact hstored
  | created created firstToken hcreate =>
    rw [(DrizzleSessionRepository.create_spec hcreate).2.2.1]
    exact List.mem_cons_of_mem _ hstored
  | rotated spentTokenId next spentAt answer hrotate =>
    rcases DrizzleSessionRepository.rotate_cases hrotate with ⟨-, hrotated⟩ | ⟨-, hsame, -⟩
    · rw [hrotated.sessions]
      exact hstored
    · rw [hsame]
      exact hstored
  | revoked sessionId revokedAt hrevoke =>
    have hmiss : isLive sessionId session = false := by
      rw [Bool.eq_false_iff]
      intro hlive
      apply hc revokedAt
      rw [(isLive_iff.mp hlive).1]
    rw [hrevoke]
    exact DrizzleSessionRepository.mem_revoke.mpr ⟨session, hstored, by simp [hmiss]⟩

/-- A token stays unspent until its session is rotated. -/
theorem unspent_kept {c : PortCall} {r : Answer c} {s s' : Store services.lower}
    (h : returns services c s r s')
    (hc : ∀ spentTokenId next spentAt, c = .rotate spentTokenId next spentAt →
      next.sessionId ≠ session.id)
    {tokenHash : JsString} (hunspent : Unspent session tokenHash s) :
    Unspent session tokenHash s' := by
  -- its row stays as it is
  rcases hunspent with ⟨row, hrow, hhash, hid, hnone⟩
  refine ⟨row, ?_, hhash, hid, hnone⟩
  cases wrote h with
  | nothing _ hsame =>
    rw [hsame]
    exact hrow
  | created created firstToken hcreate =>
    rw [(DrizzleSessionRepository.create_spec hcreate).2.2.2]
    exact List.mem_cons_of_mem _ hrow
  | rotated spentTokenId next spentAt answer hrotate =>
    rcases DrizzleSessionRepository.rotate_cases hrotate with ⟨-, hrotated⟩ | ⟨-, hsame, -⟩
    · -- a rotation spends a token of `next`'s session only
      have hmiss : spends spentTokenId next.sessionId row = false := by
        rw [Bool.eq_false_iff]
        intro hspends
        exact hc _ _ _ rfl ((spends_iff.mp hspends).2.1.symm.trans hid)
      rw [hrotated.tokens]
      exact List.mem_cons_of_mem _ (mem_spend.mpr ⟨row, hrow, by simp [hmiss]⟩)
    · rw [hsame]
      exact hrow
  | revoked sessionId revokedAt hrevoke =>
    rw [hrevoke]
    exact hrow

/-- The client can go on after a step that rotates nothing of its own. -/
theorem Client.CanGoOn.after {client : Client} {w : IdentityWorld services} {calls : List ℕ}
    (h : client.CanGoOn session w calls) {e : IdentityEvent} {s : Store services.lower}
    (hunspent : ∀ tokenHash, Unspent session tokenHash w.store → Unspent session tokenHash s)
    (hquiet : ∀ i ∈ calls, e.thread = i → rotation e = none) :
    client.CanGoOn session (w.after e s) calls := by
  cases h with
  | idle hfresh => exact .idle (hunspent _ hfresh)
  | @waiting token i hi hstart hfirst hnext =>
    refine .waiting hi (List.mem_append_left _ hstart) ?_ ?_
    · -- still no rotation of its own, and the token is unspent still
      intro hnone
      apply hunspent
      apply hfirst
      by_cases hthread : e.thread = i
      · rw [World.own_after w hthread, rotations_append] at hnone
        exact (List.append_eq_nil_iff.mp hnone).1
      · rw [World.own_after_of_ne w hthread] at hnone
        exact hnone
    · intro spentTokenId next spentAt hmem
      apply hunspent
      rcases List.mem_append.mp hmem with hmem | hmem
      · exact hnext spentTokenId next spentAt hmem
      · -- the last event is no rotation of the client's
        have he := (List.mem_singleton.mp hmem).symm
        have hnone := hquiet i hi (by rw [he]; rfl)
        rw [he] at hnone
        cases hnone

/-- The client can go on after its outstanding execution has rotated. -/
theorem Client.CanGoOn.rotated {w : IdentityWorld services} {calls : List ℕ} {token : JsString}
    {i : ℕ} (h : (Client.holding token (some i)).CanGoOn session w calls)
    (hfirst : rotations (w.own i) = []) {spentTokenId : JsString} {next : StoredRefreshToken}
    {spentAt : Date} {s : Store services.lower} (hnext : Unspent session next.tokenHash s) :
    (Client.holding token (some i)).CanGoOn session
      (w.after (.returned i (.rotate spentTokenId next spentAt) true) s) calls := by
  cases h with
  | waiting hi hstart _ _ =>
    refine .waiting hi (List.mem_append_left _ hstart) ?_ ?_
    · -- it has rotated now
      intro hnone
      rw [World.own_returned, rotations_append] at hnone
      cases (List.append_eq_nil_iff.mp hnone).2
    · intro spentTokenId' other spentAt' hmem
      rcases List.mem_append.mp hmem with hmem | hmem
      · -- it had rotated nothing before
        have hr : ⟨spentTokenId', other.sessionId, true⟩ ∈ rotations (w.own i) :=
          mem_rotations.mpr ⟨_, World.mem_own.mpr ⟨hmem, rfl⟩, rfl⟩
        rw [hfirst] at hr
        cases hr
      · cases List.mem_singleton.mp hmem
        exact hnext

/-- The token an execution of the client found, and that it was unspent. -/
theorem Kept.presented_found (h : Kept session secret sys) {i : ℕ} (hi : i ∈ sys.calls)
    {input : RefreshSessionInput} {found : Session} {token : StoredRefreshToken}
    (hpresented : Presented services (sys.world.own i) i input found token) :
    found = session ∧ token.spentAt = none := by
  rcases h.found i hi _ _ (World.mem_own.mp hpresented.2).1 with ⟨token', heq, hunspent⟩
  cases heq
  exact ⟨rfl, hunspent⟩

/-- The client's executions never revoke. -/
theorem Kept.no_revoke (h : Kept session secret sys) {i : ℕ} (hi : i ∈ sys.calls)
    {sessionId : JsString} {revokedAt : Date}
    (hwhy : Why services (sys.world.own i) i (.revoke sessionId revokedAt)) : False := by
  rcases hwhy with ⟨input, found, token, hpresented, -, hreuse⟩
  rcases hreuse with hspent | ⟨next, spentAt, hrotate⟩
  · exact hspent (h.presented_found hi hpresented).2
  · have hr := h.rotated i hi _ (mem_rotations.mpr ⟨_, hrotate, rfl⟩)
    cases hr

/-- Nobody else touches the session. -/
theorem Kept.untouched (h : Kept session secret sys)
    (hsecret : ∀ row ∈ sys.identity.store.tables.refreshTokens.rows,
      row.sessionId = session.id → secret row.tokenHash)
    {i : ℕ} (hi : i ∉ sys.calls) {request : Request} {program : UseCase Response}
    (hthread : sys.identity.threads i = some ⟨request, program⟩) (hrunning : ¬ program.Completed)
    {input : RefreshSessionInput} {found : Session} {token : StoredRefreshToken}
    (hpresented : Presented services (sys.world.own i) i input found token) :
    found.id ≠ session.id := by
  intro hid
  have hstart := (World.mem_own.mp hpresented.1).1
  rcases h.good.inv.found (World.mem_own.mp hpresented.2).1 with
    ⟨hhash, hof, ⟨row, hrow, hsame, -⟩, -⟩
  have hrowid : row.sessionId = session.id := by
    rw [← hsame]
    exact hof.symm.trans hid
  have hrowhash : row.tokenHash = services.hashRefreshToken input.refreshToken := by
    rw [← hsame]
    exact hhash
  rcases h.others i input hstart hi (hrowhash ▸ hsecret row hrow hrowid) with ⟨t, ht, hdone⟩
  rw [hthread] at ht
  cases ht
  exact hrunning hdone

/-- The outstanding execution rotates: it spends the token the client holds and inserts
the one it will answer with. -/
theorem Kept.rotates (h : Kept session secret sys) (hlive : session.revokedAt = none) {i : ℕ}
    {token : JsString} (hclient : sys.client = .holding token (some i))
    {spentTokenId : JsString} {next : StoredRefreshToken} {spentAt : Date} {answer : Bool}
    (hwhy : Why services (sys.world.own i) i (.rotate spentTokenId next spentAt))
    (hfirst : rotations (sys.world.own i) = []) {s : Store services.lower}
    (hrotate : DrizzleSessionRepository.rotate sys.identity.store.tables spentTokenId next spentAt =
      some (answer, s.tables)) :
    answer = true ∧ Unspent session next.tokenHash s := by
  have hcan := h.client
  rw [hclient] at hcan
  cases hcan with
  | waiting hi hstart hfresh _ =>
    rcases hwhy with ⟨input, found, row, hpresented, -, -, -, hspentId, hnextId, hnext⟩
    rcases h.presented_found hi hpresented with ⟨rfl, -⟩
    rcases h.reached with ⟨accounts, hrun⟩
    have hinput := hrun.start_unique (World.mem_own.mp hpresented.1).1 hstart
    cases hinput
    -- the row it found is the unspent one
    rcases hfresh hfirst with ⟨unspent, hunspent, hhash, hof, hnone⟩
    rcases h.good.inv.found (World.mem_own.mp hpresented.2).1 with
      ⟨hfoundHash, -, ⟨later, hmem, hsame, -⟩, -⟩
    have hlaterHash : later.tokenHash = unspent.tokenHash := by
      rw [← hsame, hhash]
      exact hfoundHash
    have hlaterId : later.id = row.id := by rw [← hsame]
    obtain rfl := sys.identity.store.tables.hash_unique hmem hunspent hlaterHash
    rcases DrizzleSessionRepository.rotate_cases hrotate with ⟨rfl, hrotated⟩ | ⟨-, -, hrefuses⟩
    · refine ⟨rfl, next, ?_, rfl, hnextId, hnext⟩
      rw [hrotated.tokens]
      exact List.mem_cons_self
    · -- neither reason to refuse holds
      rcases hrefuses with hrevoked | hspent
      · exact absurd hlive (hrevoked _ h.stored hnextId.symm)
      · exact absurd hnone
          (hspent later hunspent (hlaterId.trans hspentId.symm) (hof.trans hnextId.symm))

/-- The client's executions find their token unspent. -/
theorem Kept.finds (h : Kept session secret sys) {i : ℕ} (hi : i ∈ sys.calls)
    {input : RefreshSessionInput} (hstart : .start i (.refresh input) ∈ sys.history)
    (hfirst : rotations (sys.world.own i) = [])
    (huncut : sys.Outstanding i ∨ ∀ row ∈ sys.identity.store.tables.refreshTokens.rows,
      row.tokenHash = services.hashRefreshToken input.refreshToken → row.spentAt = none) :
    ∃ token, DrizzleSessionRepository.findByTokenHash sys.identity.store.tables
      (services.hashRefreshToken input.refreshToken) = some ⟨session, token⟩ ∧
        token.spentAt = none := by
  rcases h.reached with ⟨accounts, hrun⟩
  have hunspent : Unspent session (services.hashRefreshToken input.refreshToken)
      sys.identity.store := by
    rcases huncut with ⟨token, hclient⟩ | hall
    · have hcan := h.client
      rw [hclient] at hcan
      cases hcan with
      | waiting _ hstart' hfresh _ =>
        cases hrun.start_unique hstart hstart'
        exact hfresh hfirst
    · rcases h.presented i hi with ⟨token, hstart', row, hrow, hhash, hid⟩
      cases hrun.start_unique hstart hstart'
      exact ⟨row, hrow, hhash, hid, hall row hrow hhash⟩
  rcases hunspent with ⟨row, hrow, hhash, hid, hnone⟩
  rcases DrizzleSessionRepository.findByTokenHash_of_mem hrow with ⟨owner, hjoin⟩
  rcases DrizzleSessionRepository.findByTokenHash_some hjoin with ⟨-, -, howner, hof⟩
  obtain rfl := sys.identity.store.tables.session_unique howner h.stored (hof.trans hid)
  exact ⟨row, hhash ▸ hjoin, hnone⟩

/-- An event that answers no call changes nothing for the client. -/
theorem Kept.unanswered (h : Kept session secret sys) {e : IdentityEvent}
    {c : IdentityConfig services}
    (hstep : Interleaving.Step (machine services) sys.identity e c)
    (hstore : c.store = sys.identity.store)
    (hevent : ∀ i call r, e ≠ .returned i call r)
    (hothers : ∀ i input, e = .start i (.refresh input) → i ∉ sys.calls →
      ¬ secret (services.hashRefreshToken input.refreshToken)) :
    Kept session secret { sys with identity := c, history := sys.history ++ [e] } := by
  have hrotation : rotation e = none := by
    cases e with
    | start i request => rfl
    | threw i call error => rfl
    | returned i call r => exact absurd rfl (hevent i call r)
  refine h.after hstep ?_ ?_ ?_ (fun _ hi => Or.inl hi) (fun _ hi => hi) ?_ ?_ ?_ hothers
  · rw [hstore]
    exact .refl _
  · rw [hstore]
    exact h.stored
  · refine h.client.after (fun _ hunspent => ?_) fun _ _ _ => hrotation
    rw [hstore]
    exact hunspent
  · exact fun i _ _ _ heq => absurd heq (hevent i _ _)
  · intro _ _ _ rotated hr
    rw [hrotation] at hr
    cases hr
  · exact fun i _ _ heq => absurd heq (hevent i _ _)

section Answered

variable {i : ℕ} {request : Request} {call : PortCall} {next : Answer call → UseCase Response}
  {r : Answer call} {s : Store services.lower}

/-- An answer to the client's execution that neither rotates nor revokes. -/
theorem Kept.quiet (h : Kept session secret sys)
    (hi : sys.identity.threads i = some ⟨request, .call call next⟩)
    (hreturns : returns services call sys.identity.store r s)
    (hrotate : ∀ spentTokenId next spentAt, call ≠ .rotate spentTokenId next spentAt)
    (hrevoke : ∀ revokedAt, call ≠ .revoke session.id revokedAt)
    (hfound : ∀ tokenHash found, (.returned i call r : IdentityEvent) =
      .returned i (.findByTokenHash tokenHash) found →
        ∃ token, found = some ⟨session, token⟩ ∧ token.spentAt = none)
    (hclock : ∀ now, (.returned i call r : IdentityEvent) = .returned i .now now →
      now < session.expiresAt) :
    Kept session secret
      { sys with identity := sys.identity.set s i ⟨request, next r⟩
                 history := sys.history ++ [.returned i call r] } := by
  have hrotation : rotation (.returned i call r) = none := by
    cases call with
    | rotate spentTokenId next' spentAt => exact absurd rfl (hrotate spentTokenId next' spentAt)
    | _ => rfl
  refine h.after (.returned hi hreturns) (returns_later hreturns)
    (stored_kept hreturns hrevoke h.stored) ?_ (fun _ hi => Or.inl hi) (fun _ hi => hi) ?_ ?_ ?_ ?_
  · refine h.client.after (fun _ => unspent_kept hreturns ?_) fun _ _ _ => hrotation
    intro spentTokenId next spentAt heq
    exact absurd heq (hrotate spentTokenId next spentAt)
  · intro j hj tokenHash found heq
    obtain rfl : i = j := congrArg Event.thread heq
    exact hfound tokenHash found heq
  · intro _ _ _ rotated hr
    rw [hrotation] at hr
    cases hr
  · intro j hj now heq
    obtain rfl : i = j := congrArg Event.thread heq
    exact hclock now heq
  · exact fun _ _ hno => nomatch hno

/-- An answer to the client's own execution. -/
theorem Kept.answered_own (h : Kept session secret sys) (hlive : session.revokedAt = none)
    (hi : sys.identity.threads i = some ⟨request, .call call next⟩)
    (hreturns : returns services call sys.identity.store r s) (hcalls : i ∈ sys.calls)
    (hhonest : Honest session secret sys (.identity (.returned i call r)))
    (huncut : Uncut sys (.identity (.returned i call r))) :
    Kept session secret
      { sys with identity := sys.identity.set s i ⟨request, next r⟩
                 history := sys.history ++ [.returned i call r] } := by
  -- why the call was made, by the discipline of every run
  rcases (h.good.safe _ _ hi _ (Discipline.Rely.refl h.good.inv)).1 with ⟨hwhy, hfirst⟩
  cases call with
  | rotate spentTokenId next' spentAt =>
    -- the one rotation of the call under way: it goes through
    rcases huncut hcalls with ⟨token, hclient⟩
    rcases h.rotates hlive hclient hwhy hfirst hreturns.2 with ⟨rfl, hnext⟩
    have hanswered : returns services (.rotate spentTokenId next' spentAt)
      sys.identity.store true s := hreturns
    have hstored := stored_kept hanswered (fun _ hno => nomatch hno) h.stored
    refine h.after (.returned hi hreturns) (returns_later hreturns) hstored ?_
      (fun _ hi => Or.inl hi) (fun _ hi => hi) ?_ ?_ ?_ ?_
    · have hcan := h.client
      rw [hclient] at hcan ⊢
      exact hcan.rotated hfirst hnext
    · exact fun _ _ _ _ hno => nomatch hno
    · intro _ _ _ rotated hr
      cases hr
      rfl
    · exact fun _ _ _ hno => nomatch hno
    · exact fun _ _ hno => nomatch hno
  | revoke sessionId revokedAt =>
    -- it would have met a spent token or lost a race
    exact (h.no_revoke hcalls hwhy).elim
  | findByTokenHash tokenHash =>
    refine h.quiet hi hreturns (fun _ _ _ hno => nomatch hno) (fun _ hno => nomatch hno) ?_
      (fun _ hno => nomatch hno)
    intro tokenHash' found heq
    cases heq
    rcases hwhy with ⟨input, hstart, rfl⟩
    rcases h.finds hcalls (World.mem_own.mp hstart).1 hfirst (huncut hcalls) with
      ⟨token, hjoin, hunspent⟩
    exact ⟨token, hreturns.2.trans hjoin, hunspent⟩
  | now =>
    refine h.quiet hi hreturns (fun _ _ _ hno => nomatch hno) (fun _ hno => nomatch hno)
      (fun _ _ hno => nomatch hno) ?_
    intro now heq
    cases heq
    exact hhonest hcalls
  | existsByHandle | createUser | findCredentialsByHandle | createSession | findByHandle
  | updateProfile | hashPassword | verifyPassword | createRefreshToken | nextId
  | issueAccessToken =>
    exact h.quiet hi hreturns (fun _ _ _ hno => nomatch hno) (fun _ hno => nomatch hno)
      (fun _ _ hno => nomatch hno) (fun _ hno => nomatch hno)

/-- An answer to somebody else's execution does not touch the session. -/
theorem Kept.answered_other (h : Kept session secret sys)
    (hsecret : ∀ row ∈ sys.identity.store.tables.refreshTokens.rows,
      row.sessionId = session.id → secret row.tokenHash)
    (hi : sys.identity.threads i = some ⟨request, .call call next⟩)
    (hreturns : returns services call sys.identity.store r s) (hcalls : i ∉ sys.calls) :
    Kept session secret
      { sys with identity := sys.identity.set s i ⟨request, next r⟩
                 history := sys.history ++ [.returned i call r] } := by
  rcases (h.good.safe _ _ hi _ (Discipline.Rely.refl h.good.inv)).1 with ⟨hwhy, -⟩
  have hrunning : ¬ (Program.call call next).Completed := fun hno => hno
  -- it was never presented a token of the session, so it neither revokes nor rotates in it
  have hrevoke : ∀ revokedAt, call ≠ .revoke session.id revokedAt := by
    rintro revokedAt rfl
    rcases hwhy with ⟨input, found, token, hpresented, hid, -⟩
    exact h.untouched hsecret hcalls hi hrunning hpresented hid.symm
  have hrotate : ∀ spentTokenId next spentAt, call = .rotate spentTokenId next spentAt →
      next.sessionId ≠ session.id := by
    rintro spentTokenId next' spentAt rfl
    rcases hwhy with ⟨input, found, token, hpresented, -, -, -, -, hid, -⟩
    rw [hid]
    exact h.untouched hsecret hcalls hi hrunning hpresented
  have hother : ∀ j ∈ sys.calls, i ≠ j := by
    rintro j hj rfl
    exact hcalls hj
  refine h.after (.returned hi hreturns) (returns_later hreturns)
    (stored_kept hreturns hrevoke h.stored) ?_ (fun _ hi => Or.inl hi) (fun _ hi => hi) ?_ ?_ ?_ ?_
  · exact h.client.after (fun _ => unspent_kept hreturns hrotate)
      fun j hj hthread => absurd hthread (hother j hj)
  · intro j hj tokenHash found heq
    cases heq
    exact absurd rfl (hother _ hj)
  · exact fun j hj hthread => absurd hthread (hother j hj)
  · intro j hj now heq
    cases heq
    exact absurd rfl (hother _ hj)
  · exact fun _ _ hno => nomatch hno

end Answered

/-- A step of Identity keeps the client going. -/
theorem Kept.identity (h : Kept session secret sys) (hlive : session.revokedAt = none)
    (hsecret : ∀ row ∈ sys.identity.store.tables.refreshTokens.rows,
      row.sessionId = session.id → secret row.tokenHash)
    {e : IdentityEvent} {c : IdentityConfig services}
    (hhonest : Honest session secret sys (.identity e)) (huncut : Uncut sys (.identity e))
    (hstep : Interleaving.Step (machine services) sys.identity e c) :
    Kept session secret { sys with identity := c, history := sys.history ++ [e] } := by
  have hstep' := hstep
  cases hstep with
  | start i request hnone =>
    refine h.unanswered hstep' rfl (by rintro _ _ _ ⟨⟩) ?_
    intro j input heq _
    cases heq
    exact hhonest
  | threw hi hthrows =>
    exact h.unanswered hstep' rfl (by rintro _ _ _ ⟨⟩) (by rintro _ _ ⟨⟩)
  | @returned i request call next r s hi hreturns =>
    by_cases hcalls : i ∈ sys.calls
    · exact h.answered_own hlive hi hreturns hcalls hhonest huncut
    · exact h.answered_other hsecret hi hreturns hcalls

/-! ### The steps of the client -/

/-- After anything but a 401 the client keeps its token. -/
theorem Client.failed_of_ne {token : JsString} {error : RpcException}
    (h : error.code ≠ .unauthenticated) : Client.failed token error = .holding token none := by
  unfold Client.failed Client.rejected
  rw [if_neg (mt toProblemDetails_unauthorized.mp h)]

/-- The client sends the token it holds. -/
theorem Kept.send (h : Kept session secret sys) {token : JsString} {i : ℕ}
    {c : IdentityConfig services} (hclient : sys.client = .holding token none)
    (hstep : Interleaving.Step (machine services) sys.identity (.start i (.refresh ⟨token⟩)) c) :
    Kept session secret
      ⟨c, sys.history ++ [.start i (.refresh ⟨token⟩)], .holding token (some i), i :: sys.calls⟩ := by
  have hstep' := hstep
  have hcan := h.client
  rw [hclient] at hcan
  cases hcan with
  | idle hfresh =>
    cases hstep with
    | start _ _ hnone =>
      have hown := h.good.fresh i hnone
      have hnoEvent : ∀ e ∈ sys.history, e.thread ≠ i := by
        intro e he hthread
        have hmem : e ∈ sys.world.own i := World.mem_own.mpr ⟨he, hthread⟩
        rw [show sys.world.own i = [] from hown] at hmem
        cases hmem
      refine h.after hstep' (.refl _) h.stored ?_ ?_ (fun _ hj => List.mem_cons_of_mem _ hj) ?_ ?_ ?_ ?_
      · -- the client now waits for `i`, which has rotated nothing yet
        refine .waiting List.mem_cons_self (List.mem_append_right _ (List.mem_singleton_self _))
          (fun _ => hfresh) ?_
        intro spentTokenId next spentAt hmem
        rcases List.mem_append.mp hmem with hmem | hmem
        · exact absurd rfl (hnoEvent _ hmem)
        · cases List.mem_singleton.mp hmem
      · intro j hj
        rcases List.mem_cons.mp hj with rfl | hj
        · exact Or.inr ⟨hnone, token, rfl, hfresh⟩
        · exact Or.inl hj
      · exact fun _ _ _ _ hno => nomatch hno
      · exact fun _ _ _ _ hno => nomatch hno
      · exact fun _ _ _ hno => nomatch hno
      · intro j input heq hj
        cases heq
        exact absurd List.mem_cons_self hj

/-- Only the client changes, and can go on. -/
theorem Kept.with_client (h : Kept session secret sys) {client : Client}
    (hclient : client.CanGoOn session sys.world sys.calls) :
    Kept session secret { sys with client } :=
  ⟨h.reached, h.stored, hclient, h.presented, h.found, h.rotated, h.clock, h.others⟩

/-- An execution of the client that rotated nothing has left its token unspent. -/
theorem Kept.unrotated (h : Kept session secret sys) {token : JsString} {i : ℕ}
    (hclient : sys.client = .holding token (some i))
    (hnone : ∀ r ∈ rotations (sys.world.own i), r.answer = false) :
    Client.CanGoOn session sys.world sys.calls (.holding token none) := by
  have hcan := h.client
  rw [hclient] at hcan
  cases hcan with
  | waiting hi _ hfresh _ =>
    refine .idle (hfresh (List.eq_nil_iff_forall_not_mem.mpr ?_))
    intro r hr
    have hfalse := hnone r hr
    rw [h.rotated i hi r hr] at hfalse
    cases hfalse

/-- The answer of the outstanding execution lets the client go on. -/
theorem Kept.answer (h : Kept session secret sys) {token : JsString} {i : ℕ} {request : Request}
    {program : UseCase Response} {out : Except Failure Response}
    (hclient : sys.client = .holding token (some i))
    (hthread : sys.identity.threads i = some ⟨request, program⟩) (hout : outcome program = some out) :
    (Client.answered token out).CanGoOn session sys.world sys.calls := by
  have hcan := h.client
  rw [hclient] at hcan
  cases hcan with
  | waiting hi hstart hfresh hnext =>
    rcases h.reached with ⟨accounts, hrun⟩
    rcases hrun.started hstart with ⟨t, ht, hrequest⟩
    rw [hthread] at ht
    cases ht
    obtain rfl : request = .refresh ⟨token⟩ := hrequest
    cases program with
    | call c next => cases hout
    | done response =>
      -- 200 with the next token
      cases hout
      rcases h.good.done hthread with
        ⟨tokens, found, row, next, now, rfl, -, hrotate, -, hhash⟩
      refine .idle ?_
      have hunspent := hnext _ _ _ (World.mem_own.mp hrotate).1
      rw [hhash] at hunspent
      exact hunspent
    | failed e =>
      cases hout
      rcases h.good.failed hthread with ⟨hnone, hkind⟩
      have hcode : (toRpcException e).code ≠ .unauthenticated := by
        rw [Ne, toRpcException_unauthenticated]
        rcases hkind with rfl | rfl | ⟨rfl, hreject⟩
        · rintro (hno | hno) <;> cases hno
        · rintro (hno | hno) <;> cases hno
        · -- none of the reasons for a 401 holds
          exfalso
          rcases hreject with hmissing | ⟨found, row, hpresented, hreason⟩
          · rcases h.found i hi _ _ (World.mem_own.mp hmissing).1 with ⟨_, hno, -⟩
            cases hno
          · rcases h.presented_found hi hpresented with ⟨rfl, hunspent⟩
            rcases hreason with hspent | ⟨now, hnow, hexpired⟩ | ⟨next, spentAt, hrotate⟩
            · exact hspent hunspent
            · have hclock := h.clock i hi now (World.mem_own.mp hnow).1
              exact absurd hexpired (not_le.mpr hclock)
            · have hr := h.rotated i hi _ (mem_rotations.mpr ⟨_, hrotate, rfl⟩)
              cases hr
      show (Client.failed token (toRpcException e)).CanGoOn session sys.world sys.calls
      rw [Client.failed_of_ne hcode]
      exact h.unrotated hclient hnone

/-- Every step that meets the condition keeps the client going. -/
theorem Kept.step (h : Kept session secret sys) (hlive : session.revokedAt = none)
    (hsecret : ∀ row ∈ sys.identity.store.tables.refreshTokens.rows,
      row.sessionId = session.id → secret row.tokenHash)
    {action : Action} {sys' : System services} (hhonest : Honest session secret sys action)
    (huncut : Uncut sys action) (hstep : Step sys action sys') : Kept session secret sys' := by
  cases hstep with
  | identity hidentity => exact h.identity hlive hsecret hhonest huncut hidentity
  | send hclient hidentity => exact h.send hclient hidentity
  | unreachable hclient =>
    apply h.with_client
    rw [Client.failed_of_ne (by exact fun hno => nomatch hno), ← hclient]
    exact h.client
  | cut hclient hcode =>
    apply h.with_client
    rw [Client.failed_of_ne]
    · exact h.unrotated hclient huncut
    · rcases hcode with rfl | rfl <;> exact fun hno => nomatch hno
  | answer hclient hthread hout => exact h.with_client (h.answer hclient hthread hout)

/-- Identity's store only moves up. -/
theorem Step.later {action : Action} {sys' : System services} (h : Step sys action sys') :
    Store.Later sys.identity.store sys'.identity.store := by
  have hidentity : ∀ {e : IdentityEvent} {c : IdentityConfig services},
      Interleaving.Step (machine services) sys.identity e c →
      Store.Later sys.identity.store c.store := by
    intro e c hstep
    cases hstep with
    | start => exact .refl _
    | returned _ hreturns => exact returns_later hreturns
    | threw => exact .refl _
  cases h with
  | identity hstep => exact hidentity hstep
  | send _ hstep => exact hidentity hstep
  | unreachable | cut | answer => exact .refl _

/-- Following the retry rule costs an honest client nothing in a run in which no answer
is lost once its execution has rotated, and no abandoned execution rotates or reads a
token that has been spent: it gets no 401, and its session is never revoked. -/
theorem retries_keep_the_session {session : Session} {secret : JsString → Prop} {token : JsString}
    {start sys : System services} (hstart : Holds session secret token start)
    (hrun : Reaches (fun sys action => Honest session secret sys action ∧ Uncut sys action) start sys)
    (hsecret : ∀ row ∈ sys.identity.store.tables.refreshTokens.rows,
      row.sessionId = session.id → secret row.tokenHash) :
    ¬ sys.identity.store.tables.Revoked session.id ∧ sys.client ≠ .signedOut := by
  have hkept : Kept session secret sys := by
    induction hrun with
    | refl => exact .of_holds hstart
    | @tail mid last _ hstep ih =>
      rcases hstep with ⟨action, ⟨hhonest, huncut⟩, hstep⟩
      -- what is secret at the end was secret before
      have hbefore : ∀ row ∈ mid.identity.store.tables.refreshTokens.rows,
          row.sessionId = session.id → secret row.tokenHash := by
        intro row hrow hid
        rcases hstep.later.tables.token row hrow with ⟨row', hrow', hsame, -⟩
        have hsecret' := hsecret row' hrow' (by rw [← hsame]; exact hid)
        rw [← hsame] at hsecret'
        exact hsecret'
      exact (ih hbefore).step hstart.live hbefore hhonest huncut hstep
  constructor
  · rintro ⟨row, hrow, hid, hrevoked⟩
    obtain rfl := sys.identity.store.tables.session_unique hrow hkept.stored hid
    exact hrevoked hstart.live
  · intro hout
    have hcan := hkept.client
    rw [hout] at hcan
    cases hcan

/-! ## Two runs -/

/-- The session the sample login opens. -/
def sampleSession : Session := ⟨js "9", js "7", 1769817600123, none, none, 1767225600123⟩

/-- The digests of the session's tokens. -/
def sampleSecret (tokenHash : JsString) : Prop :=
  tokenHash ∈ [sampleDigest (js "opaque-1"), sampleDigest (js "opaque-2")]

instance : DecidablePred sampleSecret := fun tokenHash =>
  inferInstanceAs (Decidable (tokenHash ∈ [_, _]))

theorem sampleLogin_plays : (simulate sampleServices sampleStart sampleLogin).isSome = true := by
  decide +kernel

/-- After the login the client holds `opaque-1`. -/
def sampleHeld : System sampleServices :=
  let played := (simulate sampleServices sampleStart sampleLogin).get sampleLogin_plays
  ⟨played.1, played.2, .holding (js "opaque-1") none, []⟩

theorem sampleHeld_holds : Holds sampleSession sampleSecret (js "opaque-1") sampleHeld where
  reached := ⟨sampleAccounts, run_of_isSome sampleLogin_plays⟩
  client := rfl
  calls := rfl
  stored := by decide +kernel
  live := rfl
  unspent := by decide +kernel
  known := by
    -- nobody has refreshed yet
    have honly : sampleHeld.history.filterMap Event.started =
        [.login ⟨js "SAM", js "correct horse 1", none⟩] := by
      decide +kernel
    intro i input hstart _
    have hmem : Request.refresh input ∈ sampleHeld.history.filterMap Event.started :=
      List.mem_filterMap.mpr ⟨_, hstart, rfl⟩
    rw [honly] at hmem
    cases List.mem_singleton.mp hmem

/-- Execution 1 rotates, then its answer is lost; execution 2 presents the token again. -/
def sampleLoss : List Move :=
  [.send 1, .identity (.answer 1 .none), .identity (.answer 1 (.at 1767225600456)),
    .identity (.answer 1 (.text (js "opaque-2"))), .identity (.answer 1 (.id 11)),
    .identity (.answer 1 .none), .cut 1 .deadlineExceeded, .identity (.answer 1 .none), .send 2,
    .identity (.answer 2 .none), .identity (.answer 2 (.at 1767225606456)),
    .identity (.answer 2 .none), .answer 2]

theorem sampleLoss_plays : (schedule (fun sys action =>
    decide (Honest sampleSession sampleSecret sys action)) sampleHeld sampleLoss).isSome = true := by
  decide +kernel

/-- Where the lost answer leads. -/
def sampleLost : System sampleServices := (schedule _ sampleHeld sampleLoss).get sampleLoss_plays

/-- The deadline fires after the rotation: the retry presents a spent token, which
revokes the session and signs the client out. -/
theorem lost_answer_costs_the_session :
    Holds sampleSession sampleSecret (js "opaque-1") sampleHeld ∧
    Reaches (Honest sampleSession sampleSecret) sampleHeld sampleLost ∧
    (∀ row ∈ sampleLost.identity.store.tables.refreshTokens.rows,
      row.sessionId = sampleSession.id → sampleSecret row.tokenHash) ∧
    sampleLost.client = .signedOut ∧ sampleLost.identity.store.tables.Revoked sampleSession.id := by
  refine ⟨sampleHeld_holds, ?_, by decide +kernel, by decide +kernel, ?_⟩
  · exact schedule_reaches (fun _ _ => of_decide_eq_true) (Option.some_get sampleLoss_plays).symm
  · unfold SessionTables.Revoked
    decide +kernel

/-- The deadline fires before execution 1 has rotated, and it goes no further; execution 2
answers with the next token. -/
def sampleRetry : List Move :=
  [.send 1, .identity (.answer 1 .none), .identity (.answer 1 (.at 1767225600456)),
    .cut 1 .deadlineExceeded, .identity (.answer 1 (.text (js "opaque-3"))), .send 2,
    .identity (.answer 2 .none), .identity (.answer 2 (.at 1767225606456)),
    .identity (.answer 2 (.text (js "opaque-2"))), .identity (.answer 2 (.id 12)),
    .identity (.answer 2 .none), .identity (.answer 2 .none), .answer 2]

theorem sampleRetry_plays : (schedule (fun sys action =>
    decide (Honest sampleSession sampleSecret sys action ∧ Uncut sys action)) sampleHeld
      sampleRetry).isSome = true := by
  decide +kernel

/-- Where the retry leads. -/
def sampleRetried : System sampleServices := (schedule _ sampleHeld sampleRetry).get sampleRetry_plays

/-- The retry has exchanged the token, and the session is live. -/
theorem sample_retry_keeps_the_session :
    sampleRetried.client = .holding (js "opaque-2") none ∧
    (¬ sampleRetried.identity.store.tables.Revoked sampleSession.id ∧
      sampleRetried.client ≠ .signedOut) := by
  refine ⟨by decide +kernel, ?_⟩
  have hrun : Reaches (fun sys action => Honest sampleSession sampleSecret sys action ∧
      Uncut sys action) sampleHeld sampleRetried :=
    schedule_reaches (fun _ _ => of_decide_eq_true) (Option.some_get sampleRetry_plays).symm
  exact retries_keep_the_session sampleHeld_holds hrun (by decide +kernel)

end XClone.Gateway
