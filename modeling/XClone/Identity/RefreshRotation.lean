import XClone.Identity.Scheduler

/-!
# XClone.Identity.RefreshRotation — single-use refresh tokens

However logins and refreshes interleave, a refresh token is exchanged at most
once, and presenting it again kills its session. The invariant is that every
rotation that went through left its token spent, so no two of them spent the same
one; what a finished refresh did is read off its own events.
-/

namespace XClone.Identity

open Js Interleaving SessionTables

variable {services : Services}

/-! ## Rotations that went through -/

/-- `e` and `e'` did not both spend the same token. -/
def SpendApart (e e' : IdentityEvent) : Prop :=
  ∀ r r', rotation e = some r → rotation e' = some r' → r.answer = true → r'.answer = true →
    r.tokenId ≠ r'.tokenId

instance : Std.Symm SpendApart where
  symm _ _ h r r' hr hr' ha ha' heq := h r' r hr' hr ha' ha heq.symm

/-- No two rotations spent one token, and what a rotation spent is spent. -/
structure SpentOnce (w : IdentityWorld services) : Prop where
  apart : w.history.Pairwise SpendApart
  spent : ∀ r ∈ rotations w.history, r.answer = true → w.store.tables.Spent r.tokenId

/-- An event that rotates nothing keeps `SpentOnce`. -/
theorem SpentOnce.after_quiet {w : IdentityWorld services} (h : SpentOnce w) {e : IdentityEvent}
    (he : rotation e = none) {s : Store services.lower}
    (hlater : Later w.store.tables s.tables) : SpentOnce (w.after e s) := by
  constructor
  · rw [World.after_history, List.pairwise_append]
    refine ⟨h.apart, List.pairwise_singleton _ _, ?_⟩
    intro a _ b hb r r' _ hr'
    rw [List.mem_singleton.mp hb, he] at hr'
    cases hr'
  · intro r hr hanswer
    rw [World.after_history, rotations_quiet he] at hr
    exact hlater.spent (h.spent r hr hanswer)

/-- A rotation keeps `SpentOnce`: it can only spend what was not spent before. -/
theorem SpentOnce.after_rotate {w : IdentityWorld services} (h : SpentOnce w) {i : ℕ}
    {spentTokenId : JsString} {next : StoredRefreshToken} {spentAt : Date} {answer : Bool}
    {s : Store services.lower}
    (hrotate : DrizzleSessionRepository.rotate w.store.tables spentTokenId next spentAt =
      some (answer, s.tables)) :
    SpentOnce (w.after (.returned i (.rotate spentTokenId next spentAt) answer) s) := by
  have hlater := DrizzleSessionRepository.rotate_later hrotate
  have hgone : answer = true → ¬ w.store.tables.Spent spentTokenId ∧ s.tables.Spent spentTokenId := by
    intro htrue
    rcases DrizzleSessionRepository.rotate_cases hrotate with ⟨-, hrotated⟩ | ⟨hfalse, -, -⟩
    · exact ⟨hrotated.not_spent, hrotated.spent⟩
    · rw [htrue] at hfalse
      cases hfalse
  constructor
  · -- an earlier success spent the token for good, so this rotation found it spent
    rw [World.after_history, List.pairwise_append]
    refine ⟨h.apart, List.pairwise_singleton _ _, ?_⟩
    intro a ha b hb r r' hr hr' hanswer hanswer' heq
    rw [List.mem_singleton.mp hb] at hr'
    cases hr'
    have hspent := h.spent r (mem_rotations.mpr ⟨a, ha, hr⟩) hanswer
    rw [heq] at hspent
    exact (hgone hanswer').1 hspent
  · intro r hr hanswer
    rw [World.after_history] at hr
    rcases mem_rotations_snoc hr with hr | hr
    · exact hlater.spent (h.spent r hr hanswer)
    · cases hr
      exact (hgone hanswer).2

variable (services) in
/-- The discipline that forbids nothing and keeps an invariant of the rotations. -/
def permissive (inv : IdentityWorld services → Prop)
    (quiet : ∀ (w : IdentityWorld services) (e : IdentityEvent) (s : Store services.lower),
      inv w → rotation e = none → Later w.store.tables s.tables → inv (w.after e s))
    (rotate : ∀ (w : IdentityWorld services) (i : ℕ) (spentTokenId : JsString)
      (next : StoredRefreshToken) (spentAt : Date) (answer : Bool) (s : Store services.lower),
      inv w →
      DrizzleSessionRepository.rotate w.store.tables spentTokenId next spentAt =
        some (answer, s.tables) →
      inv (w.after (.returned i (.rotate spentTokenId next spentAt) answer) s)) :
    Discipline (machine services) :=
  growing services inv (fun _ _ _ => True)
    (fun w h _ _ => quiet w _ _ h rfl (.refl _))
    (fun w i c answer s h _ hreturns => by
      have hlater := (returns_later hreturns).tables
      cases wrote hreturns with
      | nothing hquiet _ => exact quiet _ _ _ h (rotation_eq_none hquiet) hlater
      | created session firstToken _ => exact quiet _ _ _ h rfl hlater
      | rotated spentTokenId next spentAt answer hrotate =>
        exact rotate _ _ _ _ _ _ _ h hrotate
      | revoked sessionId revokedAt _ => exact quiet _ _ _ h rfl hlater)
    (fun w _ _ _ h _ => quiet w _ _ h rfl (.refl _))

variable (services) in
/-- The discipline of single use: no token is spent twice. -/
def singleUse : Discipline (machine services) :=
  permissive services SpentOnce (fun _ _ _ h he hlater => h.after_quiet he hlater)
    (fun _ _ _ _ _ _ _ h hrotate => h.after_rotate hrotate)

/-! ## What a finished refresh did -/

/-- The outcome of a refresh presenting a token with this hash, against its own
events and the store. -/
def RefreshOutcome (tokenHash : JsString) (i : ℕ) (w : IdentityWorld services) :
    Except Failure Response → Prop
  | .ok _ => ∃ token ∈ w.store.tables.refreshTokens.rows, token.tokenHash = tokenHash ∧
      ∃ sessionId, rotations (w.own i) = [⟨token.id, sessionId, true⟩]
  | .error e => (w.own i).any threw = true ∨
      (e = .invalidRefreshToken ∧
        ∀ r ∈ rotations (w.own i), r.answer = false ∧ w.store.tables.Revoked r.sessionId)

/-- What is proved of every finished execution; only refreshes say anything. -/
def outcome (services : Services) (i : ℕ) :
    Request → IdentityWorld services → Except Failure Response → Prop
  | .refresh input, w, out => RefreshOutcome (services.hashRefreshToken input.refreshToken) i w out
  | _, _, _ => True

/-- Disciplines that forbid nothing and let the store grow as it does. -/
structure Permissive (D : Discipline (machine services)) : Prop where
  allowed : ∀ w i c, D.allowed w i c
  later : ∀ {s s'}, D.grows s s' → Store.Later s s'

theorem singleUse_permissive : Permissive (singleUse services) := ⟨fun _ _ _ => trivial, id⟩

/-- The threads of a permissive discipline end as they like after a call threw. -/
def ToleratesThrows (i : ℕ) (Q : IdentityWorld services → Except Failure Response → Prop) : Prop :=
  ∀ w e, (w.own i).any threw = true → Q w (.error e)

variable {D : Discipline (machine services)} {i : ℕ}
  {Q : IdentityWorld services → Except Failure Response → Prop}

/-- One call of a permissive discipline. -/
theorem call_safe (hD : Permissive D) (hQ : ToleratesThrows i Q) {c : PortCall}
    {next : Answer c → UseCase Response} {w : IdentityWorld services}
    (h : ∀ w' r s, D.Rely i w w' → returns services c w'.store r s →
      D.Safe i Q (next r) (w'.after (.returned i c r) s)) :
    D.Safe i Q (.call c next) w := by
  intro w' hw'
  refine ⟨hD.allowed w' i c, ?_, ?_⟩
  · intro r s hr
    exact h w' r s hw' hr
  · intro e _ w'' hw''
    apply hQ
    rw [hw''.own, World.own_threw]
    simp [threw]

/-- One call that cannot write the session tables. -/
theorem quiet_call_safe (hD : Permissive D) (hQ : ToleratesThrows i Q) {c : PortCall}
    {next : Answer c → UseCase Response} {w : IdentityWorld services}
    (hquiet : c.writesSessions = false)
    (h : ∀ w' r s, D.inv w' → Store.Later w.store w'.store → returns services c s r w'.store →
      rotations (w'.own i) = rotations (w.own i) → D.Safe i Q (next r) w') :
    D.Safe i Q (.call c next) w := by
  refine call_safe hD hQ ?_
  intro w' r s hw' hr
  refine h _ r w'.store (D.inv_returned hw'.inv (hD.allowed w' i c) hr) ?_ hr ?_
  · exact (hD.later hw'.grows).trans (returns_later hr)
  · rw [World.own_returned, hw'.own, rotations_quiet (rotation_eq_none hquiet)]

/-- `rejectAsReuse` ends in the one error with its session revoked. -/
theorem rejectAsReuse_safe (hD : Permissive D) (hQ : ToleratesThrows i Q)
    {sessionId : JsString} {now : Date} {w : IdentityWorld services}
    (hsession : ∃ row ∈ w.store.tables.sessions.rows, row.id = sessionId)
    (h : ∀ w', Store.Later w.store w'.store → rotations (w'.own i) = rotations (w.own i) →
      w'.store.tables.Revoked sessionId → Q w' (.error .invalidRefreshToken)) :
    D.Safe i Q (Response.tokens <$> RefreshSession.rejectAsReuse sessionId now) w := by
  refine call_safe hD hQ ?_
  intro w' _ s hw' hrevoke w'' hw''
  apply h
  · exact ((hD.later hw'.grows).trans (returns_later hrevoke)).trans (hD.later hw''.grows)
  · rw [hw''.own, World.own_returned, hw'.own, rotations_quiet rfl]
  · rcases hsession with ⟨row, hrow, rfl⟩
    rcases (hD.later hw'.grows).tables.session row hrow with ⟨row', hrow', hlater⟩
    have hrevoked := DrizzleSessionRepository.revoke_revoked hrow' now
    rw [hlater.id, ← hrevoke.2] at hrevoked
    exact (hD.later hw''.grows).tables.revoked hrevoked

/-- Minting a token rotates nothing. -/
theorem mintRefreshToken_safe (hD : Permissive D) (hQ : ToleratesThrows i Q)
    {sessionId : JsString} {now : Date} {w : IdentityWorld services}
    {next : MintedRefreshToken → UseCase Response}
    (h : ∀ w' minted, Store.Later w.store w'.store → rotations (w'.own i) = rotations (w.own i) →
      minted.row.sessionId = sessionId → D.Safe i Q (next minted) w') :
    D.Safe i Q (mintRefreshToken sessionId now >>= next) w := by
  refine quiet_call_safe hD hQ rfl ?_
  intro w₁ pair s₁ _ hlater₁ _ hrot₁
  refine quiet_call_safe hD hQ rfl ?_
  intro w₂ id s₂ _ hlater₂ _ hrot₂
  exact h w₂ ⟨pair.token, ⟨id, sessionId, pair.hash, none, now⟩⟩ (hlater₁.trans hlater₂)
    (hrot₂.trans hrot₁) rfl

/-- A row of the sessions stays under its id. -/
theorem session_stays {s s' : Store services.lower} (h : Store.Later s s') {session : Session}
    (hsession : session ∈ s.tables.sessions.rows) :
    ∃ row ∈ s'.tables.sessions.rows, row.id = session.id := by
  rcases h.tables.session session hsession with ⟨row, hrow, hlater⟩
  exact ⟨row, hrow, hlater.id⟩

/-- A row of the tokens stays under its id and hash. -/
theorem token_stays {s s' : Store services.lower} (h : Store.Later s s')
    {token : StoredRefreshToken} (htoken : token ∈ s.tables.refreshTokens.rows) :
    ∃ row ∈ s'.tables.refreshTokens.rows, row.id = token.id ∧ row.tokenHash = token.tokenHash := by
  rcases h.tables.token token htoken with ⟨row, hrow, hlater⟩
  exact ⟨row, hrow, hlater.id, hlater.tokenHash⟩

/-- What a refresh does once it has found its token and read the clock. -/
theorem found_safe {tokenHash : JsString} {session : Session} {token : StoredRefreshToken}
    {now : Date} {w : IdentityWorld services}
    (htoken : ∃ row ∈ w.store.tables.refreshTokens.rows,
      row.id = token.id ∧ row.tokenHash = tokenHash)
    (hsession : ∃ row ∈ w.store.tables.sessions.rows, row.id = session.id)
    (hrot : rotations (w.own i) = []) :
    (singleUse services).Safe i (RefreshOutcome tokenHash i)
      (Response.tokens <$> RefreshSession.exchange services.toSettings session token now) w := by
  have hQ : ToleratesThrows i (@RefreshOutcome services tokenHash i) := fun _ _ h => Or.inl h
  have hD := @singleUse_permissive services
  unfold RefreshSession.exchange
  split
  · -- a replay of a spent token
    refine rejectAsReuse_safe hD hQ hsession ?_
    intro w' _ hrot' _
    refine Or.inr ⟨rfl, ?_⟩
    rw [hrot', hrot]
    intro r hr
    cases hr
  split
  · -- an expired session
    intro w' hw'
    refine Or.inr ⟨rfl, ?_⟩
    rw [hw'.own, hrot]
    intro r hr
    cases hr
  rw [map_bind]
  refine mintRefreshToken_safe hD hQ ?_
  intro w₁ next hlater₁ hrot₁ hnext
  rw [map_bind]
  refine call_safe hD hQ ?_
  intro w₂ answer s₂ hw₂ hrotate
  have hlater₂ := hlater₁.trans ((hD.later hw₂.grows).trans (returns_later hrotate))
  have hrot₂ : rotations ((w₂.after (.returned i (.rotate token.id next.row now) answer) s₂).own i)
      = [⟨token.id, session.id, answer⟩] := by
    rw [World.own_returned, hw₂.own, rotations_append, hrot₁, hrot]
    simp [rotations, rotation, hnext]
  cases answer with
  | false =>
    -- the race was lost
    rcases hsession with ⟨row, hrow, hrowid⟩
    rcases session_stays hlater₂ hrow with ⟨row', hrow', hid'⟩
    refine rejectAsReuse_safe hD hQ ⟨row', hrow', hid'.trans hrowid⟩ ?_
    intro w' _ hrot' hrevoked
    refine Or.inr ⟨rfl, ?_⟩
    rw [hrot', hrot₂]
    intro r hr
    obtain rfl := List.mem_singleton.mp hr
    exact ⟨rfl, hrevoked⟩
  | true =>
    -- the token is spent, and the new pair goes out
    refine quiet_call_safe hD hQ rfl ?_
    intro w₃ accessToken s₃ _ hlater₃ _ hrot₃ w' hw'
    have hlater := (hlater₂.trans hlater₃).trans (hD.later hw'.grows)
    rcases htoken with ⟨row, hrow, hid, hhash⟩
    rcases token_stays hlater hrow with ⟨row', hrow', hid', hhash'⟩
    refine ⟨row', hrow', hhash'.trans hhash, session.id, ?_⟩
    rw [hw'.own, hrot₃, hrot₂, hid', hid]

/-- A refresh that starts with nothing done ends as `RefreshOutcome` says. -/
theorem execute_refresh_safe (i : ℕ) (input : RefreshSessionInput) (w : IdentityWorld services)
    (hown : w.own i = [.start i (.refresh input)]) :
    (singleUse services).Safe i
      (RefreshOutcome (services.hashRefreshToken input.refreshToken) i)
      (execute services.toSettings (.refresh input)) w := by
  have hQ : ToleratesThrows i
      (@RefreshOutcome services (services.hashRefreshToken input.refreshToken) i) :=
    fun _ _ h => Or.inl h
  have hD := @singleUse_permissive services
  have hrot : rotations (w.own i) = [] := by simp [hown, rotations, rotation]
  refine quiet_call_safe hD hQ rfl ?_
  intro w₁ found s₁ _ hlater₁ hfind hrot₁
  rcases hfind with ⟨rfl, hfound⟩
  rw [hrot] at hrot₁
  rcases found with _ | ⟨session, token⟩
  · -- no such token
    intro w' hw'
    refine Or.inr ⟨rfl, ?_⟩
    rw [hw'.own, hrot₁]
    intro r hr
    cases hr
  · obtain ⟨htoken, hhash, hsession, -⟩ :=
      DrizzleSessionRepository.findByTokenHash_some hfound.symm
    refine quiet_call_safe hD hQ rfl ?_
    intro w₂ now s₂ _ hlater₂ _ hrot₂
    rcases token_stays hlater₂ htoken with ⟨row, hrow, hid, hrowhash⟩
    exact found_safe ⟨row, hrow, hid, hrowhash.trans hhash⟩ (session_stays hlater₂ hsession)
      (hrot₂.trans hrot₁)

theorem sound_singleUse : (singleUse services).Sound (outcome services) := by
  intro i request w hinv hown
  cases request with
  | refresh input => exact execute_refresh_safe i input w hown
  | register input => exact Discipline.safe_of_allowed (fun _ _ => trivial) (fun _ _ => trivial) _ w
  | login input => exact Discipline.safe_of_allowed (fun _ _ => trivial) (fun _ _ => trivial) _ w
  | getProfile handle =>
    exact Discipline.safe_of_allowed (fun _ _ => trivial) (fun _ _ => trivial) _ w
  | updateProfile input =>
    exact Discipline.safe_of_allowed (fun _ _ => trivial) (fun _ _ => trivial) _ w

/-- The discipline of single use is kept, from any store. -/
theorem good_singleUse {s : Store services.lower} {τ : List IdentityEvent}
    {c : IdentityConfig services} (hrun : Run (machine services) (.initial s) τ c) :
    (singleUse services).Good (outcome services) τ c := by
  have hinit : (singleUse services).Good (outcome services) [] (.initial s) :=
    Discipline.good_initial ⟨List.Pairwise.nil, fun r hr => nomatch hr⟩
  exact hinit.run sound_singleUse hrun

/-! ## Replays -/

/-- A stored token with this hash is spent. -/
def HashSpent (tokenHash : JsString) (t : SessionTables) : Prop :=
  ∃ token ∈ t.refreshTokens.rows, token.tokenHash = tokenHash ∧ token.spentAt ≠ none

theorem HashSpent.later {tokenHash : JsString} {t t' : SessionTables} (h : HashSpent tokenHash t)
    (hlater : Later t t') : HashSpent tokenHash t' := by
  rcases h with ⟨token, htoken, hhash, hspent⟩
  rcases hlater.token token htoken with ⟨token', htoken', hsame, hkeep⟩
  refine ⟨token', htoken', ?_, ?_⟩
  · rw [← hsame]
    exact hhash
  · rw [hkeep hspent]
    exact hspent

variable (services) in
/-- The discipline after a token was spent. -/
def replayed (tokenHash : JsString) : Discipline (machine services) :=
  permissive services (fun w => HashSpent tokenHash w.store.tables)
    (fun _ _ _ h _ hlater => h.later hlater)
    (fun _ _ _ _ _ _ _ h hrotate => h.later (DrizzleSessionRepository.rotate_later hrotate))

/-- The session of the stored token with this hash is revoked. -/
def SessionOfHashRevoked (tokenHash : JsString) (t : SessionTables) : Prop :=
  ∃ token ∈ t.refreshTokens.rows, token.tokenHash = tokenHash ∧ t.Revoked token.sessionId

/-- The outcome of presenting a spent token. -/
def ReplayOutcome (tokenHash : JsString) (i : ℕ) (w : IdentityWorld services)
    (out : Except Failure Response) : Prop :=
  ((∃ e, out = .error e) ∧ (w.own i).any threw = true) ∨
    (out = .error .invalidRefreshToken ∧ SessionOfHashRevoked tokenHash w.store.tables)

/-- A refresh that presents a spent token is rejected, and its session revoked. -/
theorem execute_replay_safe (i : ℕ) (input : RefreshSessionInput) (w : IdentityWorld services) :
    (replayed services (services.hashRefreshToken input.refreshToken)).Safe i
      (ReplayOutcome (services.hashRefreshToken input.refreshToken) i)
      (execute services.toSettings (.refresh input)) w := by
  have hQ : ToleratesThrows i
      (@ReplayOutcome services (services.hashRefreshToken input.refreshToken) i) :=
    fun _ e h => Or.inl ⟨⟨e, rfl⟩, h⟩
  have hD : Permissive (replayed services (services.hashRefreshToken input.refreshToken)) :=
    ⟨fun _ _ _ => trivial, id⟩
  -- the lookup finds the token that was spent, and its session
  refine quiet_call_safe hD hQ rfl ?_
  intro w₁ found s₁ hinv _ hfind _
  rcases hfind with ⟨rfl, hfound⟩
  rcases hinv with ⟨token, htoken, hhash, hspent⟩
  rcases DrizzleSessionRepository.findByTokenHash_of_mem htoken with ⟨session, hjoin⟩
  rw [hhash] at hjoin
  rw [hjoin] at hfound
  subst hfound
  rcases DrizzleSessionRepository.findByTokenHash_some hjoin with ⟨-, -, hsession, hid⟩
  refine quiet_call_safe hD hQ rfl ?_
  intro w₂ now s₂ _ hlater₂ _ _
  show (replayed services _).Safe i _
    (Response.tokens <$> RefreshSession.exchange services.toSettings session token now) w₂
  unfold RefreshSession.exchange
  rw [if_pos hspent]
  -- `exchange` ends in `rejectAsReuse`, which revokes the session it was found with
  refine rejectAsReuse_safe hD hQ (session_stays hlater₂ hsession) ?_
  intro w' hlater' _ hrevoked
  rcases (hlater₂.trans hlater').tables.token token htoken with ⟨row, hrow, hsame⟩
  refine Or.inr ⟨rfl, row, hrow, ?_, ?_⟩
  · rw [← hsame.1]
    exact hhash
  · have hrowsession : row.sessionId = session.id := by
      rw [← hsame.1]
      exact hid.symm
    rw [hrowsession]
    exact hrevoked

/-! ## Revoked sessions -/

/-- The session is revoked, and every rotation on it was refused. -/
structure RefusedSince (sessionId : JsString) (w : IdentityWorld services) : Prop where
  revoked : w.store.tables.Revoked sessionId
  refused : ∀ r ∈ rotations w.history, r.sessionId = sessionId → r.answer = false

theorem RefusedSince.after_quiet {sessionId : JsString} {w : IdentityWorld services}
    (h : RefusedSince sessionId w) {e : IdentityEvent} (he : rotation e = none)
    {s : Store services.lower} (hlater : Later w.store.tables s.tables) :
    RefusedSince sessionId (w.after e s) := by
  refine ⟨hlater.revoked h.revoked, ?_⟩
  intro r hr
  rw [World.after_history, rotations_quiet he] at hr
  exact h.refused r hr

theorem RefusedSince.after_rotate {sessionId : JsString} {w : IdentityWorld services}
    (h : RefusedSince sessionId w) {i : ℕ} {spentTokenId : JsString} {next : StoredRefreshToken}
    {spentAt : Date} {answer : Bool} {s : Store services.lower}
    (hrotate : DrizzleSessionRepository.rotate w.store.tables spentTokenId next spentAt =
      some (answer, s.tables)) :
    RefusedSince sessionId (w.after (.returned i (.rotate spentTokenId next spentAt) answer) s) := by
  refine ⟨(DrizzleSessionRepository.rotate_later hrotate).revoked h.revoked, ?_⟩
  intro r hr hsession
  rw [World.after_history] at hr
  rcases mem_rotations_snoc hr with hr | hr
  · exact h.refused r hr hsession
  · cases hr
    rcases DrizzleSessionRepository.rotate_cases hrotate with ⟨-, hrotated⟩ | ⟨hfalse, -, -⟩
    · have hlive := hrotated.not_revoked
      rw [show next.sessionId = sessionId from hsession] at hlive
      exact absurd h.revoked hlive
    · exact hfalse

variable (services) in
/-- The discipline after a session was revoked. -/
def refusing (sessionId : JsString) : Discipline (machine services) :=
  permissive services (RefusedSince sessionId) (fun _ _ _ h he hlater => h.after_quiet he hlater)
    (fun _ _ _ _ _ _ _ h hrotate => h.after_rotate hrotate)

/-! ## Single use -/

/-- Execution `i` presented this refresh token and returned tokens. -/
def ReturnedTokens (c : IdentityConfig services) (i : ℕ) (input : RefreshSessionInput) : Prop :=
  ∃ response, c.threads i = some ⟨.refresh input, .done response⟩

/-- Execution `i` presented this refresh token and has ended as `p`. -/
def EndedAs (c : IdentityConfig services) (i : ℕ) (input : RefreshSessionInput)
    (p : UseCase Response) : Prop :=
  c.threads i = some ⟨.refresh input, p⟩ ∧ p.Completed

/-- What an execution that returned tokens did: it spent the token it presented. -/
theorem returned_rotation {τ : List IdentityEvent} {c : IdentityConfig services}
    (hgood : (singleUse services).Good (outcome services) τ c) {i : ℕ}
    {input : RefreshSessionInput} (hi : ReturnedTokens c i input) :
    ∃ token ∈ c.store.tables.refreshTokens.rows,
      token.tokenHash = services.hashRefreshToken input.refreshToken ∧
      ∃ e ∈ τ, e.thread = i ∧ ∃ sessionId, rotation e = some ⟨token.id, sessionId, true⟩ := by
  rcases hi with ⟨response, hthread⟩
  rcases hgood.done hthread with ⟨token, htoken, hhash, sessionId, hrot⟩
  have hmem : ⟨token.id, sessionId, true⟩ ∈ rotations ((World.mk τ c.store).own i) := by
    rw [hrot]
    exact List.mem_singleton_self _
  rcases mem_rotations.mp hmem with ⟨e, he, hrotation⟩
  rcases World.mem_own.mp he with ⟨heτ, hei⟩
  exact ⟨token, htoken, hhash, e, heτ, hei, sessionId, hrotation⟩

/-- A thread none of whose calls threw has no such event of its own. -/
theorem not_any_threw {τ : List IdentityEvent} {i : ℕ} (h : NoThrow τ i)
    (s : Store services.lower) : ((World.mk τ s).own i).any threw = false := by
  rw [List.any_eq_false]
  intro e he hthrew
  rcases World.mem_own.mp he with ⟨heτ, hei⟩
  cases e with
  | start j request => cases hthrew
  | returned j call answer => cases hthrew
  | threw j call error =>
    obtain rfl : j = i := hei
    exact h call error heτ

/-- At most one execution returns tokens for a refresh token. -/
theorem returned_unique {τ : List IdentityEvent} {c : IdentityConfig services}
    (hgood : (singleUse services).Good (outcome services) τ c) {i j : ℕ}
    {input : RefreshSessionInput} (hi : ReturnedTokens c i input) (hj : ReturnedTokens c j input) :
    i = j := by
  rcases returned_rotation hgood hi with ⟨token, htoken, hhash, e, he, hei, sessionId, hrot⟩
  rcases returned_rotation hgood hj with ⟨token', htoken', hhash', e', he', hej, sessionId', hrot'⟩
  obtain rfl := c.store.tables.hash_unique htoken htoken' (hhash.trans hhash'.symm)
  by_contra hne
  have hee : e ≠ e' := by
    rintro rfl
    exact hne (hei.symm.trans hej)
  exact hgood.inv.apart.forall he he' hee _ _ hrot hrot' rfl rfl rfl

/-- A refresh that starts after the token was exchanged is a replay. -/
theorem replay_rejected {τ τ' : List IdentityEvent} {c c' : IdentityConfig services}
    (hgood : (singleUse services).Good (outcome services) τ c) {i j : ℕ}
    {input : RefreshSessionInput} (hj : ReturnedTokens c j input) (hi : c.threads i = none)
    (hrun : Run (machine services) c τ' c') {p : UseCase Response} (hended : EndedAs c' i input p)
    (hthrow : NoThrow τ' i) :
    p = .failed .invalidRefreshToken ∧
      SessionOfHashRevoked (services.hashRefreshToken input.refreshToken) c'.store.tables := by
  rcases returned_rotation hgood hj with ⟨token, htoken, hhash, e, he, -, sessionId, hrot⟩
  have hspent : HashSpent (services.hashRefreshToken input.refreshToken) c.store.tables := by
    rcases hgood.inv.spent _ (mem_rotations.mpr ⟨e, he, hrot⟩) rfl with ⟨row, hrow, hid, hset⟩
    obtain rfl := c.store.tables.token_unique hrow htoken hid
    exact ⟨row, hrow, hhash, hset⟩
  -- only execution `i` is watched: what the others do is covered by the discipline
  let Q : ℕ → Request → IdentityWorld services → Except Failure Response → Prop :=
    fun k request w out => k = i → request = .refresh input →
      ReplayOutcome (services.hashRefreshToken input.refreshToken) i w out
  have hstart : (replayed services (services.hashRefreshToken input.refreshToken)).Good Q [] c := by
    refine ⟨hspent, fun _ _ => rfl, ?_⟩
    intro k t ht
    refine Discipline.safe_of_allowed (fun _ _ => trivial) ?_ _ _
    rintro w out rfl
    rw [hi] at ht
    cases ht
  have hsound : (replayed services (services.hashRefreshToken input.refreshToken)).Sound Q := by
    intro k request w _ _
    by_cases hwatched : k = i ∧ request = .refresh input
    · rcases hwatched with ⟨rfl, rfl⟩
      exact (execute_replay_safe k input w).mono fun _ _ h _ _ => h
    · refine Discipline.safe_of_allowed (fun _ _ => trivial) ?_ _ _
      intro w out hk hrequest
      exact absurd ⟨hk, hrequest⟩ hwatched
  have hend := hstart.run hsound hrun
  rw [List.nil_append] at hend
  have hquiet := not_any_threw hthrow c'.store
  rcases hended with ⟨hthread, hcompleted⟩
  cases p with
  | done response =>
    rcases hend.done hthread rfl rfl with ⟨⟨e, he⟩, -⟩ | ⟨he, -⟩
    · cases he
    · cases he
  | failed e =>
    rcases hend.failed hthread rfl rfl with ⟨-, hany⟩ | ⟨he, hrevoked⟩
    · rw [hquiet] at hany
      cases hany
    · cases he
      exact ⟨rfl, hrevoked⟩
  | call call next => exact absurd hcompleted id

/-- A lost race revokes the session. -/
theorem lost_race_rejected {τ : List IdentityEvent} {c : IdentityConfig services}
    (hgood : (singleUse services).Good (outcome services) τ c) {i : ℕ}
    {input : RefreshSessionInput} {p : UseCase Response} (hended : EndedAs c i input p)
    {r : Rotation} (hr : r ∈ rotations ((World.mk τ c.store).own i)) (hlost : r.answer = false)
    (hthrow : NoThrow τ i) :
    p = .failed .invalidRefreshToken ∧ c.store.tables.Revoked r.sessionId := by
  rcases hended with ⟨hthread, hcompleted⟩
  have hquiet := not_any_threw hthrow c.store
  cases p with
  | done response =>
    rcases hgood.done hthread with ⟨token, -, -, sessionId, hrot⟩
    rw [hrot] at hr
    obtain rfl := List.mem_singleton.mp hr
    cases hlost
  | failed e =>
    rcases hgood.failed hthread with hany | ⟨he, hall⟩
    · rw [hquiet] at hany
      cases hany
    · rw [he]
      exact ⟨rfl, (hall r hr).2⟩
  | call call next => exact absurd hcompleted id

/-- Refresh tokens are single-use and a replay kills the chain, in every run of the
Identity service from a store without sessions:
at most one execution returns tokens for a refresh token; one that starts after that
is rejected and leaves the session revoked; so does one whose rotation is refused;
and once a session is revoked every later rotation on it is refused, so that its
execution returns no tokens. -/
theorem refresh_tokens_are_single_use (services : Services)
    {accounts : UserTables services.lower} {τ : List IdentityEvent} {c : IdentityConfig services}
    (hrun : Run (machine services) (.initial (.noSessions accounts)) τ c) :
    (∀ i j input, ReturnedTokens c i input → ReturnedTokens c j input → i = j) ∧
    (∀ i j input, ReturnedTokens c j input → c.threads i = none →
      ∀ τ' c', Run (machine services) c τ' c' → ∀ p, EndedAs c' i input p → NoThrow τ' i →
        p = .failed .invalidRefreshToken ∧
          SessionOfHashRevoked (services.hashRefreshToken input.refreshToken) c'.store.tables) ∧
    (∀ i input p spentTokenId next spentAt, EndedAs c i input p →
      .returned i (.rotate spentTokenId next spentAt) false ∈ τ → NoThrow τ i →
        p = .failed .invalidRefreshToken ∧ c.store.tables.Revoked next.sessionId) ∧
    (∀ sessionId, c.store.tables.Revoked sessionId →
      ∀ τ' c', Run (machine services) c τ' c' → ∀ i spentTokenId next spentAt answer,
        .returned i (.rotate spentTokenId next spentAt) answer ∈ τ' → next.sessionId = sessionId →
        answer = false ∧ ∀ input, ¬ ReturnedTokens c' i input) := by
  have hgood := good_singleUse hrun
  refine ⟨?_, ?_, ?_, ?_⟩
  · -- one execution returns tokens
    intro i j input hi hj
    exact returned_unique hgood hi hj
  · -- a replay
    intro i j input hj hi τ' c' hrun' p hended hthrow
    exact replay_rejected hgood hj hi hrun' hended hthrow
  · -- a lost race
    intro i input p spentTokenId next spentAt hended hrotate hthrow
    have hr : ⟨spentTokenId, next.sessionId, false⟩ ∈
        rotations ((World.mk τ c.store).own i) :=
      rotation_of_mem (World.mem_own.mpr ⟨hrotate, rfl⟩)
    exact lost_race_rejected hgood hended hr rfl hthrow
  · -- a rotation after the revocation
    rintro sessionId hrevoked τ' c' hrun' i spentTokenId next spentAt answer hrotate rfl
    have hstart : (refusing services next.sessionId).Good (fun _ _ _ _ => True) [] c := by
      refine ⟨⟨hrevoked, fun r hr => nomatch hr⟩, fun _ _ => rfl, fun k t _ => ?_⟩
      exact Discipline.safe_of_allowed (fun _ _ => trivial) (fun _ _ => trivial) _ _
    have hsound : (refusing services next.sessionId).Sound (fun _ _ _ _ => True) :=
      fun _ _ w _ _ => Discipline.safe_of_allowed (fun _ _ => trivial) (fun _ _ => trivial) _ w
    have hend := hstart.run hsound hrun'
    have hanswer : answer = false := hend.inv.refused _ (rotation_of_mem hrotate) rfl
    refine ⟨hanswer, ?_⟩
    rintro input ⟨response, hthread⟩
    rcases (hgood.run sound_singleUse hrun').done hthread with ⟨token, -, -, session, hrot⟩
    have hr : ⟨spentTokenId, next.sessionId, answer⟩ ∈
        rotations ((World.mk (τ ++ τ') c'.store).own i) :=
      rotation_of_mem (World.mem_own.mpr ⟨List.mem_append_right _ hrotate, rfl⟩)
    rw [hrot] at hr
    have htrue := congrArg Rotation.answer (List.mem_singleton.mp hr)
    rw [hanswer] at htrue
    cases htrue

/-! ## A replay of the sample login -/

theorem sampleRefresh_plays :
    (simulate sampleServices sampleStart (sampleLogin ++ sampleRefresh)).isSome = true := by
  decide +kernel

/-- The sample login and refresh have been served. -/
def sampleRefreshed : IdentityConfig sampleServices × List IdentityEvent :=
  (simulate sampleServices sampleStart (sampleLogin ++ sampleRefresh)).get sampleRefresh_plays

theorem sampleReplay_plays :
    (simulate sampleServices sampleRefreshed.1 sampleReplay).isSome = true := by
  decide +kernel

/-- The old token, presented again after its session expired: rejected, and the
session revoked. -/
theorem sample_replay_kills_the_session :
    ∃ τ c τ' c', Run (machine sampleServices) sampleStart τ c ∧
      ReturnedTokens c 1 sampleRefreshInput ∧ Run (machine sampleServices) c τ' c' ∧
      EndedAs c' 2 sampleRefreshInput (.failed .invalidRefreshToken) ∧
      SessionOfHashRevoked (sampleDigest (js "opaque-1")) c'.store.tables := by
  have hrun := run_of_isSome sampleRefresh_plays
  have hrun' := run_of_isSome sampleReplay_plays
  have hreturned : ReturnedTokens sampleRefreshed.1 1 sampleRefreshInput := ⟨_, rfl⟩
  have hended : EndedAs ((simulate sampleServices sampleRefreshed.1 sampleReplay).get
      sampleReplay_plays).1 2 sampleRefreshInput (.failed .invalidRefreshToken) := ⟨rfl, trivial⟩
  have hsingle := (refresh_tokens_are_single_use sampleServices hrun).2.1 2 1 sampleRefreshInput
    hreturned rfl _ _ hrun' _ hended (noThrow_of_isSome sampleReplay_plays 2)
  exact ⟨_, _, _, _, hrun, hreturned, hrun', hended, hsingle.2⟩

end XClone.Identity
