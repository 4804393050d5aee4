import XClone.Identity.RefreshRotation

/-!
# XClone.Identity.TokenChain — a session's token chain

Whatever runs against the database, and whatever fails, every session has exactly
one unspent token, and one token more than it has had rotations. `Chained` is that
invariant; the use cases only need to keep to `Mints`: the tokens they insert are
unspent, and the first one belongs to the session inserted with it.
-/

namespace XClone.Identity

open Js Interleaving SessionTables Relational

variable {services : Services}

/-! ## The invariant of the tables -/

/-- A token of the session. -/
def ofSession (sessionId : JsString) (token : StoredRefreshToken) : Bool :=
  token.sessionId = sessionId

/-- An unspent token of the session. -/
def unspentOf (sessionId : JsString) (token : StoredRefreshToken) : Bool :=
  token.sessionId = sessionId && token.spentAt.isNone

theorem unspentOf_iff {sessionId : JsString} {token : StoredRefreshToken} :
    unspentOf sessionId token = true ↔ token.sessionId = sessionId ∧ token.spentAt = none := by
  simp [unspentOf]

/-- Every session has one unspent token, and one token more than `rotated` counts. -/
structure ChainedBy (rotated : JsString → ℕ) (t : SessionTables) : Prop where
  unspent : ∀ session ∈ t.sessions.rows,
    ∃ token, t.refreshTokens.rows.filter (unspentOf session.id) = [token]
  length : ∀ session ∈ t.sessions.rows,
    t.refreshTokens.rows.countP (ofSession session.id) = 1 + rotated session.id

/-- The same in numbers. -/
theorem ChainedBy.counts {rotated : JsString → ℕ} {t : SessionTables} (h : ChainedBy rotated t)
    {session : Session} (hsession : session ∈ t.sessions.rows) :
    t.refreshTokens.rows.countP (unspentOf session.id) = 1 ∧
      t.refreshTokens.rows.countP (ofSession session.id) = 1 + rotated session.id := by
  rcases h.unspent session hsession with ⟨token, htoken⟩
  refine ⟨?_, h.length session hsession⟩
  rw [List.countP_eq_length_filter, htoken]
  rfl

/-- Before a session exists, no token refers to it. -/
theorem sessionId_ne_of_fresh {t : SessionTables} {session : Session}
    (h : ¬ t.sessions.Conflicts session) {token : StoredRefreshToken}
    (htoken : token ∈ t.refreshTokens.rows) : token.sessionId ≠ session.id := by
  rcases t.tokenSession token htoken with ⟨owner, howner, hid⟩
  rw [← hid]
  exact fresh_session h howner

theorem ChainedBy.create {rotated : JsString → ℕ} {t t' : SessionTables} (h : ChainedBy rotated t)
    {session : Session} {firstToken : StoredRefreshToken}
    (hcreate : DrizzleSessionRepository.create t session firstToken = some t')
    (hfirst : firstToken.sessionId = session.id) (hunspent : firstToken.spentAt = none)
    (hnone : rotated session.id = 0) : ChainedBy rotated t' := by
  rcases DrizzleSessionRepository.create_spec hcreate with ⟨hfresh, -, hsessions, htokens⟩
  have hfirstUnspent : unspentOf session.id firstToken = true := unspentOf_iff.mpr ⟨hfirst, hunspent⟩
  have hnew (p : StoredRefreshToken → Bool) (hp : ∀ token, p token = true →
      token.sessionId = session.id) : ∀ token ∈ t.refreshTokens.rows, ¬ p token = true :=
    fun token htoken hmatch => sessionId_ne_of_fresh hfresh htoken (hp token hmatch)
  constructor
  · intro row hrow
    rw [hsessions] at hrow
    rw [htokens]
    rcases List.mem_cons.mp hrow with rfl | hrow
    · -- the new session: its id is fresh, so `firstToken` is its only token
      refine ⟨firstToken, ?_⟩
      rw [List.filter_cons_of_pos hfirstUnspent, List.filter_eq_nil_iff.mpr
        (hnew _ fun token hmatch => (unspentOf_iff.mp hmatch).1)]
    · rcases h.unspent row hrow with ⟨token, htoken⟩
      have hother : ¬ unspentOf row.id firstToken = true := by
        intro hmatch
        exact fresh_session hfresh hrow ((unspentOf_iff.mp hmatch).1.symm.trans hfirst)
      exact ⟨token, by rw [List.filter_cons_of_neg hother, htoken]⟩
  · intro row hrow
    rw [hsessions] at hrow
    rw [htokens]
    rcases List.mem_cons.mp hrow with rfl | hrow
    · -- one token, after no rotation
      have hzero := List.countP_eq_zero.mpr
        (hnew (ofSession row.id) fun token hmatch => by simpa [ofSession] using hmatch)
      rw [List.countP_cons_of_pos (by simpa [ofSession] using hfirst), hzero, hnone]
    · have hother : ¬ ofSession row.id firstToken = true := by
        intro hmatch
        have hid : firstToken.sessionId = row.id := by simpa [ofSession] using hmatch
        exact fresh_session hfresh hrow (hid.symm.trans hfirst)
      rw [List.countP_cons_of_neg hother, h.length row hrow]

/-- Spending moves one token out of the unspent ones of its session. -/
theorem spend_unspent {t : SessionTables} {spentTokenId sessionId other : JsString}
    {spentAt : Date} :
    (t.spend spentTokenId sessionId spentAt).refreshTokens.rows.filter (unspentOf other) =
      t.refreshTokens.rows.filter fun token =>
        unspentOf other token && !(other = sessionId && token.id = spentTokenId) := by
  refine Table.filter_updateWhere (spentAt_keeps spentAt) ?_ ?_
  · intro token _ hmatch
    rcases spends_iff.mp hmatch with ⟨hid, hsession, hnone⟩
    constructor
    · simp [unspentOf]
    · by_cases hother : other = sessionId
      · simp [hother, hid]
      · simp [unspentOf, hsession, Ne.symm hother]
  · intro token _ hmatch
    cases hunspent : unspentOf other token with
    | false => rfl
    | true =>
      rcases unspentOf_iff.mp hunspent with ⟨hsession, hnone⟩
      by_cases hboth : other = sessionId ∧ token.id = spentTokenId
      · rcases hboth with ⟨rfl, hid⟩
        rw [spends_iff.mpr ⟨hid, hsession, hnone⟩] at hmatch
        cases hmatch
      · rw [not_and_or] at hboth
        simpa using hboth

/-- Spending leaves the tokens of each session as many as they were. -/
theorem spend_countP {t : SessionTables} {spentTokenId sessionId other : JsString}
    {spentAt : Date} :
    (t.spend spentTokenId sessionId spentAt).refreshTokens.rows.countP (ofSession other) =
      t.refreshTokens.rows.countP (ofSession other) := by
  show (t.refreshTokens.rows.map _).countP _ = _
  rw [List.countP_map]
  refine List.countP_congr fun token _ => ?_
  simp only [Function.comp_apply]
  split <;> rfl

theorem ChainedBy.rotate {rotated rotated' : JsString → ℕ} {t t' : SessionTables}
    (h : ChainedBy rotated t) {spentTokenId : JsString} {next : StoredRefreshToken} {spentAt : Date}
    (hrotated : DrizzleSessionRepository.Rotated t spentTokenId next spentAt t')
    (hunspent : next.spentAt = none)
    (hcount : ∀ sessionId, rotated' sessionId =
      rotated sessionId + if next.sessionId = sessionId then 1 else 0) :
    ChainedBy rotated' t' := by
  constructor
  · intro row hrow
    rw [hrotated.sessions] at hrow
    rw [hrotated.tokens]
    rcases h.unspent row hrow with ⟨token, htoken⟩
    by_cases hsame : next.sessionId = row.id
    · -- the only unspent token is the one spent, and `next` takes its place
      refine ⟨next, ?_⟩
      rw [List.filter_cons_of_pos (unspentOf_iff.mpr ⟨hsame, hunspent⟩), spend_unspent]
      have hnone : (t.refreshTokens.rows.filter fun token =>
          unspentOf row.id token && !(row.id = next.sessionId && token.id = spentTokenId)) = [] := by
        rcases hrotated.unspent with ⟨spent, hspent, hid, hsession, hnone⟩
        have hmem : spent ∈ t.refreshTokens.rows.filter (unspentOf row.id) :=
          List.mem_filter.mpr ⟨hspent, unspentOf_iff.mpr ⟨hsession.trans hsame, hnone⟩⟩
        rw [htoken] at hmem
        obtain rfl := List.mem_singleton.mp hmem
        rw [List.filter_eq_nil_iff]
        intro other hother hmatch
        rw [Bool.and_eq_true] at hmatch
        have hothermem : other ∈ t.refreshTokens.rows.filter (unspentOf row.id) :=
          List.mem_filter.mpr ⟨hother, hmatch.1⟩
        rw [htoken] at hothermem
        obtain rfl := List.mem_singleton.mp hothermem
        simp [hsame, hid] at hmatch
      rw [hnone]
    · -- another session's tokens are left as they are
      refine ⟨token, ?_⟩
      have hother : ¬ unspentOf row.id next = true := fun hmatch =>
        hsame (unspentOf_iff.mp hmatch).1
      rw [List.filter_cons_of_neg hother, spend_unspent, ← htoken]
      refine List.filter_congr fun other _ => ?_
      simp [Ne.symm hsame]
  · -- spending keeps the number of tokens, and `next` adds one
    intro row hrow
    rw [hrotated.sessions] at hrow
    rw [hrotated.tokens, List.countP_cons, spend_countP, h.length row hrow, hcount]
    simp only [ofSession, decide_eq_true_eq]
    omega

theorem ChainedBy.revoke {rotated : JsString → ℕ} {t : SessionTables} (h : ChainedBy rotated t)
    (sessionId : JsString) (revokedAt : Date) :
    ChainedBy rotated (DrizzleSessionRepository.revoke t sessionId revokedAt) := by
  have hid {row : Session}
      (hrow : row ∈ (DrizzleSessionRepository.revoke t sessionId revokedAt).sessions.rows) :
      ∃ old ∈ t.sessions.rows, old.id = row.id := by
    rcases DrizzleSessionRepository.mem_revoke.mp hrow with ⟨old, hold, rfl⟩
    exact ⟨old, hold, by split <;> rfl⟩
  constructor
  · intro row hrow
    rcases hid hrow with ⟨old, hold, heq⟩
    rw [← heq]
    exact h.unspent old hold
  · intro row hrow
    rcases hid hrow with ⟨old, hold, heq⟩
    rw [← heq]
    exact h.length old hold

/-! ## The invariant of the runs -/

/-- How many rotations of the session went through. -/
def successes (τ : List IdentityEvent) (sessionId : JsString) : ℕ :=
  (rotations τ).countP fun r => r.answer && r.sessionId = sessionId

/-- The chains of all sessions, counted by the history. -/
structure Chained (w : IdentityWorld services) : Prop where
  chains : ChainedBy (successes w.history) w.store.tables
  known : ∀ r ∈ rotations w.history, r.answer = true →
    ∃ session ∈ w.store.tables.sessions.rows, session.id = r.sessionId

/-- Before a session exists, it was never rotated. -/
theorem Chained.successes_eq_zero {w : IdentityWorld services} (h : Chained w) {session : Session}
    (hfresh : ¬ w.store.tables.sessions.Conflicts session) :
    successes w.history session.id = 0 := by
  refine List.countP_eq_zero.mpr ?_
  intro r hr hmatch
  simp only [Bool.and_eq_true, decide_eq_true_eq] at hmatch
  rcases h.known r hr hmatch.1 with ⟨owner, howner, hid⟩
  exact fresh_session hfresh howner (hid.trans hmatch.2)

theorem successes_after_quiet {τ : List IdentityEvent} {e : IdentityEvent}
    (he : rotation e = none) : successes (τ ++ [e]) = successes τ := by
  funext sessionId
  simp [successes, rotations, he]

/-- An event that is no rotation keeps the chains, if the tables do. -/
theorem Chained.after_quiet {w : IdentityWorld services} (h : Chained w) {e : IdentityEvent}
    (he : rotation e = none) {s : Store services.lower}
    (hlater : Later w.store.tables s.tables)
    (hchains : ChainedBy (successes w.history) s.tables) : Chained (w.after e s) := by
  constructor
  · rw [World.after_history, successes_after_quiet he]
    exact hchains
  · intro r hr hanswer
    rw [World.after_history, rotations_quiet he] at hr
    rcases h.known r hr hanswer with ⟨session, hsession, hid⟩
    rcases hlater.session session hsession with ⟨session', hsession', hsame⟩
    exact ⟨session', hsession', by rw [← hsame.1]; exact hid⟩

theorem Chained.after_rotate {w : IdentityWorld services} (h : Chained w) {i : ℕ}
    {spentTokenId : JsString} {next : StoredRefreshToken} {spentAt : Date} {answer : Bool}
    {s : Store services.lower} (hunspent : next.spentAt = none)
    (hrotate : DrizzleSessionRepository.rotate w.store.tables spentTokenId next spentAt =
      some (answer, s.tables)) :
    Chained (w.after (.returned i (.rotate spentTokenId next spentAt) answer) s) := by
  rcases DrizzleSessionRepository.rotate_cases hrotate with ⟨rfl, hrotated⟩ | ⟨rfl, hsame, -⟩
  · -- one more link, and one more success of the session
    constructor
    · refine h.chains.rotate hrotated hunspent ?_
      intro sessionId
      simp [successes, rotations, rotation, List.countP_append, List.countP_cons]
    · intro r hr hanswer
      rw [World.after_store, hrotated.sessions]
      rw [World.after_history] at hr
      rcases mem_rotations_snoc hr with hr | hr
      · exact h.known r hr hanswer
      · cases hr
        rcases hrotated.live with ⟨session, hsession, hid, -⟩
        exact ⟨session, hsession, hid⟩
  · -- a refused rotation wrote nothing and counts nowhere
    constructor
    · have hcount : successes (w.history ++
          [.returned i (.rotate spentTokenId next spentAt) false]) = successes w.history := by
        funext sessionId
        simp [successes, rotations, rotation]
      rw [World.after_history, World.after_store, hcount, hsame]
      exact h.chains
    · intro r hr hanswer
      rw [World.after_store, hsame]
      rw [World.after_history] at hr
      rcases mem_rotations_snoc hr with hr | hr
      · exact h.known r hr hanswer
      · cases hr
        cases hanswer

/-! ## What the use cases insert -/

/-- The tokens a call inserts are unspent, a first token belongs to its session. -/
def Mints : PortCall → Prop
  | .createSession session firstToken =>
    firstToken.sessionId = session.id ∧ firstToken.spentAt = none
  | .rotate _ next _ => next.spentAt = none
  | _ => True

open Program

theorem mintRefreshToken_only {α : Type} {sessionId : JsString} {now : Date}
    {next : MintedRefreshToken → UseCase α}
    (h : ∀ minted, minted.row.sessionId = sessionId → minted.row.spentAt = none →
      (next minted).Only Mints) :
    (mintRefreshToken sessionId now >>= next).Only Mints :=
  ⟨trivial, fun minted => ⟨trivial, fun id =>
    h ⟨minted.token, ⟨id, sessionId, minted.hash, none, now⟩⟩ rfl rfl⟩⟩

theorem issueTokens_only (settings : Settings) (session : Session) (refreshToken : JsString)
    (now : Date) : (issueTokens settings session refreshToken now).Only Mints :=
  ⟨trivial, fun _ => trivial⟩

theorem login_only (settings : Settings) (input : LoginInput) :
    (Login.execute settings input).Only Mints := by
  refine only_bind (only_perform trivial) ?_
  intro credentials
  rcases credentials with _ | credentials
  · exact ⟨trivial, fun _ => trivial⟩
  refine only_bind (only_perform trivial) ?_
  intro verified
  split
  · trivial
  refine only_bind (only_perform trivial) fun now => only_bind (only_perform trivial) fun id => ?_
  refine mintRefreshToken_only ?_
  intro first hsession hunspent
  refine only_bind (only_perform ⟨hsession, hunspent⟩) fun _ => ?_
  exact issueTokens_only settings _ _ now

theorem refresh_only (settings : Settings) (input : RefreshSessionInput) :
    (RefreshSession.execute settings input).Only Mints := by
  refine only_bind (only_perform trivial) ?_
  intro found
  rcases found with _ | ⟨session, token⟩
  · trivial
  refine only_bind (only_perform trivial) fun now => ?_
  unfold RefreshSession.exchange
  split
  · exact ⟨trivial, fun _ => trivial⟩
  split
  · trivial
  refine mintRefreshToken_only ?_
  intro next _ hunspent
  refine only_bind (only_perform hunspent) fun rotated => ?_
  split
  · exact ⟨trivial, fun _ => trivial⟩
  · exact issueTokens_only settings session _ now

/-- Every use case keeps to `Mints`. -/
theorem execute_only (settings : Settings) (request : Request) :
    (execute settings request).Only Mints := by
  cases request with
  | register input =>
    have hcalls : ∀ c, Registers c → Mints c := by
      intro c hc
      cases c <;> first | exact hc.elim | trivial
    exact only_map ((registerUser_calls input).mono hcalls) _
  | login input => exact only_map (login_only settings input) _
  | refresh input => exact only_map (refresh_only settings input) _
  | getProfile handle =>
    have hcalls : ∀ c, c = .findByHandle handle → Mints c := by
      rintro c rfl
      trivial
    exact only_map ((getProfile_calls handle).mono hcalls) _
  | updateProfile input =>
    have hcalls : ∀ c, (∃ changes, c = .updateProfile input.userId changes) → Mints c := by
      rintro c ⟨changes, rfl⟩
      trivial
    exact only_map ((updateProfile_calls input).mono hcalls) _

/-! ## Every run -/

/-- An answered call keeps the chains. -/
theorem Chained.after_returned {w : IdentityWorld services} (h : Chained w) {i : ℕ} {c : PortCall}
    {answer : Answer c} {s : Store services.lower} (hmints : Mints c)
    (hreturns : returns services c w.store answer s) :
    Chained (w.after (.returned i c answer) s) := by
  have hlater := (returns_later hreturns).tables
  cases wrote hreturns with
  | nothing hquiet hsame =>
    refine h.after_quiet (rotation_eq_none hquiet) hlater ?_
    rw [hsame]
    exact h.chains
  | created session firstToken hcreate =>
    have hfresh := (DrizzleSessionRepository.create_spec hcreate).1
    exact h.after_quiet rfl hlater
      (h.chains.create hcreate hmints.1 hmints.2 (h.successes_eq_zero hfresh))
  | rotated spentTokenId next spentAt answer hrotate => exact h.after_rotate hmints hrotate
  | revoked sessionId revokedAt hrevoke =>
    refine h.after_quiet rfl hlater ?_
    rw [hrevoke]
    exact h.chains.revoke sessionId revokedAt

variable (services) in
/-- The discipline of the token chains. -/
def chaining : Discipline (machine services) :=
  growing services Chained (fun _ _ c => Mints c)
    (fun _ h _ _ => h.after_quiet rfl (.refl _) h.chains)
    (fun _ _ _ _ _ h hmints hreturns => h.after_returned hmints hreturns)
    (fun _ _ _ _ h _ => h.after_quiet rfl (.refl _) h.chains)

theorem sound_chaining : (chaining services).Sound (fun _ _ _ _ => True) := by
  intro i request w _ _
  exact Discipline.safe_of_only (fun _ _ h => h) (execute_only services.toSettings request) w

/-- Chains do not fork, from any store in which no chain has forked. -/
theorem chained_from {s : Store services.lower} {τ : List IdentityEvent}
    {c : IdentityConfig services} (hchained : ChainedBy (fun _ => 0) s.tables)
    (hrun : Run (machine services) (.initial s) τ c) : ChainedBy (successes τ) c.store.tables := by
  have hnone : @Chained services ⟨[], s⟩ := ⟨hchained, fun r hr => nomatch hr⟩
  have hinit : (chaining services).Good (fun _ _ _ _ => True) [] (.initial s) :=
    Discipline.good_initial hnone
  exact (hinit.run sound_chaining hrun).inv.chains

/-- In every store a run reaches from one without sessions, whatever interleaves and
whatever fails: every session has exactly one unspent token and one token more than
it had rotations, and every token belongs to a session. -/
theorem token_chains_never_fork (services : Services) {accounts : UserTables services.lower}
    {τ : List IdentityEvent} {c : IdentityConfig services}
    (hrun : Run (machine services) (.initial (.noSessions accounts)) τ c) :
    (∀ session ∈ c.store.tables.sessions.rows,
      c.store.tables.refreshTokens.rows.countP (unspentOf session.id) = 1 ∧
      c.store.tables.refreshTokens.rows.countP (ofSession session.id) =
        1 + successes τ session.id) ∧
    (∀ token ∈ c.store.tables.refreshTokens.rows,
      ∃ session ∈ c.store.tables.sessions.rows, session.id = token.sessionId) := by
  have hempty : ChainedBy (fun _ => 0) (Store.noSessions accounts).tables :=
    ⟨fun _ h => (nomatch h), fun _ h => (nomatch h)⟩
  have hchained := chained_from hempty hrun
  refine ⟨?_, c.store.tables.tokenSession⟩
  intro session hsession
  exact hchained.counts hsession

/-- The sample session after its rotation: one unspent token of two. -/
theorem sample_chain_has_one_unspent_token :
    sampleRefreshed.1.store.tables.refreshTokens.rows.countP (unspentOf (js "9")) = 1 ∧
      sampleRefreshed.1.store.tables.refreshTokens.rows.countP (ofSession (js "9")) =
        1 + successes sampleRefreshed.2 (js "9") := by
  have hrun : Run (machine sampleServices) sampleStart sampleRefreshed.2 sampleRefreshed.1 :=
    run_of_isSome sampleRefresh_plays
  have hchain := (token_chains_never_fork sampleServices hrun).1
  have hsession : ∃ session ∈ sampleRefreshed.1.store.tables.sessions.rows,
      session.id = js "9" := by
    decide +kernel
  rcases hsession with ⟨session, hmem, hid⟩
  rw [← hid]
  exact hchain session hmem

end XClone.Identity
