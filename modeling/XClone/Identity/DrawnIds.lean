import XClone.Identity.CreateUser
import XClone.Identity.Registration
import XClone.Identity.RefreshTokenFactory
import XClone.Identity.SessionTerms
import XClone.Snowflake.Fleet

/-!
# XClone.Identity.DrawnIds — rows with ids nobody else drew

Identity draws its ids from Snowflake generators and its refresh tokens from
`RandomRefreshTokenFactory`, and nothing else keeps two rows apart. When no id is drawn
twice and no two tokens have one hash, no insert of any run violates a key: the one
constraint a run can violate is that of the handles, and it is only reported where a
handle is taken. So of the registrations of one handle one wins.
-/

namespace XClone.Identity

open Js Interleaving Relational SessionTables

/-! ## What a run draws -/

/-- The id an event drew. -/
def drawnId : IdentityEvent → Option JsString
  | .returned _ .nextId id => some id
  | _ => none

/-- The refresh token an event minted. -/
def mintedToken : IdentityEvent → Option RefreshToken
  | .returned _ .createRefreshToken minted => some minted
  | _ => none

/-- The ids of a history. -/
def drawnIds (τ : List IdentityEvent) : List JsString := τ.filterMap drawnId

/-- Its refresh tokens. -/
def mintedTokens (τ : List IdentityEvent) : List RefreshToken := τ.filterMap mintedToken

/-- No id was drawn twice, and no two tokens have one hash. -/
structure FreshDraws (τ : List IdentityEvent) : Prop where
  ids : (drawnIds τ).Nodup
  hashes : ((mintedTokens τ).map RefreshToken.hash).Nodup

namespace FreshDraws

variable {τ τ' : List IdentityEvent}

theorem of_append (h : FreshDraws (τ ++ τ')) : FreshDraws τ := by
  rcases h with ⟨hids, hhashes⟩
  rw [drawnIds, List.filterMap_append] at hids
  rw [mintedTokens, List.filterMap_append, List.map_append] at hhashes
  exact ⟨hids.of_append_left, hhashes.of_append_left⟩

/-- An id belongs to the execution that drew it. -/
theorem id_thread (h : FreshDraws τ) {i j : ℕ} {id : JsString}
    (hi : .returned i .nextId id ∈ τ) (hj : .returned j .nextId id ∈ τ) : i = j := by
  have hsame := eq_of_filterMap_nodup h.ids hi hj rfl rfl
  cases hsame
  rfl

/-- So does the hash of a token. -/
theorem hash_thread (h : FreshDraws τ) {i j : ℕ} {minted minted' : RefreshToken}
    (hi : .returned i .createRefreshToken minted ∈ τ)
    (hj : .returned j .createRefreshToken minted' ∈ τ) (hhash : minted.hash = minted'.hash) :
    i = j := by
  have hnodup := h.hashes
  rw [mintedTokens, List.map_filterMap] at hnodup
  have hsame := eq_of_filterMap_nodup hnodup hi hj rfl (congrArg some hhash.symm)
  cases hsame
  rfl

end FreshDraws

variable {services : Services} {τ : List IdentityEvent} {c c' : IdentityConfig services}

/-! ## Whose rows they are -/

/-- An execution at a call that was not answered before has not made it. -/
theorem pending_unanswered {start : Store services.lower}
    (hrun : Run (machine services) (.initial start) τ c) {i : ℕ} {request : Request}
    {call : PortCall} {next : Answer call → UseCase Response}
    (hthread : c.threads i = some ⟨request, .call call next⟩) :
    ∃ events, Did (machine services) τ i request events (.call call next) ∧
      Path i (execute services.toSettings request) events (.call call next) := by
  rcases hrun.did hthread with ⟨events, hdid⟩
  exact ⟨events, hdid, hdid.went.calling⟩

/-- An account has the id its registration drew. -/
theorem user_drawn (hrun : Run (machine services) (.initial (.blank services.lower)) τ c)
    {row : UserRow} (hrow : row ∈ c.store.accounts.users.rows) :
    ∃ i user passwordHash, .returned i (.createUser user passwordHash) () ∈ τ ∧
      row.id = user.id ∧ .returned i .nextId row.id ∈ τ := by
  rcases origin_of_run hrun hrow with ⟨first, hfirst, -⟩ | ⟨i, user, passwordHash, hmem, hid⟩
  · cases hfirst
  rcases hrun.done_by hmem (i := i) rfl with ⟨request, p, events, -, hdid⟩
  rcases hdid.went.called (hdid.returned.mp hmem) with ⟨τ₁, τ₂, next, hevents, hbefore⟩
  rcases execute_creates hbefore with ⟨input, rfl⟩
  have hpath : Path i (execute services.toSettings (.register input)) τ₁
    (.call (.createUser user passwordHash) next) := hbefore
  rcases register_creates hpath with ⟨id, createdAt, rfl, -, rfl⟩
  refine ⟨i, _, passwordHash, hmem, hid, hdid.subset ?_⟩
  rw [hevents, hid]
  simp

/-- And the handle its registration was given. -/
theorem created_handle (hrun : Run (machine services) (.initial (.blank services.lower)) τ c)
    {row : UserRow} (hrow : row ∈ c.store.accounts.users.rows) :
    ∃ j user passwordHash, .returned j (.createUser user passwordHash) () ∈ τ ∧
      row.handle = user.handle := by
  rcases row_returned hrun hrow with ⟨j, input, user, hreturned, rfl⟩
  rcases returned_created hrun hreturned with ⟨passwordHash, hcreated, -, -⟩
  exact ⟨j, user, passwordHash, hcreated, rfl⟩

/-- A session has the first id its login drew. -/
theorem session_drawn {accounts : UserTables services.lower}
    (hrun : Run (machine services) (.initial (.noSessions accounts)) τ c) {row : Session}
    (hrow : row ∈ c.store.tables.sessions.rows) :
    ∃ i session firstToken, .returned i (.createSession session firstToken) () ∈ τ ∧
      .returned i .nextId row.id ∈ τ := by
  rcases (good_evidence hrun).inv.opened row hrow with ⟨i, session, firstToken, hmem, hlater⟩
  rcases created_opened hrun hmem with ⟨input, opening, hopened⟩
  rcases hrun.done_by hmem (i := i) rfl with ⟨request, p, events, -, hdid⟩
  obtain rfl : request = .login input := hrun.start_unique hdid.started hopened.started
  rcases hdid.went.called (hdid.returned.mp hmem) with ⟨τ₁, τ₂, next, rfl, hbefore⟩
  rcases login_opens hbefore with ⟨found, id, minted, tokenId, now, rfl, rfl, -⟩
  refine ⟨i, _, firstToken, hmem, hdid.subset ?_⟩
  rw [hlater.id]
  simp [loginSession]

/-- Execution `i` inserted this token, on a session it opened or by rotating. -/
def Inserted (τ : List IdentityEvent) (i : ℕ) (token : StoredRefreshToken) : Prop :=
  (∃ session, .returned i (.createSession session token) () ∈ τ) ∨
    ∃ spentTokenId spentAt, .returned i (.rotate spentTokenId token spentAt) true ∈ τ

theorem Inserted.mono {τ τ' : List IdentityEvent} {i : ℕ} {token : StoredRefreshToken}
    (h : Inserted τ i token) (hsub : τ ⊆ τ') : Inserted τ' i token := by
  rcases h with ⟨session, hmem⟩ | ⟨spentTokenId, spentAt, hmem⟩
  · exact Or.inl ⟨session, hsub hmem⟩
  · exact Or.inr ⟨spentTokenId, spentAt, hsub hmem⟩

/-- A step keeps the tokens, inserts one, or spends and inserts one. -/
theorem token_step {e : IdentityEvent} (hstep : Step (machine services) c e c')
    {row : StoredRefreshToken} (hrow : row ∈ c'.store.tables.refreshTokens.rows) :
    (∃ old ∈ c.store.tables.refreshTokens.rows, old.id = row.id ∧ old.tokenHash = row.tokenHash) ∨
      ∃ i, Inserted [e] i row := by
  cases hstep with
  | start i request hnone => exact Or.inl ⟨row, hrow, rfl, rfl⟩
  | threw hthread hthrows => exact Or.inl ⟨row, hrow, rfl, rfl⟩
  | @returned i request call next answer s hthread hreturns =>
    change row ∈ s.tables.refreshTokens.rows at hrow
    cases wrote hreturns with
    | nothing _ hsame =>
      rw [hsame] at hrow
      exact Or.inl ⟨row, hrow, rfl, rfl⟩
    | created session firstToken hcreate =>
      rw [(DrizzleSessionRepository.create_spec hcreate).2.2.2] at hrow
      rcases List.mem_cons.mp hrow with rfl | hold
      · exact Or.inr ⟨i, Or.inl ⟨session, List.mem_singleton_self _⟩⟩
      · exact Or.inl ⟨row, hold, rfl, rfl⟩
    | rotated spentTokenId next spentAt answer hrotate =>
      rcases DrizzleSessionRepository.rotate_cases hrotate with ⟨rfl, hrotated⟩ | ⟨-, hsame, -⟩
      · rw [hrotated.tokens] at hrow
        rcases List.mem_cons.mp hrow with rfl | hold
        · exact Or.inr ⟨i, Or.inr ⟨spentTokenId, spentAt, List.mem_singleton_self _⟩⟩
        · rcases mem_spend.mp hold with ⟨old, hmem, rfl⟩
          refine Or.inl ⟨old, hmem, ?_⟩
          split <;> exact ⟨rfl, rfl⟩
      · rw [hsame] at hrow
        exact Or.inl ⟨row, hrow, rfl, rfl⟩
    | revoked sessionId revokedAt hrevoke =>
      rw [hrevoke] at hrow
      exact Or.inl ⟨row, hrow, rfl, rfl⟩

theorem token_inserted {accounts : UserTables services.lower}
    (hrun : Run (machine services) (.initial (.noSessions accounts)) τ c) :
    ∀ row ∈ c.store.tables.refreshTokens.rows, ∃ i token, Inserted τ i token ∧
      token.id = row.id ∧ token.tokenHash = row.tokenHash := by
  refine hrun.invariant (P := fun τ c => ∀ row ∈ c.store.tables.refreshTokens.rows,
    ∃ i token, Inserted τ i token ∧ token.id = row.id ∧ token.tokenHash = row.tokenHash) ?_ ?_
  · intro row hrow
    cases hrow
  · intro τ c e c' _ ih hstep row hrow
    rcases token_step hstep hrow with ⟨old, hold, hid, hhash⟩ | ⟨i, hinserted⟩
    · rcases ih old hold with ⟨i, token, hinserted, hid', hhash'⟩
      exact ⟨i, token, hinserted.mono (List.subset_append_left _ _), hid'.trans hid,
        hhash'.trans hhash⟩
    · exact ⟨i, row, hinserted.mono (List.subset_append_right _ _), rfl, rfl⟩

/-- A token has an id and a hash its execution drew. -/
theorem inserted_drawn {accounts : UserTables services.lower}
    (hrun : Run (machine services) (.initial (.noSessions accounts)) τ c) {i : ℕ}
    {token : StoredRefreshToken} (h : Inserted τ i token) :
    .returned i .nextId token.id ∈ τ ∧
      ∃ minted, .returned i .createRefreshToken minted ∈ τ ∧ minted.hash = token.tokenHash := by
  rcases h with ⟨session, hmem⟩ | ⟨spentTokenId, spentAt, hmem⟩
  · rcases created_opened hrun hmem with ⟨input, opening, hopened⟩
    rcases hrun.done_by hmem (i := i) rfl with ⟨request, p, events, -, hdid⟩
    obtain rfl : request = .login input := hrun.start_unique hdid.started hopened.started
    rcases hdid.went.called (hdid.returned.mp hmem) with ⟨τ₁, τ₂, next, rfl, hbefore⟩
    rcases login_opens hbefore with ⟨found, id, minted, tokenId, now, rfl, -, rfl⟩
    exact ⟨hdid.subset (by simp [mintedRow]), minted, hdid.subset (by simp), rfl⟩
  · rcases (good_evidence hrun).inv.why hmem with ⟨input, -, -, ⟨hstart, -⟩, -⟩
    rcases hrun.done_by hmem (i := i) rfl with ⟨request, p, events, -, hdid⟩
    obtain rfl : request = .refresh input := hrun.start_unique hdid.started hstart
    rcases hdid.went.called (hdid.returned.mp hmem) with ⟨τ₁, τ₂, next, rfl, hbefore⟩
    rcases refresh_rotates hbefore with ⟨session, spent, minted, id, rfl, -, -, -, rfl⟩
    exact ⟨hdid.subset (by simp [mintedRow]), minted, hdid.subset (by simp), rfl⟩

/-! ## No insert violates a key -/

section Fresh

variable {i : ℕ} {request : Request}

/-- The insert of an account fails on a taken handle only. -/
theorem create_free (hrun : Run (machine services) (.initial (.blank services.lower)) τ c)
    (hfresh : FreshDraws τ) {user : User} {passwordHash : JsString}
    {next : Unit → UseCase Response}
    (hthread : c.threads i = some ⟨request, .call (.createUser user passwordHash) next⟩) :
    ¬ IdTaken c.store.accounts user.id := by
  rcases pending_unanswered hrun hthread with ⟨events, hdid, hpath⟩
  rcases execute_creates hpath with ⟨input, rfl⟩
  rcases register_creates hpath with ⟨id, createdAt, rfl, -, rfl⟩
  rintro ⟨row, hrow, hid⟩
  rcases user_drawn hrun hrow with ⟨j, other, otherHash, hcreated, -, hdrawn⟩
  -- whoever created the row drew this id too, and this execution has not created one
  have hown : .returned i .nextId id ∈ τ := hdid.subset (by simp)
  rw [hid] at hdrawn
  obtain rfl := hfresh.id_thread hown hdrawn
  simpa using hdid.returned.mp hcreated

/-- An execution about to insert a token has inserted none. -/
theorem not_inserted {events : List IdentityEvent} {p : UseCase Response}
    (hdid : Did (machine services) τ i request events p)
    (hcreate : ∀ session token u, .returned i (.createSession session token) u ∉ events)
    (hrotate : ∀ spentTokenId next spentAt, .returned i (.rotate spentTokenId next spentAt) true ∉
      events) (token : StoredRefreshToken) : ¬ Inserted τ i token := by
  rintro (⟨session, hmem⟩ | ⟨spentTokenId, spentAt, hmem⟩)
  · exact hcreate session token () (hdid.returned.mp hmem)
  · exact hrotate spentTokenId token spentAt (hdid.returned.mp hmem)

/-- A token with an id and a hash the execution drew conflicts with none. -/
theorem token_free {accounts : UserTables services.lower}
    (hrun : Run (machine services) (.initial (.noSessions accounts)) τ c) (hfresh : FreshDraws τ)
    {token : StoredRefreshToken} {minted : RefreshToken} (hid : .returned i .nextId token.id ∈ τ)
    (hminted : .returned i .createRefreshToken minted ∈ τ) (hhash : minted.hash = token.tokenHash)
    (hnew : ∀ other, ¬ Inserted τ i other) {row : StoredRefreshToken}
    (hrow : row ∈ c.store.tables.refreshTokens.rows) :
    row.id ≠ token.id ∧ row.tokenHash ≠ token.tokenHash := by
  rcases token_inserted hrun row hrow with ⟨j, other, hinserted, hotherId, hotherHash⟩
  rcases inserted_drawn hrun hinserted with ⟨hdrawn, minted', hminted', hhash'⟩
  constructor
  · intro hsame
    rw [hotherId, hsame] at hdrawn
    obtain rfl := hfresh.id_thread hid hdrawn
    exact hnew other hinserted
  · intro hsame
    have hboth : minted.hash = minted'.hash := by rw [hhash, hhash', hotherHash, hsame]
    obtain rfl := hfresh.hash_thread hminted hminted' hboth
    exact hnew other hinserted

/-- A row that differs from all in both columns conflicts with none. -/
theorem not_conflicts {t : SessionTables} {token : StoredRefreshToken}
    (h : ∀ row ∈ t.refreshTokens.rows, row.id ≠ token.id ∧ row.tokenHash ≠ token.tokenHash) :
    ¬ t.refreshTokens.Conflicts token := by
  rintro ⟨column, hcolumn, hmem⟩
  rcases List.mem_map.mp hmem with ⟨row, hrow, hsame⟩
  simp only [List.mem_cons, List.not_mem_nil, or_false] at hcolumn
  rcases hcolumn with rfl | rfl
  · exact (h row hrow).1 hsame
  · exact (h row hrow).2 hsame

/-- A login opens its session, for an account that exists. -/
theorem createSession_returns {accounts : UserTables services.lower}
    (hrun : Run (machine services) (.initial (.noSessions accounts)) τ c) (hfresh : FreshDraws τ)
    {session : Session} {firstToken : StoredRefreshToken} {next : Unit → UseCase Response}
    (hthread : c.threads i = some ⟨request, .call (.createSession session firstToken) next⟩) :
    DrizzleSessionRepository.create c.store.tables session firstToken ≠ none ∧
      ∃ user ∈ c.store.accounts.users.rows, user.id = session.userId := by
  rcases pending_unanswered hrun hthread with ⟨events, hdid, hpath⟩
  rcases execute_opens hpath with ⟨input, rfl⟩
  rcases login_opens hpath with ⟨credentials, id, minted, tokenId, now, rfl, rfl, rfl⟩
  constructor
  · have hnew : ∀ other, ¬ Inserted τ i other := by
      apply not_inserted hdid
      · intro session token u hmem
        simp at hmem
      · intro spentTokenId next spentAt hmem
        simp at hmem
    have hsession : ¬ c.store.tables.sessions.Conflicts
        (loginSession services.toSettings input credentials id now) := by
      rintro ⟨column, hcolumn, hmem⟩
      obtain rfl := List.mem_singleton.mp hcolumn
      rcases List.mem_map.mp hmem with ⟨row, hrow, hsame⟩
      rcases session_drawn hrun hrow with ⟨j, other, first, hcreated, hdrawn⟩
      have hown : .returned i .nextId id ∈ τ := hdid.subset (by simp)
      have hdrawn' : .returned j .nextId id ∈ τ := by
        rw [hsame] at hdrawn
        exact hdrawn
      obtain rfl := hfresh.id_thread hown hdrawn'
      exact hnew first (Or.inl ⟨other, hcreated⟩)
    have htoken : ¬ c.store.tables.refreshTokens.Conflicts (mintedRow minted tokenId id now) := by
      apply not_conflicts
      intro row hrow
      have hdrawn : .returned i .nextId tokenId ∈ τ := hdid.subset (by simp)
      have hminted : .returned i .createRefreshToken minted ∈ τ := hdid.subset (by simp)
      exact token_free hrun hfresh hdrawn hminted rfl hnew hrow
    rcases DrizzleSessionRepository.create_of_fresh hsession htoken
      ⟨_, List.mem_cons_self, rfl⟩ with ⟨t', ht'⟩
    rw [ht']
    exact Option.some_ne_none t'
  · -- the credentials it verified have their user
    have hfound : .returned i (.findCredentialsByHandle input.handle) (some credentials) ∈ τ :=
      hdid.subset (by simp)
    have hrow := (good_evidence hrun).inv.credentials hfound
    exact c.store.accounts.credentialsUser _ hrow

/-- A refresh rotates, or is refused. -/
theorem rotate_returns {accounts : UserTables services.lower}
    (hrun : Run (machine services) (.initial (.noSessions accounts)) τ c) (hfresh : FreshDraws τ)
    {spentTokenId : JsString} {next : StoredRefreshToken} {spentAt : Date}
    {after : Bool → UseCase Response}
    (hthread : c.threads i = some ⟨request, .call (.rotate spentTokenId next spentAt) after⟩) :
    DrizzleSessionRepository.rotate c.store.tables spentTokenId next spentAt ≠ none := by
  rcases pending_unanswered hrun hthread with ⟨events, hdid, hpath⟩
  rcases execute_rotates hpath with ⟨input, rfl⟩
  rcases refresh_rotates hpath with ⟨session, token, minted, id, rfl, -, -, rfl, rfl⟩
  have hnew : ∀ other, ¬ Inserted τ i other := by
    apply not_inserted hdid
    · intro session token u hmem
      simp at hmem
    · intro spentTokenId next spentAt hmem
      simp at hmem
  by_cases hrefuses : DrizzleSessionRepository.Refuses c.store.tables token.id
    (mintedRow minted id session.id spentAt)
  · rw [DrizzleSessionRepository.rotate_of_refuses hrefuses]
    exact Option.some_ne_none _
  unfold DrizzleSessionRepository.Refuses at hrefuses
  push Not at hrefuses
  have hconflicts : ¬ (c.store.tables.spend token.id
      (mintedRow minted id session.id spentAt).sessionId spentAt).refreshTokens.Conflicts
        (mintedRow minted id session.id spentAt) := by
    apply not_conflicts
    intro row hrow
    rcases mem_spend.mp hrow with ⟨old, hold, rfl⟩
    have hdrawn : .returned i .nextId (mintedRow minted id session.id spentAt).id ∈ τ :=
      hdid.subset (by simp [mintedRow])
    have hminted : .returned i .createRefreshToken minted ∈ τ := hdid.subset (by simp)
    have hfree := token_free hrun hfresh hdrawn hminted rfl hnew hold
    split <;> exact hfree
  rcases DrizzleSessionRepository.rotate_of_fresh hrefuses.1 hrefuses.2 hconflicts with ⟨t', ht'⟩
  rw [ht']
  exact Option.some_ne_none _

/-- What the ports throw when nothing was drawn twice: a port could not do its work, or a
registration had committed the handle. -/
theorem fresh_throws (hrun : Run (machine services) (.initial (.blank services.lower)) τ c)
    (hfresh : FreshDraws τ) {call : PortCall} {e : Failure} (hmem : .threw i call e ∈ τ) :
    e = .unavailable ∨ ∃ user passwordHash, call = .createUser user passwordHash ∧
      e = .handleTaken user.handle ∧ ∃ j other otherHash,
        .returned j (.createUser other otherHash) () ∈ τ ∧
        services.lower other.handle = services.lower user.handle := by
  rcases hrun.at hmem with ⟨τ₁, τ₂, c₁, c₂, rfl, hbefore, hstep, -⟩
  have hfresh₁ := hfresh.of_append
  cases hstep with
  | threw hthread hthrows =>
  rcases throws_cases hthrows with hunavailable | hviolation | ⟨user, passwordHash, rfl, rfl⟩
  · exact Or.inl hunavailable
  · -- the inserts that could violate a constraint go through
    subst hviolation
    cases call with
    | createUser user passwordHash =>
      rcases hthrows with hno | herror
      · cases hno
      · cases DrizzleUserRepository.create_error herror
    | createSession session firstToken =>
      rcases createSession_returns hbefore hfresh₁ hthread with ⟨hcreate, user, huser, hid⟩
      rcases hthrows with hno | ⟨-, hnone | hnobody⟩
      · cases hno
      · exact absurd hnone hcreate
      · exact absurd hid (hnobody user huser)
    | rotate spentTokenId next spentAt =>
      rcases hthrows with hno | ⟨-, hnone⟩
      · cases hno
      · exact absurd hnone (rotate_returns hbefore hfresh₁ hthread)
    | createRefreshToken | now | issueAccessToken => exact hthrows.elim
    | existsByHandle | findCredentialsByHandle | findByTokenHash | revoke | findByHandle
    | updateProfile | hashPassword | verifyPassword | nextId => cases hthrows
  · -- the handle is the only key a new account can violate
    rcases hthrows with hno | herror
    · cases hno
    have hfree := create_free hbefore hfresh₁ hthread
    rcases taken_of_create herror hfree with ⟨row, hrow, hhandle⟩
    rcases created_handle hbefore hrow with ⟨j, other, otherHash, hcreated, hsame⟩
    refine Or.inr ⟨user, passwordHash, rfl, rfl, j, other, otherHash,
      List.mem_append_left _ hcreated, ?_⟩
    rw [← hhandle, hsame]

/-! ## Who wins a handle -/

/-- A checked registration that has ended, other than by a port that could not do its
work: it returned an account, or another had committed the handle. -/
theorem registration_ends (hrun : Run (machine services) (.initial (.blank services.lower)) τ c)
    (hfresh : FreshDraws τ) {input : RegisterUserInput} {p : UseCase Response}
    (hthread : c.threads i = some ⟨.register input, p⟩) (hdone : p.Completed)
    (hserved : p ≠ .failed .unavailable) (hhandle : assertValidHandle input.handle = .ok ())
    (hpassword : assertValidPassword input.password = .ok ()) :
    ∃ j other otherHash, .returned j (.createUser other otherHash) () ∈ τ ∧
      services.lower other.handle = services.lower input.handle := by
  rcases hrun.did hthread with ⟨events, hdid⟩
  cases p with
  | call call next => exact hdone.elim
  | done response =>
    have hpath : Path i (execute services.toSettings (.register input)) events (.done response) :=
      hdid.went.done
    rcases register_done hpath with ⟨passwordHash, id, createdAt, rfl, -, -⟩
    refine ⟨i, ⟨id, input.handle, input.handle, createdAt⟩, passwordHash, ?_, rfl⟩
    exact hdid.subset (by simp)
  | failed e =>
    have hwent : Went i (execute services.toSettings (.register input)) events (.failed e) :=
      hdid.went
    cases hwent with
    | answered hpath =>
      rcases register_rejected hpath with ⟨-, hbroken⟩ | ⟨rfl, rfl⟩
      · rw [hhandle, hpassword] at hbroken
        rcases hbroken with hno | hno <;> cases hno
      · -- the check saw a committed account
        have hmem : .returned i (.existsByHandle input.handle) true ∈ τ := hdid.subset (by simp)
        rcases hrun.answered_at hmem with ⟨τ₁, τ₂, c₁, c₂, rfl, hbefore, hreturns, -⟩
        have hany := hreturns.2.symm
        rw [DrizzleUserRepository.existsByHandle, List.any_eq_true] at hany
        rcases hany with ⟨row, hrow, hsame⟩
        rcases created_handle hbefore hrow with ⟨j, other, otherHash, hcreated, hother⟩
        refine ⟨j, other, otherHash, List.mem_append_left _ hcreated, ?_⟩
        rw [← hother]
        exact of_decide_eq_true hsame
    | @threw before call next _ hpath =>
      have hthrown : .threw i call e ∈ τ :=
        hdid.subset (List.mem_append_right _ (List.mem_singleton_self _))
      rcases fresh_throws hrun hfresh hthrown with
        hunavailable | ⟨user, passwordHash, rfl, rfl, j, other, otherHash, hcreated, hsame⟩
      · exact absurd (congrArg Program.failed hunavailable) hserved
      · rcases register_creates hpath with ⟨id, createdAt, -, -, rfl⟩
        exact ⟨j, other, otherHash, hcreated, hsame⟩

end Fresh

/-! ## From the fleet -/

open Snowflake SnowflakeGenerator

/-- Where the draws of a run come from: ids that a fleet of generators issued, and tokens
made of random bytes that do not repeat, told apart by their digest. -/
structure Supplied {ι : Type} (factory : RandomRefreshTokenFactory) (calls : List (ι × Call))
    (draws : List RandomBytes) (τ : List IdentityEvent) : Prop where
  ids : (drawnIds τ).Subperm ((issued (calls.map Prod.snd)).map js)
  tokens : (mintedTokens τ).Subperm (draws.map factory.create)
  random : draws.Nodup
  apart : factory.TellsApart (draws.map fun drawn => (factory.create drawn).token)

theorem Supplied.fresh {ι : Type} [DecidableEq ι] {factory : RandomRefreshTokenFactory}
    {fleet fleet' : Fleet ι} {calls : List (ι × Call)} {draws : List RandomBytes}
    (hnodes : ∀ i j, i ≠ j → (fleet i).1.nodeId ≠ (fleet j).1.nodeId)
    (hcalls : FleetCalls fleet calls fleet') (h : Supplied factory calls draws τ) :
    FreshDraws τ := by
  constructor
  · have hissued := (issued_nodup hnodes hcalls).map js_injective
    rcases h.ids with ⟨ids, hperm, hsub⟩
    exact hperm.nodup_iff.mp (hissued.sublist hsub)
  · have hhashes : ((draws.map factory.create).map RefreshToken.hash).Nodup := by
      rw [List.map_map]
      exact RandomRefreshTokenFactory.hashes_nodup h.random h.apart
    rcases h.tokens with ⟨tokens, hperm, hsub⟩
    exact (hperm.map _).nodup_iff.mp (hhashes.sublist (hsub.map _))

/-- Identity over its real generators: ids from Snowflake generators constructed with
pairwise distinct node ids, tokens from random bytes. In any run from empty tables no
execution fails on a constraint: it is rejected as its use case rejects it, or a port
could not do its work. And if one checked registration of a handle ends, the ports
willing, then exactly one registration of that handle, ignoring case, returns an
account. -/
theorem one_registration_wins {ι : Type} [DecidableEq ι] (services : Services)
    {nodeIds : ι → JsNumber} {clocks : ι → List ℤ} {fleet fleet' : Fleet ι}
    {calls : List (ι × Call)} {factory : RandomRefreshTokenFactory} {draws : List RandomBytes}
    {τ : List IdentityEvent} {c : IdentityConfig services}
    (hnew : ∀ i, construct (nodeIds i) (clocks i) = some (.ok (fleet i).1, (fleet i).2))
    (hdistinct : ∀ i j, i ≠ j → nodeIds i ≠ nodeIds j)
    (hcalls : FleetCalls fleet calls fleet') (hsupplied : Supplied factory calls draws τ)
    (hrun : Run (machine services) (.initial (.blank services.lower)) τ c) :
    (∀ i request e, c.threads i = some ⟨request, .failed e⟩ →
      RejectedWith request e ∨ e = .unavailable) ∧
    ∀ i input p, c.threads i = some ⟨.register input, p⟩ → p.Completed →
      p ≠ .failed .unavailable → assertValidHandle input.handle = .ok () →
      assertValidPassword input.password = .ok () →
      ∃! j, ∃ input' user, ReturnedUser c j input' user ∧
        services.lower input'.handle = services.lower input.handle := by
  have hnodes : ∀ i j, i ≠ j → (fleet i).1.nodeId ≠ (fleet j).1.nodeId := by
    intro i j hij hsame
    apply hdistinct i j hij
    rw [(construct_ok (hnew i)).1, (construct_ok (hnew j)).1, hsame]
  have hfresh := hsupplied.fresh hnodes hcalls
  constructor
  · intro i request e hthread
    rcases failed_with hrun hthread with hrejected | hunavailable | hviolation
    · exact Or.inl hrejected
    · exact Or.inr hunavailable
    · -- a rejection by the use case itself has a name, and nothing throws a violation
      subst hviolation
      rcases hrun.did hthread with ⟨events, hdid⟩
      rcases hdid.went.failure (execute_rejects request) with hrejected | ⟨call, hthrown⟩
      · exact Or.inl hrejected
      · rcases fresh_throws hrun hfresh (hdid.threw.mpr hthrown) with hno | ⟨_, _, _, hno, _⟩
        · cases hno
        · cases hno
  · intro i input p hthread hdone hserved hhandle hpassword
    rcases registration_ends hrun hfresh hthread hdone hserved hhandle hpassword with
      ⟨j, other, otherHash, hcreated, hsame⟩
    rcases created_returned hrun hcreated with ⟨input', hreturned, hotherHandle, -, -⟩
    refine ⟨j, ⟨input', other, hreturned, by rw [← hotherHandle, hsame]⟩, ?_⟩
    -- the insert that won is the only one
    rintro k ⟨input'', user, hreturned', hsame'⟩
    rcases returned_created hrun hreturned' with ⟨userHash, hcreated', -, huserHandle⟩
    apply created_once hrun k j user other userHash otherHash hcreated' hcreated
    rw [huserHandle, hsame', hsame]

/-- 32 zero bytes. -/
def zeroBytes : RandomBytes := ⟨List.replicate 32 0, rfl⟩

/-- The factory, with the SHA-256 of the token of `zeroBytes`. -/
def zeroFactory : RandomRefreshTokenFactory where
  sha256 bytes :=
    if bytes = utf8 (base64url zeroBytes.bytes) then
      [15, 0, 115, 133, 182, 249, 212, 183, 238, 178, 116, 134, 5, 175, 225, 169, 132, 160, 163,
        191, 163, 240, 20, 208, 158, 42, 120, 76, 233, 229, 205, 26]
    else []

/-- The sample services over that factory. -/
def drawingServices : Services := { sampleServices with hashRefreshToken := zeroFactory.hash }

/-- `sam` registers, `SAM` is refused, and `sam` logs in, with the ids of node 7. -/
def sampleRivals : List Move :=
  [.start 0 (.register ⟨js "sam", js "correct horse 1"⟩), .answer 0 .none,
    .answer 0 (.text (js "hashed:correct horse 1")), .answer 0 (.id 28672),
    .answer 0 (.at 1767225600000), .answer 0 .none,
    .start 1 (.register ⟨js "SAM", js "battery staple 2"⟩), .answer 1 .none,
    .start 2 (.login ⟨js "SAM", js "correct horse 1", none⟩), .answer 2 .none, .answer 2 .none,
    .answer 2 (.at 1767225600000), .answer 2 (.id 28673),
    .answer 2 (.text (base64url zeroBytes.bytes)), .answer 2 (.id 28674), .answer 2 .none,
    .answer 2 .none]

theorem sampleRivals_plays :
    (simulate drawingServices (.initial (.blank asciiLower)) sampleRivals).isSome = true := by
  decide +kernel

/-- `sam` has won. -/
def sampleRivalry : IdentityConfig drawingServices × List IdentityEvent :=
  (simulate drawingServices (.initial (.blank asciiLower)) sampleRivals).get sampleRivals_plays

/-- The three ids are those node 7 issues in one millisecond. -/
theorem sam_wins_over_SAM :
    ∃! j, ∃ input user, ReturnedUser sampleRivalry.1 j input user ∧
      asciiLower input.handle = asciiLower (js "SAM") := by
  let t := snowflakeEpochMs
  let a := nodeSeven.issue 0 .zero [t, t]
  let b := a.generator.issue 0 a.generator.sequence.bump [t]
  let d := b.generator.issue 0 b.generator.sequence.bump []
  let fleet : Fleet Unit := fun _ => (nodeSeven, [t, t, t])
  have hnew : ∀ i : Unit, construct ((fun _ => .finite 7) i) ((fun _ => [t, t, t, t]) i) =
      some (.ok (fleet i).1, (fleet i).2) := by
    decide
  have hcalls : FleetCalls fleet [((), ⟨a.result, t, a.generator⟩),
      ((), ⟨b.result, t, b.generator⟩), ((), ⟨d.result, t, d.generator⟩)] _ :=
    FleetCalls.cons () [] t a (by decide +kernel) rfl
      (FleetCalls.cons () [] t b (by decide +kernel) rfl
        (FleetCalls.cons () [] t d (by decide +kernel) rfl (FleetCalls.nil _)))
  have hsupplied : Supplied zeroFactory [((), (⟨a.result, t, a.generator⟩ : Call)),
      ((), ⟨b.result, t, b.generator⟩), ((), ⟨d.result, t, d.generator⟩)] [zeroBytes]
      sampleRivalry.2 := by
    constructor
    · have hids : drawnIds sampleRivalry.2 = (issued [(⟨a.result, t, a.generator⟩ : Call),
          ⟨b.result, t, b.generator⟩, ⟨d.result, t, d.generator⟩]).map js := by
        decide +kernel
      exact hids ▸ List.Subperm.refl _
    · have htokens : mintedTokens sampleRivalry.2 = [zeroBytes].map zeroFactory.create := by
        decide +kernel
      exact htokens ▸ List.Subperm.refl _
    · exact List.nodup_singleton _
    · intro token htoken token' htoken' _
      rw [List.mem_singleton.mp htoken, List.mem_singleton.mp htoken']
  have hrun : Run (machine drawingServices) (.initial (.blank asciiLower)) sampleRivalry.2
      sampleRivalry.1 := run_of_isSome sampleRivals_plays
  exact (one_registration_wins drawingServices hnew (fun i j hij => absurd rfl hij) hcalls hsupplied
    hrun).2 1 ⟨js "SAM", js "battery staple 2"⟩ (.failed (.handleTaken (js "SAM"))) rfl trivial
    (by simp) (by decide +kernel) (by decide +kernel)

end XClone.Identity
