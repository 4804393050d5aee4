import XClone.Lib.Statements
import XClone.Identity.Transactions
import XClone.Identity.Scheduler
import XClone.Identity.AllOrNothing
import XClone.Identity.SessionTerms

/-!
# XClone.Identity.StatementLevel — the Identity service, statement by statement

In `machine` a call of a repository is one step. What the services really send are
statements: `create` of the users, `create` and `rotate` of the sessions are transactions
of several, `revoke` waits for the locks of `rotate`, and between any two statements other
requests run theirs. The service at that level reaches exactly what `machine` reaches
(`statement_level_refines`), so what is proved of the runs of one holds of those of the other.

A single `SELECT`, and the `UPDATE` of a profile, whose row nobody else locks, stay one
step.
-/

namespace XClone.Identity

open Js Interleaving Relational ReadCommitted SessionTables

variable {lower : JsString → JsString}

/-! ## The inserts of a new account -/

namespace UserTables

/-- `INSERT INTO users`; `none` is a unique violation. -/
def insertUser (t : UserTables lower) (user : User) : Option (UserTables lower) :=
  match h : t.users.insert (DrizzleUserRepository.userRow user) with
  | none => none
  | some users =>
    some
      { users
        credentials := t.credentials
        credentialsUser := by
          rw [(Table.insert_eq_some.mp h).2]
          intro row hrow
          rcases t.credentialsUser row hrow with ⟨owner, howner, hid⟩
          exact ⟨owner, List.mem_cons_of_mem _ howner, hid⟩ }

/-- `INSERT INTO credentials`; `none` is a constraint violation. -/
def insertCredentials (t : UserTables lower) (row : CredentialsRow) : Option (UserTables lower) :=
  match h : t.credentials.insert row with
  | none => none
  | some credentials =>
    if huser : ∃ user ∈ t.users.rows, user.id = row.userId then
      some
        { users := t.users
          credentials
          credentialsUser := by
            rw [(Table.insert_eq_some.mp h).2]
            intro row' hrow'
            rcases List.mem_cons.mp hrow' with rfl | hrow'
            · exact huser
            · exact t.credentialsUser row' hrow' }
    else none

theorem insertUser_spec {t t' : UserTables lower} {user : User} (h : t.insertUser user = some t') :
    ¬ t.users.Conflicts (DrizzleUserRepository.userRow user) ∧
      t'.users.rows = DrizzleUserRepository.userRow user :: t.users.rows ∧
      t'.credentials = t.credentials := by
  unfold insertUser at h
  split at h
  · cases h
  · rename_i users hinsert
    cases h
    rcases Table.insert_eq_some.mp hinsert with ⟨hfresh, hrows⟩
    exact ⟨hfresh, hrows, rfl⟩

theorem insertCredentials_spec {t t' : UserTables lower} {row : CredentialsRow}
    (h : t.insertCredentials row = some t') :
    ¬ t.credentials.Conflicts row ∧ t'.users = t.users ∧
      t'.credentials.rows = row :: t.credentials.rows := by
  unfold insertCredentials at h
  split at h
  · cases h
  · rename_i credentials hinsert
    split at h
    · cases h
      rcases Table.insert_eq_some.mp hinsert with ⟨hfresh, hrows⟩
      exact ⟨hfresh, rfl, hrows⟩
    · cases h

theorem insertUser_isSome {t : UserTables lower} {user : User} :
    (t.insertUser user).isSome = true ↔
      ¬ t.users.Conflicts (DrizzleUserRepository.userRow user) := by
  unfold insertUser
  split
  · rename_i hinsert
    exact ⟨fun hno => (nomatch hno), fun hfresh => absurd hinsert (Table.insert_ne_none hfresh)⟩
  · rename_i users hinsert
    exact ⟨fun _ => (Table.insert_eq_some.mp hinsert).1, fun _ => rfl⟩

theorem insertCredentials_isSome {t : UserTables lower} {row : CredentialsRow} :
    (t.insertCredentials row).isSome = true ↔
      ¬ t.credentials.Conflicts row ∧ ∃ user ∈ t.users.rows, user.id = row.userId := by
  unfold insertCredentials
  split
  · rename_i hinsert
    exact ⟨fun hno => (nomatch hno), fun h => absurd hinsert (Table.insert_ne_none h.1)⟩
  · rename_i credentials hinsert
    split
    · rename_i huser
      exact ⟨fun _ => ⟨(Table.insert_eq_some.mp hinsert).1, huser⟩, fun _ => rfl⟩
    · rename_i huser
      exact ⟨fun hno => (nomatch hno), fun h => absurd h.2 huser⟩

theorem insertUser_later {t t' : UserTables lower} {user : User}
    (h : t.insertUser user = some t') : Later t t' := by
  rcases insertUser_spec h with ⟨-, husers, hcredentials⟩
  constructor
  · intro row hrow
    exact ⟨row, by rw [husers]; exact List.mem_cons_of_mem _ hrow, rfl⟩
  · intro row hrow
    rw [hcredentials]
    exact hrow

theorem insertCredentials_later {t t' : UserTables lower} {row : CredentialsRow}
    (h : t.insertCredentials row = some t') : Later t t' := by
  rcases insertCredentials_spec h with ⟨-, husers, hcredentials⟩
  constructor
  · intro row' hrow'
    exact ⟨row', by rw [husers]; exact hrow', rfl⟩
  · intro row' hrow'
    rw [hcredentials]
    exact List.mem_cons_of_mem _ hrow'

@[ext] theorem ext {t u : UserTables lower} (husers : t.users.rows = u.users.rows)
    (hcredentials : t.credentials.rows = u.credentials.rows) : t = u := by
  cases t
  cases u
  cases Table.ext husers
  cases Table.ext hcredentials
  rfl

end UserTables

/-- `create` is its two inserts. -/
theorem DrizzleUserRepository.create_eq_ok {t t' : UserTables lower} {user : User}
    {passwordHash : JsString} :
    DrizzleUserRepository.create t user passwordHash = .ok t' ↔
      ∃ inserted, t.insertUser user = some inserted ∧
        inserted.insertCredentials ⟨user.id, passwordHash⟩ = some t' := by
  constructor
  · intro h
    unfold create at h
    split at h
    · cases h
    rename_i users husers
    split at h
    · cases h
    rename_i credentials hcredentials
    cases h
    have hfresh := (Table.insert_eq_some.mp husers).1
    have hfresh' := (Table.insert_eq_some.mp hcredentials).1
    rcases Option.isSome_iff_exists.mp (UserTables.insertUser_isSome.mpr hfresh) with
      ⟨inserted, hinserted⟩
    rcases UserTables.insertUser_spec hinserted with ⟨-, hrows, hsame⟩
    have howner : ∃ owner ∈ inserted.users.rows, owner.id = user.id := by
      rw [hrows]
      exact ⟨userRow user, List.mem_cons_self, rfl⟩
    rcases Option.isSome_iff_exists.mp (UserTables.insertCredentials_isSome.mpr
      ⟨hsame ▸ hfresh', howner⟩) with ⟨t', ht'⟩
    refine ⟨inserted, hinserted, ht'.trans (congrArg some (UserTables.ext ?_ ?_))⟩
    · rw [(UserTables.insertCredentials_spec ht').2.1, hrows]
      exact (Table.insert_eq_some.mp husers).2.symm
    · rw [(UserTables.insertCredentials_spec ht').2.2, hsame]
      exact (Table.insert_eq_some.mp hcredentials).2.symm
  · rintro ⟨inserted, hinserted, hinsert⟩
    rcases UserTables.insertUser_spec hinserted with ⟨hfresh, hrows, hsame⟩
    rcases UserTables.insertCredentials_spec hinsert with ⟨hfresh', hrows', hsame'⟩
    rw [hsame] at hfresh' hsame'
    unfold create
    split
    · rename_i hno
      exact absurd hno (Table.insert_ne_none hfresh)
    rename_i users husers
    split
    · rename_i hno
      exact absurd hno (Table.insert_ne_none hfresh')
    rename_i credentials hcredentials
    refine congrArg Except.ok (UserTables.ext ?_ ?_)
    · rw [hrows', hrows]
      exact (Table.insert_eq_some.mp husers).2
    · rw [hsame']
      exact (Table.insert_eq_some.mp hcredentials).2

/-! ## Statements -/

/-- What a statement can lock: a row or an entry of the session tables, or an entry of
one of the other unique indexes. -/
inductive StoreResource where
  | session (resource : Resource)
  | sessionId (id : JsString)
  | userId (id : JsString)
  | handle (folded : JsString)
  | credentialsUserId (userId : JsString)
deriving DecidableEq

/-- The statements that the repositories send in transactions, or that wait for the locks
of one. -/
inductive StoreStatement where
  | session (statement : Statement)
  | insertUser (user : User)
  /-- Where `user` has just been inserted. -/
  | insertCredentials (user : User) (passwordHash : JsString)
  | insertSession (session : Session)
  /-- Where `session` has just been inserted. -/
  | insertFirstToken (session : Session) (firstToken : StoredRefreshToken)

/-- The statements of `rotate` and `revoke` leave every session with its user. -/
theorem Store.written_users (s : Store lower) (statement : Statement) :
    ∀ session ∈ (postgres.write statement s.tables).sessions.rows,
      ∃ user ∈ s.accounts.users.rows, user.id = session.userId := by
  cases statement with
  | selectLiveForShare | updateSpent => exact s.sessionUser
  | insertRefreshToken next =>
    rcases insertToken_getD s.tables next with hsame | ⟨hsessions, -⟩
    · simpa only [postgres, hsame] using s.sessionUser
    · simpa only [postgres, hsessions] using s.sessionUser
  | updateRevoked sessionId revokedAt =>
    intro session hsession
    rcases DrizzleSessionRepository.mem_revoke.mp hsession with ⟨old, hold, rfl⟩
    rcases s.sessionUser old hold with ⟨user, huser, hid⟩
    refine ⟨user, huser, hid.trans ?_⟩
    split <;> rfl

/-- What a statement writes where nothing is violated. -/
def Store.write : StoreStatement → Store lower → Store lower
  | .session statement, s =>
    s.withTables (postgres.write statement s.tables) (s.written_users statement)
  | .insertUser user, s =>
    match h : s.accounts.insertUser user with
    | some accounts => s.withAccounts accounts (UserTables.insertUser_later h)
    | none => s
  | .insertCredentials user passwordHash, s =>
    match h : s.accounts.insertCredentials ⟨user.id, passwordHash⟩ with
    | some accounts => s.withAccounts accounts (UserTables.insertCredentials_later h)
    | none => s
  | .insertSession session, s =>
    match h : s.tables.insertSession session with
    | some tables =>
      if huser : ∃ user ∈ s.accounts.users.rows, user.id = session.userId then
        s.withTables tables (by
          rw [(insertSession_spec h).2.1]
          intro row hrow
          rcases List.mem_cons.mp hrow with rfl | hrow
          · exact huser
          · exact s.sessionUser row hrow)
      else s
    | none => s
  | .insertFirstToken _ firstToken, s =>
    s.withTables (postgres.write (.insertRefreshToken firstToken) s.tables)
      (s.written_users (.insertRefreshToken firstToken))

variable (lower) in
/-- The four tables under these statements. An insert waits for whoever holds the entries
it takes, and takes `FOR KEY SHARE` on the row it refers to, which goes with every lock
taken here. -/
def database : Engine (Store lower) StoreResource StoreStatement where
  locks
    | .session statement => (postgres.locks statement).map .session
    | .insertUser user => [.userId user.id, .handle (lower user.handle)]
    | .insertCredentials user _ => [.credentialsUserId user.id]
    | .insertSession session => [.sessionId session.id]
    | .insertFirstToken _ firstToken =>
      (postgres.locks (.insertRefreshToken firstToken)).map .session
  mode
    | .session statement => postgres.mode statement
    | _ => .update
  found
    | .session statement, s => postgres.found statement s.tables
    | .insertUser user, s => (s.accounts.insertUser user).isSome
    | .insertCredentials user passwordHash, s =>
      (s.accounts.credentials.insert ⟨user.id, passwordHash⟩).isSome
    | .insertSession session, s =>
      (s.tables.insertSession session).isSome &&
        s.accounts.users.rows.any fun user => user.id = session.userId
    | .insertFirstToken session firstToken, s =>
      (s.tables.refreshTokens.insert firstToken).isSome &&
        (firstToken.sessionId = session.id ||
          s.tables.sessions.rows.any fun row => row.id = firstToken.sessionId)
  reports
    | .session statement => postgres.reports statement
    | _ => false
  write := Store.write

/-! ### What they find and write -/

section Statements

variable {s : Store lower}

theorem found_insertUser {user : User} :
    (database lower).found (.insertUser user) s = true ↔
      ¬ s.accounts.users.Conflicts (DrizzleUserRepository.userRow user) :=
  UserTables.insertUser_isSome

theorem found_insertCredentials {user : User} {passwordHash : JsString} :
    (database lower).found (.insertCredentials user passwordHash) s = true ↔
      ¬ s.accounts.credentials.Conflicts ⟨user.id, passwordHash⟩ :=
  Table.insert_isSome

theorem insertSession_isSome {t : SessionTables} {session : Session} :
    (t.insertSession session).isSome = true ↔ ¬ t.sessions.Conflicts session := by
  unfold insertSession
  split
  · rename_i hinsert
    exact ⟨fun hno => (nomatch hno), fun hfresh => absurd hinsert (Table.insert_ne_none hfresh)⟩
  · rename_i sessions hinsert
    exact ⟨fun _ => (Table.insert_eq_some.mp hinsert).1, fun _ => rfl⟩

theorem found_insertSession {session : Session} :
    (database lower).found (.insertSession session) s = true ↔
      ¬ s.tables.sessions.Conflicts session ∧
        ∃ user ∈ s.accounts.users.rows, user.id = session.userId := by
  rw [← insertSession_isSome]
  simp [database]

theorem found_insertFirstToken {session : Session} {firstToken : StoredRefreshToken} :
    (database lower).found (.insertFirstToken session firstToken) s = true ↔
      ¬ s.tables.refreshTokens.Conflicts firstToken ∧
        (firstToken.sessionId = session.id ∨
          ∃ row ∈ s.tables.sessions.rows, row.id = firstToken.sessionId) := by
  rw [← Table.insert_isSome]
  simp [database]

@[simp] theorem write_session_accounts (statement : Statement) :
    ((database lower).write (.session statement) s).accounts = s.accounts := rfl

@[simp] theorem write_session_tables (statement : Statement) :
    ((database lower).write (.session statement) s).tables = postgres.write statement s.tables := rfl

@[simp] theorem write_firstToken_accounts (session : Session) (firstToken : StoredRefreshToken) :
    ((database lower).write (.insertFirstToken session firstToken) s).accounts = s.accounts := rfl

@[simp] theorem write_firstToken_tables (session : Session) (firstToken : StoredRefreshToken) :
    ((database lower).write (.insertFirstToken session firstToken) s).tables =
      postgres.write (.insertRefreshToken firstToken) s.tables := rfl

@[simp] theorem write_insertUser_tables (user : User) :
    ((database lower).write (.insertUser user) s).tables = s.tables := by
  simp only [database, Store.write]
  split <;> rfl

@[simp] theorem write_insertUser_accounts (user : User) :
    ((database lower).write (.insertUser user) s).accounts =
      (s.accounts.insertUser user).getD s.accounts := by
  simp only [database, Store.write]
  split
  · rename_i h
    exact (congrArg (fun inserted => inserted.getD s.accounts) h).symm
  · rename_i h
    exact (congrArg (fun inserted => inserted.getD s.accounts) h).symm

@[simp] theorem write_insertCredentials_tables (user : User) (passwordHash : JsString) :
    ((database lower).write (.insertCredentials user passwordHash) s).tables = s.tables := by
  simp only [database, Store.write]
  split <;> rfl

@[simp] theorem write_insertCredentials_accounts (user : User) (passwordHash : JsString) :
    ((database lower).write (.insertCredentials user passwordHash) s).accounts =
      (s.accounts.insertCredentials ⟨user.id, passwordHash⟩).getD s.accounts := by
  simp only [database, Store.write]
  split
  · rename_i h
    exact (congrArg (fun inserted => inserted.getD s.accounts) h).symm
  · rename_i h
    exact (congrArg (fun inserted => inserted.getD s.accounts) h).symm

@[simp] theorem write_insertSession_accounts (session : Session) :
    ((database lower).write (.insertSession session) s).accounts = s.accounts := by
  simp only [database, Store.write]
  split
  · split <;> rfl
  · rfl

theorem write_insertSession {session : Session}
    (h : (database lower).found (.insertSession session) s = true) :
    s.tables.insertSession session =
      some ((database lower).write (.insertSession session) s).tables := by
  rcases found_insertSession.mp h with ⟨hfresh, huser⟩
  simp only [database, Store.write]
  split
  · rename_i tables hinsert
    rw [dif_pos huser]
    exact hinsert
  · rename_i hnone
    exact absurd (insertSession_isSome.mpr hfresh) (by rw [hnone]; exact Bool.false_ne_true)

/-- A session goes in, or nothing happens. -/
theorem write_insertSession_cases (session : Session) :
    (database lower).write (.insertSession session) s = s ∨
      (¬ s.tables.sessions.Conflicts session ∧
        ((database lower).write (.insertSession session) s).tables.sessions.rows =
          session :: s.tables.sessions.rows ∧
        ((database lower).write (.insertSession session) s).tables.refreshTokens =
          s.tables.refreshTokens) := by
  by_cases h : (database lower).found (.insertSession session) s = true
  · exact Or.inr (insertSession_spec (write_insertSession h))
  · refine Or.inl ?_
    rw [found_insertSession, ← insertSession_isSome] at h
    simp only [database, Store.write]
    split
    · rename_i tables hinsert
      rw [dif_neg]
      intro huser
      exact h ⟨by rw [hinsert]; rfl, huser⟩
    · rfl

/-- An account goes in, or nothing happens. -/
theorem write_insertUser_cases (user : User) :
    ((database lower).write (.insertUser user) s).accounts = s.accounts ∨
      (((database lower).write (.insertUser user) s).accounts.users.rows =
          DrizzleUserRepository.userRow user :: s.accounts.users.rows ∧
        ((database lower).write (.insertUser user) s).accounts.credentials =
          s.accounts.credentials) := by
  rw [write_insertUser_accounts]
  cases h : s.accounts.insertUser user with
  | none => exact Or.inl rfl
  | some accounts => exact Or.inr (UserTables.insertUser_spec h).2

theorem write_insertCredentials_cases (user : User) (passwordHash : JsString) :
    ((database lower).write (.insertCredentials user passwordHash) s).accounts = s.accounts ∨
      (((database lower).write (.insertCredentials user passwordHash) s).accounts.users =
          s.accounts.users ∧
        ((database lower).write (.insertCredentials user passwordHash) s).accounts.credentials.rows =
          ⟨user.id, passwordHash⟩ :: s.accounts.credentials.rows) := by
  rw [write_insertCredentials_accounts]
  cases h : s.accounts.insertCredentials ⟨user.id, passwordHash⟩ with
  | none => exact Or.inl rfl
  | some accounts => exact Or.inr (UserTables.insertCredentials_spec h).2

end Statements

/-! ### The locks protect what was found -/

section Framed

variable {s : Store lower} {d : StoreStatement}

/-- No statement takes an account or a session away. -/
theorem user_write {userId : JsString} (h : ∃ user ∈ s.accounts.users.rows, user.id = userId) :
    ∃ user ∈ ((database lower).write d s).accounts.users.rows, user.id = userId := by
  rcases h with ⟨row, hrow, hid⟩
  refine ⟨row, ?_, hid⟩
  cases d with
  | session | insertFirstToken => exact hrow
  | insertSession session => rwa [write_insertSession_accounts]
  | insertUser user =>
    rcases write_insertUser_cases (s := s) user with hsame | ⟨hrows, -⟩
    · rwa [hsame]
    · rw [hrows]
      exact List.mem_cons_of_mem _ hrow
  | insertCredentials user passwordHash =>
    rcases write_insertCredentials_cases (s := s) user passwordHash with hsame | ⟨hsame, -⟩
    · rwa [hsame]
    · rwa [hsame]

/-- The ids of the sessions, under a statement of `rotate` or `revoke`. -/
theorem sessionIds_write (t : SessionTables) (statement : Statement) :
    (postgres.write statement t).sessions.rows.map Session.id = t.sessions.rows.map Session.id := by
  cases statement with
  | selectLiveForShare | updateSpent => rfl
  | insertRefreshToken next =>
    rcases insertToken_getD t next with hsame | ⟨hsessions, -⟩
    · simp only [postgres, hsame]
    · simp only [postgres, hsessions]
  | updateRevoked sessionId revokedAt =>
    exact Table.map_updateWhere (revokedAt_keeps revokedAt) (List.mem_singleton_self _)

theorem session_write {sessionId : JsString}
    (h : ∃ row ∈ s.tables.sessions.rows, row.id = sessionId) :
    ∃ row ∈ ((database lower).write d s).tables.sessions.rows, row.id = sessionId := by
  have of_ids {t : SessionTables} {statement : Statement}
      (ht : ∃ row ∈ t.sessions.rows, row.id = sessionId) :
      ∃ row ∈ (postgres.write statement t).sessions.rows, row.id = sessionId := by
    rw [← List.mem_map] at ht ⊢
    rwa [sessionIds_write]
  cases d with
  | session statement => exact of_ids h
  | insertFirstToken session firstToken =>
    rw [write_firstToken_tables]
    exact of_ids h
  | insertUser user => rwa [write_insertUser_tables]
  | insertCredentials user passwordHash => rwa [write_insertCredentials_tables]
  | insertSession session =>
    rcases write_insertSession_cases (s := s) session with hsame | ⟨-, hrows, -⟩
    · rwa [hsame]
    · rcases h with ⟨row, hrow, hid⟩
      refine ⟨row, ?_, hid⟩
      rw [hrows]
      exact List.mem_cons_of_mem _ hrow

/-- The entries of a refresh token stay free until a token with one of them is inserted. -/
theorem tokenFree_write {t : SessionTables} {token : StoredRefreshToken} {statement : Statement}
    (hother : ∀ next, statement = .insertRefreshToken next →
      token.id ≠ next.id ∧ token.tokenHash ≠ next.tokenHash)
    (h : ¬ t.refreshTokens.Conflicts token) :
    ¬ (postgres.write statement t).refreshTokens.Conflicts token := by
  cases statement with
  | selectLiveForShare | updateRevoked => exact h
  | updateSpent spentTokenId sessionId spentAt =>
    exact fun hno => h (conflicts_spend.mp hno)
  | insertRefreshToken next =>
    rcases insertToken_getD t next with hsame | ⟨-, hrows⟩
    · simpa only [postgres, hsame] using h
    · apply Table.not_conflicts_cons hrows h
      intro column hcolumn
      rcases hother next rfl with ⟨hid, hhash⟩
      simp only [List.mem_cons, List.not_mem_nil, or_false] at hcolumn
      rcases hcolumn with rfl | rfl
      · exact hid
      · exact hhash

/-- Two statements that take an entry each of one index conflict. -/
theorem conflicts_of_entry {c : StoreStatement} {k : StoreResource}
    (hc : k ∈ (database lower).locks c) (hd : k ∈ (database lower).locks d)
    (hmode : (database lower).mode c = .update) : (database lower).Conflicts c d := by
  refine ⟨⟨k, hc, hd⟩, ?_⟩
  rw [hmode]
  cases (database lower).mode d <;> rfl

theorem conflicts_session {a b : Statement} (h : postgres.Conflicts a b) :
    (database lower).Conflicts (.session a) (.session b) := by
  rcases h with ⟨⟨k, ha, hb⟩, hmode⟩
  exact ⟨⟨.session k, List.mem_map_of_mem ha, List.mem_map_of_mem hb⟩, hmode⟩

/-- The first token of a session takes the entries of any token. -/
theorem conflicts_firstToken {a : Statement} {session : Session} {firstToken : StoredRefreshToken}
    (h : postgres.Conflicts a (.insertRefreshToken firstToken)) :
    (database lower).Conflicts (.session a) (.insertFirstToken session firstToken) := by
  rcases h with ⟨⟨k, ha, hb⟩, hmode⟩
  exact ⟨⟨.session k, List.mem_map_of_mem ha, List.mem_map_of_mem hb⟩, hmode⟩

/-- What a statement of `rotate` or `revoke` found survives a new session. -/
theorem found_insertedSession {statement : Statement} {session : Session}
    (h : postgres.found statement s.tables = true) :
    postgres.found statement ((database lower).write (.insertSession session) s).tables = true := by
  rcases write_insertSession_cases (s := s) session with hsame | ⟨-, hrows, htokens⟩
  · rwa [hsame]
  cases statement with
  | selectLiveForShare sessionId | updateRevoked sessionId =>
    rcases notEmpty_filter.mp h with ⟨row, hrow, hlive⟩
    refine notEmpty_filter.mpr ⟨row, ?_, hlive⟩
    rw [hrows]
    exact List.mem_cons_of_mem _ hrow
  | updateSpent tokenId sessionId =>
    simp only [postgres, htokens]
    exact h
  | insertRefreshToken next =>
    rcases insertToken_isSome.mp h with ⟨hfree, row, hrow, hid⟩
    refine insertToken_isSome.mpr ⟨htokens ▸ hfree, row, ?_, hid⟩
    rw [hrows]
    exact List.mem_cons_of_mem _ hrow

/-! What each statement found stays there while statements with other locks write. -/

theorem session_framed {statement : Statement}
    (hfree : ¬ (database lower).Conflicts (.session statement) d)
    (h : postgres.found statement s.tables = true) :
    postgres.found statement ((database lower).write d s).tables = true := by
  cases d with
  | session other => exact postgres_framed statement other s.tables (mt conflicts_session hfree) h
  | insertFirstToken session firstToken =>
    exact postgres_framed statement (.insertRefreshToken firstToken) s.tables
      (mt conflicts_firstToken hfree) h
  | insertSession session => exact found_insertedSession h
  | insertUser user => rwa [write_insertUser_tables]
  | insertCredentials user passwordHash => rwa [write_insertCredentials_tables]

theorem insertUser_framed {user : User} (hfree : ¬ (database lower).Conflicts (.insertUser user) d)
    (h : ¬ s.accounts.users.Conflicts (DrizzleUserRepository.userRow user)) :
    ¬ ((database lower).write d s).accounts.users.Conflicts
      (DrizzleUserRepository.userRow user) := by
  cases d with
  | session | insertFirstToken => exact h
  | insertSession session => rwa [write_insertSession_accounts]
  | insertCredentials other passwordHash =>
    rcases write_insertCredentials_cases (s := s) other passwordHash with hsame | ⟨hsame, -⟩
    · rwa [hsame]
    · rwa [hsame]
  | insertUser other =>
    rcases write_insertUser_cases (s := s) other with hsame | ⟨hrows, -⟩
    · rwa [hsame]
    · -- the new row has neither entry
      apply Table.not_conflicts_cons hrows h
      intro column hcolumn heq
      apply hfree
      simp only [List.mem_cons, List.not_mem_nil, or_false] at hcolumn
      rcases hcolumn with rfl | rfl
      · exact conflicts_of_entry (k := .userId user.id) (by simp [database])
          (by rw [show user.id = other.id from heq]; simp [database]) rfl
      · exact conflicts_of_entry (k := .handle (lower user.handle)) (by simp [database])
          (by rw [show lower user.handle = lower other.handle from heq]; simp [database]) rfl

theorem insertCredentials_framed {user : User} {passwordHash : JsString}
    (hfree : ¬ (database lower).Conflicts (.insertCredentials user passwordHash) d)
    (h : ¬ s.accounts.credentials.Conflicts ⟨user.id, passwordHash⟩) :
    ¬ ((database lower).write d s).accounts.credentials.Conflicts ⟨user.id, passwordHash⟩ := by
  cases d with
  | session | insertFirstToken => exact h
  | insertSession session => rwa [write_insertSession_accounts]
  | insertUser other =>
    rcases write_insertUser_cases (s := s) other with hsame | ⟨-, hsame⟩
    · rwa [hsame]
    · rwa [hsame]
  | insertCredentials other passwordHash' =>
    rcases write_insertCredentials_cases (s := s) other passwordHash' with hsame | ⟨-, hrows⟩
    · rwa [hsame]
    · apply Table.not_conflicts_cons hrows h
      intro column hcolumn heq
      rw [List.mem_singleton.mp hcolumn] at heq
      apply hfree
      exact conflicts_of_entry (k := .credentialsUserId user.id) (by simp [database])
        (by rw [show user.id = other.id from heq]; simp [database]) rfl

theorem insertSession_framed {session : Session}
    (hfree : ¬ (database lower).Conflicts (.insertSession session) d)
    (h : ¬ s.tables.sessions.Conflicts session) :
    ¬ ((database lower).write d s).tables.sessions.Conflicts session := by
  have of_ids (statement : Statement) :
      ¬ (postgres.write statement s.tables).sessions.Conflicts session := by
    rw [Table.conflicts_congr]
    · exact h
    · intro column hcolumn
      rw [List.mem_singleton.mp hcolumn]
      exact sessionIds_write s.tables statement
  cases d with
  | session statement => exact of_ids statement
  | insertFirstToken other firstToken => exact of_ids (.insertRefreshToken firstToken)
  | insertUser user => rwa [write_insertUser_tables]
  | insertCredentials user passwordHash => rwa [write_insertCredentials_tables]
  | insertSession other =>
    rcases write_insertSession_cases (s := s) other with hsame | ⟨-, hrows, -⟩
    · rwa [hsame]
    · apply Table.not_conflicts_cons hrows h
      intro column hcolumn heq
      rw [List.mem_singleton.mp hcolumn] at heq
      apply hfree
      exact conflicts_of_entry (k := .sessionId session.id) (by simp [database])
        (by rw [show session.id = other.id from heq]; simp [database]) rfl

/-- Whoever takes an entry of the token takes its lock. -/
theorem firstToken_apart {session : Session} {firstToken next : StoredRefreshToken}
    (hfree : ¬ (database lower).Conflicts (.insertFirstToken session firstToken) d)
    (hnext : ∀ k ∈ postgres.locks (.insertRefreshToken next),
      StoreResource.session k ∈ (database lower).locks d) :
    firstToken.id ≠ next.id ∧ firstToken.tokenHash ≠ next.tokenHash := by
  constructor
  · intro heq
    apply hfree
    refine conflicts_of_entry (k := .session (.refreshTokenId firstToken.id))
      (List.mem_map_of_mem List.mem_cons_self) (hnext _ ?_) rfl
    rw [heq]
    exact List.mem_cons_self
  · intro heq
    apply hfree
    refine conflicts_of_entry (k := .session (.refreshTokenHash firstToken.tokenHash))
      (List.mem_map_of_mem (List.mem_cons_of_mem _ List.mem_cons_self)) (hnext _ ?_) rfl
    rw [heq]
    exact List.mem_cons_of_mem _ List.mem_cons_self

theorem insertFirstToken_framed {session : Session} {firstToken : StoredRefreshToken}
    (hfree : ¬ (database lower).Conflicts (.insertFirstToken session firstToken) d)
    (h : ¬ s.tables.refreshTokens.Conflicts firstToken) :
    ¬ ((database lower).write d s).tables.refreshTokens.Conflicts firstToken := by
  cases d with
  | session statement =>
    refine tokenFree_write ?_ h
    rintro next rfl
    exact firstToken_apart hfree fun k hk => List.mem_map_of_mem hk
  | insertFirstToken other next =>
    rw [write_firstToken_tables]
    refine tokenFree_write ?_ h
    rintro next' heq
    cases heq
    exact firstToken_apart hfree fun k hk => List.mem_map_of_mem hk
  | insertUser user => rwa [write_insertUser_tables]
  | insertCredentials user passwordHash => rwa [write_insertCredentials_tables]
  | insertSession other =>
    rcases write_insertSession_cases (s := s) other with hsame | ⟨-, -, htokens⟩
    · rwa [hsame]
    · rwa [htokens]

theorem database_framed : (database lower).Framed := by
  intro c d s hfree hfound
  cases c with
  | session statement => exact session_framed hfree hfound
  | insertUser user =>
    rw [found_insertUser] at hfound ⊢
    exact insertUser_framed hfree hfound
  | insertCredentials user passwordHash =>
    rw [found_insertCredentials] at hfound ⊢
    exact insertCredentials_framed hfree hfound
  | insertSession session =>
    rw [found_insertSession] at hfound ⊢
    exact ⟨insertSession_framed hfree hfound.1, user_write hfound.2⟩
  | insertFirstToken session firstToken =>
    rw [found_insertFirstToken] at hfound ⊢
    exact ⟨insertFirstToken_framed hfree hfound.1, hfound.2.imp_right session_write⟩

end Framed

/-! ## Transactions -/

open Program

/-- The transaction of a call, or `none` for a call of one step. -/
def transactionOf : (call : PortCall) → Option (Transaction StoreStatement Failure (Answer call))
  | .createUser user passwordHash => some do
    let _ ← perform (StoreStatement.insertUser user)
    let _ ← perform (StoreStatement.insertCredentials user passwordHash)
    return ()
  | .createSession session firstToken => some do
    let _ ← perform (StoreStatement.insertSession session)
    let _ ← perform (StoreStatement.insertFirstToken session firstToken)
    return ()
  | .rotate spentTokenId next spentAt =>
    some (relabel .session (DrizzleSessionRepository.rotateStatements spentTokenId next spentAt))
  | .revoke sessionId revokedAt =>
    some (relabel .session (DrizzleSessionRepository.revokeStatements sessionId revokedAt))
  | _ => none

/-- What a violated constraint is reported as: `create` of the users turns the one it can
meet into a taken handle. -/
def violation : PortCall → Failure
  | .createUser user _ => .handleTaken user.handle
  | _ => .constraintViolation

/-! ### Alone they are the operations -/

section Alone

variable {s s' : Store lower}

theorem alone_createUser {user : User} {passwordHash : JsString}
    {code : Transaction StoreStatement Failure Unit}
    (hcode : transactionOf (.createUser user passwordHash) = some code) :
    (database lower).alone code s = some ((), s') ↔ s'.tables = s.tables ∧
      DrizzleUserRepository.create s.accounts user passwordHash = .ok s'.accounts := by
  cases hcode
  have hunfold : (database lower).alone (do
        let _ ← perform (StoreStatement.insertUser user)
        let _ ← perform (StoreStatement.insertCredentials user passwordHash)
        return () : Transaction StoreStatement Failure Unit) s =
      if (database lower).found (.insertUser user) s then
        if (database lower).found (.insertCredentials user passwordHash)
            ((database lower).write (.insertUser user) s) then
          some ((), (database lower).write (.insertCredentials user passwordHash)
            ((database lower).write (.insertUser user) s))
        else none
      else none := rfl
  rw [hunfold, DrizzleUserRepository.create_eq_ok]
  constructor
  · intro h
    split at h
    · rename_i hfree
      split at h
      · rename_i hfree'
        cases h
        rcases Option.isSome_iff_exists.mp hfree with ⟨inserted, hinserted⟩
        have haccounts : ((database lower).write (.insertUser user) s).accounts = inserted := by
          rw [write_insertUser_accounts, hinserted]
          rfl
        have howner : ∃ owner ∈ inserted.users.rows, owner.id = user.id := by
          rw [(UserTables.insertUser_spec hinserted).2.1]
          exact ⟨DrizzleUserRepository.userRow user, List.mem_cons_self, rfl⟩
        rw [found_insertCredentials, haccounts] at hfree'
        rcases Option.isSome_iff_exists.mp (UserTables.insertCredentials_isSome.mpr
          ⟨hfree', howner⟩) with ⟨accounts, hinsert⟩
        refine ⟨?_, inserted, hinserted, ?_⟩
        · rw [write_insertCredentials_tables, write_insertUser_tables]
        · rw [write_insertCredentials_accounts, haccounts, hinsert]
          rfl
      · cases h
    · cases h
  · rintro ⟨htables, inserted, hinserted, hinsert⟩
    have haccounts : ((database lower).write (.insertUser user) s).accounts = inserted := by
      rw [write_insertUser_accounts, hinserted]
      rfl
    have hfree : (database lower).found (.insertUser user) s = true :=
      Option.isSome_iff_exists.mpr ⟨inserted, hinserted⟩
    have hfree' : (database lower).found (.insertCredentials user passwordHash)
        ((database lower).write (.insertUser user) s) = true := by
      rw [found_insertCredentials, haccounts]
      exact (UserTables.insertCredentials_spec hinsert).1
    rw [if_pos hfree, if_pos hfree']
    refine congrArg (fun s => some ((), s)) (Store.ext ?_ ?_)
    · rw [write_insertCredentials_accounts, haccounts, hinsert]
      rfl
    · rw [write_insertCredentials_tables, write_insertUser_tables, htables]

theorem alone_createSession {session : Session} {firstToken : StoredRefreshToken}
    {code : Transaction StoreStatement Failure Unit}
    (hcode : transactionOf (.createSession session firstToken) = some code) :
    (database lower).alone code s = some ((), s') ↔ s'.accounts = s.accounts ∧
      DrizzleSessionRepository.create s.tables session firstToken = some s'.tables := by
  cases hcode
  have hunfold : (database lower).alone (do
        let _ ← perform (StoreStatement.insertSession session)
        let _ ← perform (StoreStatement.insertFirstToken session firstToken)
        return () : Transaction StoreStatement Failure Unit) s =
      if (database lower).found (.insertSession session) s then
        if (database lower).found (.insertFirstToken session firstToken)
            ((database lower).write (.insertSession session) s) then
          some ((), (database lower).write (.insertFirstToken session firstToken)
            ((database lower).write (.insertSession session) s))
        else none
      else none := rfl
  rw [hunfold]
  constructor
  · intro h
    split at h
    · rename_i hfree
      split at h
      · rename_i hfree'
        cases h
        have hinserted := write_insertSession hfree
        rw [found_insertFirstToken] at hfree'
        have howner : ∃ row ∈
            ((database lower).write (.insertSession session) s).tables.sessions.rows,
            row.id = firstToken.sessionId := by
          rcases hfree'.2 with hown | hother
          · refine ⟨session, ?_, hown.symm⟩
            rw [(insertSession_spec hinserted).2.1]
            exact List.mem_cons_self
          · exact hother
        refine ⟨?_, Option.bind_eq_some_iff.mpr ⟨_, hinserted, ?_⟩⟩
        · rw [write_firstToken_accounts, write_insertSession_accounts]
        · rcases Option.isSome_iff_exists.mp (insertToken_isSome.mpr ⟨hfree'.1, howner⟩) with
            ⟨tables, htables⟩
          rw [write_firstToken_tables]
          simp only [postgres, htables]
          rfl
      · cases h
    · cases h
  · rintro ⟨haccounts, hcreate⟩
    rcases Option.bind_eq_some_iff.mp hcreate with ⟨inserted, hinserted, htoken⟩
    rcases insertSession_spec hinserted with ⟨hfresh, hrows, htokens⟩
    rcases insertToken_isSome.mp (Option.isSome_iff_exists.mpr ⟨_, htoken⟩) with
      ⟨hfresh', row, hrow, hid⟩
    -- the new session is in the store, so its user is
    have huser : ∃ user ∈ s.accounts.users.rows, user.id = session.userId := by
      rw [← haccounts]
      apply s'.sessionUser session
      rw [(insertToken_spec htoken).2.1, hrows]
      exact List.mem_cons_self
    have hfree := found_insertSession.mpr ⟨hfresh, huser⟩
    have hwritten : inserted = ((database lower).write (.insertSession session) s).tables :=
      Option.some.inj (hinserted.symm.trans (write_insertSession hfree))
    have hfree' : (database lower).found (.insertFirstToken session firstToken)
        ((database lower).write (.insertSession session) s) = true := by
      rw [found_insertFirstToken, ← hwritten]
      exact ⟨hfresh', Or.inr ⟨row, hrow, hid⟩⟩
    rw [if_pos hfree, if_pos hfree']
    refine congrArg (fun s => some ((), s)) (Store.ext ?_ ?_)
    · rw [write_firstToken_accounts, write_insertSession_accounts, haccounts]
    · rw [write_firstToken_tables, ← hwritten]
      simp only [postgres, htoken]
      rfl

variable (lower) in
/-- The statements of `rotate` and `revoke` work on the session tables. -/
theorem session_embeds :
    Embeds postgres (database lower) StoreStatement.session (fun s : Store lower => s.tables) where
  reports _ := rfl
  found _ _ := rfl
  write _ _ := rfl
  still _ ha s := Store.ext rfl (ha s.tables)

theorem alone_rotateStatements (t : SessionTables) (spentTokenId : JsString)
    (next : StoredRefreshToken) (spentAt : Date) :
    postgres.alone (DrizzleSessionRepository.rotateStatements spentTokenId next spentAt) t =
      DrizzleSessionRepository.rotate t spentTokenId next spentAt := by
  have hunfold : postgres.alone
      (DrizzleSessionRepository.rotateStatements spentTokenId next spentAt) t =
      if !(t.sessions.rows.filter (isLive next.sessionId)).isEmpty then
        if !(t.refreshTokens.rows.filter (spends spentTokenId next.sessionId)).isEmpty then
          if ((t.spend spentTokenId next.sessionId spentAt).insertToken next).isSome then
            some (true, ((t.spend spentTokenId next.sessionId spentAt).insertToken next).getD
              (t.spend spentTokenId next.sessionId spentAt))
          else none
        else some (false, t)
      else some (false, t) := rfl
  rw [hunfold]
  simp only [DrizzleSessionRepository.rotate]
  cases (t.sessions.rows.filter (isLive next.sessionId)).isEmpty with
  | true => rfl
  | false =>
    cases (t.refreshTokens.rows.filter (spends spentTokenId next.sessionId)).isEmpty with
    | true => simp
    | false =>
      cases (t.spend spentTokenId next.sessionId spentAt).insertToken next <;> simp

theorem alone_revokeStatements (t : SessionTables) (sessionId : JsString) (revokedAt : Date) :
    postgres.alone (DrizzleSessionRepository.revokeStatements sessionId revokedAt) t =
      some ((), DrizzleSessionRepository.revoke t sessionId revokedAt) := by
  have hmap : postgres.alone (DrizzleSessionRepository.statements (.revoke sessionId revokedAt)) t =
      _ := Engine.alone_map _ _ t
  cases halone : postgres.alone (DrizzleSessionRepository.revokeStatements sessionId revokedAt) t with
  | none =>
    have hunfold : postgres.alone
        (DrizzleSessionRepository.revokeStatements sessionId revokedAt) t =
        if !(t.sessions.rows.filter (isLive sessionId)).isEmpty then
          some ((), DrizzleSessionRepository.revoke t sessionId revokedAt)
        else some ((), t) := rfl
    rw [hunfold] at halone
    split at halone <;> cases halone
  | some done =>
    rcases done with ⟨⟨⟩, t'⟩
    rw [halone] at hmap
    have hatomic : t' = DrizzleSessionRepository.revoke t sessionId revokedAt := alone_atomic hmap
    rw [hatomic]

/-- A transaction of the session tables does alone what its statements do. -/
theorem alone_session {β : Type} {p : Transaction Statement Failure β} {value : β} :
    (database lower).alone (relabel .session p) s = some (value, s') ↔ s'.accounts = s.accounts ∧
      postgres.alone p s.tables = some (value, s'.tables) := by
  have hpart := (session_embeds lower).alone p s
  constructor
  · intro h
    rw [h] at hpart
    exact ⟨alone_relabel_keeps Store.accounts (fun _ _ => rfl) h, hpart.symm⟩
  · rintro ⟨haccounts, h⟩
    rw [h] at hpart
    rcases Option.map_eq_some_iff.mp hpart with ⟨⟨value', s''⟩, halone, heq⟩
    rcases Prod.mk.inj heq with ⟨rfl, htables⟩
    have hsame : s'' = s' := by
      apply Store.ext _ htables
      exact (alone_relabel_keeps Store.accounts (fun _ _ => rfl) halone).trans haccounts.symm
    rw [halone, hsame]

theorem alone_session_none {β : Type} {p : Transaction Statement Failure β} :
    (database lower).alone (relabel .session p) s = none ↔ postgres.alone p s.tables = none := by
  rw [← (session_embeds lower).alone p s, Option.map_eq_none_iff]

end Alone

variable (services : Services)

/-- How Identity's calls reach Postgres. -/
def driver : ReadCommitted.Driver (machine services) StoreResource StoreStatement where
  engine := database services.lower
  code := transactionOf
  violation := violation
  lost := .unavailable

variable {services : Services}

/-- What a statement found stays there while a profile changes. -/
theorem found_updated {s s' : Store services.lower} (htables : s'.tables = s.tables)
    {userId : JsString} {changes : ProfileChanges} {answer : Option Profile}
    (hupdate : DrizzleProfileRepository.update s.accounts userId changes =
      some (answer, s'.accounts)) (statement : StoreStatement)
    (h : (database services.lower).found statement s = true) :
    (database services.lower).found statement s' = true := by
  rcases DrizzleProfileRepository.update_spec hupdate with ⟨hcredentials, hrows⟩
  cases statement with
  | session statement =>
    simp only [database, htables]
    exact h
  | insertFirstToken session firstToken =>
    simp only [database, htables]
    exact h
  | insertCredentials user passwordHash =>
    simp only [database, hcredentials]
    exact h
  | insertUser user =>
    rw [found_insertUser] at h ⊢
    unfold DrizzleProfileRepository.update at hupdate
    split at hupdate
    · cases hupdate
    · rw [← (Prod.mk.inj (Option.some.inj hupdate)).2, Table.conflicts_congr]
      · exact h
      · intro column hcolumn
        exact Table.map_updateWhere (DrizzleProfileRepository.patched_keeps changes) hcolumn
  | insertSession session =>
    rw [found_insertSession] at h ⊢
    rcases h with ⟨hfree, user, huser, hid⟩
    refine ⟨htables ▸ hfree, _, (hrows _).mpr ⟨user, huser, rfl⟩, ?_⟩
    rw [← hid]
    split <;> rfl

/-- A call of one step leaves what the statements found where it is. -/
theorem keeps_found {call : PortCall} {s s' : Store services.lower} {answer : Answer call}
    (hcode : transactionOf call = none) (hreturns : returns services call s answer s')
    (statement : StoreStatement) (h : (database services.lower).found statement s = true) :
    (database services.lower).found statement s' = true := by
  cases call with
  | createUser | createSession | rotate | revoke => cases hcode
  | updateProfile userId changes => exact found_updated hreturns.1 hreturns.2 statement h
  | hashPassword password =>
    obtain rfl : s' = s := hreturns
    exact h
  | now =>
    obtain rfl : s' = s := hreturns
    exact h
  | _ =>
    obtain rfl := hreturns.1
    exact h

theorem transactions_guarded {call : PortCall}
    {code : Transaction StoreStatement Failure (Answer call)} (hcode : transactionOf call = some code) :
    (database services.lower).Guarded [] code := by
  cases call with
  | createUser user passwordHash =>
    cases hcode
    refine ⟨fun _ h => (nomatch h), fun hno => (nomatch hno), ?_, fun hno => (nomatch hno), trivial⟩
    -- the credentials do not look at the accounts
    intro d hd s
    rw [List.mem_singleton.mp hd, Bool.eq_iff_iff, found_insertCredentials, found_insertCredentials]
    rcases write_insertUser_cases (s := s) user with hsame | ⟨-, hsame⟩
    · rw [hsame]
    · rw [hsame]
  | createSession session firstToken =>
    cases hcode
    refine ⟨fun _ h => (nomatch h), fun hno => (nomatch hno), ?_, fun hno => (nomatch hno), trivial⟩
    -- the first token may name the session just inserted
    intro d hd s
    rw [List.mem_singleton.mp hd, Bool.eq_iff_iff, found_insertFirstToken, found_insertFirstToken]
    rcases write_insertSession_cases (s := s) session with hsame | ⟨-, hrows, htokens⟩
    · rw [hsame]
    · rw [htokens, hrows]
      simp only [List.mem_cons, exists_eq_or_imp]
      rw [← or_assoc, or_iff_left_of_imp (a := firstToken.sessionId = session.id)]
      intro hown
      exact hown.symm
  | rotate spentTokenId next spentAt =>
    cases hcode
    rcases statements_guarded (.rotate spentTokenId next spentAt) with
      ⟨hsame, hmiss, hsame', hmiss', hsame'', -, -⟩
    have hguarded : postgres.Guarded []
        (DrizzleSessionRepository.rotateStatements spentTokenId next spentAt) :=
      ⟨hsame, fun hreports => ⟨(hmiss hreports).1, _, rfl⟩, hsame',
        fun hreports => ⟨(hmiss' hreports).1, _, rfl⟩, hsame'', fun hno => (nomatch hno), trivial⟩
    exact (session_embeds services.lower).guarded hguarded
  | revoke sessionId revokedAt =>
    cases hcode
    have hguarded : postgres.Guarded []
        (DrizzleSessionRepository.revokeStatements sessionId revokedAt) :=
      ⟨fun _ h => (nomatch h), fun _ => ⟨fun _ h => (nomatch h), _, rfl⟩, trivial⟩
    exact (session_embeds services.lower).guarded hguarded
  | _ => cases hcode

theorem transactions_unfailing {call : PortCall}
    {code : Transaction StoreStatement Failure (Answer call)}
    (hcode : transactionOf call = some code) : Unfailing code := by
  cases call with
  | createUser user passwordHash =>
    cases hcode
    exact fun _ _ => trivial
  | createSession session firstToken =>
    cases hcode
    exact fun _ _ => trivial
  | rotate spentTokenId next spentAt =>
    cases hcode
    apply Unfailing.relabel
    intro live
    cases live with
    | false => trivial
    | true =>
      intro spent
      cases spent with
      | false => trivial
      | true => exact fun _ => trivial
  | revoke sessionId revokedAt =>
    cases hcode
    exact Unfailing.relabel _ fun _ => trivial
  | _ => cases hcode

/-- Alone, the transaction of a call does what the call does. -/
theorem returns_iff_alone {call : PortCall}
    {code : Transaction StoreStatement Failure (Answer call)}
    (hcode : transactionOf call = some code) (s : Store services.lower) (answer : Answer call)
    (s' : Store services.lower) : returns services call s answer s' ↔
      (database services.lower).alone code s = some (answer, s') := by
  cases call with
  | createUser user passwordHash => exact (alone_createUser hcode).symm
  | createSession session firstToken => exact (alone_createSession hcode).symm
  | rotate spentTokenId next spentAt =>
    cases hcode
    rw [alone_session, alone_rotateStatements]
    rfl
  | revoke sessionId revokedAt =>
    cases hcode
    rw [alone_session, alone_revokeStatements]
    refine and_congr_right fun _ => ⟨?_, ?_⟩
    · intro htables
      rw [htables]
    · intro hdone
      exact (Prod.mk.inj (Option.some.inj hdone)).2.symm
  | _ => cases hcode

/-- It fails alone where the call meets a violated constraint. -/
theorem throws_iff_alone {call : PortCall}
    {code : Transaction StoreStatement Failure (Answer call)}
    (hcode : transactionOf call = some code) (s : Store services.lower) (e : Failure) :
    throws services call s e ↔ e = .unavailable ∨
      (e = violation call ∧ (database services.lower).alone code s = none) := by
  cases call with
  | createUser user passwordHash =>
    refine or_congr_right ⟨?_, ?_⟩
    · intro herror
      refine ⟨DrizzleUserRepository.create_error herror, Option.eq_none_iff_forall_ne_some.mpr ?_⟩
      rintro ⟨⟨⟩, s'⟩ hdone
      rw [((alone_createUser hcode).mp hdone).2] at herror
      cases herror
    · rintro ⟨rfl, hnone⟩
      cases hcreate : DrizzleUserRepository.create s.accounts user passwordHash with
      | error e => rw [DrizzleUserRepository.create_error hcreate, violation]
      | ok accounts =>
        have hdone : (database services.lower).alone code s =
            some ((), s.withAccounts accounts (UserTables.create_later hcreate)) :=
          (alone_createUser hcode).mpr ⟨rfl, hcreate⟩
        rw [hnone] at hdone
        cases hdone
  | createSession session firstToken =>
    refine or_congr_right (and_congr_right fun _ => ⟨?_, ?_⟩)
    · intro hviolated
      refine Option.eq_none_iff_forall_ne_some.mpr ?_
      rintro ⟨⟨⟩, s'⟩ hdone
      rcases (alone_createSession hcode).mp hdone with ⟨haccounts, hcreate⟩
      rcases hviolated with hnone | hnobody
      · rw [hcreate] at hnone
        cases hnone
      · -- the new session has a user, as every session has
        rcases s'.sessionUser session (by
          rw [(DrizzleSessionRepository.create_spec hcreate).2.2.1]
          exact List.mem_cons_self) with ⟨user, huser, hid⟩
        rw [haccounts] at huser
        exact hnobody user huser hid
    · intro hnone
      cases hcreate : DrizzleSessionRepository.create s.tables session firstToken with
      | none => exact Or.inl rfl
      | some tables =>
        refine Or.inr fun user huser hid => ?_
        have husers : ∀ row ∈ tables.sessions.rows,
            ∃ user ∈ s.accounts.users.rows, user.id = row.userId := by
          rw [(DrizzleSessionRepository.create_spec hcreate).2.2.1]
          intro row hrow
          rcases List.mem_cons.mp hrow with rfl | hrow
          · exact ⟨user, huser, hid⟩
          · exact s.sessionUser row hrow
        have hdone : (database services.lower).alone code s =
            some ((), s.withTables tables husers) :=
          (alone_createSession hcode).mpr ⟨rfl, hcreate⟩
        rw [hnone] at hdone
        cases hdone
  | rotate spentTokenId next spentAt =>
    cases hcode
    rw [alone_session_none, alone_rotateStatements]
    rfl
  | revoke sessionId revokedAt =>
    cases hcode
    rw [alone_session_none, alone_revokeStatements]
    exact ⟨Or.inl, fun h => h.resolve_right fun hno => (nomatch hno.2)⟩
  | _ => cases hcode

/-- Identity's statements are faithful to its ports. -/
theorem driver_faithful (services : Services) : (driver services).Faithful where
  framed := database_framed
  guarded := transactions_guarded
  unfailing := transactions_unfailing
  keeps hcode hreturns := keeps_found hcode hreturns
  returns hcode := returns_iff_alone hcode
  throws hcode := throws_iff_alone hcode

/-! ## Refinement -/

/-- A configuration of the service at the level of statements. -/
abbrev StatementServer (services : Services) :=
  ReadCommitted.Server (Store services.lower) Request Response Failure PortCall Answer StoreStatement

/-- Whatever statements of whatever requests interleave, what is committed and where every
request is (those inside a transaction before their call) is a configuration of `machine`;
and every configuration of `machine` is reached by statements. -/
theorem statement_level_refines (services : Services) (store : Store services.lower) :
    (∀ k : StatementServer services, ReadCommitted.Server.Reaches (driver services) store k →
      ∃ τ, Run (machine services) (.initial store) τ k.observed) ∧
    (∀ τ c, Run (machine services) (.initial store) τ c →
      ReadCommitted.Server.Reaches (driver services) store (.between c)) := by
  have hfaithful := driver_faithful services
  constructor
  · intro k hreaches
    exact hreaches.observed hfaithful
  · intro τ c hrun
    exact ReadCommitted.Server.reaches_of_run hfaithful hrun

/-! ## Two refreshes of one token -/

/-- Nobody has sent a request yet. -/
def sampleCrew : ReadCommitted.Server.Crew 3 (Store sampleServices.lower) Request Response Failure
    PortCall Answer StoreStatement where
  toServer := .between (.initial (.noSessions sampleAccounts))
  idle _ _ := rfl

/-- Worker 0 logs in; workers 1 and 2 refresh the token it got. Both find it unspent, and
both hold the share lock of the session when 1 gets the lock of the token. -/
def sampleRace : List (ReadCommitted.Server.Move Request Draw) :=
  [.start 0 (.login ⟨js "SAM", js "correct horse 1", none⟩), .answer 0 .none, .answer 0 .none,
    .answer 0 (.at 1767225600123), .answer 0 (.id 9), .answer 0 (.text (js "opaque-1")),
    .answer 0 (.id 10), .opened 0, .statement 0, .statement 0, .commit 0, .answer 0 .none,
    .start 1 (.refresh sampleRefreshInput), .start 2 (.refresh sampleRefreshInput),
    .answer 1 .none, .answer 2 .none, .answer 1 (.at 1767225600456), .answer 2 (.at 1767225600457),
    .answer 1 (.text (js "opaque-2")), .answer 2 (.text (js "opaque-3")), .answer 1 (.id 11),
    .answer 2 (.id 12), .opened 1, .opened 2, .statement 1, .statement 2, .statement 1,
    .statement 2, .statement 1, .statement 2, .statement 1, .statement 1, .commit 1, .statement 2,
    .commit 2, .opened 2, .answer 1 .none, .statement 2, .statement 2, .commit 2]

theorem sampleRace_runs :
    (sampleCrew.schedule (driver sampleServices) (respond sampleServices) sampleRace).isSome =
      true := by
  decide +kernel

/-- Both refreshes have ended. -/
def sampleRaced : ReadCommitted.Server.Crew 3 (Store sampleServices.lower) Request Response Failure
    PortCall Answer StoreStatement :=
  (sampleCrew.schedule (driver sampleServices) (respond sampleServices) sampleRace).get
    sampleRace_runs

/-- The error execution `i` ended in. -/
def failureOf (c : IdentityConfig services) (i : ℕ) : Option Failure :=
  match c.threads i with
  | some ⟨_, .failed e⟩ => some e
  | _ => none

/-- Worker 1 is answered and worker 2, which had to wait for its lock, is rejected; atomic
calls could have done the same. -/
theorem sample_race_is_atomic :
    (answerOf sampleRaced.toServer.observed 1).isSome = true ∧
    failureOf sampleRaced.toServer.observed 2 = some .invalidRefreshToken ∧
    ∃ τ, Run (machine sampleServices) (.initial (.noSessions sampleAccounts)) τ
      sampleRaced.toServer.observed := by
  have hreaches : ReadCommitted.Server.Reaches (driver sampleServices) (.noSessions sampleAccounts)
      sampleRaced.toServer := by
    show Relation.ReflTransGen (ReadCommitted.Server.Step (driver sampleServices))
      sampleCrew.toServer _
    refine ReadCommitted.Server.Crew.schedule_steps ?_ (Option.some_get sampleRace_runs).symm
    intro c draw s answer s' hanswer
    exact respond_returns hanswer
  refine ⟨?_, ?_, (statement_level_refines sampleServices _).1 _ hreaches⟩
  · decide +kernel
  · decide +kernel

end XClone.Identity
