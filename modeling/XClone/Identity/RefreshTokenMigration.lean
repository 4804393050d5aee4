import XClone.Identity.MigrationSafety
import XClone.Identity.TokenChain

/-!
# XClone.Identity.RefreshTokenMigration — the migration that gave tokens their own table

`0002_sad_pepper_potts.sql`, statement by statement, over `identity.sessions` as `0001`
left it: one hash a session. It carries each hash over as the session's first token, so
what was found by its hash before is found by it afterwards, and every session starts a
chain of one unspent token. It fails where two sessions have one hash; the block is then
rolled back, as `XClone.Identity.MigrationSafety` says of any block.
-/

namespace XClone.Identity.Migrations

open Js Interleaving Relational SessionTables

/-! ## The statements -/

/-- `CREATE TABLE "identity"."refresh_tokens"`. -/
def createRefreshTokensSql : JsString :=
  js "CREATE TABLE \"identity\".\"refresh_tokens\" (\n\t\"id\" bigint PRIMARY KEY NOT NULL,\n" ++
    js "\t\"session_id\" bigint NOT NULL,\n\t\"token_hash\" text NOT NULL,\n" ++
    js "\t\"spent_at\" timestamp with time zone,\n" ++
    js "\t\"created_at\" timestamp with time zone DEFAULT now() NOT NULL,\n" ++
    js "\tCONSTRAINT \"refresh_tokens_token_hash_unique\" UNIQUE(\"token_hash\")\n);"

/-- `ALTER TABLE "identity"."refresh_tokens" ADD CONSTRAINT … FOREIGN KEY`. -/
def addSessionReferenceSql : JsString :=
  js "ALTER TABLE \"identity\".\"refresh_tokens\" ADD CONSTRAINT " ++
    js "\"refresh_tokens_session_id_sessions_id_fk\" FOREIGN KEY (\"session_id\") REFERENCES " ++
    js "\"identity\".\"sessions\"(\"id\") ON DELETE no action ON UPDATE no action;"

/-- `INSERT INTO … SELECT`, with the comment above it. -/
def carryTokensSql : JsString :=
  js "-- Added by hand: carry each existing session's token over before its column goes, " ++
    js "so no one is logged out.\nINSERT INTO \"identity\".\"refresh_tokens\" " ++
    js "(\"id\", \"session_id\", \"token_hash\", \"spent_at\", \"created_at\")\n" ++
    js "SELECT \"id\", \"id\", \"refresh_token_hash\", NULL, \"created_at\" " ++
    js "FROM \"identity\".\"sessions\";"

/-- `ALTER TABLE "identity"."sessions" DROP COLUMN "refresh_token_hash"`. -/
def dropTokenHashSql : JsString :=
  js "ALTER TABLE \"identity\".\"sessions\" DROP COLUMN \"refresh_token_hash\";"

def migration0002 : Migration where
  id := js "0002_sad_pepper_potts.sql"
  sql := createRefreshTokensSql ++ js "\n" ++ statementBreakpoint ++ js "\n" ++
    addSessionReferenceSql ++ statementBreakpoint ++ js "\n" ++ carryTokensSql ++
    statementBreakpoint ++ js "\n" ++ dropTokenHashSql

/-- The migration, as the file has it. -/
theorem splitStatements_migration0002 : splitStatements migration0002.sql =
    [createRefreshTokensSql, addSessionReferenceSql, carryTokensSql, dropTokenHashSql] := by
  have hcreate : OneStatement (createRefreshTokensSql ++ js "\n") createRefreshTokensSql := by
    unfold OneStatement createRefreshTokensSql statementBreakpoint
    repeat rw [js_ofList]
    decide +kernel
  have hreference : OneStatement (js "\n" ++ addSessionReferenceSql) addSessionReferenceSql := by
    unfold OneStatement addSessionReferenceSql statementBreakpoint
    repeat rw [js_ofList]
    decide +kernel
  have hcarry : OneStatement (js "\n" ++ carryTokensSql) carryTokensSql := by
    unfold OneStatement carryTokensSql statementBreakpoint
    repeat rw [js_ofList]
    decide +kernel
  have hdrop : OneStatement (js "\n" ++ dropTokenHashSql) dropTokenHashSql := by
    unfold OneStatement dropTokenHashSql statementBreakpoint
    repeat rw [js_ofList]
    decide +kernel
  have hcut : migration0002.sql = (createRefreshTokensSql ++ js "\n") ++ (statementBreakpoint ++
      ((js "\n" ++ addSessionReferenceSql) ++ (statementBreakpoint ++
        ((js "\n" ++ carryTokensSql) ++ (statementBreakpoint ++
          (js "\n" ++ dropTokenHashSql)))))) := by
    unfold migration0002
    simp only [List.append_assoc]
  rw [hcut, splitStatements_append hcreate, splitStatements_append hreference,
    splitStatements_append hcarry, splitStatements_single hdrop]

/-! ## What they do -/

/-- A row of `identity.sessions` before the migration. -/
structure HashedSession extends Session where
  refreshTokenHash : JsString
deriving DecidableEq

/-- `identity.sessions`, with the column `refresh_token_hash` or without. -/
inductive SessionsTable where
  | hashed (table : Table HashedSession [fun row => row.id])
  | dropped (table : Table Session [Session.id])

/-- The ids of the sessions. -/
def SessionsTable.ids : SessionsTable → List JsString
  | .hashed table => table.rows.map fun row => row.id
  | .dropped table => table.rows.map Session.id

/-- `identity.refresh_tokens`. -/
abbrev RefreshTokensTable := Table StoredRefreshToken [StoredRefreshToken.id, StoredRefreshToken.tokenHash]

/-- Every token's session is there. -/
def RefersTo (tokens : RefreshTokensTable) (sessions : SessionsTable) : Prop :=
  ∀ token ∈ tokens.rows, token.sessionId ∈ sessions.ids

/-- Whether it is, row by row. -/
def refersTo (tokens : RefreshTokensTable) (sessions : SessionsTable) : Bool :=
  tokens.rows.all fun token => sessions.ids.any fun id => decide (id = token.sessionId)

theorem refersTo_iff {tokens : RefreshTokensTable} {sessions : SessionsTable} :
    refersTo tokens sessions = true ↔ RefersTo tokens sessions := by
  simp [refersTo, RefersTo]

instance (tokens : RefreshTokensTable) (sessions : SessionsTable) :
    Decidable (RefersTo tokens sessions) :=
  decidable_of_iff _ refersTo_iff

@[simp] theorem refersTo_empty (sessions : SessionsTable) : RefersTo .empty sessions := by
  intro token htoken
  cases htoken

/-- What the migration reads and writes, and the rest of the database. `refresh_tokens`
may not exist yet, and may not yet have its reference to `sessions`. -/
structure Schema (ρ : Type) where
  sessions : SessionsTable
  refreshTokens : Option RefreshTokensTable
  sessionReference : Bool
  references : sessionReference = true → ∀ tokens ∈ refreshTokens, RefersTo tokens sessions
  rest : ρ

namespace Schema

variable {ρ : Type}

/-- Before the migration. -/
def before (old : Table HashedSession [fun row => row.id]) (rest : ρ) : Schema ρ where
  sessions := .hashed old
  refreshTokens := none
  sessionReference := false
  references := by
    intro hno
    cases hno
  rest := rest

/-- After it: the tables of the session repository. -/
def after (t : SessionTables) (rest : ρ) : Schema ρ where
  sessions := .dropped t.sessions
  refreshTokens := some t.refreshTokens
  sessionReference := true
  references := by
    rintro - tokens ⟨⟩ token htoken
    rcases t.tokenSession token htoken with ⟨session, hsession, hid⟩
    exact List.mem_map.mpr ⟨session, hsession, hid⟩
  rest := rest

/-- `CREATE TABLE "identity"."refresh_tokens"`. -/
def createRefreshTokens (s : Schema ρ) : Option (Schema ρ) :=
  match s.refreshTokens with
  | some _ => none
  | none =>
    some
      { s with
        refreshTokens := some .empty
        sessionReference := false
        references := by
          intro hno
          cases hno }

/-- `ADD CONSTRAINT … FOREIGN KEY`: the rows there are must satisfy it. -/
def addSessionReference (s : Schema ρ) : Option (Schema ρ) :=
  if h : s.refreshTokens ≠ none ∧ s.sessionReference = false ∧
      ∀ tokens ∈ s.refreshTokens, RefersTo tokens s.sessions then
    some { s with sessionReference := true, references := fun _ => h.2.2 }
  else none

/-- The token a session's hash becomes: `SELECT "id", "id", "refresh_token_hash", NULL,
"created_at"`. -/
def carried (row : HashedSession) : StoredRefreshToken where
  id := row.id
  sessionId := row.id
  tokenHash := row.refreshTokenHash
  spentAt := none
  createdAt := row.createdAt

/-- `INSERT INTO "identity"."refresh_tokens" … SELECT … FROM "identity"."sessions"`. -/
def carryTokens (s : Schema ρ) : Option (Schema ρ) :=
  match s.sessions, s.refreshTokens with
  | .hashed table, some tokens => do
    let inserted ← tokens.insertAll (table.rows.map carried)
    if h : s.sessionReference = true → RefersTo inserted s.sessions then
      some
        { s with
          refreshTokens := some inserted
          references := by
            rintro hreference tokens ⟨⟩
            exact h hreference }
    else none
  | _, _ => none

/-- `sessions` without the column `refresh_token_hash`: of each row the rest is kept. -/
def withoutHash (table : Table HashedSession [fun row => row.id]) : Table Session [Session.id] where
  rows := table.rows.map HashedSession.toSession
  unique := by
    intro column hcolumn
    rw [List.mem_singleton.mp hcolumn, List.map_map]
    exact table.unique _ List.mem_cons_self

/-- `ALTER TABLE "identity"."sessions" DROP COLUMN "refresh_token_hash"`. -/
def dropTokenHash (s : Schema ρ) : Option (Schema ρ) :=
  match h : s.sessions with
  | .dropped _ => none
  | .hashed table =>
    some
      { s with
        sessions := .dropped (withoutHash table)
        references := by
          intro hreference tokens htokens token htoken
          have hid := s.references hreference tokens htokens token htoken
          rw [h] at hid
          simpa [SessionsTable.ids, withoutHash] using hid }

/-- Postgres on the statements of the migration, and `other` on everything else. -/
def execute (other : Execute (Schema ρ)) : Execute (Schema ρ) := fun sql =>
  if sql = createRefreshTokensSql then createRefreshTokens
  else if sql = addSessionReferenceSql then addSessionReference
  else if sql = carryTokensSql then carryTokens
  else if sql = dropTokenHashSql then dropTokenHash
  else other sql

variable (other : Execute (Schema ρ))

/-- No two of the statements are the same. -/
theorem statements_differ :
    dropTokenHashSql ∉ [createRefreshTokensSql, addSessionReferenceSql, carryTokensSql] ∧
    carryTokensSql ∉ [createRefreshTokensSql, addSessionReferenceSql] ∧
      addSessionReferenceSql ≠ createRefreshTokensSql := by
  unfold createRefreshTokensSql addSessionReferenceSql carryTokensSql dropTokenHashSql
  repeat rw [js_ofList]
  decide +kernel

theorem execute_create : execute other createRefreshTokensSql = createRefreshTokens := if_pos rfl

theorem execute_reference : execute other addSessionReferenceSql = addSessionReference := by
  unfold execute
  rw [if_neg statements_differ.2.2, if_pos rfl]

theorem execute_carry : execute other carryTokensSql = carryTokens := by
  have hdiffers := statements_differ.2.1
  simp only [List.mem_cons, not_or] at hdiffers
  unfold execute
  rw [if_neg hdiffers.1, if_neg hdiffers.2.1, if_pos rfl]

theorem execute_drop : execute other dropTokenHashSql = dropTokenHash := by
  have hdiffers := statements_differ.1
  simp only [List.mem_cons, not_or] at hdiffers
  unfold execute
  rw [if_neg hdiffers.1, if_neg hdiffers.2.1, if_neg hdiffers.2.2.1, if_pos rfl]

/-- The four statements in order. -/
def migrate (s : Schema ρ) : Option (Schema ρ) := do
  let created ← s.createRefreshTokens
  let referenced ← created.addSessionReference
  let carriedOver ← referenced.carryTokens
  carriedOver.dropTokenHash

/-- A block that starts with a statement. -/
theorem applyAll_statement (execute : Execute (Schema ρ)) (sql : JsString) (writes : List Write)
    (db : Database (Schema ρ)) :
    applyAll execute (.statement sql :: writes) db =
      (execute sql db.data).bind fun data => applyAll execute writes { db with data } := by
  unfold applyAll
  rw [List.foldlM_cons]
  show ((execute sql db.data).map _).bind _ = _
  rw [Option.bind_map]
  rfl

/-- The block of the migration is its statements, then its record. -/
theorem applyAll_migration0002 (db : Database (Schema ρ)) :
    applyAll (execute other) (blockOf migration0002) db =
      (migrate db.data).bind fun data =>
        (Write.record migration0002.id).apply (execute other) { db with data } := by
  have hrecord (data : Schema ρ) : applyAll (execute other) [.record migration0002.id]
      { db with data } = (Write.record migration0002.id).apply (execute other) { db with data } :=
    bind_pure _
  rw [blockOf, splitStatements_migration0002]
  simp only [List.map_cons, List.map_nil, List.cons_append, List.nil_append, applyAll_statement,
    execute_create, execute_reference, execute_carry, execute_drop, hrecord]
  simp only [migrate, bind, Option.bind_assoc]

/-! ## What the migration leaves -/

section CarriedOver

variable {old : Table HashedSession [fun row => row.id]} {rest : ρ}

/-- A token of the new table is a session's hash, under the session's id. -/
theorem mem_carried {tokens : List StoredRefreshToken}
    (htokens : tokens = (old.rows.map carried).reverse ++ []) {token : StoredRefreshToken} :
    token ∈ tokens ↔ ∃ row ∈ old.rows, carried row = token := by
  rw [htokens, List.append_nil, List.mem_reverse, List.mem_map]

/-- The tables of the session repository, once every hash has been carried over. -/
def carriedTables (inserted : RefreshTokensTable)
    (hrows : inserted.rows = (old.rows.map carried).reverse ++ []) : SessionTables where
  sessions := withoutHash old
  refreshTokens := inserted
  tokenSession := by
    intro token htoken
    rcases (mem_carried hrows).mp htoken with ⟨row, hrow, rfl⟩
    exact ⟨row.toSession, List.mem_map_of_mem hrow, rfl⟩

/-- The new table is there, empty, with its reference to `sessions`. -/
def readied (old : Table HashedSession [fun row => row.id]) (rest : ρ) : Schema ρ where
  sessions := .hashed old
  refreshTokens := some .empty
  sessionReference := true
  references := by
    rintro - tokens ⟨⟩
    exact refersTo_empty _
  rest := rest

theorem migrate_eq (old : Table HashedSession [fun row => row.id]) (rest : ρ) :
    migrate (before old rest) = (readied old rest).carryTokens.bind dropTokenHash := by
  have hready : (before old rest).createRefreshTokens.bind addSessionReference =
      some (readied old rest) := by
    simp [createRefreshTokens, before, addSessionReference, readied]
  unfold migrate
  simp only [bind]
  rw [← Option.bind_assoc, hready]
  rfl

/-- The migration succeeds where the insert does. -/
theorem migrate_before {inserted : RefreshTokensTable}
    (hinsert : Table.insertAll .empty (old.rows.map carried) = some inserted)
    (hrows : inserted.rows = (old.rows.map carried).reverse ++ []) :
    migrate (before old rest) = some (after (carriedTables inserted hrows) rest) := by
  have hreferences : RefersTo inserted (readied old rest).sessions := by
    intro token htoken
    rcases (mem_carried hrows).mp htoken with ⟨row, hrow, rfl⟩
    exact List.mem_map_of_mem hrow
  rw [migrate_eq]
  show ((Table.insertAll .empty (old.rows.map carried)).bind _).bind _ = _
  rw [hinsert, Option.bind_some, dif_pos fun _ => hreferences]
  rfl

/-- And fails where it does. -/
theorem migrate_before_none
    (hinsert : Table.insertAll (.empty : RefreshTokensTable) (old.rows.map carried) = none) :
    migrate (before old rest) = none := by
  rw [migrate_eq]
  show ((Table.insertAll .empty (old.rows.map carried)).bind _).bind _ = _
  rw [hinsert]
  rfl

/-- The insert goes through where no two sessions have one hash. -/
theorem insertAll_carried (old : Table HashedSession [fun row => row.id]) :
    (∃ inserted, Table.insertAll (.empty : RefreshTokensTable) (old.rows.map carried) =
      some inserted) ↔ (old.rows.map HashedSession.refreshTokenHash).Nodup := by
  have hid : ((old.rows.map carried).map StoredRefreshToken.id).Nodup := by
    rw [List.map_map]
    exact old.unique _ List.mem_cons_self
  have hhash : (old.rows.map carried).map StoredRefreshToken.tokenHash =
      old.rows.map HashedSession.refreshTokenHash := List.map_map
  have hcolumn (column : StoredRefreshToken → JsString) :
      (((old.rows.map carried).reverse ++ (.empty : RefreshTokensTable).rows).map column).Nodup ↔
        ((old.rows.map carried).map column).Nodup := by
    rw [Table.empty_rows, List.append_nil, List.map_reverse, List.nodup_reverse]
  constructor
  · rintro ⟨inserted, hinsert⟩
    have hunique := (Table.insertAll_eq_some.mp hinsert).1 _
      (List.mem_cons_of_mem _ List.mem_cons_self)
    rw [hcolumn, hhash] at hunique
    exact hunique
  · intro hnodup
    have hunique : ∀ column ∈ [StoredRefreshToken.id, StoredRefreshToken.tokenHash],
        (((old.rows.map carried).reverse ++ (.empty : RefreshTokensTable).rows).map
          column).Nodup := by
      intro column hmem
      rw [hcolumn]
      rcases List.mem_cons.mp hmem with rfl | hmem
      · exact hid
      · rw [List.mem_singleton.mp hmem, hhash]
        exact hnodup
    exact ⟨⟨_, hunique⟩, Table.insertAll_eq_some.mpr ⟨hunique, rfl⟩⟩

/-- Every session has been carried over, with its hash as its one token. -/
structure CarriedOver (old : Table HashedSession [fun row => row.id]) (t : SessionTables) :
    Prop where
  sessions : t.sessions.rows = old.rows.map HashedSession.toSession
  found : ∀ hash session, (∃ token,
      DrizzleSessionRepository.findByTokenHash t hash = some ⟨session, token⟩ ∧
        token.sessionId = session.id ∧ token.spentAt = none) ↔
    ∃ row ∈ old.rows, row.toSession = session ∧ row.refreshTokenHash = hash
  token : ∀ session ∈ t.sessions.rows, ∃ token,
    t.refreshTokens.rows.filter (ofSession session.id) = [token] ∧ token.spentAt = none ∧
      token.createdAt = session.createdAt
  chained : ChainedBy (fun _ => 0) t

theorem carriedOver {inserted : RefreshTokensTable}
    (hrows : inserted.rows = (old.rows.map carried).reverse ++ []) :
    CarriedOver old (carriedTables inserted hrows) := by
  -- the tokens of a session are those with its id
  have htokens : ∀ row ∈ old.rows,
      inserted.rows.filter (ofSession row.id) = [carried row] := by
    intro row hrow
    have hmem : carried row ∈ inserted.rows := (mem_carried hrows).mpr ⟨row, hrow, rfl⟩
    rw [← inserted.filter_column List.mem_cons_self hmem]
    refine List.filter_congr fun token htoken => ?_
    rcases (mem_carried hrows).mp htoken with ⟨row', -, rfl⟩
    rfl
  have hsession : ∀ session ∈ (carriedTables inserted hrows).sessions.rows,
      ∃ row ∈ old.rows, row.toSession = session := by
    intro session hmem
    exact List.mem_map.mp hmem
  constructor
  · rfl
  · intro hash session
    constructor
    · rintro ⟨token, hfound, -, -⟩
      rcases DrizzleSessionRepository.findByTokenHash_some hfound with ⟨hmem, hhash, hsess, hid⟩
      rcases (mem_carried hrows).mp hmem with ⟨row, hrow, rfl⟩
      refine ⟨row, hrow, ?_, hhash⟩
      exact (carriedTables inserted hrows).session_unique (List.mem_map_of_mem hrow) hsess hid.symm
    · rintro ⟨row, hrow, rfl, rfl⟩
      have hmem : carried row ∈ (carriedTables inserted hrows).refreshTokens.rows :=
        (mem_carried hrows).mpr ⟨row, hrow, rfl⟩
      rcases DrizzleSessionRepository.findByTokenHash_of_mem hmem with ⟨session, hfound⟩
      rcases DrizzleSessionRepository.findByTokenHash_some hfound with ⟨-, -, hsess, hid⟩
      obtain rfl : row.toSession = session :=
        (carriedTables inserted hrows).session_unique (List.mem_map_of_mem hrow) hsess hid.symm
      exact ⟨carried row, hfound, rfl, rfl⟩
  · intro session hmem
    rcases hsession session hmem with ⟨row, hrow, rfl⟩
    exact ⟨carried row, htokens row hrow, rfl, rfl⟩
  · constructor
    · intro session hmem
      rcases hsession session hmem with ⟨row, hrow, rfl⟩
      refine ⟨carried row, ?_⟩
      rw [← htokens row hrow]
      refine List.filter_congr fun token htoken => ?_
      rcases (mem_carried hrows).mp htoken with ⟨row', -, rfl⟩
      exact Bool.and_true _
    · intro session hmem
      rcases hsession session hmem with ⟨row, hrow, rfl⟩
      rw [List.countP_eq_length_filter]
      show (inserted.rows.filter (ofSession row.id)).length = 1 + 0
      rw [htokens row hrow]
      rfl

end CarriedOver

end Schema

/-! ## Nobody is logged out -/

/-- A new id is recorded in a table that exists. -/
theorem record_apply {δ : Type} (execute : Execute δ) (db : Database δ) {id : JsString}
    (hsome : db.recorded.isSome = true) (hfresh : id ∉ db.ids) :
    ∃ db', (Write.record id).apply execute db = some db' ∧ db'.data = db.data := by
  rcases db with ⟨_ | table, data⟩
  · cases hsome
  have hconflicts : ¬ table.Conflicts id := by
    rintro ⟨column, hcolumn, hmem⟩
    obtain rfl := List.mem_singleton.mp hcolumn
    rw [List.map_id'] at hmem
    exact hfresh hmem
  rcases Option.ne_none_iff_exists'.mp (Table.insert_ne_none hconflicts) with ⟨inserted, hinsert⟩
  refine ⟨⟨some inserted, data⟩, ?_, rfl⟩
  show (table.insert id).bind _ = _
  rw [hinsert]
  rfl

section Migrated

open Schema

variable {ρ : Type} {other : Execute (Schema ρ)} {earlier : List Migration}
  {db₀ : Database (Schema ρ)} {old : Table HashedSession [fun row => row.id]} {rest : ρ}

/-- After the earlier migrations there is one block to run. -/
theorem pending_blocks (earlier : List Migration) :
    (((earlier ++ [migration0002]).drop earlier.length).map blockOf).flatten =
      blockOf migration0002 := by
  simp

/-- Where a hash repeats, whatever is committed leaves the sessions as they were. -/
theorem failed_migration (hdistinct : ((earlier ++ [migration0002]).map Migration.id).Nodup)
    (hrecorded : RecordsPrefix (earlier ++ [migration0002]) earlier.length db₀)
    (hfails : applyAll (Schema.execute other) (blockOf migration0002) db₀.withTable = none)
    {τ : List (Event Unit QueryError Query Answer)}
    {c : Config (Server (Schema ρ)) Unit (List JsString) QueryError Query Answer}
    (hrun : Run (machine (Schema.execute other) (earlier ++ [migration0002]))
      (.initial (.fresh db₀)) τ c) :
    c.store.db.data = db₀.data ∧ c.store.db.ids = db₀.ids ∧
      ∀ i applied, c.threads i ≠ some ⟨(), .done applied⟩ := by
  have howned := owned_runners hdistinct hrecorded hrun
  rcases howned.inv.progressed with ⟨k, hprogressed⟩
  have hdb : c.store.db = db₀ ∨ c.store.db = db₀.withTable := by
    rcases hprogressed.db with ⟨-, hsame⟩ | happlied
    · exact Or.inl hsame
    · right
      have hk : k ≤ earlier.length + 1 := by
        have hlength := hprogressed.recorded.1
        rw [List.length_append] at hlength
        exact hlength
      rcases Nat.lt_or_ge earlier.length k with hlt | hge
      · -- the block would have been committed
        have hall : (earlier ++ [migration0002]).take k = earlier ++ [migration0002] :=
          List.take_of_length_le (by rw [List.length_append]; exact hlt)
        rw [hprogressed.blocks, hall, pending_blocks, hfails] at happlied
        cases happlied
      · have hnone : ((earlier ++ [migration0002]).take k).drop earlier.length = [] := by
          refine List.drop_eq_nil_of_le ?_
          rw [List.length_take]
          omega
        rw [hprogressed.blocks, hnone] at happlied
        exact (Option.some.inj happlied).symm
  refine ⟨?_, ?_, ?_⟩
  · rcases hdb with hsame | hsame
    · rw [hsame]
    · rw [hsame]
      rfl
  · rcases hdb with hsame | hsame
    · rw [hsame]
    · rw [hsame, Database.withTable_ids]
  · intro i applied hdone
    have happlied := database_of_finished hdistinct hrecorded hrun hdone
    rw [pending_blocks, hfails] at happlied
    cases happlied

/-- `0002` over any sessions, once the migrations before it are recorded. Where no two
sessions have one hash it succeeds, and every session has been carried over; where two
do, it fails, and no run of the migrations, whatever else fails in it, changes anything
or returns. -/
theorem migration_logs_nobody_out
    (hdistinct : ((earlier ++ [migration0002]).map Migration.id).Nodup)
    (hrecorded : RecordsPrefix (earlier ++ [migration0002]) earlier.length db₀)
    (hbefore : db₀.data = .before old rest) :
    ((old.rows.map HashedSession.refreshTokenHash).Nodup →
      ∃ t db, CarriedOver old t ∧ db.data = .after t rest ∧
        ∀ db', Uninterrupted (Schema.execute other) (earlier ++ [migration0002]) db₀ db' ↔
          db' = db) ∧
    (¬ (old.rows.map HashedSession.refreshTokenHash).Nodup →
      ∀ (τ : List (Event Unit QueryError Query Answer))
        (c : Config (Server (Schema ρ)) Unit (List JsString) QueryError Query Answer),
        Run (machine (Schema.execute other) (earlier ++ [migration0002]))
          (.initial (.fresh db₀)) τ c →
        c.store.db.data = db₀.data ∧ c.store.db.ids = db₀.ids ∧
          ∀ i applied, c.threads i ≠ some ⟨(), .done applied⟩) := by
  have hdata : db₀.withTable.data = .before old rest := hbefore
  constructor
  · intro hnodup
    rcases (insertAll_carried old).mpr hnodup with ⟨inserted, hinsert⟩
    have hrows := (Table.insertAll_eq_some.mp hinsert).2
    have hfresh : migration0002.id ∉ db₀.withTable.ids := by
      rw [Database.withTable_ids, hrecorded.2.mem_iff, List.take_left]
      rw [List.map_append, List.nodup_append] at hdistinct
      intro hmem
      exact hdistinct.2.2 _ hmem _ List.mem_cons_self rfl
    rcases record_apply (Schema.execute other)
      { db₀.withTable with data := .after (carriedTables inserted hrows) rest } rfl hfresh
      with ⟨db, hrecord, hafter⟩
    refine ⟨carriedTables inserted hrows, db, carriedOver hrows, hafter, ?_⟩
    intro db'
    rw [uninterrupted_iff hdistinct hrecorded, pending_blocks, applyAll_migration0002, hdata,
      migrate_before hinsert hrows]
    show (Write.record migration0002.id).apply (Schema.execute other) _ = _ ↔ _
    rw [hrecord]
    exact Option.some_inj.trans eq_comm
  · intro hrepeats τ c hrun
    refine failed_migration hdistinct hrecorded ?_ hrun
    have hnone : Table.insertAll (.empty : RefreshTokensTable) (old.rows.map carried) = none := by
      rw [Option.eq_none_iff_forall_ne_some]
      intro inserted hinsert
      exact hrepeats ((insertAll_carried old).mp ⟨inserted, hinsert⟩)
    rw [applyAll_migration0002, hdata, migrate_before_none hnone]
    rfl

end Migrated

/-! ## A sample -/

/-- The migrations before it. -/
def sampleEarlier : List Migration :=
  [⟨js "0000_sparkling_kitty_pryde.sql", []⟩, ⟨js "0001_wet_demogoblin.sql", []⟩]

/-- A live session and a revoked one. -/
def sampleHashed : Table HashedSession [fun row => row.id] where
  rows :=
    [{ id := js "9", userId := js "7", expiresAt := 1769817600123, revokedAt := none
       userAgent := none, createdAt := 1767225600123, refreshTokenHash := js "542a" },
     { id := js "8", userId := js "7", expiresAt := 1769817500000, revokedAt := some 1767225500000
       userAgent := none, createdAt := 1767225400000, refreshTokenHash := js "22ea" }]
  unique := by decide +kernel

/-- Both earlier migrations are recorded. -/
def sampleDatabase : Database (Schema Unit) where
  recorded := some ⟨sampleEarlier.map Migration.id, by decide +kernel⟩
  data := .before sampleHashed ()

/-- Two sessions with one hash. -/
def sampleClashing : Table HashedSession [fun row => row.id] where
  rows :=
    [{ id := js "9", userId := js "7", expiresAt := 1769817600123, revokedAt := none
       userAgent := none, createdAt := 1767225600123, refreshTokenHash := js "542a" },
     { id := js "8", userId := js "3", expiresAt := 1769817500000, revokedAt := none
       userAgent := none, createdAt := 1767225400000, refreshTokenHash := js "542a" }]
  unique := by decide +kernel

/-- The same database, with them. -/
def sampleClashed : Database (Schema Unit) :=
  { sampleDatabase with data := .before sampleClashing () }

/-- The sessions of the sample are both carried over. Those that clash stay as they are: a
runner has read what is recorded, and whatever comes next, no runner succeeds. -/
theorem sample_sessions_are_carried_over :
    (∃ t db, Schema.CarriedOver sampleHashed t ∧ db.data = .after t () ∧
      ∀ db', Uninterrupted (Schema.execute fun _ _ => none) (sampleEarlier ++ [migration0002])
        sampleDatabase db' ↔ db' = db) ∧
    ∃ τ₁ c₁, Run (machine (Schema.execute fun _ _ => none) (sampleEarlier ++ [migration0002]))
        (.initial (.fresh sampleClashed)) τ₁ c₁ ∧
      .returned 0 (.selectIds 0) (.ok (sampleEarlier.map Migration.id)) ∈ τ₁ ∧
      ∀ τ₂ c₂, Run (machine (Schema.execute fun _ _ => none) (sampleEarlier ++ [migration0002]))
          c₁ τ₂ c₂ →
        c₂.store.db.data = .before sampleClashing () ∧
          ∀ i applied, c₂.threads i ≠ some ⟨(), .done applied⟩ := by
  have hdistinct : ((sampleEarlier ++ [migration0002]).map Migration.id).Nodup := by
    decide +kernel
  have hrecorded (data : Schema Unit) : RecordsPrefix (sampleEarlier ++ [migration0002])
      sampleEarlier.length { sampleDatabase with data } := ⟨by decide, List.Perm.refl _⟩
  constructor
  · exact (migration_logs_nobody_out hdistinct (hrecorded _) rfl).1 (by decide +kernel)
  · have hconnect : returns (Schema.execute fun _ _ => none) .connect (.fresh sampleClashed) (.ok 0)
        ((Server.fresh sampleClashed).set 0 .idle) := ⟨rfl, rfl⟩
    have hcreate : returns (Schema.execute fun _ _ => none) (.createTable 0)
        ((Server.fresh sampleClashed).set 0 .idle) (.ok ())
        ((Server.fresh sampleClashed).set 0 .idle) := ⟨rfl, rfl⟩
    have hselect : returns (Schema.execute fun _ _ => none) (.selectIds 0)
        ((Server.fresh sampleClashed).set 0 .idle) (.ok (sampleEarlier.map Migration.id))
        ((Server.fresh sampleClashed).set 0 .idle) := ⟨rfl, rfl, _, rfl, List.Perm.refl _⟩
    have hread : Run (machine (Schema.execute fun _ _ => none) (sampleEarlier ++ [migration0002]))
        (.initial (.fresh sampleClashed))
        ([] ++ [.start 0 ()] ++ [.returned 0 .connect (.ok 0)] ++
          [.returned 0 (.createTable 0) (.ok ())] ++
          [.returned 0 (.selectIds 0) (.ok (sampleEarlier.map Migration.id))]) _ :=
      ((((Run.nil _).snoc (.start 0 () rfl)).snoc (.returned rfl hconnect)).snoc
        (.returned rfl hcreate)).snoc (.returned rfl hselect)
    refine ⟨_, _, hread, by simp, ?_⟩
    intro τ₂ c₂ hrun
    have hkept := (migration_logs_nobody_out hdistinct (hrecorded (.before sampleClashing ()))
      rfl).2 (by decide +kernel) _ _ (hread.append hrun)
    exact ⟨hkept.1, hkept.2.2⟩

end XClone.Identity.Migrations
