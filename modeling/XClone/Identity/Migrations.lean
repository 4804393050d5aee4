import XClone.Js.Text
import XClone.Lib.Interleaving
import XClone.Lib.Table

/-!
# XClone.Identity.Migrations — the migration runner

`applyMigrations` and `readMigrations`, and the database they run against. Each migration
is one `BEGIN … COMMIT` block: its statements, then its record. A query that fails is an
answer like any other, so the program goes on in its `catch` and `finally`.

Of the database only what the runner relies on is modelled: a block takes effect at its
`COMMIT`, all of it at once, or not at all; and `schema_migrations.id` is a primary key.
Two open blocks may both have inserted one id, where Postgres lets the second wait, but
only one of them can commit. What a statement does to the rest of the database is a
parameter, `execute`.
-/

namespace XClone.Identity.Migrations

open Js Interleaving Relational

/-! ## Migrations -/

structure Migration where
  id : JsString
  sql : JsString
deriving DecidableEq

/-- The marker drizzle-kit separates statements with. -/
def statementBreakpoint : JsString := js "--> statement-breakpoint"

/-- `splitStatements(sql)`. -/
def splitStatements (sql : JsString) : List JsString :=
  ((splitText statementBreakpoint sql).map trim).filter fun statement => 0 < statement.length

/-- Statements are trimmed, and none is empty. -/
theorem splitStatements_trimmed {sql statement : JsString} (h : statement ∈ splitStatements sql) :
    statement ≠ [] ∧ trim statement = statement := by
  rcases List.mem_filter.mp h with ⟨hmem, hlength⟩
  rcases List.mem_map.mp hmem with ⟨piece, -, rfl⟩
  refine ⟨?_, trim_trim piece⟩
  intro hempty
  simp [hempty] at hlength

/-- A text with no breakpoint in it that trims to a statement. -/
def OneStatement (piece statement : JsString) : Prop :=
  (∀ tail ∈ piece.tails, tail ≠ [] → ¬ statementBreakpoint <+: tail ++ statementBreakpoint) ∧
    trim piece = statement ∧ statement ≠ []

instance (piece statement : JsString) : Decidable (OneStatement piece statement) :=
  inferInstanceAs (Decidable (_ ∧ _))

section OneStatement

variable {piece statement : JsString}

/-- It is kept, as its statement. -/
theorem OneStatement.kept (h : OneStatement piece statement) (rest : List JsString) :
    ((piece :: rest).map trim).filter (fun statement => 0 < statement.length) =
      statement :: (rest.map trim).filter fun statement => 0 < statement.length := by
  rcases h with ⟨-, htrim, hne⟩
  rw [List.map_cons, htrim, List.filter_cons, if_pos]
  exact decide_eq_true (List.length_pos_iff.mpr hne)

theorem splitStatements_single (h : OneStatement piece statement) :
    splitStatements piece = [statement] := by
  unfold splitStatements
  rw [splitText_eq_self h.1, h.kept []]
  rfl

theorem splitStatements_append (h : OneStatement piece statement) (rest : JsString) :
    splitStatements (piece ++ (statementBreakpoint ++ rest)) =
      statement :: splitStatements rest := by
  have hbreakpoint : statementBreakpoint ≠ [] := by
    unfold statementBreakpoint
    rw [js_ofList]
    decide
  unfold splitStatements
  rw [splitText_append hbreakpoint h.1, h.kept]

end OneStatement

/-- `readMigrations(migrationsDir)`, given the names and texts of the files in it: sorted
by UTF-16 code units. -/
def readMigrations (files : List (JsString × JsString)) : List Migration :=
  ((files.filter fun file => (js ".sql").isSuffixOf file.1).mergeSort
    fun file file' => decide (file.1 ≤ file'.1)).map fun file => ⟨file.1, file.2⟩

/-- The files of a directory have different names, so migrations have different ids. -/
theorem readMigrations_distinct {files : List (JsString × JsString)}
    (h : (files.map Prod.fst).Nodup) : ((readMigrations files).map Migration.id).Nodup := by
  have hperm : ((readMigrations files).map Migration.id).Perm
      ((files.filter fun file => (js ".sql").isSuffixOf file.1).map Prod.fst) := by
    unfold readMigrations
    rw [List.map_map]
    exact (List.mergeSort_perm _ _).map _
  rw [hperm.nodup_iff]
  exact h.sublist (List.filter_sublist.map _)

/-! ## Queries -/

/-- What a query rejects with. -/
abbrev QueryError := JsString

/-- The queries of the runner, with the connection they go to, and the two calls of the
pool. -/
inductive Query where
  /-- `pool.connect()`. -/
  | connect
  /-- `CREATE TABLE IF NOT EXISTS "schema_migrations" …`. -/
  | createTable (client : ℕ)
  /-- `SELECT id FROM "schema_migrations"`. -/
  | selectIds (client : ℕ)
  | begin (client : ℕ)
  /-- A statement of a migration. -/
  | statement (client : ℕ) (sql : JsString)
  /-- `INSERT INTO "schema_migrations" (id) VALUES ($1)`. -/
  | insertId (client : ℕ) (id : JsString)
  | commit (client : ℕ)
  | rollback (client : ℕ)
  /-- `client.release()`. -/
  | release (client : ℕ)
deriving DecidableEq

/-- What each query answers: every one but `release` can reject. -/
@[reducible] def Answer : Query → Type
  | .connect => Except QueryError ℕ
  | .selectIds _ => Except QueryError (List JsString)
  | .release _ => Unit
  | _ => Except QueryError Unit

/-- The runner, or a part of it. -/
abbrev Runner (α : Type) := Program Query Answer QueryError α

open Program

/-- `await` of a promise that may reject. -/
def awaited {α : Type} (promise : Runner (Except QueryError α)) : Runner α :=
  promise >>= ofExcept

/-! ## The runner -/

/-- The loop over the statements of a migration. -/
def runStatements (client : ℕ) : List JsString → Runner Unit
  | [] => return ()
  | statement :: rest => do
    awaited (perform (Query.statement client statement))
    runStatements client rest

/-- One turn of the loop, for a migration that is not done. -/
def applyMigration (client : ℕ) (migration : Migration) : Runner Unit := do
  awaited (perform (Query.begin client))
  Program.tryCatch
    (do
      runStatements client (splitStatements migration.sql)
      awaited (perform (Query.insertId client migration.id))
      awaited (perform (Query.commit client)))
    fun error => do
      awaited (perform (Query.rollback client))
      failed error

/-- The loop over the migrations, those in `done` skipped. -/
def applyPending (client : ℕ) (done : List JsString) : List Migration → List JsString →
    Runner (List JsString)
  | [], applied => return applied
  | migration :: rest, applied =>
    if migration.id ∈ done then applyPending client done rest applied
    else do
      applyMigration client migration
      applyPending client done rest (applied ++ [migration.id])

/-- `applyMigrations(pool, migrations)`. -/
def applyMigrations (migrations : List Migration) : Runner (List JsString) := do
  let client ← awaited (perform Query.connect)
  Program.tryFinally
    (do
      awaited (perform (Query.createTable client))
      let rows ← awaited (perform (Query.selectIds client))
      applyPending client rows migrations [])
    (perform (Query.release client))

/-! ## The database -/

section Database

variable {δ : Type}

/-- `schema_migrations`, if it exists, and the rest of the database. -/
structure Database (δ : Type) where
  recorded : Option (Table JsString [fun id : JsString => id])
  data : δ

namespace Database

/-- The recorded ids. -/
def ids (db : Database δ) : List JsString := (db.recorded.map Table.rows).getD []

/-- After `CREATE TABLE IF NOT EXISTS`. -/
def withTable (db : Database δ) : Database δ :=
  { db with recorded := some (db.recorded.getD .empty) }

@[simp] theorem withTable_ids (db : Database δ) : db.withTable.ids = db.ids := by
  rcases db with ⟨_ | table, data⟩ <;> rfl

end Database

/-- What a block can write. -/
inductive Write where
  | statement (sql : JsString)
  | record (id : JsString)
deriving DecidableEq

/-- What statements do to the data: `none` where a statement fails on it. -/
abbrev Execute (δ : Type) := JsString → δ → Option δ

variable (execute : Execute δ)

/-- One write. -/
def Write.apply : Write → Database δ → Option (Database δ)
  | .statement sql, db => (execute sql db.data).map fun data => { db with data }
  | .record id, db => do
    let table ← db.recorded
    let inserted ← table.insert id
    return { db with recorded := some inserted }

/-- A block of writes, in order. -/
def applyAll (writes : List Write) (db : Database δ) : Option (Database δ) :=
  writes.foldlM (fun db write => write.apply execute db) db

theorem applyAll_append (writes writes' : List Write) (db : Database δ) :
    applyAll execute (writes ++ writes') db =
      (applyAll execute writes db).bind (applyAll execute writes') :=
  List.foldlM_append

/-- The ids a block records, in order. -/
def recordIds (writes : List Write) : List JsString :=
  writes.filterMap fun write => match write with
    | .record id => some id
    | .statement _ => none

theorem recordIds_append (writes writes' : List Write) :
    recordIds (writes ++ writes') = recordIds writes ++ recordIds writes' :=
  List.filterMap_append

/-- The block of a migration: its statements, then its record. -/
def blockOf (migration : Migration) : List Write :=
  (splitStatements migration.sql).map Write.statement ++ [.record migration.id]

@[simp] theorem recordIds_blockOf (migration : Migration) :
    recordIds (blockOf migration) = [migration.id] := by
  have hnone : recordIds ((splitStatements migration.sql).map Write.statement) = [] := by
    simp [recordIds, List.filterMap_map]
  rw [blockOf, recordIds_append, hnone]
  rfl

theorem Database.ids_nodup (db : Database δ) : db.ids.Nodup := by
  rcases db with ⟨_ | table, data⟩
  · exact List.nodup_nil
  · have hunique := table.unique _ List.mem_cons_self
    rwa [List.map_id'] at hunique

variable {execute}

/-- What one write does to the bookkeeping table. -/
theorem Write.apply_spec {write : Write} {db db' : Database δ}
    (h : write.apply execute db = some db') :
    db'.ids = (recordIds [write]).reverse ++ db.ids ∧
      db'.recorded.isSome = db.recorded.isSome := by
  cases write with
  | statement sql =>
    rcases Option.map_eq_some_iff.mp h with ⟨data, -, rfl⟩
    exact ⟨rfl, rfl⟩
  | record id =>
    rcases Option.bind_eq_some_iff.mp h with ⟨table, htable, hrest⟩
    rcases Option.bind_eq_some_iff.mp hrest with ⟨inserted, hinsert, heq⟩
    cases heq
    constructor
    · show inserted.rows = id :: db.ids
      rw [(Table.insert_eq_some.mp hinsert).2, Database.ids, htable]
      rfl
    · rw [htable]
      rfl

/-- What a block does to it: the new ids, over the old ones. -/
theorem applyAll_spec {writes : List Write} {db db' : Database δ}
    (h : applyAll execute writes db = some db') :
    db'.ids = (recordIds writes).reverse ++ db.ids ∧
      db'.recorded.isSome = db.recorded.isSome := by
  induction writes generalizing db with
  | nil =>
    cases h
    exact ⟨rfl, rfl⟩
  | cons write writes ih =>
    rcases Option.bind_eq_some_iff.mp h with ⟨db₁, hwrite, hrest⟩
    rcases Write.apply_spec hwrite with ⟨hids, hrecorded⟩
    rcases ih hrest with ⟨hids', hrecorded'⟩
    refine ⟨?_, hrecorded'.trans hrecorded⟩
    have hcons : recordIds (write :: writes) = recordIds [write] ++ recordIds writes :=
      recordIds_append [write] writes
    rw [hids', hids, hcons, List.reverse_append, List.append_assoc]

/-- A table that exists is not created again. -/
theorem Database.withTable_eq_self {db : Database δ} (h : db.recorded.isSome = true) :
    db.withTable = db := by
  rcases db with ⟨_ | table, data⟩
  · cases h
  · rfl

/-- A block that records an id ran where the table exists. -/
theorem applyAll_withTable {writes : List Write} {db db' : Database δ}
    (h : applyAll execute writes db = some db') (hrecords : recordIds writes ≠ []) :
    db.withTable = db := by
  rcases applyAll_spec h with ⟨hids, hrecorded⟩
  refine Database.withTable_eq_self ?_
  rw [← hrecorded]
  -- without a table there would be no ids
  cases hnone : db'.recorded with
  | some table => rfl
  | none =>
    rw [Database.ids, hnone] at hids
    have hempty := (List.append_eq_nil_iff.mp hids.symm).1
    exact absurd (List.reverse_eq_nil_iff.mp hempty) hrecords

variable (execute)

/-- A connection the pool has handed out. -/
inductive Connection where
  | idle
  /-- In a block that has made these writes, none of them committed. -/
  | inBlock (writes : List Write)
  /-- In a block of which a statement has failed. -/
  | aborted
  | released
deriving DecidableEq

/-- The database, the connections by number, and the blocks committed so far, each with
its connection. A connection that is handed out again gets a new number. -/
structure Server (δ : Type) where
  db : Database δ
  connections : ℕ → Option Connection
  log : List (ℕ × List Write)

namespace Server

/-- A database nobody is connected to. -/
def fresh (db : Database δ) : Server δ := ⟨db, fun _ => none, []⟩

/-- Connection `client` is now `connection`. -/
def set (s : Server δ) (client : ℕ) (connection : Connection) : Server δ :=
  { s with connections := Function.update s.connections client (some connection) }

@[simp] theorem set_connections (s : Server δ) (client : ℕ) (connection : Connection) :
    (s.set client connection).connections client = some connection :=
  Function.update_self _ _ _

/-- A block of `client` takes effect. -/
def committed (s : Server δ) (client : ℕ) (writes : List Write) (db : Database δ) : Server δ :=
  { s.set client .idle with db, log := s.log ++ [(client, writes)] }

end Server

/-- A query that writes. Within a block it succeeds where the block so far, with it, does
on what is committed; outside one it is a block of its own. -/
def Writes (s : Server δ) (client : ℕ) (write : Write) (s' : Server δ) : Prop :=
  (∃ writes, s.connections client = some (.inBlock writes) ∧
    (applyAll execute (writes ++ [write]) s.db).isSome ∧
    s' = s.set client (.inBlock (writes ++ [write]))) ∨
  (s.connections client = some .idle ∧
    ∃ db, applyAll execute [write] s.db = some db ∧ s' = s.committed client [write] db)

/-- The block of `client` takes effect. -/
def Commits (s : Server δ) (client : ℕ) (s' : Server δ) : Prop :=
  ∃ writes db, s.connections client = some (.inBlock writes) ∧
    applyAll execute writes s.db = some db ∧ s' = s.committed client writes db

/-- What a query answers, and the server it leaves. Any query may reject, at any time.
One that does so in a block aborts it; a `COMMIT` that does, or a `CREATE TABLE`, may
have been lost before or after it took effect; and after a `ROLLBACK`, answered or not,
there is no block. -/
def returns : (q : Query) → Server δ → Answer q → Server δ → Prop
  | .connect, s, .ok client, s' => s.connections client = none ∧ s' = s.set client .idle
  | .connect, s, .error _, s' => s' = s
  | .createTable client, s, .ok _, s' =>
    s.connections client = some .idle ∧ s' = { s with db := s.db.withTable }
  | .createTable _, s, .error _, s' => s' = s ∨ s' = { s with db := s.db.withTable }
  | .selectIds client, s, .ok rows, s' =>
    s' = s ∧ s.connections client = some .idle ∧
      ∃ table, s.db.recorded = some table ∧ rows.Perm table.rows
  | .selectIds _, s, .error _, s' => s' = s
  | .begin client, s, .ok _, s' =>
    s.connections client = some .idle ∧ s' = s.set client (.inBlock [])
  | .begin _, s, .error _, s' => s' = s
  | .statement client sql, s, .ok _, s' => Writes execute s client (.statement sql) s'
  | .statement client _, s, .error _, s' => s' = s.set client .aborted
  | .insertId client id, s, .ok _, s' => Writes execute s client (.record id) s'
  | .insertId client _, s, .error _, s' => s' = s.set client .aborted
  | .commit client, s, .ok _, s' => Commits execute s client s'
  | .commit client, s, .error _, s' => s' = s.set client .idle ∨ Commits execute s client s'
  | .rollback client, s, _, s' => s' = s.set client .idle
  | .release client, s, _, s' => s' = s.set client .released

/-- Any number of runners over one list, against one database. -/
def machine (migrations : List Migration) :
    Machine (Server δ) Unit (List JsString) QueryError Query Answer where
  code _ := applyMigrations migrations
  returns := returns execute
  throws _ _ _ := False

end Database

end XClone.Identity.Migrations
