import XClone.Identity.Migrations
import XClone.Lib.Ownership

/-!
# XClone.Identity.MigrationRuns — what migration runners own

Each runner owns its connection, and with it the blocks committed there; of the
bookkeeping table it only knows ids, which stay recorded. It commits a migration's block
when it knows all earlier ones to be recorded; that the block commits at all says that
this one was not. So whatever fails, and however runners interleave, the recorded ids stay
a prefix of the list (`Progressed`, `OnTheWay.step`).
-/

namespace XClone.Identity.Migrations

open Js Interleaving Relational Ownership

variable {δ : Type} {execute : Execute δ} {migrations : List Migration} {db₀ : Database δ}
  {k₀ : ℕ}

/-! ## The prefix -/

/-- The recorded ids are those of the first `k` migrations. -/
def RecordsPrefix (migrations : List Migration) (k : ℕ) (db : Database δ) : Prop :=
  k ≤ migrations.length ∧ db.ids.Perm ((migrations.take k).map Migration.id)

/-- From `db₀`, with `k₀` migrations recorded, the server got to `k`: what has been
committed is the blocks of the migrations in between, in order, and nothing else but the
bookkeeping table. -/
structure Progressed (execute : Execute δ) (migrations : List Migration) (db₀ : Database δ)
    (k₀ k : ℕ) (s : Server δ) : Prop where
  le : k₀ ≤ k
  recorded : RecordsPrefix migrations k s.db
  blocks : s.log.map Prod.snd = ((migrations.take k).drop k₀).map blockOf
  db : (s.log = [] ∧ s.db = db₀) ∨
    applyAll execute (s.log.map Prod.snd).flatten db₀.withTable = some s.db

/-- Creating the bookkeeping table is no progress. -/
theorem Progressed.withTable {k : ℕ} {s : Server δ}
    (h : Progressed execute migrations db₀ k₀ k s) :
    Progressed execute migrations db₀ k₀ k { s with db := s.db.withTable } := by
  refine ⟨h.le, ⟨h.recorded.1, ?_⟩, h.blocks, Or.inr ?_⟩
  · rw [Database.withTable_ids]
    exact h.recorded.2
  · rcases h.db with ⟨hlog, hdb⟩ | hdb
    · simp only [hlog, hdb]
      rfl
    · -- it exists
      have hsome := (applyAll_spec hdb).2
      rw [hdb]
      exact congrArg some (Database.withTable_eq_self hsome).symm

/-- Where all migrations before this one are recorded, a block of it that commits is the
next step. -/
theorem Progressed.commit (hdistinct : (migrations.map Migration.id).Nodup) {k : ℕ}
    {s : Server δ} (h : Progressed execute migrations db₀ k₀ k s) {earlier later : List Migration}
    {migration : Migration} (hsplit : migrations = earlier ++ migration :: later)
    (hearlier : ∀ m ∈ earlier, m.id ∈ s.db.ids) {db : Database δ}
    (happly : applyAll execute (blockOf migration) s.db = some db) (client : ℕ) :
    Progressed execute migrations db₀ k₀ (k + 1)
      (s.committed client (blockOf migration) db) := by
  have hids : db.ids = migration.id :: s.db.ids := by
    have hspec := (applyAll_spec happly).1
    rwa [recordIds_blockOf] at hspec
  have hmem : ∀ id, id ∈ s.db.ids ↔ id ∈ (migrations.take k).map Migration.id :=
    fun _ => h.recorded.2.mem_iff
  -- as many migrations are recorded as there are before this one
  have hlength : earlier.length = k := by
    have hle : earlier.length ≤ k := by
      have hnodup : (earlier.map Migration.id).Nodup := by
        rw [hsplit, List.map_append] at hdistinct
        exact (List.nodup_append.mp hdistinct).1
      have hsub : earlier.map Migration.id ⊆ (migrations.take k).map Migration.id := by
        intro id hid
        rcases List.mem_map.mp hid with ⟨m, hm, rfl⟩
        exact (hmem _).mp (hearlier m hm)
      have hcount := (List.subperm_of_subset hnodup hsub).length_le
      simp only [List.length_map, List.length_take] at hcount
      omega
    have hge : k ≤ earlier.length := by
      by_contra hlt
      have hnew : migration.id ∉ s.db.ids := by
        have hnodup := db.ids_nodup
        rw [hids] at hnodup
        exact (List.nodup_cons.mp hnodup).1
      apply hnew
      rw [hmem]
      refine List.mem_map.mpr ⟨migration, ?_, rfl⟩
      rw [hsplit, List.take_append]
      refine List.mem_append_right _ ?_
      rw [List.take_cons (by omega)]
      exact List.mem_cons_self
    exact Nat.le_antisymm hle hge
  have htake : migrations.take (k + 1) = migrations.take k ++ [migration] := by
    rw [hsplit, ← hlength, List.take_left' rfl, List.take_append]
    simp
  have hlt : k + 1 ≤ migrations.length := by
    rw [hsplit, List.length_append, List.length_cons]
    omega
  refine ⟨Nat.le_succ_of_le h.le, ⟨hlt, ?_⟩, ?_, Or.inr ?_⟩
  · show db.ids.Perm _
    rw [hids, htake, List.map_append]
    exact (h.recorded.2.cons _).trans (List.perm_append_singleton _ _).symm
  · show (s.log ++ [(client, blockOf migration)]).map Prod.snd = _
    have hlen : k₀ ≤ (migrations.take k).length := by
      rw [List.length_take]
      have hk := h.recorded.1
      have hle := h.le
      omega
    rw [List.map_append, h.blocks, htake, List.drop_append_of_le_length hlen, List.map_append]
    rfl
  · show applyAll execute ((s.log ++ [(client, blockOf migration)]).map Prod.snd).flatten _ =
      some db
    rw [List.map_append, List.flatten_append, applyAll_append]
    have hlast : ([(client, blockOf migration)].map Prod.snd).flatten = blockOf migration := by
      simp
    rw [hlast]
    rcases h.db with ⟨hlog, hdb⟩ | hdb
    · -- the first block: the table is there, for it records an id
      have htable := applyAll_withTable happly (by simp)
      rw [hdb] at htable happly
      rw [hlog, htable]
      exact happly
    · rw [hdb]
      exact happly

/-! ## What a runner owns and knows -/

/-- The blocks committed on a connection, in order. -/
def blocksOn (client : ℕ) (log : List (ℕ × List Write)) : List (List Write) :=
  (log.filter (·.1 = client)).map Prod.snd

/-- A runner so far: the connections it was handed, the state it knows its own to be in,
whether it knows the bookkeeping table to exist, ids it knows to be recorded, the blocks
it committed, and whether a query of it failed, after which none of these needs to be
all. -/
structure Progress where
  clients : List ℕ
  connection : Option Connection
  created : Bool
  known : List JsString
  committed : List (List Write)
  failed : Bool

namespace Progress

/-- Nothing yet. -/
def fresh : Progress := ⟨[], none, false, [], [], false⟩

/-- After a query that rejected. -/
def rejected (l : Progress) : Progress := { l with connection := none, failed := true }

/-- One more write in the block. -/
def wrote (l : Progress) (write : Write) : Progress :=
  match l.connection with
  | some (.inBlock writes) => { l with connection := some (.inBlock (writes ++ [write])) }
  | _ => l

/-- The block is committed. -/
def commits (l : Progress) : Progress :=
  match l.connection with
  | some (.inBlock writes) =>
    { l with connection := some .idle, committed := l.committed ++ [writes]
             known := l.known ++ recordIds writes }
  | _ => l

/-- What an answer adds. -/
def advance (l : Progress) : (q : Query) → Answer q → Progress
  | .connect, .ok client =>
    { l with clients := client :: l.clients, connection := some .idle }
  | .createTable _, .ok _ => { l with created := true }
  | .selectIds _, .ok rows => { l with known := rows ++ l.known }
  | .begin _, .ok _ => { l with connection := some (.inBlock []) }
  | .statement _ sql, .ok _ => l.wrote (.statement sql)
  | .insertId _ id, .ok _ => l.wrote (.record id)
  | .commit _, .ok _ => l.commits
  | .rollback _, .ok _ => { l with connection := some .idle }
  | .release _, _ => { l with connection := none }
  | .connect, .error _ => l.rejected
  | .createTable _, .error _ => l.rejected
  | .selectIds _, .error _ => l.rejected
  | .begin _, .error _ => l.rejected
  | .statement _ _, .error _ => l.rejected
  | .insertId _ _, .error _ => l.rejected
  | .commit _, .error _ => l.rejected
  | .rollback _, .error _ => l.rejected

/-- What the server says of it. -/
structure Agrees (l : Progress) (s : Server δ) : Prop where
  handed : ∀ client ∈ l.clients, s.connections client ≠ none
  connection : ∀ client ∈ l.clients, ∀ state ∈ l.connection, s.connections client = some state
  committed : ∀ client ∈ l.clients, l.failed = false → blocksOn client s.log = l.committed
  created : l.created = true → s.db.recorded.isSome = true
  known : ∀ id ∈ l.known, id ∈ s.db.ids

theorem own_client {l : Progress} {client : ℕ} (hclients : l.clients = [client]) :
    client ∈ l.clients := by
  rw [hclients]
  exact List.mem_singleton_self client

/-- A runner knows what its connection is in. -/
theorem Agrees.own_connection {l : Progress} {s : Server δ} (h : l.Agrees s) {client : ℕ}
    (hclients : l.clients = [client]) {state : Connection} (hconnection : l.connection = some state) :
    s.connections client = some state :=
  h.connection client (own_client hclients) state hconnection

/-- No connection is handed to two runners. -/
def Apart (l m : Progress) : Prop := ∀ client ∈ l.clients, client ∉ m.clients

/-- What a runner may ask for. A `COMMIT` needs a whole block of a migration, all earlier
ones of which it knows to be recorded. -/
def Permits (migrations : List Migration) (l : Progress) : Query → Prop
  | .connect => l = fresh
  | .statement client _ | .insertId client _ =>
    l.clients = [client] ∧ ∃ writes, l.connection = some (.inBlock writes)
  | .commit client =>
    l.clients = [client] ∧ l.failed = false ∧ ∃ earlier migration later,
      migrations = earlier ++ migration :: later ∧
        l.connection = some (.inBlock (blockOf migration)) ∧
        ∀ m ∈ earlier, m.id ∈ l.known
  | .createTable client | .selectIds client | .begin client | .rollback client
  | .release client => l.clients = [client]

end Progress

/-! ## One query -/

/-- The connection a query goes to. -/
def Query.client : Query → Option ℕ
  | .connect => none
  | .createTable client | .selectIds client | .begin client | .statement client _
  | .insertId client _ | .commit client | .rollback client | .release client => some client

/-- The queries that write within a block. -/
def Query.writes : Query → Bool
  | .statement _ _ | .insertId _ _ => true
  | _ => false

/-- All a query can do to the server. A block is committed by a `COMMIT`, or by a write
outside of any. -/
inductive Effect (execute : Execute δ) (s : Server δ) (q : Query) : Server δ → Prop where
  | nothing : Effect execute s q s
  | handed {client : ℕ} : s.connections client = none → Effect execute s q (s.set client .idle)
  | table : Effect execute s q { s with db := s.db.withTable }
  | set {client : ℕ} (connection : Connection) :
      q.client = some client → Effect execute s q (s.set client connection)
  | committed {client : ℕ} {writes : List Write} {db : Database δ} :
      applyAll execute writes s.db = some db → q.client = some client →
      (q = .commit client ∧ s.connections client = some (.inBlock writes)) ∨
        (q.writes = true ∧ s.connections client = some .idle) →
      Effect execute s q (s.committed client writes db)

theorem effect_of_writes {q : Query} {s s' : Server δ} {client : ℕ} {write : Write}
    (h : Writes execute s client write s') (hclient : q.client = some client)
    (hwrites : q.writes = true) : Effect execute s q s' := by
  rcases h with ⟨writes, -, -, rfl⟩ | ⟨hidle, db, happly, rfl⟩
  · exact .set _ hclient
  · exact .committed happly hclient (Or.inr ⟨hwrites, hidle⟩)

theorem effect_of_commits {s s' : Server δ} {client : ℕ} (h : Commits execute s client s') :
    Effect execute s (.commit client) s' := by
  rcases h with ⟨writes, db, hblock, happly, rfl⟩
  exact .committed happly rfl (Or.inl ⟨rfl, hblock⟩)

theorem effect_of_returns {q : Query} {answer : Answer q} {s s' : Server δ}
    (h : returns execute q s answer s') : Effect execute s q s' := by
  cases q with
  | connect =>
    cases answer with
    | ok client =>
      obtain rfl := h.2
      exact .handed h.1
    | error e =>
      obtain rfl := h
      exact .nothing
  | createTable client =>
    cases answer with
    | ok _ =>
      obtain rfl := h.2
      exact .table
    | error e =>
      rcases h with rfl | rfl
      · exact .nothing
      · exact .table
  | selectIds client =>
    cases answer with
    | ok rows =>
      obtain rfl := h.1
      exact .nothing
    | error e =>
      obtain rfl := h
      exact .nothing
  | begin client =>
    cases answer with
    | ok _ =>
      obtain rfl := h.2
      exact .set _ rfl
    | error e =>
      obtain rfl := h
      exact .nothing
  | statement client sql =>
    cases answer with
    | ok _ => exact effect_of_writes h rfl rfl
    | error e =>
      obtain rfl := h
      exact .set _ rfl
  | insertId client id =>
    cases answer with
    | ok _ => exact effect_of_writes h rfl rfl
    | error e =>
      obtain rfl := h
      exact .set _ rfl
  | commit client =>
    cases answer with
    | ok _ => exact effect_of_commits h
    | error e =>
      rcases h with rfl | h
      · exact .set _ rfl
      · exact effect_of_commits h
  | rollback client =>
    obtain rfl := h
    exact .set _ rfl
  | release client =>
    obtain rfl := h
    exact .set _ rfl

namespace Effect

variable {s s' : Server δ} {q : Query}

/-- No recorded id is lost. -/
theorem ids (h : Effect execute s q s') {id : JsString} (hid : id ∈ s.db.ids) :
    id ∈ s'.db.ids := by
  cases h with
  | nothing => exact hid
  | handed _ => exact hid
  | table =>
    show id ∈ s.db.withTable.ids
    rw [Database.withTable_ids]
    exact hid
  | set connection _ => exact hid
  | @committed client writes db happly _ _ =>
    show id ∈ db.ids
    rw [(applyAll_spec happly).1]
    exact List.mem_append_right _ hid

/-- The bookkeeping table stays. -/
theorem table_stays (h : Effect execute s q s') (hsome : s.db.recorded.isSome = true) :
    s'.db.recorded.isSome = true := by
  cases h with
  | nothing => exact hsome
  | handed _ => exact hsome
  | table => rfl
  | set connection _ => exact hsome
  | @committed client writes db happly _ _ => exact (applyAll_spec happly).2.trans hsome

/-- The connections the query does not go to, and their blocks, are as they were. -/
theorem frame (h : Effect execute s q s') {client : ℕ} (hclient : q.client ≠ some client)
    (hhanded : s.connections client ≠ none) :
    s'.connections client = s.connections client ∧
      blocksOn client s'.log = blocksOn client s.log := by
  cases h with
  | nothing => exact ⟨rfl, rfl⟩
  | @handed other hnone =>
    have hne : client ≠ other := by
      rintro rfl
      exact hhanded hnone
    exact ⟨Function.update_of_ne hne _ _, rfl⟩
  | table => exact ⟨rfl, rfl⟩
  | @set other connection hother =>
    have hne : client ≠ other := by
      rintro rfl
      exact hclient hother
    exact ⟨Function.update_of_ne hne _ _, rfl⟩
  | @committed other writes db happly hother _ =>
    have hne : client ≠ other := by
      rintro rfl
      exact hclient hother
    refine ⟨Function.update_of_ne hne _ _, ?_⟩
    simp [blocksOn, Server.committed, Ne.symm hne]

/-- No connection is taken back. -/
theorem handed_stays (h : Effect execute s q s') {client : ℕ}
    (hhanded : s.connections client ≠ none) : s'.connections client ≠ none := by
  have hset (other : ℕ) (connection : Connection) :
      Function.update s.connections other (some connection) client ≠ none := by
    by_cases heq : client = other
    · subst heq
      simp
    · rw [Function.update_of_ne heq]
      exact hhanded
  cases h with
  | nothing => exact hhanded
  | handed _ => exact hset _ _
  | table => exact hhanded
  | set connection _ => exact hset _ _
  | committed _ _ _ => exact hset _ _

end Effect

/-- The others still know what they knew. -/
theorem Progress.Agrees.frame {m : Progress} {s s' : Server δ} (h : m.Agrees s)
    {q : Query} (heffect : Effect execute s q s')
    (hother : ∀ client ∈ m.clients, q.client ≠ some client) : m.Agrees s' := by
  constructor
  · intro client hclient
    exact heffect.handed_stays (h.handed client hclient)
  · intro client hclient state hstate
    rw [(heffect.frame (hother client hclient) (h.handed client hclient)).1]
    exact h.connection client hclient state hstate
  · intro client hclient hfailed
    rw [(heffect.frame (hother client hclient) (h.handed client hclient)).2]
    exact h.committed client hclient hfailed
  · exact fun hcreated => heffect.table_stays (h.created hcreated)
  · exact fun id hid => heffect.ids (h.known id hid)

/-! ## The runners -/

open Progress

/-- The server is somewhere on the way, and only runners have committed blocks. -/
structure OnTheWay (execute : Execute δ) (migrations : List Migration) (db₀ : Database δ)
    (k₀ : ℕ) (s : Server δ) : Prop where
  progressed : ∃ k, Progressed execute migrations db₀ k₀ k s
  handed : ∀ entry ∈ s.log, s.connections entry.1 ≠ none

/-- What a permitted query does keeps the server on the way. -/
theorem OnTheWay.step (hdistinct : (migrations.map Migration.id).Nodup) {s s' : Server δ}
    (h : OnTheWay execute migrations db₀ k₀ s) {l : Progress} (hagrees : l.Agrees s) {q : Query}
    (hpermits : l.Permits migrations q) (heffect : Effect execute s q s') :
    OnTheWay execute migrations db₀ k₀ s' := by
  have hstays : ∀ entry ∈ s.log, s'.connections entry.1 ≠ none :=
    fun entry hentry => heffect.handed_stays (h.handed entry hentry)
  rcases h.progressed with ⟨k, hprogressed⟩
  cases heffect with
  | nothing => exact ⟨⟨k, hprogressed⟩, hstays⟩
  | handed _ => exact ⟨⟨k, hprogressed.le, hprogressed.recorded, hprogressed.blocks,
      hprogressed.db⟩, hstays⟩
  | table => exact ⟨⟨k, hprogressed.withTable⟩, hstays⟩
  | set connection _ => exact ⟨⟨k, hprogressed.le, hprogressed.recorded, hprogressed.blocks,
      hprogressed.db⟩, hstays⟩
  | @committed client writes db happly hclient hcommits =>
    have hhanded : ∀ entry ∈ s.log ++ [(client, writes)],
        (s.committed client writes db).connections entry.1 ≠ none := by
      intro entry hentry
      rcases List.mem_append.mp hentry with hentry | hentry
      · exact hstays entry hentry
      · rw [List.mem_singleton.mp hentry]
        simp [Server.committed, Server.set]
    rcases hcommits with ⟨rfl, hblock⟩ | ⟨hwrites, hidle⟩
    · -- a `COMMIT`: the block is that of a migration
      rcases hpermits with ⟨hclients, -, earlier, migration, later, hsplit, hconnection, hknown⟩
      rw [hagrees.own_connection hclients hconnection] at hblock
      cases hblock
      exact ⟨⟨k + 1, hprogressed.commit hdistinct hsplit
        (fun m hm => hagrees.known _ (hknown m hm)) happly client⟩, hhanded⟩
    · -- a runner never writes outside of a block
      have hopen : l.clients = [client] ∧ ∃ writes, l.connection = some (.inBlock writes) := by
        cases q with
        | statement other sql =>
          cases hclient
          exact hpermits
        | insertId other id =>
          cases hclient
          exact hpermits
        | connect | createTable | selectIds | begin | commit | rollback | release => cases hwrites
      rcases hopen with ⟨hclients, writes, hconnection⟩
      rw [hagrees.own_connection hclients hconnection] at hidle
      cases hidle

/-! ## What an answer does to the runner's own part -/

variable {l : Progress} {s s' : Server δ}

/-- To agree with the server of a runner with one connection. -/
theorem Progress.agrees_of_client {client : ℕ} (hclients : l.clients = [client])
    (hhanded : s.connections client ≠ none)
    (hconnection : ∀ state ∈ l.connection, s.connections client = some state)
    (hcommitted : l.failed = false → blocksOn client s.log = l.committed)
    (hcreated : l.created = true → s.db.recorded.isSome = true)
    (hknown : ∀ id ∈ l.known, id ∈ s.db.ids) : l.Agrees s := by
  have honly : ∀ other ∈ l.clients, other = client := by
    intro other hother
    rw [hclients] at hother
    exact List.mem_singleton.mp hother
  constructor
  · intro other hother
    rw [honly other hother]
    exact hhanded
  · intro other hother
    rw [honly other hother]
    exact hconnection
  · intro other hother
    rw [honly other hother]
    exact hcommitted
  · exact hcreated
  · exact hknown

/-- After a query that rejected, little is known. -/
theorem Progress.Agrees.rejected (h : l.Agrees s) {q : Query} (heffect : Effect execute s q s') :
    l.rejected.Agrees s' := by
  constructor
  · intro client hclient
    exact heffect.handed_stays (h.handed client hclient)
  · intro _ _ state hstate
    cases hstate
  · intro _ _ hfailed
    cases hfailed
  · exact fun hcreated => heffect.table_stays (h.created hcreated)
  · exact fun id hid => heffect.ids (h.known id hid)

/-- The own connection changes, and no block is committed. -/
theorem Progress.Agrees.set (h : l.Agrees s) {client : ℕ} (hclients : l.clients = [client])
    (connection : Connection) (known : Option Connection)
    (hknown : ∀ state ∈ known, connection = state) :
    ({ l with connection := known } : Progress).Agrees (s.set client connection) := by
  refine agrees_of_client hclients ?_ ?_ (h.committed client (own_client hclients)) h.created
    h.known
  · simp [Server.set]
  · intro state hstate
    rw [← hknown state hstate]
    exact Function.update_self _ _ _

/-- A write within the own block. -/
theorem Progress.Agrees.wrote (h : l.Agrees s) {client : ℕ} {write : Write}
    (hclients : l.clients = [client]) (hblock : ∃ writes, l.connection = some (.inBlock writes))
    (hwrites : Writes execute s client write s') : (l.wrote write).Agrees s' := by
  rcases hblock with ⟨writes, hconnection⟩
  have hsame := h.own_connection hclients hconnection
  rcases hwrites with ⟨writes', hblock, -, rfl⟩ | ⟨hidle, -⟩
  · rw [hsame] at hblock
    cases hblock
    have hwrote : l.wrote write = { l with connection := some (.inBlock (writes ++ [write])) } := by
      simp only [Progress.wrote, hconnection]
    rw [hwrote]
    refine h.set hclients _ _ ?_
    intro state hstate
    exact Option.some.inj hstate
  · rw [hsame] at hidle
    cases hidle

/-- The own block is committed. -/
theorem Progress.Agrees.commits (h : l.Agrees s) {client : ℕ} {writes : List Write}
    (hclients : l.clients = [client]) (hconnection : l.connection = some (.inBlock writes))
    (hcommits : Commits execute s client s') : l.commits.Agrees s' := by
  have hsame := h.own_connection hclients hconnection
  rcases hcommits with ⟨writes', db, hblock, happly, rfl⟩
  rw [hsame] at hblock
  cases hblock
  rcases applyAll_spec happly with ⟨hids, hrecorded⟩
  have hcommit : l.commits = { l with
      connection := some .idle, committed := l.committed ++ [writes]
      known := l.known ++ recordIds writes } := by
    simp only [Progress.commits, hconnection]
  rw [hcommit]
  refine agrees_of_client hclients ?_ ?_ ?_ ?_ ?_
  · simp [Server.committed, Server.set]
  · intro state hstate
    cases hstate
    exact Function.update_self _ _ _
  · intro hfailed
    show blocksOn client (s.log ++ [(client, writes)]) = l.committed ++ [writes]
    rw [← h.committed client (own_client hclients) hfailed]
    simp [blocksOn]
  · exact fun hcreated => hrecorded.trans (h.created hcreated)
  · intro id hid
    show id ∈ db.ids
    rw [hids]
    rcases List.mem_append.mp hid with hold | hnew
    · exact List.mem_append_right _ (h.known id hold)
    · exact List.mem_append_left _ (List.mem_reverse.mpr hnew)

/-- A permitted query and its answer keep the runner in agreement with the server. -/
theorem Progress.Agrees.advance (hway : OnTheWay execute migrations db₀ k₀ s) (h : l.Agrees s)
    {q : Query} {answer : Answer q} (hpermits : l.Permits migrations q)
    (hreturns : returns execute q s answer s') : (l.advance q answer).Agrees s' := by
  have heffect := effect_of_returns hreturns
  cases q with
  | connect =>
    obtain rfl : l = fresh := hpermits
    cases answer with
    | error e => exact h.rejected heffect
    | ok client =>
      rcases hreturns with ⟨hnone, rfl⟩
      have hclients : (fresh.advance .connect (.ok client)).clients = [client] := rfl
      refine agrees_of_client hclients ?_ ?_ ?_ ?_ ?_
      · simp [Server.set]
      · intro state hstate
        cases hstate
        exact Function.update_self _ _ _
      · -- a connection nobody had has committed nothing
        intro _
        refine List.map_eq_nil_iff.mpr (List.filter_eq_nil_iff.mpr ?_)
        intro entry hentry hclient
        rw [decide_eq_true_eq] at hclient
        exact hway.handed entry hentry (hclient ▸ hnone)
      · intro hcreated
        cases hcreated
      · intro id hid
        cases hid
  | createTable client =>
    cases answer with
    | error e => exact h.rejected heffect
    | ok _ =>
      rcases hreturns with ⟨-, rfl⟩
      refine ⟨h.handed, h.connection, h.committed, fun _ => rfl, ?_⟩
      intro id hid
      show id ∈ s.db.withTable.ids
      rw [Database.withTable_ids]
      exact h.known id hid
  | selectIds client =>
    cases answer with
    | error e => exact h.rejected heffect
    | ok rows =>
      rcases hreturns with ⟨rfl, -, table, htable, hrows⟩
      refine ⟨h.handed, h.connection, h.committed, h.created, ?_⟩
      intro id hid
      rcases List.mem_append.mp hid with hread | hold
      · rw [Database.ids, htable]
        exact hrows.mem_iff.mp hread
      · exact h.known id hold
  | begin client =>
    cases answer with
    | error e => exact h.rejected heffect
    | ok _ =>
      rcases hreturns with ⟨-, rfl⟩
      exact h.set hpermits _ _ fun state hstate => Option.some.inj hstate
  | statement client sql =>
    cases answer with
    | error e => exact h.rejected heffect
    | ok _ => exact h.wrote hpermits.1 hpermits.2 hreturns
  | insertId client id =>
    cases answer with
    | error e => exact h.rejected heffect
    | ok _ => exact h.wrote hpermits.1 hpermits.2 hreturns
  | commit client =>
    cases answer with
    | error e => exact h.rejected heffect
    | ok _ =>
      rcases hpermits with ⟨hclients, -, _, _, _, -, hconnection, -⟩
      exact h.commits hclients hconnection hreturns
  | rollback client =>
    cases answer with
    | error e => exact h.rejected heffect
    | ok _ =>
      obtain rfl : s' = s.set client .idle := hreturns
      exact h.set hpermits _ _ fun state hstate => Option.some.inj hstate
  | release client =>
    obtain rfl : s' = s.set client .released := hreturns
    refine h.set hpermits _ _ ?_
    intro state hstate
    cases hstate

/-! ## The ownership -/

/-- A connection is handed to a runner by `connect` only. -/
theorem Progress.mem_advance_clients {q : Query} {answer : Answer q} {client : ℕ} :
    client ∈ (l.advance q answer).clients ↔
      client ∈ l.clients ∨ (⟨q, answer⟩ : Σ q, Answer q) = ⟨.connect, .ok client⟩ := by
  have hother : ∀ {l' : Progress}, l'.clients = l.clients → q ≠ .connect →
      (client ∈ l'.clients ↔
        client ∈ l.clients ∨ (⟨q, answer⟩ : Σ q, Answer q) = ⟨.connect, .ok client⟩) := by
    intro l' hsame hq
    rw [hsame, or_iff_left]
    rintro ⟨⟩
    exact hq rfl
  have hwrote (write : Write) : (l.wrote write).clients = l.clients := by
    unfold Progress.wrote
    split <;> rfl
  have hcommits : l.commits.clients = l.clients := by
    unfold Progress.commits
    split <;> rfl
  cases q with
  | connect =>
    cases answer with
    | error e =>
      rw [or_iff_left (by rintro ⟨⟩)]
      rfl
    | ok other =>
      show client ∈ other :: l.clients ↔ _
      rw [List.mem_cons, or_comm]
      refine or_congr_right ⟨?_, ?_⟩
      · rintro rfl
        rfl
      · rintro ⟨⟩
        rfl
  | statement other sql =>
    cases answer with
    | error e => exact hother rfl (by rintro ⟨⟩)
    | ok _ => exact hother (hwrote _) (by rintro ⟨⟩)
  | insertId other id =>
    cases answer with
    | error e => exact hother rfl (by rintro ⟨⟩)
    | ok _ => exact hother (hwrote _) (by rintro ⟨⟩)
  | commit other =>
    cases answer with
    | error e => exact hother rfl (by rintro ⟨⟩)
    | ok _ => exact hother hcommits (by rintro ⟨⟩)
  | createTable other | selectIds other | begin other | rollback other =>
    cases answer <;> exact hother rfl (by rintro ⟨⟩)
  | release other => exact hother rfl (by rintro ⟨⟩)

/-- What a query goes to, the runner has. -/
theorem Progress.Permits.mem_clients {q : Query} (h : l.Permits migrations q) {client : ℕ}
    (hclient : q.client = some client) : client ∈ l.clients := by
  have hone : l.clients = [client] := by
    cases q with
    | connect => cases hclient
    | statement other sql | insertId other id | commit other =>
      cases hclient
      exact h.1
    | createTable other | selectIds other | begin other | rollback other | release other =>
      cases hclient
      exact h
  exact own_client hone

/-- A query of one runner leaves the others as they are. -/
theorem Progress.Agrees.other {m : Progress} (hm : m.Agrees s) (hapart : l.Apart m) {q : Query}
    {answer : Answer q} (hpermits : l.Permits migrations q)
    (hreturns : returns execute q s answer s') :
    m.Agrees s' ∧ (l.advance q answer).Apart m := by
  constructor
  · refine hm.frame (effect_of_returns hreturns) ?_
    intro client hmem hclient
    exact hapart client (hpermits.mem_clients hclient) hmem
  · intro client hclient hmem
    rcases mem_advance_clients.mp hclient with hold | hnew
    · exact hapart client hold hmem
    · -- a connection of another runner is not handed out
      cases hnew
      exact hm.handed client hmem hreturns.1

/-- Runners own their connections and the blocks committed there. -/
def runners (execute : Execute δ) (k₀ : ℕ) (db₀ : Database δ)
    (hdistinct : (migrations.map Migration.id).Nodup) :
    Ownership (machine execute migrations) Progress where
  inv := OnTheWay execute migrations db₀ k₀
  agrees := Progress.Agrees
  apart := Progress.Apart
  permits := Progress.Permits migrations
  advance := Progress.advance
  fresh := Progress.fresh
  answers h := h
  apart_symm h client hclient hmem := h client hmem hclient
  fresh_agrees s := ⟨by rintro _ ⟨⟩, by rintro _ ⟨⟩, by rintro _ ⟨⟩, by rintro ⟨⟩, by rintro _ ⟨⟩⟩
  fresh_apart l := by rintro _ ⟨⟩
  step hinv hagrees hpermits hreturns :=
    ⟨hinv.step hdistinct hagrees hpermits (effect_of_returns hreturns),
      hagrees.advance hinv hpermits hreturns,
      fun _ hm hapart => hm.other hapart hpermits hreturns⟩

end XClone.Identity.Migrations
