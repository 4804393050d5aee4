import XClone.Identity.MigrationRuns
import XClone.Lib.Alone

/-!
# XClone.Identity.MigrationSafety — the migration runner is prefix-safe

A runner keeps to what `runners` permits it, and one that returns knows every migration
to be recorded (`keeps_applyMigrations`). So whatever fails and however runners
interleave, the recorded ids are a prefix of the list; and once a runner has returned, the
database is the one a single runner leaves (`migrations_are_prefix_safe`).
-/

namespace XClone.Identity.Migrations

open Js Interleaving Relational Ownership Program

variable {δ : Type} {execute : Execute δ} {migrations : List Migration} {db₀ : Database δ}
  {k₀ : ℕ} {hdistinct : (migrations.map Migration.id).Nodup} {client : ℕ} {l : Progress}

/-! ## One runner -/

/-- A promise that rejects throws where it is awaited. -/
theorem keeps_awaited {α : Type} {promise : Runner (Except QueryError α)}
    {Q : Progress → Except QueryError α → Prop}
    (h : (runners execute k₀ db₀ hdistinct).Keeps (fun l out => match out with
      | .ok answer => Q l answer
      | .error e => Q l (.error e)) l promise) :
    (runners execute k₀ db₀ hdistinct).Keeps Q l (awaited promise) := by
  refine .bind (h.mono ?_)
  intro l out hout
  cases out with
  | error e => exact hout
  | ok answer =>
    cases answer with
    | error e => exact hout
    | ok value => exact hout

/-- The runner is in a block, with these writes made. -/
def Progress.inBlock (l : Progress) (writes : List Write) : Progress :=
  { l with connection := some (.inBlock writes) }

theorem Progress.wrote_inBlock (writes : List Write) (write : Write) :
    (l.inBlock writes).wrote write = l.inBlock (writes ++ [write]) := rfl

theorem Progress.commits_inBlock (writes : List Write) :
    (l.inBlock writes).commits = { l with
      connection := some .idle, committed := l.committed ++ [writes]
      known := l.known ++ recordIds writes } := rfl

/-- The statements of a migration are written, one after the other. -/
theorem keeps_runStatements (hclients : l.clients = [client]) (writes : List Write)
    (statements : List JsString) :
    (runners execute k₀ db₀ hdistinct).Keeps (fun l' out => match out with
      | .ok () => l' = l.inBlock (writes ++ statements.map .statement)
      | .error _ => l'.clients = [client]) (l.inBlock writes) (runStatements client statements) := by
  induction statements generalizing writes with
  | nil =>
    show l.inBlock writes = _
    rw [List.map_nil, List.append_nil]
  | cons statement rest ih =>
    refine .bind (keeps_awaited (keeps_perform ⟨hclients, writes, rfl⟩ ?_))
    intro answer
    cases answer with
    | error e => exact hclients
    | ok _ =>
      refine (ih (writes ++ [.statement statement])).mono ?_
      intro l' out hout
      cases out with
      | error e => exact hout
      | ok _ =>
        refine hout.trans ?_
        rw [List.append_assoc]
        rfl

/-- One migration is committed with its record, or its block is rolled back. -/
theorem keeps_applyMigration {earlier later : List Migration} {migration : Migration}
    (hsplit : migrations = earlier ++ migration :: later) (hclients : l.clients = [client])
    (hfailed : l.failed = false) (hearlier : ∀ m ∈ earlier, m.id ∈ l.known) :
    (runners execute k₀ db₀ hdistinct).Keeps (fun l' out => match out with
      | .ok () => l' = { l with
          connection := some .idle, committed := l.committed ++ [blockOf migration]
          known := l.known ++ [migration.id] }
      | .error _ => l'.clients = [client]) l (applyMigration client migration) := by
  refine .bind (keeps_awaited (keeps_perform hclients ?_))
  intro answer
  cases answer with
  | error e => exact hclients
  | ok _ =>
    have hrollback : ∀ {l' : Progress} {error : QueryError}, l'.clients = [client] →
        (runners execute k₀ db₀ hdistinct).Keeps (fun l' out => match out with
          | .ok () => l' = { l with
              connection := some .idle, committed := l.committed ++ [blockOf migration]
              known := l.known ++ [migration.id] }
          | .error _ => l'.clients = [client]) l'
          (do
            awaited (perform (Query.rollback client))
            failed error : Runner Unit) := by
      intro l' error hl'
      refine .bind (keeps_awaited (keeps_perform hl' ?_))
      intro answer
      cases answer with
      | error e => exact hl'
      | ok _ => exact hl'
    refine .tryCatch (.bind ((keeps_runStatements hclients [] _).mono ?_))
    intro l' out hstatements
    cases out with
    | error e => exact hrollback hstatements
    | ok _ =>
      obtain rfl : l' = l.inBlock _ := hstatements
      refine .bind (keeps_awaited (keeps_perform ⟨hclients, _, rfl⟩ ?_))
      intro answer
      cases answer with
      | error e => exact hrollback hclients
      | ok _ =>
        refine keeps_awaited (keeps_perform ⟨hclients, hfailed, earlier, migration, later,
          hsplit, rfl, hearlier⟩ ?_)
        intro answer
        cases answer with
        | error e => exact hrollback hclients
        | ok done =>
          cases done
          show ((l.inBlock _).wrote (.record migration.id)).commits = _
          rw [Progress.wrote_inBlock, Progress.commits_inBlock, List.nil_append]
          exact congrArg (fun ids => { l with
            connection := some .idle, committed := l.committed ++ [blockOf migration]
            known := l.known ++ ids : Progress }) (recordIds_blockOf migration)

/-- A runner that has returned: it knows every migration to be recorded, and reports what
it committed. -/
structure Finished (migrations : List Migration) (l : Progress) (applied : List JsString) :
    Prop where
  client : ∃ client, l.clients = [client]
  failed : l.failed = false
  created : l.created = true
  known : ∀ m ∈ migrations, m.id ∈ l.known
  applied : applied = l.committed.flatMap recordIds

/-- The loop: the migrations passed are recorded, and those this runner committed are in
`applied`. What other runners have committed since `done` was read is not in it; such a
migration fails to commit a second time. -/
theorem keeps_applyPending {done : List JsString} {earlier rest : List Migration}
    {applied : List JsString} (hsplit : migrations = earlier ++ rest)
    (hclients : l.clients = [client]) (hfailed : l.failed = false) (hcreated : l.created = true)
    (hdone : ∀ id ∈ done, id ∈ l.known) (hearlier : ∀ m ∈ earlier, m.id ∈ l.known)
    (happlied : applied = l.committed.flatMap recordIds) :
    (runners execute k₀ db₀ hdistinct).Keeps (fun l' out => l'.clients = [client] ∧
      ∀ applied', out = .ok applied' → Finished migrations l' applied') l
      (applyPending client done rest applied) := by
  induction rest generalizing l earlier applied with
  | nil =>
    refine ⟨hclients, ?_⟩
    rintro applied' ⟨⟩
    rw [List.append_nil] at hsplit
    subst hsplit
    exact ⟨⟨client, hclients⟩, hfailed, hcreated, hearlier, happlied⟩
  | cons migration rest ih =>
    have hnext : migrations = (earlier ++ [migration]) ++ rest := by
      rw [List.append_assoc]
      exact hsplit
    unfold applyPending
    split
    · rename_i hmem
      refine ih hnext hclients hfailed hcreated hdone ?_ happlied
      intro m hm
      rcases List.mem_append.mp hm with hm | hm
      · exact hearlier m hm
      · rw [List.mem_singleton.mp hm]
        exact hdone _ hmem
    · refine .bind ((keeps_applyMigration hsplit hclients hfailed hearlier).mono ?_)
      intro l' out hout
      cases out with
      | error e =>
        refine ⟨hout, ?_⟩
        rintro _ ⟨⟩
      | ok _ =>
        obtain rfl := hout
        refine ih hnext hclients hfailed hcreated ?_ ?_ ?_
        · exact fun id hid => List.mem_append_left _ (hdone id hid)
        · intro m hm
          rcases List.mem_append.mp hm with hm | hm
          · exact List.mem_append_left _ (hearlier m hm)
          · rw [List.mem_singleton.mp hm]
            exact List.mem_append_right _ (List.mem_singleton_self _)
        · show applied ++ [migration.id] = (l.committed ++ [blockOf migration]).flatMap recordIds
          rw [List.flatMap_append, happlied]
          simp

/-- What a runner ends in. -/
def Ends (migrations : List Migration) (l : Progress) (out : Except QueryError (List JsString)) :
    Prop :=
  ∀ applied, out = .ok applied → Finished migrations l applied

theorem keeps_applyMigrations :
    (runners execute k₀ db₀ hdistinct).Keeps (Ends migrations) .fresh
      (applyMigrations migrations) := by
  refine .bind (keeps_awaited (keeps_perform rfl ?_))
  intro answer
  cases answer with
  | error e => rintro _ ⟨⟩
  | ok client =>
    have hrelease : ∀ {l : Progress} {out : Except QueryError (List JsString)},
        l.clients = [client] ∧ (∀ applied, out = .ok applied → Finished migrations l applied) →
        (runners execute k₀ db₀ hdistinct).Keeps (fun l end' => match end' with
          | .ok () => Ends migrations l out
          | .error e => Ends migrations l (.error e)) l (perform (Query.release client)) := by
      intro l out hl
      refine keeps_perform hl.1 ?_
      intro answer applied hout
      have hfinished := hl.2 applied hout
      exact ⟨hfinished.client, hfinished.failed, hfinished.created, hfinished.known,
        hfinished.applied⟩
    refine .tryFinally (Keeps.mono (fun _ _ => hrelease) ?_)
    refine .bind (keeps_awaited (keeps_perform rfl ?_))
    intro answer
    cases answer with
    | error e => exact ⟨rfl, by rintro _ ⟨⟩⟩
    | ok _ =>
      refine .bind (keeps_awaited (keeps_perform rfl ?_))
      intro answer
      cases answer with
      | error e => exact ⟨rfl, by rintro _ ⟨⟩⟩
      | ok rows =>
        have hsplit : migrations = [] ++ migrations := rfl
        refine keeps_applyPending hsplit rfl rfl rfl ?_ ?_ rfl
        · exact fun id hid => List.mem_append_left _ hid
        · rintro _ ⟨⟩

/-! ## Any number of runners -/

section Runs

variable {τ : List (Event Unit QueryError Query Answer)}
  {c : Config (Server δ) Unit (List JsString) QueryError Query Answer}

/-- Nothing has happened. -/
theorem onTheWay_fresh (hrecorded : RecordsPrefix migrations k₀ db₀) :
    OnTheWay execute migrations db₀ k₀ (.fresh db₀) := by
  refine ⟨⟨k₀, le_rfl, hrecorded, ?_, Or.inl ⟨rfl, rfl⟩⟩, by rintro _ ⟨⟩⟩
  rw [List.drop_eq_nil_of_le (List.length_take_le _ _)]
  rfl

theorem owned_runners (hdistinct : (migrations.map Migration.id).Nodup)
    (hrecorded : RecordsPrefix migrations k₀ db₀)
    (hrun : Run (machine execute migrations) (.initial (.fresh db₀)) τ c) :
    (runners execute k₀ db₀ hdistinct).Owned (fun _ => Ends migrations) τ c :=
  owned_of_run (fun _ => keeps_applyMigrations) (onTheWay_fresh hrecorded) hrun

/-- A connection a runner has was handed to it. -/
theorem handed_of_mem_replay {client : ℕ}
    (h : client ∈ ((runners execute k₀ db₀ hdistinct).replay τ).clients) :
    ∃ i, .returned i .connect (.ok client) ∈ τ := by
  induction τ using List.reverseRecOn with
  | nil => cases h
  | append_singleton τ e ih =>
    have hold : client ∈ ((runners execute k₀ db₀ hdistinct).replay τ).clients →
        ∃ i, .returned i .connect (.ok client) ∈ τ ++ [e] := by
      intro hmem
      rcases ih hmem with ⟨i, hi⟩
      exact ⟨i, List.mem_append_left _ hi⟩
    cases e with
    | start i request =>
      rw [replay_start] at h
      exact hold h
    | threw i q error =>
      rw [replay_threw] at h
      exact hold h
    | returned i q answer =>
      rw [replay_returned] at h
      rcases Progress.mem_advance_clients.mp h with hmem | hnew
      · exact hold hmem
      · cases hnew
        exact ⟨i, List.mem_append_right _ (List.mem_singleton_self _)⟩

/-- A query goes to a connection of the runner that makes it. -/
theorem client_mem_replay (hdistinct : (migrations.map Migration.id).Nodup)
    (hrecorded : RecordsPrefix migrations k₀ db₀)
    (hrun : Run (machine execute migrations) (.initial (.fresh db₀)) τ c) {i client : ℕ}
    {q : Query} {answer : Answer q} (hmem : .returned i q answer ∈ τ)
    (hclient : q.client = some client) :
    client ∈ ((runners execute k₀ db₀ hdistinct).replay ((World.mk τ c.store).own i)).clients := by
  refine recalled (O := runners execute k₀ db₀ hdistinct) (Q := fun _ => Ends migrations)
    (P := fun q _ l => ∀ client, q.client = some client → client ∈ l.clients)
    (fun _ => keeps_applyMigrations) ?_ ?_ (onTheWay_fresh hrecorded) hrun hmem client hclient
  · intro l q answer hpermits client hclient
    exact Progress.mem_advance_clients.mpr (Or.inl (hpermits.mem_clients hclient))
  · intro l q answer q' answer' hhas client hclient
    exact Progress.mem_advance_clients.mpr (Or.inl (hhas client hclient))

/-- Where a runner has returned, all migrations are recorded, and the database is what
the blocks of those that were not have made of it. -/
theorem database_of_finished (hdistinct : (migrations.map Migration.id).Nodup)
    (hrecorded : RecordsPrefix migrations k₀ db₀)
    (hrun : Run (machine execute migrations) (.initial (.fresh db₀)) τ c) {i : ℕ}
    {applied : List JsString} (hi : c.threads i = some ⟨(), .done applied⟩) :
    applyAll execute ((migrations.drop k₀).map blockOf).flatten db₀.withTable =
      some c.store.db := by
  have howned := owned_runners hdistinct hrecorded hrun
  have hfinished : Finished migrations _ applied := howned.done hi applied rfl
  have hagrees : Progress.Agrees _ c.store := howned.agrees i
  rcases howned.inv.progressed with ⟨k, hprogressed⟩
  -- every id is among the `k` recorded ones
  have hall : migrations.take k = migrations := by
    refine List.take_of_length_le ?_
    have hsub : migrations.map Migration.id ⊆ c.store.db.ids := by
      intro id hid
      rcases List.mem_map.mp hid with ⟨m, hm, rfl⟩
      exact hagrees.known _ (hfinished.known m hm)
    have hcount := (List.subperm_of_subset hdistinct hsub).length_le
    rw [hprogressed.recorded.2.length_eq, List.length_map, List.length_map,
      List.length_take] at hcount
    omega
  have hblocks := hprogressed.blocks
  rw [hall] at hblocks
  rw [← hblocks]
  rcases hprogressed.db with ⟨hlog, hdb⟩ | hdb
  · -- nothing was left to do but the table, and that is there
    have htable := Database.withTable_eq_self (hagrees.created hfinished.created)
    rw [hlog, hdb] at *
    rw [htable]
    rfl
  · exact hdb

end Runs

/-! ## A single runner -/

section Single

variable {i : ℕ} {s : Server δ}

/-- A promise that is fulfilled. -/
theorem alone_awaited {α : Type} {promise : Runner (Except QueryError α)} {value : α}
    {s' : Server δ} {τ : List (Event Unit QueryError Query Answer)}
    (h : Alone (machine execute migrations) i s promise τ s' (.done (.ok value))) :
    Alone (machine execute migrations) i s (awaited promise) τ s' (.done value) := by
  have hbind := h.bind (f := ofExcept) (.nil s' _)
  rwa [List.append_nil] at hbind

theorem alone_runStatements (migrations : List Migration) {writes : List Write} {statements : List JsString}
    (hblock : s.connections client = some (.inBlock writes))
    (happly : (applyAll execute (writes ++ statements.map .statement) s.db).isSome) :
    ∃ τ s', Alone (machine execute migrations) i s (runStatements client statements) τ s'
        (.done ()) ∧
      s'.connections client = some (.inBlock (writes ++ statements.map .statement)) ∧
      s'.db = s.db := by
  induction statements generalizing s writes with
  | nil =>
    refine ⟨[], s, .nil _ _, ?_, rfl⟩
    rw [hblock, List.map_nil, List.append_nil]
  | cons statement rest ih =>
    have happly' : (applyAll execute ((writes ++ [.statement statement]) ++
        rest.map .statement) s.db).isSome := by
      rw [List.append_assoc]
      exact happly
    have hfirst : (applyAll execute (writes ++ [.statement statement]) s.db).isSome := by
      rw [applyAll_append] at happly'
      exact Option.isSome_of_isSome_bind happly'
    have hquery : Alone (machine execute migrations) i s
        (awaited (perform (Query.statement client statement)))
        [.returned i (.statement client statement) (.ok ())]
        (s.set client (.inBlock (writes ++ [.statement statement]))) (.done ()) :=
      alone_awaited (.perform (Or.inl ⟨writes, hblock, hfirst, rfl⟩))
    rcases ih (s := s.set client (.inBlock (writes ++ [.statement statement])))
      (Server.set_connections _ _ _) happly' with ⟨τ, s', hrest, hblock', hdb⟩
    refine ⟨_, s', hquery.bind hrest, ?_, hdb⟩
    rw [hblock', List.append_assoc]
    rfl

/-- The block of a migration that can commit does. -/
theorem alone_applyMigration (migrations : List Migration) {migration : Migration}
    {db : Database δ} (hidle : s.connections client = some .idle)
    (happly : applyAll execute (blockOf migration) s.db = some db) :
    ∃ τ s', Alone (machine execute migrations) i s (applyMigration client migration) τ s'
        (.done ()) ∧
      s'.connections client = some .idle ∧ s'.db = db := by
  have hbegin : Alone (machine execute migrations) i s (awaited (perform (Query.begin client)))
      [.returned i (.begin client) (.ok ())] (s.set client (.inBlock [])) (.done ()) :=
    alone_awaited (.perform ⟨hidle, rfl⟩)
  have hsome : (applyAll execute (blockOf migration) s.db).isSome :=
    Option.isSome_of_eq_some happly
  have hstatements : (applyAll execute ([] ++ (splitStatements migration.sql).map .statement)
      s.db).isSome := by
    rw [blockOf, applyAll_append] at hsome
    exact Option.isSome_of_isSome_bind hsome
  rcases alone_runStatements migrations (i := i)
    (s := s.set client (.inBlock [])) (Server.set_connections _ _ _) hstatements with
    ⟨τ, s₁, hrun, hblock, hdb⟩
  rw [List.nil_append] at hblock
  have hinsert : Alone (machine execute migrations) i s₁
      (awaited (perform (Query.insertId client migration.id)))
      [.returned i (.insertId client migration.id) (.ok ())]
      (s₁.set client (.inBlock (blockOf migration))) (.done ()) := by
    refine alone_awaited (.perform (Or.inl ⟨_, hblock, ?_, rfl⟩))
    rw [hdb]
    exact hsome
  have hcommit : Alone (machine execute migrations) i
      (s₁.set client (.inBlock (blockOf migration))) (awaited (perform (Query.commit client)))
      [.returned i (.commit client) (.ok ())]
      ((s₁.set client (.inBlock (blockOf migration))).committed client (blockOf migration) db)
      (.done ()) := by
    refine alone_awaited (.perform ⟨blockOf migration, db, Server.set_connections _ _ _, ?_, rfl⟩)
    show applyAll execute (blockOf migration) s₁.db = some db
    rw [hdb]
    exact happly
  exact ⟨_, _, hbegin.bind (hrun.bind (hinsert.bind hcommit)).tryCatch,
    Function.update_self _ _ _, rfl⟩

/-- The loop commits what is not done. -/
theorem alone_applyPending (migrations : List Migration) {done : List JsString}
    {rest : List Migration} (applied : List JsString) {db : Database δ}
    (hidle : s.connections client = some .idle)
    (happly : applyAll execute ((rest.filter (·.id ∉ done)).map blockOf).flatten s.db = some db) :
    ∃ τ s' applied', Alone (machine execute migrations) i s
        (applyPending client done rest applied) τ s' (.done applied') ∧ s'.db = db := by
  induction rest generalizing s applied with
  | nil =>
    cases happly
    exact ⟨[], s, applied, .nil _ _, rfl⟩
  | cons migration rest ih =>
    unfold applyPending
    split
    · rename_i hmem
      rw [List.filter_cons_of_neg (by simpa using hmem)] at happly
      exact ih applied hidle happly
    · rename_i hmem
      rw [List.filter_cons_of_pos (by simpa using hmem), List.map_cons, List.flatten_cons,
        applyAll_append] at happly
      rcases Option.bind_eq_some_iff.mp happly with ⟨db₁, hfirst, hrest⟩
      rcases alone_applyMigration migrations (i := i) hidle hfirst with
        ⟨τ, s₁, hmigration, hidle₁, rfl⟩
      rcases ih (applied ++ [migration.id]) hidle₁ hrest with
        ⟨τ', s', applied', halone, hdb⟩
      exact ⟨_, s', applied', hmigration.bind halone, hdb⟩

/-- Where the blocks of the migrations not recorded can be committed, a runner alone
commits them. -/
theorem alone_applyMigrations {db : Database δ}
    (happly : applyAll execute
      ((migrations.filter (·.id ∉ db₀.ids)).map blockOf).flatten db₀.withTable = some db) :
    ∃ τ s' applied, Alone (machine execute migrations) i (.fresh db₀)
      (applyMigrations migrations) τ s' (.done applied) ∧ s'.db = db := by
  have hconnect : Alone (machine execute migrations) i (.fresh db₀)
      (awaited (perform Query.connect)) [.returned i .connect (.ok 0)]
      ((Server.fresh db₀).set 0 .idle) (.done 0) :=
    alone_awaited (.perform ⟨rfl, rfl⟩)
  have hcreate : Alone (machine execute migrations) i ((Server.fresh db₀).set 0 .idle)
      (awaited (perform (Query.createTable 0))) [.returned i (.createTable 0) (.ok ())]
      ((Server.fresh db₀.withTable).set 0 .idle) (.done ()) :=
    alone_awaited (.perform ⟨Server.set_connections _ _ _, rfl⟩)
  have hselect : Alone (machine execute migrations) i ((Server.fresh db₀.withTable).set 0 .idle)
      (awaited (perform (Query.selectIds 0))) [.returned i (.selectIds 0) (.ok db₀.ids)]
      ((Server.fresh db₀.withTable).set 0 .idle) (.done db₀.ids) := by
    refine alone_awaited (.perform ⟨rfl, Server.set_connections _ _ _, _, rfl, ?_⟩)
    rw [← Database.withTable_ids db₀]
    exact List.Perm.refl _
  have hidle : ((Server.fresh db₀.withTable).set 0 .idle).connections 0 = some .idle :=
    Server.set_connections _ _ _
  rcases alone_applyPending migrations (i := i) [] hidle happly with
    ⟨τ, s', applied, hpending, hdb⟩
  have hrelease : Alone (machine execute migrations) i s' (perform (Query.release 0))
      [.returned i (.release 0) ()] (s'.set 0 .released) (.done ()) :=
    .perform rfl
  exact ⟨_, _, applied,
    hconnect.bind ((hcreate.bind (hselect.bind hpending)).tryFinally hrelease), hdb⟩

/-- The migrations not recorded are those after the prefix. -/
theorem filter_not_recorded (hdistinct : (migrations.map Migration.id).Nodup)
    (hrecorded : RecordsPrefix migrations k₀ db₀) :
    migrations.filter (·.id ∉ db₀.ids) = migrations.drop k₀ := by
  have hmem : ∀ id, id ∈ db₀.ids ↔ id ∈ (migrations.take k₀).map Migration.id :=
    fun _ => hrecorded.2.mem_iff
  rw [← List.take_append_drop k₀ migrations, List.map_append] at hdistinct
  have hdisjoint := (List.nodup_append.mp hdistinct).2.2
  have hdone : (migrations.take k₀).filter (·.id ∉ db₀.ids) = [] := by
    refine List.filter_eq_nil_iff.mpr ?_
    intro m hm
    simpa using (hmem m.id).mpr (List.mem_map_of_mem hm)
  have hrest : (migrations.drop k₀).filter (·.id ∉ db₀.ids) = migrations.drop k₀ := by
    refine List.filter_eq_self.mpr ?_
    intro m hm
    rw [decide_eq_true_eq, hmem]
    exact fun hold => hdisjoint _ hold _ (List.mem_map_of_mem hm) rfl
  calc migrations.filter (·.id ∉ db₀.ids)
      = (migrations.take k₀ ++ migrations.drop k₀).filter (·.id ∉ db₀.ids) := by
        rw [List.take_append_drop]
    _ = migrations.drop k₀ := by rw [List.filter_append, hdone, hrest, List.nil_append]

end Single

/-! ## Prefix safety -/

/-- `db` is what a single run of `applyMigrations` makes of `db₀`: nobody else is there,
and no query rejects, for the run would throw. -/
def Uninterrupted (execute : Execute δ) (migrations : List Migration) (db₀ db : Database δ) :
    Prop :=
  ∃ τ c applied, Run (machine execute migrations) (.initial (.fresh db₀)) τ c ∧
    (∀ e ∈ τ, e.thread = 0) ∧ c.threads 0 = some ⟨(), .done applied⟩ ∧ c.store.db = db

theorem uninterrupted_iff (hdistinct : (migrations.map Migration.id).Nodup)
    (hrecorded : RecordsPrefix migrations k₀ db₀) {db : Database δ} :
    Uninterrupted execute migrations db₀ db ↔
      applyAll execute ((migrations.drop k₀).map blockOf).flatten db₀.withTable = some db := by
  constructor
  · rintro ⟨τ, c, applied, hrun, -, hdone, rfl⟩
    exact database_of_finished hdistinct hrecorded hrun hdone
  · intro happly
    rw [← filter_not_recorded hdistinct hrecorded] at happly
    rcases alone_applyMigrations (i := 0) happly with ⟨τ, s', applied, halone, hdb⟩
    have hstart : Run (machine execute migrations) (.initial (.fresh db₀)) ([] ++ [.start 0 ()])
        _ := (Run.nil _).snoc (.start 0 () rfl)
    rcases halone.run (Config.set_threads_self _ _ _ _) rfl with ⟨c, hrun, hdone, hstore⟩
    refine ⟨_, c, applied, hstart.append hrun, ?_, hdone, ?_⟩
    · intro e he
      rcases List.mem_append.mp he with he | he
      · rw [List.mem_singleton.mp he]
        rfl
      · exact halone.thread he
    · rw [hstore]
      exact hdb

/-- Any number of runners, started at any times, any of their queries failing. At every
moment a prefix of the list is recorded, and the blocks of its migrations, statements and
record, are what has been committed, each once and in order. A runner that returns reports
what was committed on its connection, which is its own; and from then on the database is
the one an uninterrupted run leaves. -/
theorem migrations_are_prefix_safe (hdistinct : (migrations.map Migration.id).Nodup)
    (hrecorded : RecordsPrefix migrations k₀ db₀)
    {τ : List (Event Unit QueryError Query Answer)}
    {c : Config (Server δ) Unit (List JsString) QueryError Query Answer}
    (hrun : Run (machine execute migrations) (.initial (.fresh db₀)) τ c) :
    (∃ k, Progressed execute migrations db₀ k₀ k c.store) ∧
      ∀ i applied, c.threads i = some ⟨(), .done applied⟩ →
        (∃ client, .returned i .connect (.ok client) ∈ τ ∧
          (∀ j (q : Query) (answer : Answer q), .returned j q answer ∈ τ →
            q.client = some client → j = i) ∧
          applied = (blocksOn client c.store.log).flatMap recordIds) ∧
        ∀ db, Uninterrupted execute migrations db₀ db ↔ db = c.store.db := by
  have howned := owned_runners hdistinct hrecorded hrun
  refine ⟨howned.inv.progressed, ?_⟩
  intro i applied hi
  have hfinished : Finished migrations _ applied := howned.done hi applied rfl
  have hagrees : Progress.Agrees _ c.store := howned.agrees i
  constructor
  · rcases hfinished.client with ⟨client, hclients⟩
    have hmem := Progress.own_client hclients
    refine ⟨client, ?_, ?_, ?_⟩
    · rcases handed_of_mem_replay hmem with ⟨j, hj⟩
      rcases World.mem_own.mp hj with ⟨hhistory, hthread⟩
      cases hthread
      exact hhistory
    · intro j q answer hj hclient
      by_contra hne
      exact howned.apart j i hne client
        (client_mem_replay hdistinct hrecorded hrun hj hclient) hmem
    · rw [hagrees.committed client hmem hfinished.failed]
      exact hfinished.applied
  · intro db
    rw [uninterrupted_iff hdistinct hrecorded, database_of_finished hdistinct hrecorded hrun hi]
    exact Option.some_inj.trans eq_comm

/-- Statements recorded as they are executed; the empty one fails. -/
def sampleExecute : Execute (List JsString) := fun sql data =>
  if sql = js "FAIL;" then none else some (data ++ [sql])

/-- Two migrations, of two statements and one. -/
def sampleMigrations : List Migration :=
  [⟨js "0000.sql", js "A;--> statement-breakpoint B;"⟩, ⟨js "0001.sql", js "C;"⟩]

/-- A runner is refused its connection, and another one then does the work. -/
theorem migrations_are_prefix_safe_after_refusal :
    ∃ τ c applied, Run (machine sampleExecute sampleMigrations) (.initial (.fresh ⟨none, []⟩)) τ c ∧
      .returned 0 .connect (.error (js "ECONNREFUSED")) ∈ τ ∧
      c.threads 1 = some ⟨(), .done applied⟩ ∧
      (∃ k, Progressed sampleExecute sampleMigrations ⟨none, []⟩ 0 k c.store) ∧
      c.store.db.data = [js "A;", js "B;", js "C;"] ∧
      ∀ db, Uninterrupted sampleExecute sampleMigrations ⟨none, []⟩ db ↔ db = c.store.db := by
  have hrecorded : RecordsPrefix sampleMigrations 0 (⟨none, []⟩ : Database (List JsString)) :=
    ⟨Nat.zero_le _, List.Perm.refl _⟩
  have hrefused : Run (machine sampleExecute sampleMigrations) (.initial (.fresh ⟨none, []⟩))
      ([] ++ [.start 0 ()] ++ [.returned 0 .connect (.error (js "ECONNREFUSED"))] ++
        [.start 1 ()]) _ :=
    (((Run.nil _).snoc (.start 0 () rfl)).snoc (.returned rfl rfl)).snoc (.start 1 () rfl)
  have hdata : (applyAll sampleExecute ((sampleMigrations.filter (·.id ∉
      (⟨none, []⟩ : Database (List JsString)).ids)).map blockOf).flatten
      (Database.withTable ⟨none, []⟩)).map Database.data = some [js "A;", js "B;", js "C;"] := by
    decide +kernel
  rcases Option.map_eq_some_iff.mp hdata with ⟨db, happly, hdb⟩
  rcases alone_applyMigrations (i := 1) happly with ⟨τ, s', applied, halone, rfl⟩
  rcases halone.run (Config.set_threads_self _ _ _ _) rfl with ⟨c, hrest, hdone, rfl⟩
  have hrun := hrefused.append hrest
  rcases migrations_are_prefix_safe (by decide +kernel) hrecorded hrun with ⟨hprogressed, hreturned⟩
  exact ⟨_, c, applied, hrun, by simp, hdone, hprogressed, hdb, (hreturned 1 applied hdone).2⟩

end XClone.Identity.Migrations
