import RemoteAgent.Migration
import RemoteAgent.Presence

/-!
# What `_migrate` makes of a database

* `Upgraded`: the schema, the records and every row of every table afterwards.
* `upgrade_start`: the body of `_migrate` ends so from every start.
* `upgrade_idle`: on a database that is up to date it changes nothing.
* `claimRows_stored`, `completeRows_stored`: the statements over the rows do what the typed
  model of the table does.
* `migrate_preserves`: all of it over the transaction, whichever operation fails.
-/

namespace RemoteAgent.Migration

open Sql Wire

/-! ## The rows afterwards -/

/-- What `_migrate` makes of a database. -/
structure Upgraded (db db' : Db) : Prop where
  installed : Installed 3 db'
  recorded : Recorded 3 db'
  /-- The requests correspond one to one, in their order, each with its columns. -/
  requests : ∀ t events, db.table? "agent_requests" = some t →
    db.table? "agent_audit_events" = some events →
    ∃ t', db'.table? "agent_requests" = some t' ∧
      List.Forall₂ (fun row row' => SameColumns t.schema row row' ∧
        ("client_id" ∈ t.schema.names ∨ Backfilled events.rows row row')) t.rows t'.rows
  /-- No two requests have one key. -/
  keys : ∀ t', db'.table? "agent_requests" = some t' →
    t'.rows.Pairwise fun row row' => ¬(row "connector_id" = row' "connector_id" ∧
      row "client_id" = row' "client_id" ∧ row "idempotency_key" = row' "idempotency_key")
  /-- The rows of every other table correspond too. -/
  others : ∀ name t, name ≠ "agent_requests" → name ≠ "schema_migrations" →
    db.table? name = some t →
    ∃ t', db'.table? name = some t' ∧ List.Forall₂ (SameColumns t.schema) t.rows t'.rows

/-- The first `level` migrations are applied, from the database `db` on. -/
structure Carried (level : Nat) (db db' : Db) : Prop where
  upTo : UpTo level db'
  requests : ∀ t, db.table? "agent_requests" = some t →
    db'.table? "agent_requests" = some t ∨
    3 ≤ level ∧ ∃ events t', db'.table? "agent_audit_events" = some events ∧
      db'.table? "agent_requests" = some t' ∧
      List.Forall₂ (fun row row' => SameColumns t.schema row row' ∧
        Backfilled events.rows row row') t.rows t'.rows
  devices : ∀ t, db.table? "remote_agent_devices" = some t →
    db'.table? "remote_agent_devices" = some t ∨
    2 ≤ level ∧ ∃ t', db'.table? "remote_agent_devices" = some t' ∧
      List.Forall₂ (SameColumns t.schema) t.rows t'.rows
  others : ∀ name t, name ≠ "agent_requests" → name ≠ "remote_agent_devices" →
    name ≠ "schema_migrations" → db.table? name = some t → db'.table? name = some t

theorem sameColumns_refl (schema : Schema) (rows : List Row) :
    List.Forall₂ (SameColumns schema) rows rows :=
  List.forall₂_same.mpr fun _ _ _ _ => rfl

/-- The key of an admitted request has no null, so rows of one key collide. -/
theorem isolated_keys {t : Table} (schema : t.schema = isolatedRequests) :
    t.rows.Pairwise fun row row' => ¬(row "connector_id" = row' "connector_id" ∧
      row "client_id" = row' "client_id" ∧ row "idempotency_key" = row' "idempotency_key") := by
  have notNull : ∀ row ∈ t.rows, ∀ name ∈ isolatedRequests.primaryKey, row name ≠ .null := by
    intro row mem name key isNull
    have columns : ∀ name ∈ isolatedRequests.primaryKey,
        ∃ column ∈ isolatedRequests.columns, column.name = name ∧ column.notNull = true := by
      decide
    obtain ⟨column, inColumns, rfl, required⟩ := columns name key
    have admitted := t.admitted row mem
    rw [schema] at admitted
    have held := List.all_eq_true.mp admitted column inColumns
    simp [Column.admits, required, isNull] at held
  have distinct := t.distinct
  rw [schema] at distinct
  refine distinct.imp_of_mem fun {row row'} mem _ apart same => ?_
  obtain ⟨connector, client, key⟩ := same
  have connectorNotNull := notNull row mem "connector_id" (by decide)
  have clientNotNull := notNull row mem "client_id" (by decide)
  have keyNotNull := notNull row mem "idempotency_key" (by decide)
  rw [connector] at connectorNotNull
  rw [client] at clientNotNull
  rw [key] at keyNotNull
  simp [Schema.collides, isolatedRequests, connector, client, key, connectorNotNull, clientNotNull,
    keyNotNull] at apart

/-- With all three applied the database is upgraded. -/
theorem Carried.upgraded {db db' : Db} (carried : Carried 3 db db')
    (recorded : Recorded 3 db') : Upgraded db db' := by
  have installed : Installed 3 db' := carried.upTo
  obtain ⟨now, isNow, isolated⟩ := installed.requests
  refine ⟨installed, recorded, ?_, ?_, ?_⟩
  · intro t events is isEvents
    rcases carried.requests t is with same | ⟨-, events', t', isEvents', is', rows⟩
    · refine ⟨t, same, List.forall₂_same.mpr fun row _ => ⟨fun _ _ => rfl, .inl ?_⟩⟩
      cases same.symm.trans isNow
      rw [isolated]
      decide
    · have kept := carried.others "agent_audit_events" events (by decide) (by decide)
        (by decide) isEvents
      cases kept.symm.trans isEvents'
      exact ⟨t', is', rows.imp fun _ _ both => ⟨both.1, .inr both.2⟩⟩
  · intro t' is
    cases is.symm.trans isNow
    exact isolated_keys isolated
  · intro name t requests records is
    by_cases devices : name = "remote_agent_devices"
    · subst devices
      rcases carried.devices t is with same | ⟨-, t', is', rows⟩
      · exact ⟨t, same, sameColumns_refl _ _⟩
      · exact ⟨t', is', rows⟩
    · exact ⟨t, carried.others name t requests devices records is, sameColumns_refl _ _⟩

/-! ## The chain of migrations -/

section Chain

variable {db db₁ db₂ : Db} {level : Nat} {now : String}

theorem HasTable.congr {name : String} {schema : Schema} (same : db₂.table? name = db₁.table? name)
    (has : HasTable db₁ name schema) : HasTable db₂ name schema := by
  unfold HasTable
  rw [same]
  exact has

/-- The schema is that of its tables. -/
theorem Installed.congr (same : ∀ name ∈ tableNames, db₂.table? name = db₁.table? name)
    (rebuilt : db₂ "agent_requests_new" = db₁ "agent_requests_new")
    (installed : Installed level db₁) : Installed level db₂ where
  devices := installed.devices.congr (same _ (by decide))
  tokens := installed.tokens.congr (same _ (by decide))
  challenges := installed.challenges.congr (same _ (by decide))
  instances := installed.instances.congr (same _ (by decide))
  requests := installed.requests.congr (same _ (by decide))
  events := installed.events.congr (same _ (by decide))
  rebuilt := rebuilt.trans installed.rebuilt

theorem table?_of_none {name : String} (free : db name = none) : db.table? name = none := by
  unfold Db.table?
  rw [free]

/-- What `001_initial.sql` finds it leaves alone. -/
theorem initialDb_keeps (blank : Blank db) {name : String} {t : Table}
    (is : db.table? name = some t) : (initialDb db).table? name = some t := by
  have free : ∀ {object}, db name = object → object ≠ none := by
    rintro object found rfl
    rw [table?_of_none found] at is
    cases is
  have other : initialDb db name = db name := by
    refine initialDb_other (fun mem => free (blank.tables name mem) rfl) ?_
    rintro rfl
    exact free blank.index rfl
  unfold Db.table?
  rw [other]
  exact is

theorem carried_refl (upTo : UpTo level db) : Carried level db db :=
  ⟨upTo, fun _ is => .inl is, fun _ is => .inl is, fun _ _ _ _ _ is => is⟩

theorem Carried.initial (carried : Carried 0 db db₁) :
    ∃ db₂, execAll Migration.initial db₁ = some db₂ ∧ Carried 1 db db₂ ∧
      db₂.table? "schema_migrations" = db₁.table? "schema_migrations" := by
  have blank : Blank db₁ := carried.upTo
  refine ⟨initialDb db₁, initial_exec blank, ⟨initialDb_installed blank, ?_, ?_, ?_⟩, ?_⟩
  · intro t is
    rcases carried.requests t is with same | ⟨late, -⟩
    · exact .inl (initialDb_keeps blank same)
    · cases late
  · intro t is
    rcases carried.devices t is with same | ⟨late, -⟩
    · exact .inl (initialDb_keeps blank same)
    · cases late
  · intro name t requests devices records is
    exact initialDb_keeps blank (carried.others name t requests devices records is)
  · unfold Db.table?
    rw [initialDb_other (by decide) (by decide)]

theorem Carried.platform (carried : Carried 1 db db₁) :
    ∃ db₂, execAll Migration.platform db₁ = some db₂ ∧ Carried 2 db db₂ ∧
      db₂.table? "schema_migrations" = db₁.table? "schema_migrations" := by
  have installed : Installed 1 db₁ := carried.upTo
  obtain ⟨t₁, is, schema⟩ := installed.devices
  obtain ⟨t₂, ran, schema', rows⟩ := platform_exec is schema
  refine ⟨_, ran, ⟨?_, ?_, ?_, ?_⟩, Db.table?_update_ne (by decide)⟩
  · exact {
      devices := ⟨t₂, Db.table?_update_self _ _ _, schema'⟩
      tokens := installed.tokens.congr (Db.table?_update_ne (by decide))
      challenges := installed.challenges.congr (Db.table?_update_ne (by decide))
      instances := installed.instances.congr (Db.table?_update_ne (by decide))
      requests := installed.requests.congr (Db.table?_update_ne (by decide))
      events := installed.events.congr (Db.table?_update_ne (by decide))
      rebuilt := (Function.update_of_ne (by decide) _ _).trans installed.rebuilt }
  · intro t isRequests
    rw [Db.table?_update_ne (by decide)]
    rcases carried.requests t isRequests with same | ⟨late, -⟩
    · exact .inl same
    · exact absurd late (by decide)
  · intro t isDevices
    rw [Db.table?_update_self]
    rcases carried.devices t isDevices with same | ⟨late, -⟩
    · cases same.symm.trans is
      exact .inr ⟨le_rfl, t₂, rfl, rows⟩
    · exact absurd late (by decide)
  · intro name t requests devices records isOther
    rw [Db.table?_update_ne devices]
    exact carried.others name t requests devices records isOther

theorem Carried.isolation (carried : Carried 2 db db₁) :
    ∃ db₂, execAll requestClientIsolation db₁ = some db₂ ∧ Carried 3 db db₂ ∧
      db₂.table? "schema_migrations" = db₁.table? "schema_migrations" := by
  have installed : Installed 2 db₁ := carried.upTo
  obtain ⟨t₁, is, schema⟩ := installed.requests
  obtain ⟨events, isEvents, eventSchema⟩ := installed.events
  obtain ⟨db₂, t₂, ran, is', schema', rows, others, rebuilt⟩ :=
    isolation_exec is schema isEvents eventSchema installed.rebuilt
  refine ⟨db₂, ran, ⟨?_, ?_, ?_, ?_⟩, others _ (by decide)⟩
  · exact {
      devices := installed.devices.congr (others _ (by decide))
      tokens := installed.tokens.congr (others _ (by decide))
      challenges := installed.challenges.congr (others _ (by decide))
      instances := installed.instances.congr (others _ (by decide))
      requests := ⟨t₂, is', schema'⟩
      events := installed.events.congr (others _ (by decide))
      rebuilt := rebuilt }
  · intro t isRequests
    rcases carried.requests t isRequests with same | ⟨late, -⟩
    · cases same.symm.trans is
      exact .inr ⟨le_rfl, events, t₂, (others _ (by decide)).trans isEvents, is', rows⟩
    · exact absurd late (by decide)
  · intro t isDevices
    rw [others _ (by decide)]
    rcases carried.devices t isDevices with same | ⟨-, t', same, rows'⟩
    · exact .inl same
    · exact .inr ⟨by decide, t', same, rows'⟩
  · intro name t requests devices records isOther
    rw [others name requests]
    exact carried.others name t requests devices records isOther

/-- Recording a version touches the records only. -/
theorem Carried.record (carried : Carried (level + 1) db db₁) {t : Table} :
    Carried (level + 1) db (Function.update db₁ "schema_migrations" (some (.table t))) where
  upTo := by
    have installed : Installed (level + 1) db₁ := carried.upTo
    refine installed.congr (fun name mem => Db.table?_update_ne ?_)
      (Function.update_of_ne (by decide) _ _)
    rintro rfl
    exact absurd mem (by decide)
  requests _ is := by
    rw [Db.table?_update_ne (by decide), Db.table?_update_ne (by decide)]
    exact carried.requests _ is
  devices _ is := by
    rw [Db.table?_update_ne (by decide)]
    exact carried.devices _ is
  others name t requests devices records is := by
    rw [Db.table?_update_ne records]
    exact carried.others name t requests devices records is

/-- A version that is recorded next. -/
theorem Recorded.next (now : String) (bound : level < migrations.length) (recorded : Recorded level db₁)
    (same : db₂.table? "schema_migrations" = db₁.table? "schema_migrations") :
    ∃ t, (record now migrations[level].name).exec db₂ =
        some (Function.update db₂ "schema_migrations" (some (.table t))) ∧
      Recorded (level + 1) (Function.update db₂ "schema_migrations" (some (.table t))) := by
  obtain ⟨t, is, schema, versions⟩ := recorded
  have named : fileNames.take (level + 1) = fileNames.take level ++
      [.text migrations[level].name] := by
    rw [List.take_succ_eq_append_getElem (by simpa [fileNames] using bound)]
    simp [fileNames]
  have isNew : Value.text migrations[level].name ∉ t.rows.map fun row => row "version" := by
    rw [versions.mem_iff]
    have nodup : (fileNames.take (level + 1)).Nodup :=
      List.Nodup.sublist (List.take_sublist _ _) (by decide)
    rw [named] at nodup
    exact fun mem => (List.nodup_append.mp nodup).2.2 _ mem _ (List.mem_singleton_self _) rfl
  obtain ⟨t', ran, schema', versions'⟩ := record_exec now (same.trans is) schema isNew
  refine ⟨t', ran, t', Db.table?_update_self _ _ _, schema', ?_⟩
  rw [versions', named]
  exact versions.append_right _

/-- **Each migration carries the rows on.** -/
theorem Carried.migration (bound : level < migrations.length) (carried : Carried level db db₁) :
    ∃ db₂, execAll migrations[level].statements db₁ = some db₂ ∧ Carried (level + 1) db db₂ ∧
      db₂.table? "schema_migrations" = db₁.table? "schema_migrations" := by
  match level, bound with
  | 0, _ => exact carried.initial
  | 1, _ => exact carried.platform
  | 2, _ => exact carried.isolation

theorem executeAllProgram_eq {statements : List Statement}
    (ran : execAll statements db₁ = some db₂) :
    executeAllProgram statements db₁ = some ((), db₂) := by
  induction statements generalizing db₁ with
  | nil =>
    cases ran
    rfl
  | cons statement statements ih =>
    obtain ⟨db', first, rest⟩ := Option.bind_eq_some_iff.mp ran
    exact (program_bind (Statement.program_eq first)).trans (ih rest)

theorem applyAllProgram_skip {applied : List Value} {file : MigrationFile}
    {files : List MigrationFile} (isApplied : .text file.name ∈ applied) :
    applyAllProgram now applied (file :: files) = applyAllProgram now applied files := by
  rw [applyAllProgram, if_pos isApplied]

theorem applyAllProgram_apply {applied : List Value} {file : MigrationFile}
    {files : List MigrationFile} {db' : Db} (isNew : .text file.name ∉ applied)
    (ran : execAll file.statements db₁ = some db₂)
    (isRecorded : (record now file.name).exec db₂ = some db') :
    applyAllProgram now applied (file :: files) db₁ = applyAllProgram now applied files db' := by
  have read : (reading fun _ => some ()) db₁ = some ((), db₁) := reading_eq rfl
  rw [applyAllProgram, if_neg isNew, program_bind read, program_bind (executeAllProgram_eq ran),
    program_bind (Statement.program_eq isRecorded)]

/-- The files that are not applied are applied, one after another. -/
theorem applyAll_carried {applied : List Value} (bound : level ≤ migrations.length)
    (carried : Carried level db db₁) (recorded : Recorded level db₁)
    (isNew : ∀ file ∈ migrations.drop level, .text file.name ∉ applied) :
    ∃ db', applyAllProgram now applied (migrations.drop level) db₁ = some ((), db') ∧
      Carried 3 db db' ∧ Recorded 3 db' := by
  induction bound using Nat.decreasingInduction generalizing db₁ with
  | self => exact ⟨db₁, rfl, carried, recorded⟩
  | of_succ level late ih =>
    obtain ⟨db₂, ran, carried', same⟩ := carried.migration late
    obtain ⟨t, isRecorded, recorded'⟩ := recorded.next now late same
    rw [List.drop_eq_getElem_cons late] at isNew ⊢
    rw [applyAllProgram_apply (isNew _ List.mem_cons_self) ran isRecorded]
    exact ih carried'.record recorded' fun file mem => isNew file (List.mem_cons_of_mem _ mem)

theorem applyAllProgram_skips {applied : List Value} {front back : List MigrationFile}
    (isApplied : ∀ file ∈ front, .text file.name ∈ applied) :
    applyAllProgram now applied (front ++ back) = applyAllProgram now applied back := by
  induction front with
  | nil => rfl
  | cons file front ih =>
    rw [List.cons_append, applyAllProgram_skip (isApplied file List.mem_cons_self)]
    exact ih fun file mem => isApplied file (List.mem_cons_of_mem _ mem)

/-- What is recorded is skipped, and the rest is applied. -/
theorem applyAll_rest {applied : List Value} (bound : level ≤ migrations.length)
    (isApplied : applied.Perm (fileNames.take level)) (carried : Carried level db db₁)
    (recorded : Recorded level db₁) :
    ∃ db', applyAllProgram now applied migrations db₁ = some ((), db') ∧
      Carried 3 db db' ∧ Recorded 3 db' := by
  have names : ∀ file ∈ migrations.take level, Value.text file.name ∈ applied := by
    intro file mem
    rw [isApplied.mem_iff, fileNames, ← List.map_take]
    exact List.mem_map.mpr ⟨file, mem, rfl⟩
  have isNew : ∀ file ∈ migrations.drop level, Value.text file.name ∉ applied := by
    intro file mem isOld
    rw [isApplied.mem_iff] at isOld
    have nodup : fileNames.Nodup := by decide
    refine List.disjoint_take_drop nodup le_rfl isOld ?_
    rw [fileNames, ← List.map_drop]
    exact List.mem_map.mpr ⟨file, mem, rfl⟩
  have skipped : applyAllProgram now applied migrations =
      applyAllProgram now applied (migrations.drop level) := by
    conv_lhs => rw [← List.take_append_drop level migrations]
    exact applyAllProgram_skips names
  rw [skipped]
  exact applyAll_carried bound carried recorded isNew

/-! ## From every start -/

theorem Recorded.versions (recorded : Recorded level db) :
    ∃ applied, Migration.versions db = some applied ∧ applied.Perm (fileNames.take level) := by
  obtain ⟨t, is, -, names⟩ := recorded
  refine ⟨_, ?_, names⟩
  unfold Migration.versions
  rw [is, Option.map_some]

/-- The records are created where they are not there. -/
theorem create_exec (unrecorded : db "schema_migrations" = none ∨ Recorded level db) :
    ∃ db₁, (Statement.createTable true "schema_migrations" schemaMigrations).exec db = some db₁ ∧
      (db₁ = db ∧ Recorded level db ∨
        db₁ = withTable db "schema_migrations" schemaMigrations ∧
          db "schema_migrations" = none) := by
  rcases unrecorded with free | recorded
  · exact ⟨_, createTable_exec free, .inr ⟨rfl, free⟩⟩
  · obtain ⟨t, is, -, -⟩ := id recorded
    refine ⟨db, ?_, .inl ⟨rfl, recorded⟩⟩
    simp only [Statement.exec, table?_of_object is, if_true]

theorem withTable_recorded : Recorded 0 (withTable db "schema_migrations" schemaMigrations) :=
  ⟨_, withTable_table? _ _ _, rfl, List.Perm.refl _⟩

theorem carried_withTable (upTo : UpTo level db) :
    Carried level db (withTable db "schema_migrations" schemaMigrations) where
  upTo := by
    cases level with
    | zero =>
      have blank : Blank db := upTo
      have other : ∀ {name}, name ≠ "schema_migrations" → db name = none →
          withTable db "schema_migrations" schemaMigrations name = none := fun ne is =>
        (withTable_other ne).trans is
      refine ⟨fun name mem => other ?_ (blank.tables name mem), other (by decide) blank.index,
        other (by decide) blank.rebuilt⟩
      rintro rfl
      exact absurd mem (by decide)
    | succ level => exact (carried_refl upTo).record.upTo
  requests _ is := .inl ((table?_withTable (by decide)).trans is)
  devices _ is := .inl ((table?_withTable (by decide)).trans is)
  others _ _ _ _ records is := (table?_withTable records).trans is

theorem bootstrap_empty (blank : Blank db) : bootstrapProgram now [] db = some ([], db) := by
  have noDevices : hasInitialSchema db = some false := by
    unfold hasInitialSchema
    rw [table?_of_none (blank.tables _ (by decide))]
    rfl
  unfold bootstrapProgram
  rw [if_pos List.isEmpty_nil, program_bind (reading_eq noDevices)]
  rfl

/-- The schema without a record is that of the first migration. -/
theorem bootstrap_legacy (carried : Carried 1 db db₁) (recorded : Recorded 0 db₁) :
    ∃ db₂, bootstrapProgram now [] db₁ = some ([.text "001_initial.sql"], db₂) ∧
      Carried 1 db db₂ ∧ Recorded 1 db₂ := by
  have installed : Installed 1 db₁ := carried.upTo
  have hasDevices : hasInitialSchema db₁ = some true := by
    obtain ⟨devices, isDevices, -⟩ := installed.devices
    unfold hasInitialSchema
    rw [isDevices]
    rfl
  have first : 0 < migrations.length := by decide
  obtain ⟨t, ran, recorded'⟩ := recorded.next now first rfl
  have ran' : (record now "001_initial.sql").exec db₁ = _ := ran
  refine ⟨_, ?_, carried.record, recorded'⟩
  unfold bootstrapProgram
  rw [if_pos List.isEmpty_nil, program_bind (reading_eq hasDevices), if_pos rfl,
    program_bind (Statement.program_eq ran')]
  rfl

theorem bootstrap_recorded {applied : List Value} (some_ : applied ≠ []) :
    bootstrapProgram now applied db = some (applied, db) := by
  unfold bootstrapProgram
  rw [if_neg (by simpa using some_)]
  rfl

theorem upgrade_eq {applied applied' : List Value}
    (created : (Statement.createTable true "schema_migrations" schemaMigrations).exec db = some db₁)
    (read : Migration.versions db₁ = some applied)
    (bootstrapped : bootstrapProgram now applied db₁ = some (applied', db₂)) :
    upgrade now db = applyAllProgram now applied' migrations db₂ := by
  unfold upgrade
  rw [program_bind (Statement.program_eq created), program_bind (reading_eq read),
    program_bind bootstrapped]

/-- **The body of `_migrate` ends, and upgrades the database, from every start.** -/
theorem upgrade_start (start : Start db) :
    ∃ db', upgrade now db = some ((), db') ∧ Upgraded db db' := by
  have rest : ∀ {level applied applied' db₁ db₂},
      (Statement.createTable true "schema_migrations" schemaMigrations).exec db = some db₁ →
      Migration.versions db₁ = some applied →
      bootstrapProgram now applied db₁ = some (applied', db₂) → level ≤ migrations.length →
      applied'.Perm (fileNames.take level) → Carried level db db₂ → Recorded level db₂ →
      ∃ db', upgrade now db = some ((), db') ∧ Upgraded db db' := by
    intro level applied applied' db₁ db₂ created read bootstrapped bound names carried recorded
    rw [upgrade_eq created read bootstrapped]
    obtain ⟨db', ran, carried', recorded'⟩ := applyAll_rest bound names carried recorded
    exact ⟨db', ran, carried'.upgraded recorded'⟩
  cases start with
  | empty blank unrecorded =>
    have carried : Carried 0 db (withTable db "schema_migrations" schemaMigrations) :=
      carried_withTable blank
    have recorded : Recorded 0 (withTable db "schema_migrations" schemaMigrations) :=
      withTable_recorded
    obtain ⟨applied, read, names⟩ := recorded.versions
    cases List.perm_nil.mp names
    exact rest (createTable_exec unrecorded) read (bootstrap_empty carried.upTo) (Nat.zero_le _)
      (List.Perm.refl _) carried recorded
  | legacy installed unrecorded =>
    obtain ⟨db₁, created, carried, recorded⟩ : ∃ db₁,
        (Statement.createTable true "schema_migrations" schemaMigrations).exec db = some db₁ ∧
        Carried 1 db db₁ ∧ Recorded 0 db₁ := by
      obtain ⟨db₁, created, ⟨rfl, recorded⟩ | ⟨rfl, -⟩⟩ := create_exec unrecorded
      · exact ⟨db₁, created, carried_refl installed, recorded⟩
      · exact ⟨_, created, carried_withTable installed, withTable_recorded⟩
    obtain ⟨applied, read, names⟩ := recorded.versions
    cases List.perm_nil.mp names
    obtain ⟨db₂, bootstrapped, carried', recorded'⟩ := bootstrap_legacy carried recorded
    exact rest created read bootstrapped (by decide) (List.Perm.refl _) carried' recorded'
  | recorded level bound upTo isRecorded =>
    obtain ⟨db₁, created, ⟨rfl, -⟩ | ⟨-, free⟩⟩ := create_exec (.inr isRecorded)
    · obtain ⟨applied, read, names⟩ := isRecorded.versions
      refine rest created read ?_ bound names (carried_refl upTo) isRecorded
      cases level with
      | zero =>
        cases List.perm_nil.mp names
        exact bootstrap_empty upTo
      | succ level =>
        refine bootstrap_recorded ?_
        rintro rfl
        cases List.nil_perm.mp names
    · obtain ⟨t, is, -⟩ := isRecorded
      rw [table?_of_none free] at is
      cases is

/-- On a database that is up to date it changes nothing. -/
theorem upgrade_idle (recorded : Recorded 3 db) : upgrade now db = some ((), db) := by
  obtain ⟨t, is, -, -⟩ := id recorded
  have created : (Statement.createTable true "schema_migrations" schemaMigrations).exec db =
      some db := by
    simp only [Statement.exec, table?_of_object is, if_true]
  obtain ⟨applied, read, names⟩ := recorded.versions
  have some_ : applied ≠ [] := by
    rintro rfl
    cases List.nil_perm.mp names
  have isApplied : ∀ file ∈ migrations, Value.text file.name ∈ applied := by
    intro file mem
    rw [names.mem_iff, show fileNames.take 3 = fileNames from rfl]
    exact List.mem_map.mpr ⟨file, mem, rfl⟩
  rw [upgrade_eq created read (bootstrap_recorded some_), ← List.append_nil migrations,
    applyAllProgram_skips isApplied]
  rfl

end Chain

/-! ## Requests without a client -/

/-- `WHERE connector_id = ? AND client_id = ? AND idempotency_key = ?`. -/
def keyed (key : RequestKey) (row : Row) : Bool :=
  decide (row "connector_id" = .text key.connectorId ∧ row "client_id" = .text key.clientId ∧
    row "idempotency_key" = .text key.idempotencyKey)

def statusText : RequestStatus → String
  | .pending => "pending"
  | .completed => "completed"
  | .failed => "failed"

def claimedColumns : List String :=
  ["connector_id", "client_id", "idempotency_key", "request_id", "tool_name", "request_digest",
    "status", "created_at"]

def claimedRow (now : String) (c : Claim) : Row :=
  isolatedRequests.row claimedColumns
    [.text c.key.connectorId, .text c.key.clientId, .text c.key.idempotencyKey, .text c.requestId,
      .text c.toolName, .text c.requestDigest, .text "pending", .text now]

/-- The `INSERT OR IGNORE` of `claim_request`, and the row that its `SELECT` finds. -/
def claimRows (now : String) (c : Claim) (rows : List Row) : List Row × Option Row :=
  let row := claimedRow now c
  let rows := if rows.any (isolatedRequests.collides row) then rows else rows ++ [row]
  (rows, rows.find? (keyed c.key))

def settledRow (now : String) (status : RequestStatus) (result : Json) (row : Row) : Row :=
  Function.update (Function.update (Function.update row "status" (.text (statusText status)))
    "result_json" (.text result.dumps)) "completed_at" (.text now)

/-- What the `UPDATE` of `complete_request` makes of a row. -/
def completedRow (now : String) (key : RequestKey) (status : RequestStatus) (result : Json)
    (row : Row) : Row :=
  if keyed key row = true ∧ row "status" = .text "pending" then settledRow now status result row
  else row

def completeRows (now : String) (key : RequestKey) (status : RequestStatus) (result : Json)
    (rows : List Row) : List Row :=
  rows.map (completedRow now key status result)

/-! ### The typed table -/

/-- A row holds a request of the typed table. -/
structure Stored (row : Row) (r : RequestRow) : Prop where
  connectorId : row "connector_id" = .text r.key.connectorId
  clientId : row "client_id" = .text r.key.clientId
  idempotencyKey : row "idempotency_key" = .text r.key.idempotencyKey
  requestId : row "request_id" = .text r.requestId
  toolName : row "tool_name" = .text r.toolName
  requestDigest : row "request_digest" = .text r.requestDigest
  status : row "status" = .text (statusText r.status)
  resultJson : row "result_json" = r.resultJson.elim .null .text

theorem statusText_pending_iff {status : RequestStatus} :
    statusText status = "pending" ↔ status = .pending := by
  cases status <;> decide

theorem Stored.keyed {row : Row} {r : RequestRow} (stored : Stored row r) (key : RequestKey) :
    Migration.keyed key row = decide (r.key = key) := by
  unfold Migration.keyed
  rw [stored.connectorId, stored.clientId, stored.idempotencyKey]
  refine decide_eq_decide.mpr ?_
  cases r.key
  cases key
  simp only [Value.text.injEq, RequestKey.mk.injEq]

theorem claimedRow_stored (now : String) (c : Claim) : Stored (claimedRow now c) c.row :=
  ⟨rfl, rfl, rfl, rfl, rfl, rfl, rfl, rfl⟩

theorem claimedRow_collides (now : String) (c : Claim) (row : Row) :
    isolatedRequests.collides (claimedRow now c) row = keyed c.key row := by
  have stored := claimedRow_stored now c
  rw [Bool.eq_iff_iff]
  simp only [Schema.collides, isolatedRequests, keyed, List.isEmpty_cons, Bool.not_false,
    Bool.true_and, List.all_cons, List.all_nil, Bool.and_true, Bool.and_eq_true, decide_eq_true_iff,
    stored.connectorId, stored.clientId, stored.idempotencyKey, Claim.row, ne_eq, reduceCtorEq,
    not_false_eq_true, and_true]
  exact and_congr eq_comm (and_congr eq_comm eq_comm)

theorem stored_any {rows : List Row} {rs : List RequestRow} (stored : List.Forall₂ Stored rows rs)
    (key : RequestKey) : rows.any (keyed key) = true ↔ key ∈ rs.map RequestRow.key := by
  induction stored with
  | nil => simp
  | @cons row r rows rs first _ ih =>
    rw [List.any_cons, Bool.or_eq_true, first.keyed, ih, List.map_cons, List.mem_cons,
      decide_eq_true_iff, eq_comm]

theorem stored_find? {rows : List Row} {rs : List RequestRow} (stored : List.Forall₂ Stored rows rs)
    (key : RequestKey) :
    Option.Rel Stored (rows.find? (keyed key)) (rs.find? fun r => decide (r.key = key)) := by
  induction stored with
  | nil => exact .none
  | @cons row r rows rs first _ ih =>
    rw [List.find?_cons, List.find?_cons, first.keyed]
    cases decide (r.key = key) with
    | true => exact .some first
    | false => exact ih

/-- **A claim over the rows does what it does over the typed table.** -/
theorem claimRows_stored {rows : List Row} {t : Requests}
    (stored : List.Forall₂ Stored rows t.rows) (now : String) (c : Claim) :
    List.Forall₂ Stored (claimRows now c rows).1 (claimRequest t c).1.rows ∧
      Option.Rel Stored (claimRows now c rows).2 ((claimRequest t c).1.find? c.key) := by
  have same : (claimRequest t c).1 = t.insertOrIgnore c.row := by
    unfold claimRequest
    dsimp only
    split <;> rfl
  have collides : rows.any (isolatedRequests.collides (claimedRow now c)) =
      rows.any (keyed c.key) := List.any_congr rfl (claimedRow_collides now c)
  have after : List.Forall₂ Stored (claimRows now c rows).1 (claimRequest t c).1.rows := by
    rw [same]
    unfold claimRows Storage.Table.insertOrIgnore
    dsimp only
    rw [collides]
    by_cases taken : c.row.key ∈ t.rows.map RequestRow.key
    · rw [if_pos ((stored_any stored c.key).mpr taken), dif_pos taken]
      exact stored
    · rw [if_neg (mt (stored_any stored c.key).mp taken), dif_neg taken]
      exact List.rel_append stored (.cons (claimedRow_stored now c) .nil)
  exact ⟨after, stored_find? after c.key⟩

/-- **So does a completion.** -/
theorem completeRows_stored {rows : List Row} {t : Requests}
    (stored : List.Forall₂ Stored rows t.rows) (now : String) (key : RequestKey)
    (status : RequestStatus) (result : Json) :
    List.Forall₂ Stored (completeRows now key status result rows)
      (completeRequest t key status result).rows := by
  unfold completeRows completeRequest Storage.Table.updateWhere
  rw [List.forall₂_map_left_iff, List.forall₂_map_right_iff]
  refine stored.imp fun row r held => ?_
  unfold completedRow
  have guards : (keyed key row = true ∧ row "status" = .text "pending") ↔
      decide (r.key = key ∧ r.status = .pending) = true := by
    rw [held.keyed, held.status, Value.text.injEq, statusText_pending_iff, decide_eq_true_iff,
      decide_eq_true_iff]
  by_cases guard : keyed key row = true ∧ row "status" = .text "pending"
  · rw [if_pos guard, if_pos (guards.mp guard)]
    exact ⟨held.connectorId, held.clientId, held.idempotencyKey, held.requestId, held.toolName,
      held.requestDigest, rfl, rfl⟩
  · rw [if_neg guard, if_neg (mt guards.mpr guard)]
    exact held

/-! ### Out of reach -/

/-- A request without a client. -/
def tombstone (row : Row) : Bool := decide (row "client_id" = .text "")

def live (row : Row) : Bool := !tombstone row

/-- A call of `claim_request` or of `complete_request`. -/
inductive Call where
  | claim (now : String) (c : Claim)
  | complete (now : String) (key : RequestKey) (status : RequestStatus) (result : Json)

namespace Call

def key : Call → RequestKey
  | .claim _ c => c.key
  | .complete _ key _ _ => key

/-- The rows after a call, and the row that it has read. -/
def run : Call → List Row → List Row × Option Row
  | .claim now c, rows => claimRows now c rows
  | .complete now key status result, rows => (completeRows now key status result rows, none)

end Call

/-- The rows after the calls, and the rows that they have read. -/
def runCalls : List Call → List Row → List Row × List (Option Row)
  | [], rows => (rows, [])
  | call :: calls, rows =>
    let first := call.run rows
    let rest := runCalls calls first.1
    (rest.1, first.2 :: rest.2)

/-- The requests without a client are as if they were not there. -/
structure OutOfReach (calls : List Call) (rows : List Row) : Prop where
  unchanged : (runCalls calls rows).1.filter tombstone = rows.filter tombstone
  unread : ∀ row, some row ∈ (runCalls calls rows).2 → tombstone row = false
  unfelt : (runCalls calls rows).2 = (runCalls calls (rows.filter live)).2

section Calls

variable {key : RequestKey} {row : Row} {rows : List Row}

/-- A key with a client is not that of a tombstone. -/
theorem live_of_keyed (client : key.clientId ≠ "") (isKeyed : keyed key row = true) :
    live row = true := by
  have same := (of_decide_eq_true isKeyed).2.1
  have noTombstone : ¬row "client_id" = .text "" := by
    rw [same, Value.text.injEq]
    exact client
  unfold live tombstone
  rw [decide_eq_false noTombstone, Bool.not_false]

theorem keyed_live (client : key.clientId ≠ "") (row : Row) :
    (live row && keyed key row) = keyed key row := by
  cases isKeyed : keyed key row with
  | false => exact Bool.and_false _
  | true => rw [live_of_keyed client isKeyed, Bool.and_self]

theorem claimedRow_live (now : String) {c : Claim} (client : c.key.clientId ≠ "") :
    live (claimedRow now c) = true := by
  refine live_of_keyed client ?_
  rw [(claimedRow_stored now c).keyed]
  exact decide_eq_true rfl

theorem settledRow_client (now : String) (status : RequestStatus) (result : Json) (row : Row) :
    settledRow now status result row "client_id" = row "client_id" := by
  unfold settledRow
  rw [Function.update_of_ne (by decide), Function.update_of_ne (by decide),
    Function.update_of_ne (by decide)]

/-- What a claim reads is read among the rows with a client, and those are what it writes. -/
theorem claimRows_live (now : String) {c : Claim} (client : c.key.clientId ≠ "") :
    (claimRows now c rows).1.filter tombstone = rows.filter tombstone ∧
      (claimRows now c rows).1.filter live = (claimRows now c (rows.filter live)).1 ∧
      (claimRows now c rows).2 = (claimRows now c (rows.filter live)).2 := by
  have isLive := claimedRow_live now client
  have noTombstone : tombstone (claimedRow now c) = false := by simpa [live] using isLive
  have taken : (rows.filter live).any (isolatedRequests.collides (claimedRow now c)) =
      rows.any (isolatedRequests.collides (claimedRow now c)) := by
    rw [List.any_filter]
    refine List.any_congr rfl fun row => ?_
    rw [claimedRow_collides, keyed_live client]
  have found : ∀ rows : List Row, (rows.filter live).find? (keyed c.key) =
      rows.find? (keyed c.key) := fun rows => by
    simp only [List.find?_filter, Bool.decide_and, Bool.decide_eq_true, keyed_live client]
  unfold claimRows
  dsimp only
  rw [taken]
  split
  · exact ⟨rfl, rfl, (found rows).symm⟩
  · refine ⟨?_, ?_, ?_⟩
    · rw [List.filter_append, List.filter_cons_of_neg (by rw [noTombstone]; decide),
        List.filter_nil, List.append_nil]
    · rw [List.filter_append, List.filter_cons_of_pos isLive, List.filter_nil]
    · rw [List.find?_append, List.find?_append, found]

theorem completeRows_live (now : String) (client : key.clientId ≠ "") (status : RequestStatus)
    (result : Json) :
    (completeRows now key status result rows).filter tombstone = rows.filter tombstone ∧
      (completeRows now key status result rows).filter live =
        completeRows now key status result (rows.filter live) := by
  have same : tombstone ∘ completedRow now key status result = tombstone := by
    funext row
    rw [Function.comp_apply]
    unfold completedRow
    split
    · unfold tombstone
      rw [settledRow_client]
    · rfl
  have kept : ∀ row ∈ rows.filter tombstone, completedRow now key status result row = row := by
    intro row mem
    refine if_neg fun both => ?_
    have isLive := live_of_keyed client both.1
    unfold live at isLive
    rw [(List.mem_filter.mp mem).2] at isLive
    cases isLive
  unfold completeRows
  rw [List.filter_map, List.filter_map]
  constructor
  · rw [same, List.map_congr_left kept, List.map_id']
  · exact congrArg _ (List.filter_congr fun row _ => congrArg not (congrFun same row))

/-- A call leaves the tombstones alone, and goes on without them as with them. -/
theorem run_live {call : Call} (client : call.key.clientId ≠ "") (rows : List Row) :
    (call.run rows).1.filter tombstone = rows.filter tombstone ∧
      (call.run rows).1.filter live = (call.run (rows.filter live)).1 ∧
      (call.run rows).2 = (call.run (rows.filter live)).2 := by
  cases call with
  | claim now c => exact claimRows_live now client
  | complete now key status result =>
    obtain ⟨unchanged, rest⟩ := completeRows_live now client status result
    exact ⟨unchanged, rest, rfl⟩

/-- What a call reads has its client. -/
theorem run_reads {call : Call} (client : call.key.clientId ≠ "")
    (read : (call.run rows).2 = some row) : tombstone row = false := by
  cases call with
  | claim now c =>
    have isLive := live_of_keyed client (List.find?_some read)
    simpa [live] using isLive
  | complete now key status result => cases read

/-- **No run of calls with clients reaches a request without one.** -/
theorem outOfReach_of_calls {calls : List Call} (clients : ∀ call ∈ calls, call.key.clientId ≠ "")
    (rows : List Row) : OutOfReach calls rows := by
  induction calls generalizing rows with
  | nil => exact ⟨rfl, nofun, rfl⟩
  | cons call calls ih =>
    have client := clients call List.mem_cons_self
    have later : ∀ call ∈ calls, call.key.clientId ≠ "" := fun call mem =>
      clients call (List.mem_cons_of_mem _ mem)
    obtain ⟨unchanged, isLive, read⟩ := run_live client rows
    refine ⟨?_, ?_, ?_⟩
    · exact (ih later (call.run rows).1).unchanged.trans unchanged
    · intro row mem
      rcases List.mem_cons.mp mem with first | rest
      · exact run_reads client first.symm
      · exact (ih later (call.run rows).1).unread row rest
    · have rest := (ih later (call.run rows).1).unfelt
      rw [isLive] at rest
      exact congrArg₂ List.cons read rest

/-- A client id is no blank. -/
theorem clientId_ne_blank {env : Env} {value : Json} {clientId : String}
    (isOk : parseClientId env value = .ok clientId) : clientId ≠ "" := by
  rintro rfl
  have isClient := (parsePattern_ok_iff.mp (naming_ok_iff.mp isOk)).2
  revert isClient
  decide

end Calls

/-! ## The transaction -/

/-- **`_migrate` preserves what is stored.**  From every start, and whichever operation fails:
if it ends, the database is upgraded, no later run changes it, and the requests without a client
are out of reach of every client that can be parsed; if it raises, the database is as it was; and
it ends if nothing fails. -/
theorem migrate_preserves {fails : Failures} {now : String} {c : Connection}
    (start : Start c.committed) (closed : c.working = none) :
    (∀ c', migrate fails now c = .ok () c' →
      Upgraded c.committed c'.committed ∧
      (∀ fails' now', (Script.final (migrate fails' now') c').committed = c'.committed) ∧
      ∀ t calls, c'.committed.table? "agent_requests" = some t →
        (∀ call ∈ calls, ∃ env value, parseClientId env value = .ok call.key.clientId) →
        OutOfReach calls t.rows) ∧
    (∀ e c', migrate fails now c = .error e c' → c'.committed = c.committed) ∧
    ((∀ n, fails n = none) → ∃ c', migrate fails now c = .ok () c') := by
  obtain ⟨db', upgraded, isUpgraded⟩ := upgrade_start start
  refine ⟨?_, fun e c' failed => transaction_error runs_upgrade failed, fun never =>
    transaction_ends runs_upgrade never closed upgraded⟩
  intro c' ended
  obtain ⟨db'', did, same, -⟩ := transaction_ok runs_upgrade ended
  cases upgraded.symm.trans did
  rw [same]
  refine ⟨isUpgraded, fun fails' now' => ?_, ?_⟩
  · cases again : migrate fails' now' c' with
    | error e c'' =>
      rw [Script.final_error again]
      exact (transaction_error runs_upgrade again).trans same
    | ok u c'' =>
      rw [Script.final_ok again]
      obtain ⟨db₂, did', same', -⟩ := transaction_ok runs_upgrade again
      rw [same, upgrade_idle isUpgraded.recorded] at did'
      cases did'
      exact same'
  · intro t calls _ parsed
    refine outOfReach_of_calls (fun call mem => ?_) t.rows
    obtain ⟨env, value, isOk⟩ := parsed call mem
    exact clientId_ne_blank isOk

namespace Sample

def requestRow (requestId key : String) : Row :=
  agentRequests.row ["connector_id", "idempotency_key", "request_id", "tool_name",
    "request_digest", "status", "result_json", "created_at", "completed_at"]
    [.text "connector", .text key, .text requestId, .text "files.write", .text "digest",
      .text "completed", .text "ok", .text "2026-01-01", .text "2026-01-01"]

/-- A request with an audit event, and one without. -/
def requests : Table :=
  ⟨agentRequests, [requestRow "attributable" "k-attr", requestRow "anonymous" "k-anon"],
    by decide +kernel, by decide +kernel⟩

def events : Table :=
  ⟨agentAuditEvents, [agentAuditEvents.row
    ["event_id", "agent_principal", "connector_id", "request_id", "action", "result_code",
      "details_json", "created_at"]
    [.text "event", .text "agy2api", .text "connector", .text "attributable",
      .text "mcp.files.write", .text "ok", .text "", .text "2026-01-01"]],
    by decide +kernel, by decide +kernel⟩

/-- The schema of the first migration, without a record of it. -/
def legacy : Db :=
  Function.update (Function.update (initialDb fun _ => none) "agent_requests"
    (some (.table requests))) "agent_audit_events" (some (.table events))

theorem legacy_start : Start legacy := by
  have blank : Blank fun _ => none := ⟨fun _ _ => rfl, rfl, rfl⟩
  have installed := initialDb_installed blank
  have same : ∀ {name}, name ≠ "agent_requests" → name ≠ "agent_audit_events" →
      legacy.table? name = (initialDb fun _ => none).table? name := fun requests events =>
    (Db.table?_update_ne events).trans (Db.table?_update_ne requests)
  refine .legacy ?_ (.inl ?_)
  · exact {
      devices := installed.devices.congr (same (by decide) (by decide))
      tokens := installed.tokens.congr (same (by decide) (by decide))
      challenges := installed.challenges.congr (same (by decide) (by decide))
      instances := installed.instances.congr (same (by decide) (by decide))
      requests := ⟨requests, (Db.table?_update_ne (by decide)).trans
        (Db.table?_update_self _ _ _), rfl⟩
      events := ⟨events, Db.table?_update_self _ _ _, rfl⟩
      rebuilt := by
        unfold legacy
        rw [Function.update_of_ne (by decide), Function.update_of_ne (by decide),
          installed.rebuilt] }
  · unfold legacy
    rw [Function.update_of_ne (by decide), Function.update_of_ne (by decide),
      initialDb_other (by decide) (by decide)]

/-- A retry of a request that the legacy database cannot attribute. -/
def retry : Call :=
  .claim "2026-02-01" ⟨⟨"connector", "agy2api", "k-anon"⟩, "retried", "files.write", "digest"⟩

/-- The operation after ten others fails. -/
def failing : Failures := fun n => if n = 10 then some .exception else none

def raises (fails : Failures) : Bool :=
  match migrate fails "2026-02-01" ⟨legacy, none, 0⟩ with
  | .ok _ _ => false
  | .error _ _ => true

end Sample

/-- The legacy database is upgraded, once, out of reach of a retry; and it is kept where the
eleventh operation fails. -/
theorem migrate_preserves_legacy :
    (∃ c', migrate (fun _ => none) "2026-02-01" ⟨Sample.legacy, none, 0⟩ = .ok () c' ∧
      Upgraded Sample.legacy c'.committed ∧
      (Script.final (migrate (fun _ => none) "2026-02-02") c').committed = c'.committed ∧
      ∃ t, c'.committed.table? "agent_requests" = some t ∧ OutOfReach [Sample.retry] t.rows) ∧
    ∃ e c', migrate Sample.failing "2026-02-01" ⟨Sample.legacy, none, 0⟩ = .error e c' ∧
      c'.committed = Sample.legacy := by
  have preserves := @migrate_preserves (fun _ => none) "2026-02-01" ⟨Sample.legacy, none, 0⟩
    Sample.legacy_start rfl
  constructor
  · obtain ⟨c', ended⟩ := preserves.2.2 fun _ => rfl
    obtain ⟨upgraded, idle, outOfReach⟩ := preserves.1 c' ended
    obtain ⟨t, found, _⟩ := upgraded.installed.requests
    refine ⟨c', ended, upgraded, idle _ _, t, found, outOfReach t _ found fun call mem => ?_⟩
    cases List.mem_singleton.mp mem
    exact ⟨Sample.env, .str "agy2api", naming_ok_iff.mpr
      (parsePattern_ok_iff.mpr ⟨by decide +kernel, by decide +kernel⟩)⟩
  · have raised : Sample.raises Sample.failing = true := by decide +kernel
    unfold Sample.raises at raised
    split at raised
    · cases raised
    · rename_i e c' failed
      exact ⟨e, c', failed, (@migrate_preserves Sample.failing "2026-02-01"
        ⟨Sample.legacy, none, 0⟩ Sample.legacy_start rfl).2.1 e c' failed⟩

end RemoteAgent.Migration
