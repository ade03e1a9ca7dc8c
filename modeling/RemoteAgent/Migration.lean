import RemoteAgent.Assertion
import RemoteAgent.Lib.Sql
import RemoteAgent.Requests

/-!
# The migrations of the store

The three SQL migrations as statements over a database, and `RemoteAgentStore._migrate`, which
runs in one transaction what is not yet recorded.

* `runs_upgrade`: the transaction computes the program `upgrade`, or fails.
* `Start`: the databases that `_migrate` is made for.
* `initial_exec`, `platform_exec`, `isolation_exec`: what each migration does to the rows.
-/

namespace RemoteAgent.Migration

open Sql

/-! ## The schemas -/

def text (name : String) : Column := ⟨name, .text, false, .null, .any⟩

def textNotNull (name : String) : Column := ⟨name, .text, true, .null, .any⟩

/-- `TEXT NOT NULL CHECK (name IN (…))`. -/
def textOneOf (name : String) (texts : List String) : Column :=
  ⟨name, .text, true, .null, .oneOf texts⟩

def schemaMigrations : Schema :=
  ⟨[text "version", textNotNull "applied_at"], ["version"]⟩

def remoteAgentDevices : Schema :=
  ⟨[text "connector_id", textNotNull "public_key", textNotNull "display_label",
    textOneOf "capability_profile" ["read_only", "read_write", "full_agent"],
    textNotNull "capabilities_json", textOneOf "enrollment_state" ["enrolled", "revoked"],
    textNotNull "enrolled_at", text "revoked_at", textNotNull "updated_at"], ["connector_id"]⟩

def enrollmentTokens : Schema :=
  ⟨[text "token_hash", textNotNull "connector_id", textNotNull "capability_profile",
    textNotNull "display_label", textNotNull "expires_at", text "consumed_at",
    textNotNull "created_at"], ["token_hash"]⟩

def relayChallenges : Schema :=
  ⟨[text "challenge_id", textNotNull "challenge_hash", textNotNull "expires_at",
    text "consumed_at", textNotNull "created_at"], ["challenge_id"]⟩

def liveInstances : Schema :=
  ⟨[text "instance_id", textNotNull "connector_id", textNotNull "connection_generation",
    ⟨"context_epoch", .integer, true, .null, .natural⟩, textOneOf "state" ["online", "offline"],
    textNotNull "connected_at", textNotNull "last_heartbeat_at", text "disconnected_at"],
    ["instance_id"]⟩

def requestStatuses : List String := ["pending", "completed", "failed"]

def agentRequests : Schema :=
  ⟨[textNotNull "connector_id", textNotNull "idempotency_key", textNotNull "request_id",
    textNotNull "tool_name", textNotNull "request_digest", textOneOf "status" requestStatuses,
    text "result_json", textNotNull "created_at", text "completed_at"],
    ["connector_id", "idempotency_key"]⟩

def agentAuditEvents : Schema :=
  ⟨[text "event_id", text "agent_principal", text "connector_id", text "request_id",
    textNotNull "action", textNotNull "result_code", textNotNull "details_json",
    textNotNull "created_at"], ["event_id"]⟩

def platformColumn : Column := ⟨"platform", .text, true, .text "unknown", .any⟩

/-- `remote_agent_devices` after `002_platform.sql`. -/
def platformDevices : Schema :=
  ⟨remoteAgentDevices.columns ++ [platformColumn], remoteAgentDevices.primaryKey⟩

/-- `agent_requests_new` of `003_request_client_isolation.sql`. -/
def isolatedRequests : Schema :=
  ⟨[textNotNull "connector_id", ⟨"client_id", .text, true, .text "", .any⟩,
    textNotNull "idempotency_key", textNotNull "request_id", textNotNull "tool_name",
    textNotNull "request_digest", textOneOf "status" requestStatuses, text "result_json",
    textNotNull "created_at", text "completed_at"],
    ["connector_id", "client_id", "idempotency_key"]⟩

/-! ## The migrations -/

/-- `001_initial.sql`. -/
def initial : List Statement :=
  [.createTable true "remote_agent_devices" remoteAgentDevices,
    .createTable true "enrollment_tokens" enrollmentTokens,
    .createTable true "relay_challenges" relayChallenges,
    .createTable true "live_instances" liveInstances,
    .createIndex true "idx_remote_agent_live_instances_connector"
      ⟨"live_instances", ["connector_id", "state", "last_heartbeat_at"]⟩,
    .createTable true "agent_requests" agentRequests,
    .createTable true "agent_audit_events" agentAuditEvents]

/-- `002_platform.sql`. -/
def platform : List Statement := [.addColumn "remote_agent_devices" platformColumn]

/-- The `WHERE` of the subquery: an event of that request with a principal. -/
def attributable (requestId : Value) (event : Row) : Bool :=
  decide (event "request_id" = requestId ∧ requestId ≠ .null) &&
    decide (event "agent_principal" ≠ .null ∧ event "agent_principal" ≠ .text "")

/-- `COALESCE((SELECT a.agent_principal … ORDER BY a.created_at ASC LIMIT 1), '')`. -/
def principalOf (events : List Row) (requestId : Value) : Value :=
  match ((events.filter (attributable requestId)).insertionSort
    fun e f => (e "created_at").le (f "created_at") = true).head? with
  | some event => event "agent_principal"
  | none => .text ""

def copiedColumns : List String :=
  ["connector_id", "client_id", "idempotency_key", "request_id", "tool_name", "request_digest",
    "status", "result_json", "created_at", "completed_at"]

/-- The values that are selected for a request. -/
def copiedValues (events : List Row) (request : Row) : List Value :=
  [request "connector_id", principalOf events (request "request_id"), request "idempotency_key",
    request "request_id", request "tool_name", request "request_digest", request "status",
    request "result_json", request "created_at", request "completed_at"]

def selectRequests (db : Db) : Option (List (List Value)) :=
  match db.table? "agent_requests", db.table? "agent_audit_events" with
  | some requests, some events => some (requests.rows.map (copiedValues events.rows))
  | _, _ => none

/-- `003_request_client_isolation.sql`. -/
def requestClientIsolation : List Statement :=
  [.createTable false "agent_requests_new" isolatedRequests,
    .insert "agent_requests_new" copiedColumns selectRequests,
    .dropTable "agent_requests",
    .renameTable "agent_requests_new" "agent_requests"]

structure MigrationFile where
  name : String
  statements : List Statement

/-- `sorted(migrations_dir.glob("*.sql"))`. -/
def migrations : List MigrationFile :=
  [⟨"001_initial.sql", initial⟩, ⟨"002_platform.sql", platform⟩,
    ⟨"003_request_client_isolation.sql", requestClientIsolation⟩]

/-! ## `_migrate` -/

section Migrate

variable (fails : Failures) (now : String)

/-- The row of a migration that has been applied. -/
def record (name : String) : Statement :=
  .insert "schema_migrations" ["version", "applied_at"] fun _ => some [[.text name, .text now]]

def versions (db : Db) : Option (List Value) :=
  (db.table? "schema_migrations").map fun t => t.rows.map fun row => row "version"

/-- Whether `sqlite_master` has the table. -/
def hasInitialSchema (db : Db) : Option Bool := some (db.table? "remote_agent_devices").isSome

/-- Where nothing is recorded and the devices are there, the first migration was applied. -/
def bootstrap (applied : List Value) : Session (List Value) :=
  if applied.isEmpty then do
    let initialSchema ← query fails hasInitialSchema
    if initialSchema then do
      execute fails (record now "001_initial.sql")
      return [.text "001_initial.sql"]
    else return applied
  else return applied

def executeAll : List Statement → Session Unit
  | [] => return ()
  | statement :: statements => do
    execute fails statement
    executeAll statements

/-- `path.read_text()`, which may fail as a statement may. -/
def readText : Session Unit := query fails fun _ => some ()

def applyAll (applied : List Value) : List MigrationFile → Session Unit
  | [] => return ()
  | file :: files =>
    if .text file.name ∈ applied then applyAll applied files
    else do
      readText fails
      executeAll fails file.statements
      execute fails (record now file.name)
      applyAll applied files

def migrate : Session Unit :=
  transaction fails do
    execute fails (.createTable true "schema_migrations" schemaMigrations)
    let applied ← query fails versions
    let applied ← bootstrap fails now applied
    applyAll fails now applied migrations

end Migrate

/-! ## What `_migrate` computes -/

section Programs

variable (now : String)

def bootstrapProgram (applied : List Value) : Program (List Value) :=
  if applied.isEmpty then do
    let initialSchema ← reading hasInitialSchema
    if initialSchema then do
      (record now "001_initial.sql").program
      return [.text "001_initial.sql"]
    else return applied
  else return applied

def executeAllProgram : List Statement → Program Unit
  | [] => return ()
  | statement :: statements => do
    statement.program
    executeAllProgram statements

def applyAllProgram (applied : List Value) : List MigrationFile → Program Unit
  | [] => return ()
  | file :: files =>
    if .text file.name ∈ applied then applyAllProgram applied files
    else do
      reading fun _ => some ()
      executeAllProgram file.statements
      (record now file.name).program
      applyAllProgram applied files

/-- The body of the transaction, where no operation fails. -/
def upgrade : Program Unit := do
  (Statement.createTable true "schema_migrations" schemaMigrations).program
  let applied ← reading versions
  let applied ← bootstrapProgram now applied
  applyAllProgram now applied migrations

variable {now} {fails : Failures}

theorem runs_bootstrap (applied : List Value) :
    Runs fails (bootstrap fails now applied) (bootstrapProgram now applied) := by
  unfold bootstrap bootstrapProgram
  split
  · refine runs_bind runs_query fun initialSchema => ?_
    split
    · exact runs_bind (runs_execute _) fun _ => runs_pure _
    · exact runs_pure _
  · exact runs_pure _

theorem runs_executeAll (statements : List Statement) :
    Runs fails (executeAll fails statements) (executeAllProgram statements) := by
  induction statements with
  | nil => exact runs_pure ()
  | cons statement statements ih => exact runs_bind (runs_execute statement) fun _ => ih

theorem runs_applyAll (applied : List Value) (files : List MigrationFile) :
    Runs fails (applyAll fails now applied files) (applyAllProgram now applied files) := by
  induction files with
  | nil => exact runs_pure ()
  | cons file files ih =>
    unfold applyAll applyAllProgram
    split
    · exact ih
    · refine runs_bind runs_query fun _ => ?_
      refine runs_bind (runs_executeAll _) fun _ => ?_
      exact runs_bind (runs_execute _) fun _ => ih

/-- The transaction of `migrate` runs `upgrade`. -/
theorem runs_upgrade : Runs fails
    (do execute fails (.createTable true "schema_migrations" schemaMigrations)
        let applied ← query fails versions
        let applied ← bootstrap fails now applied
        applyAll fails now applied migrations) (upgrade now) := by
  refine runs_bind (runs_execute _) fun _ => ?_
  refine runs_bind runs_query fun applied => ?_
  exact runs_bind (runs_bootstrap applied) fun applied => runs_applyAll applied migrations

end Programs

/-! ## The databases -/

def tableNames : List String :=
  ["remote_agent_devices", "enrollment_tokens", "relay_challenges", "live_instances",
    "agent_requests", "agent_audit_events"]

def indexName : String := "idx_remote_agent_live_instances_connector"

/-- Nothing of the store is there. -/
structure Blank (db : Db) : Prop where
  tables : ∀ name ∈ tableNames, db name = none
  index : db indexName = none
  rebuilt : db "agent_requests_new" = none

/-- A table with that schema, and any rows. -/
def HasTable (db : Db) (name : String) (schema : Schema) : Prop :=
  ∃ t, db.table? name = some t ∧ t.schema = schema

/-- The schema after the first `level` migrations, from the first on. -/
structure Installed (level : Nat) (db : Db) : Prop where
  devices : HasTable db "remote_agent_devices"
    (if level ≤ 1 then remoteAgentDevices else platformDevices)
  tokens : HasTable db "enrollment_tokens" enrollmentTokens
  challenges : HasTable db "relay_challenges" relayChallenges
  instances : HasTable db "live_instances" liveInstances
  requests : HasTable db "agent_requests"
    (if level ≤ 2 then agentRequests else isolatedRequests)
  events : HasTable db "agent_audit_events" agentAuditEvents
  rebuilt : db "agent_requests_new" = none

/-- The schema after the first `level` migrations. -/
def UpTo : Nat → Db → Prop
  | 0, db => Blank db
  | level + 1, db => Installed (level + 1) db

def fileNames : List Value := migrations.map fun file => .text file.name

/-- The first `level` migrations are recorded, each once, and nothing else is. -/
def Recorded (level : Nat) (db : Db) : Prop :=
  ∃ t, db.table? "schema_migrations" = some t ∧ t.schema = schemaMigrations ∧
    (t.rows.map fun row => row "version").Perm (fileNames.take level)

/-- The databases that `_migrate` is made for, with any rows and any further tables. -/
inductive Start (db : Db) : Prop
  | empty (blank : Blank db) (unrecorded : db "schema_migrations" = none)
  | legacy (installed : Installed 1 db)
      (unrecorded : db "schema_migrations" = none ∨ Recorded 0 db)
  | recorded (level : Nat) (bound : level ≤ 3) (upTo : UpTo level db)
      (isRecorded : Recorded level db)

/-! ## What becomes of the rows -/

/-- The columns of the schema are unchanged. -/
def SameColumns (schema : Schema) (row row' : Row) : Prop :=
  ∀ name ∈ schema.names, row' name = row name

/-- The client of a request is the principal of an audit event of that request, or blank. -/
def Backfilled (events : List Row) (row row' : Row) : Prop :=
  row' "client_id" = .text "" ∨
    ∃ event ∈ events, event "request_id" = row "request_id" ∧
      event "agent_principal" = row' "client_id" ∧ row' "client_id" ≠ .null

/-! ## One migration -/

section Steps

variable {db : Db}

theorem table?_of_object {name : String} {t : Table} (is : db.table? name = some t) :
    db name = some (.table t) := by
  unfold Db.table? at is
  split at is
  · rename_i found
    cases is
    exact found
  · cases is
  · cases is

/-- The version is recorded after those that are. -/
theorem record_exec (now : String) {t : Table} {name : String} (is : db.table? "schema_migrations" = some t)
    (schema : t.schema = schemaMigrations)
    (isNew : Value.text name ∉ t.rows.map fun row => row "version") :
    ∃ t', (record now name).exec db =
        some (Function.update db "schema_migrations" (some (.table t'))) ∧
      t'.schema = schemaMigrations ∧
      (t'.rows.map fun row => row "version") =
        (t.rows.map fun row => row "version") ++ [.text name] := by
  have inserted : t.insert? ["version", "applied_at"] [[.text name, .text now]] =
      Table.ofRows? t.schema (t.rows ++
        [t.schema.row ["version", "applied_at"] [.text name, .text now]]) := by
    unfold Table.insert?
    rw [schema]
    rfl
  have version : t.schema.row ["version", "applied_at"] [.text name, .text now] "version" =
      .text name := rfl
  have appliedAt : t.schema.row ["version", "applied_at"] [.text name, .text now] "applied_at" =
      .text now := rfl
  unfold record Statement.exec
  dsimp only
  rw [is]
  dsimp only
  rw [inserted, Table.ofRows?_sound ?_ ?_]
  · refine ⟨_, rfl, schema, ?_⟩
    rw [List.map_append, List.map_singleton, version]
  · intro row mem
    rcases List.mem_append.mp mem with old | new
    · exact t.admitted row old
    · rw [List.mem_singleton.mp new]
      unfold Schema.admits
      rw [show t.schema.columns = [text "version", textNotNull "applied_at"] from
        congrArg Schema.columns schema]
      simp only [List.all_cons, List.all_nil, text, textNotNull, version, appliedAt]
      rfl
  · refine List.pairwise_append.mpr ⟨t.distinct, List.pairwise_singleton _ _, ?_⟩
    intro row mem row' mem'
    rw [List.mem_singleton.mp mem']
    unfold Schema.collides
    rw [show t.schema.primaryKey = ["version"] from congrArg Schema.primaryKey schema]
    have different : row "version" ≠ .text name := fun same =>
      isNew (List.mem_map.mpr ⟨row, mem, same⟩)
    simp [version, different]

/-- A database with one more table, which has no rows. -/
def withTable (db : Db) (name : String) (schema : Schema) : Db :=
  Function.update db name (some (.table (Table.empty schema)))

/-- A table is created where its name is free. -/
theorem createTable_exec {ifNotExists : Bool} {name : String} {schema : Schema}
    (free : db name = none) :
    (Statement.createTable ifNotExists name schema).exec db = some (withTable db name schema) := by
  simp only [Statement.exec, free, withTable]

theorem withTable_other {name other : String} {schema : Schema} (ne : other ≠ name) :
    withTable db name schema other = db other := Function.update_of_ne ne _ _

theorem withTable_table? (db : Db) (name : String) (schema : Schema) :
    (withTable db name schema).table? name = some (Table.empty schema) :=
  Db.table?_update_self _ _ _

theorem table?_withTable {name other : String} {schema : Schema} (ne : other ≠ name) :
    (withTable db name schema).table? other = db.table? other := Db.table?_update_ne ne

def liveInstancesIndex : Index :=
  ⟨"live_instances", ["connector_id", "state", "last_heartbeat_at"]⟩

/-- The first four tables, and the others after the index. -/
def initialTables (db : Db) : Db :=
  withTable (withTable (withTable (withTable db "remote_agent_devices" remoteAgentDevices)
    "enrollment_tokens" enrollmentTokens) "relay_challenges" relayChallenges)
    "live_instances" liveInstances

def initialDb (db : Db) : Db :=
  withTable (withTable (Function.update (initialTables db) indexName
    (some (.index liveInstancesIndex))) "agent_requests" agentRequests)
    "agent_audit_events" agentAuditEvents

theorem initialTables_other {name : String}
    (other : name ∉ ["remote_agent_devices", "enrollment_tokens", "relay_challenges",
      "live_instances"]) : initialTables db name = db name := by
  simp only [List.mem_cons, List.not_mem_nil, or_false, not_or] at other
  obtain ⟨devices, tokens, challenges, instances⟩ := other
  unfold initialTables
  rw [withTable_other instances, withTable_other challenges, withTable_other tokens,
    withTable_other devices]

theorem initialDb_other {name : String} (table : name ∉ tableNames) (index : name ≠ indexName) :
    initialDb db name = db name := by
  simp only [tableNames, List.mem_cons, List.not_mem_nil, or_false, not_or] at table
  unfold initialDb
  rw [withTable_other (by tauto), withTable_other (by tauto), Function.update_of_ne index,
    initialTables_other (by simp only [List.mem_cons, List.not_mem_nil, or_false]; tauto)]

/-- `001_initial.sql` on a blank database. -/
theorem initial_exec (blank : Blank db) : execAll initial db = some (initialDb db) := by
  have free : ∀ {name}, name ∈ tableNames → db name = none := fun mem => blank.tables _ mem
  have index : (Statement.createIndex true indexName liveInstancesIndex).exec (initialTables db) =
      some (Function.update (initialTables db) indexName (some (.index liveInstancesIndex))) := by
    have there : (initialTables db).table? "live_instances" = some (Table.empty liveInstances) :=
      withTable_table? _ _ _
    have free' : initialTables db indexName = none := by
      rw [initialTables_other (by decide), blank.index]
    unfold Statement.exec
    simp only [liveInstancesIndex, there, free']
    rfl
  unfold initial
  simp only [execAll]
  rw [createTable_exec (free (by decide)), Option.bind_some]
  rw [createTable_exec (by rw [withTable_other (by decide), free (by decide)]), Option.bind_some]
  rw [createTable_exec (by
    rw [withTable_other (by decide), withTable_other (by decide), free (by decide)]),
    Option.bind_some]
  rw [createTable_exec (by
    rw [withTable_other (by decide), withTable_other (by decide), withTable_other (by decide),
      free (by decide)]), Option.bind_some]
  change ((Statement.createIndex true indexName liveInstancesIndex).exec (initialTables db)).bind
    _ = _
  rw [index, Option.bind_some]
  rw [createTable_exec (by
    rw [Function.update_of_ne (by decide), initialTables_other (by decide), free (by decide)]),
    Option.bind_some]
  rw [createTable_exec (by
    rw [withTable_other (by decide), Function.update_of_ne (by decide),
      initialTables_other (by decide), free (by decide)]), Option.bind_some]
  rfl

theorem initialDb_installed (blank : Blank db) : Installed 1 (initialDb db) := by
  have early : ∀ {name}, name ≠ "agent_requests" → name ≠ "agent_audit_events" →
      name ≠ indexName → (initialDb db).table? name = (initialTables db).table? name := by
    intro name requests events index
    unfold initialDb
    rw [table?_withTable events, table?_withTable requests, Db.table?_update_ne index]
  constructor
  · refine ⟨Table.empty remoteAgentDevices, ?_, rfl⟩
    rw [early (by decide) (by decide) (by decide)]
    unfold initialTables
    rw [table?_withTable (by decide), table?_withTable (by decide), table?_withTable (by decide),
      withTable_table?]
  · refine ⟨Table.empty enrollmentTokens, ?_, rfl⟩
    rw [early (by decide) (by decide) (by decide)]
    unfold initialTables
    rw [table?_withTable (by decide), table?_withTable (by decide), withTable_table?]
  · refine ⟨Table.empty relayChallenges, ?_, rfl⟩
    rw [early (by decide) (by decide) (by decide)]
    unfold initialTables
    rw [table?_withTable (by decide), withTable_table?]
  · refine ⟨Table.empty liveInstances, ?_, rfl⟩
    rw [early (by decide) (by decide) (by decide)]
    exact withTable_table? _ _ _
  · refine ⟨Table.empty agentRequests, ?_, rfl⟩
    unfold initialDb
    rw [table?_withTable (by decide), withTable_table?]
  · exact ⟨Table.empty agentAuditEvents, withTable_table? _ _ _, rfl⟩
  · rw [initialDb_other (by decide) (by decide), blank.rebuilt]

/-! ### The platform -/

/-- `002_platform.sql` on a table of devices. -/
theorem platform_exec {t : Table} (is : db.table? "remote_agent_devices" = some t)
    (schema : t.schema = remoteAgentDevices) :
    ∃ t', execAll platform db =
        some (Function.update db "remote_agent_devices" (some (.table t'))) ∧
      t'.schema = platformDevices ∧
      List.Forall₂ (SameColumns t.schema) t.rows t'.rows := by
  have isNew : t.schema.names.contains platformColumn.name = false := by
    rw [schema]
    decide
  have noKey : platformColumn.name ∉ t.schema.primaryKey := by
    rw [schema]
    decide
  obtain ⟨t', isAdded, schema', rows⟩ := Table.addColumn?_ok isNew noKey (by decide)
  refine ⟨t', ?_, ?_, ?_⟩
  · simp only [platform, execAll, Statement.exec, is, isAdded, Option.map_some, Option.bind_some]
  · rw [schema', schema]
    rfl
  · rw [rows, List.forall₂_map_right_iff]
    refine List.forall₂_same.mpr fun row _ name mem => Function.update_of_ne ?_ _ _
    rintro rfl
    rw [schema] at mem
    exact absurd mem (by decide)

/-! ### The isolation of the clients -/

/-- The row that is made of a request. -/
def isolatedRow (events : List Row) (request : Row) : Row :=
  isolatedRequests.row copiedColumns (copiedValues events request)

theorem isolatedRow_column (events : List Row) (request : Row) {name : String}
    (old : name ∈ agentRequests.names) : isolatedRow events request name = request name := by
  simp only [Schema.names, agentRequests, List.map_cons, List.map_nil, text, textNotNull,
    textOneOf, List.mem_cons, List.not_mem_nil, or_false] at old
  rcases old with rfl | rfl | rfl | rfl | rfl | rfl | rfl | rfl | rfl <;> rfl

theorem isolatedRow_client (events : List Row) (request : Row) :
    isolatedRow events request "client_id" = principalOf events (request "request_id") := rfl

/-- The principal is that of an event of the request, and no null. -/
theorem principalOf_backfills (events : List Row) (requestId : Value) :
    principalOf events requestId = .text "" ∨
      ∃ event ∈ events, event "request_id" = requestId ∧
        event "agent_principal" = principalOf events requestId ∧
        principalOf events requestId ≠ .null := by
  unfold principalOf
  split
  · rename_i event first
    have mem := List.mem_of_mem_head? first
    rw [List.mem_insertionSort, List.mem_filter] at mem
    obtain ⟨mem, attributed⟩ := mem
    obtain ⟨same, principal⟩ := (Bool.and_eq_true _ _).mp attributed
    exact .inr ⟨event, mem, (of_decide_eq_true same).1, rfl, (of_decide_eq_true principal).1⟩
  · exact .inl rfl

theorem mem_names {schema : Schema} {column : Column} (mem : column ∈ schema.columns) :
    column.name ∈ schema.names := List.mem_map_of_mem mem

theorem isolatedRow_admitted {events : List Row} {request : Row}
    (admitted : agentRequests.admits request = true)
    (eventsAdmitted : ∀ event ∈ events, agentAuditEvents.admits event = true) :
    isolatedRequests.admits (isolatedRow events request) = true := by
  have columns : ∀ column ∈ isolatedRequests.columns,
      column.name = "client_id" ∧ column.affinity = .text ∧ column.check = .any ∨
        column ∈ agentRequests.columns := by decide
  refine List.all_eq_true.mpr fun column mem => ?_
  rcases columns column mem with ⟨name, affinity, check⟩ | old
  · rw [name, isolatedRow_client]
    rcases principalOf_backfills events (request "request_id") with blank |
      ⟨event, inEvents, -, is, notNull⟩
    · simp [Column.admits, blank, affinity, check, Affinity.holds, Check.passes]
    · have held := List.all_eq_true.mp (eventsAdmitted event inEvents) (text "agent_principal")
        (by decide)
      rw [show (text "agent_principal").name = "agent_principal" from rfl, is] at held
      simp only [Column.admits, text, Bool.and_eq_true] at held
      simp [Column.admits, affinity, check, held.1.2, held.2, notNull]
  · rw [isolatedRow_column events request (mem_names old)]
    exact List.all_eq_true.mp admitted column old

/-- The new key is finer than the old one. -/
theorem isolatedRow_apart {events : List Row} {request request' : Row}
    (apart : agentRequests.collides request request' = false) :
    isolatedRequests.collides (isolatedRow events request) (isolatedRow events request') =
      false := by
  by_contra collide
  rw [Bool.not_eq_false] at collide
  have same := List.all_eq_true.mp ((Bool.and_eq_true _ _).mp collide).2
  have connector := of_decide_eq_true (same "connector_id" (by decide))
  have key := of_decide_eq_true (same "idempotency_key" (by decide))
  rw [isolatedRow_column _ _ (by decide), isolatedRow_column _ _ (by decide)] at connector key
  have connector' : request' "connector_id" ≠ .null := connector.1 ▸ connector.2
  have key' : request' "idempotency_key" ≠ .null := key.1 ▸ key.2
  have collide' : agentRequests.collides request request' = true := by
    simp [Schema.collides, agentRequests, connector.1, connector', key.1, key']
  rw [apart] at collide'
  cases collide'

/-- The table under the new name is created and filled. -/
theorem fill_exec {t events : Table} (is : db.table? "agent_requests" = some t)
    (schema : t.schema = agentRequests) (isEvents : db.table? "agent_audit_events" = some events)
    (eventSchema : events.schema = agentAuditEvents) (free : db "agent_requests_new" = none) :
    ∃ db' new, execAll (requestClientIsolation.take 2) db = some db' ∧
      db'.table? "agent_requests_new" = some new ∧ new.schema = isolatedRequests ∧
      new.rows = t.rows.map (isolatedRow events.rows) ∧
      ∀ name, name ≠ "agent_requests_new" → db'.table? name = db.table? name := by
  have admitted : ∀ row ∈ t.rows.map (isolatedRow events.rows),
      isolatedRequests.admits row = true := by
    intro row mem
    obtain ⟨request, inRows, rfl⟩ := List.mem_map.mp mem
    exact isolatedRow_admitted (schema ▸ t.admitted request inRows) (eventSchema ▸ events.admitted)
  have distinct : (t.rows.map (isolatedRow events.rows)).Pairwise fun row row' =>
      isolatedRequests.collides row row' = false := by
    have distinct := t.distinct
    rw [schema] at distinct
    rw [List.pairwise_map]
    exact distinct.imp isolatedRow_apart
  obtain ⟨new, made, newSchema, newRows⟩ : ∃ new, Table.ofRows? isolatedRequests
      (t.rows.map (isolatedRow events.rows)) = some new ∧ new.schema = isolatedRequests ∧
      new.rows = t.rows.map (isolatedRow events.rows) :=
    ⟨_, Table.ofRows?_sound admitted distinct, rfl, rfl⟩
  have created : (Statement.createTable false "agent_requests_new" isolatedRequests).exec db =
      some (withTable db "agent_requests_new" isolatedRequests) := createTable_exec free
  have selected : selectRequests (withTable db "agent_requests_new" isolatedRequests) =
      some (t.rows.map (copiedValues events.rows)) := by
    unfold selectRequests
    rw [table?_withTable (by decide), table?_withTable (by decide), is, isEvents]
  have inserted : (Table.empty isolatedRequests).insert? copiedColumns
      (t.rows.map (copiedValues events.rows)) = some new := by
    have columns : copiedColumns.all isolatedRequests.names.contains = true := by decide
    unfold Table.insert?
    rw [show (Table.empty isolatedRequests).schema = isolatedRequests from rfl, if_pos columns,
      List.map_map, show (Table.empty isolatedRequests).rows = [] from rfl, List.nil_append]
    exact made
  refine ⟨Function.update (withTable db "agent_requests_new" isolatedRequests)
    "agent_requests_new" (some (.table new)), new, ?_, Db.table?_update_self _ _ _, newSchema,
    newRows, ?_⟩
  · simp only [requestClientIsolation, List.take_succ_cons, List.take_zero, execAll]
    rw [created, Option.bind_some]
    simp only [Statement.exec, withTable_table?, selected, inserted, Option.map_some,
      Option.bind_some]
  · intro name ne
    rw [Db.table?_update_ne ne, table?_withTable ne]

/-- It takes the place of the old one. -/
theorem swap_exec {t new : Table} (is : db.table? "agent_requests" = some t)
    (isNew : db.table? "agent_requests_new" = some new) :
    ∃ db', execAll (requestClientIsolation.drop 2) db = some db' ∧
      db'.table? "agent_requests" = some new ∧ db' "agent_requests_new" = none ∧
      ∀ name, name ≠ "agent_requests" → name ≠ "agent_requests_new" →
        db'.table? name = db.table? name := by
  have isNew' : (db.drop "agent_requests").table? "agent_requests_new" = some new := by
    rw [Db.table?_drop (by decide), isNew]
  have gone : db.drop "agent_requests" "agent_requests" = none := if_pos rfl
  refine ⟨(db.drop "agent_requests").rename "agent_requests_new" "agent_requests", ?_, ?_,
    Db.rename_source (by decide), ?_⟩
  · simp only [requestClientIsolation, List.drop_succ_cons, List.drop_zero, execAll,
      Statement.exec, is, isNew', gone, Option.bind_some]
  · rw [Db.table?_rename_target, isNew']
  · intro name ne ne'
    rw [Db.table?_rename ne' ne, Db.table?_drop ne]

/-- `003_request_client_isolation.sql` on a table of requests. -/
theorem isolation_exec {t events : Table} (is : db.table? "agent_requests" = some t)
    (schema : t.schema = agentRequests) (isEvents : db.table? "agent_audit_events" = some events)
    (eventSchema : events.schema = agentAuditEvents) (free : db "agent_requests_new" = none) :
    ∃ db' t', execAll requestClientIsolation db = some db' ∧
      db'.table? "agent_requests" = some t' ∧ t'.schema = isolatedRequests ∧
      List.Forall₂ (fun row row' => SameColumns t.schema row row' ∧
        Backfilled events.rows row row') t.rows t'.rows ∧
      (∀ name, name ≠ "agent_requests" → db'.table? name = db.table? name) ∧
      db' "agent_requests_new" = none := by
  obtain ⟨db₁, new, filled, isNew, newSchema, newRows, others⟩ :=
    fill_exec is schema isEvents eventSchema free
  have still := (others "agent_requests" (by decide)).trans is
  obtain ⟨db₂, swapped, isRequests, gone, others'⟩ := swap_exec still isNew
  refine ⟨db₂, new, ?_, isRequests, newSchema, ?_, ?_, gone⟩
  · rw [← List.take_append_drop 2 requestClientIsolation, execAll_append, filled]
    exact swapped
  · rw [newRows, List.forall₂_map_right_iff]
    refine List.forall₂_same.mpr fun request _ => ⟨fun name mem => ?_, ?_⟩
    · exact isolatedRow_column _ _ (schema ▸ mem)
    · unfold Backfilled
      rw [isolatedRow_client]
      exact principalOf_backfills events.rows (request "request_id")
  · intro name ne
    by_cases rebuilt : name = "agent_requests_new"
    · subst rebuilt
      unfold Db.table?
      rw [gone, free]
    · rw [others' name ne rebuilt, others name rebuilt]

end Steps

end RemoteAgent.Migration
