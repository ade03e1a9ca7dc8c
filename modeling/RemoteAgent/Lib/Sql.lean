import Mathlib.Data.List.Forall2
import Mathlib.Data.Rat.Defs
import Mathlib.Logic.Function.Basic
import RemoteAgent.Lib.Script

/-!
# Databases with a schema, and transactions over them

Tables with `NOT NULL`, `CHECK` and `PRIMARY KEY` constraints, the statements that define and
fill them, and a connection on which statements run inside a transaction and may fail.  Values
are those that are stored: a statement moves values between columns of one declared type.

* `Statement.exec`: what a statement does; `none` is a database error.
* `Db.table?_drop`, `Db.table?_rename`: the other tables after a statement.
* `transaction_error`, `transaction_ok`: a transaction that fails changes nothing, and one
  that ends leaves what its body leaves.
-/

namespace Sql

/-! ## Values and schemas -/

/-- A stored value; a real is a finite double. -/
inductive Value where
  | null
  | integer (i : Int)
  | real (x : Rat)
  | text (s : String)
  | blob (bytes : List Nat)
deriving DecidableEq

/-- `ORDER BY`: nulls, numbers, texts in the order of their characters, blobs. -/
def Value.le : Value → Value → Bool
  | .null, _ => true
  | _, .null => false
  | .integer i, .integer j => decide (i ≤ j)
  | .integer i, .real y => decide ((i : Rat) ≤ y)
  | .real x, .integer j => decide (x ≤ (j : Rat))
  | .real x, .real y => decide (x ≤ y)
  | .integer _, _ | .real _, _ => true
  | _, .integer _ | _, .real _ => false
  | .text s, .text t => decide (s ≤ t)
  | .text _, .blob _ => true
  | .blob _, .text _ => false
  | .blob b, .blob c => decide (b ≤ c)

/-- The declared type of a column.  A column `TEXT` holds no numbers. -/
inductive Affinity where
  | text | integer
deriving DecidableEq

def Affinity.holds : Affinity → Value → Bool
  | .text, .integer _ | .text, .real _ => false
  | _, _ => true

/-- The `CHECK` of a column, which a null passes. -/
inductive Check where
  | any
  /-- `column IN (…)`. -/
  | oneOf (texts : List String)
  /-- `column >= 0`. -/
  | natural
deriving DecidableEq

def Check.passes : Check → Value → Bool
  | _, .null => true
  | .any, _ => true
  | .oneOf texts, .text s => texts.contains s
  | .oneOf _, _ => false
  | .natural, .integer i => decide (0 ≤ i)
  | .natural, .real x => decide (0 ≤ x)
  | .natural, _ => true

structure Column where
  name : String
  affinity : Affinity
  notNull : Bool
  default : Value
  check : Check
deriving DecidableEq

def Column.admits (column : Column) (value : Value) : Bool :=
  !(column.notNull && value == .null) && column.affinity.holds value && column.check.passes value

structure Schema where
  columns : List Column
  primaryKey : List String
deriving DecidableEq

namespace Schema

def names (schema : Schema) : List String := schema.columns.map Column.name

def default (schema : Schema) (name : String) : Value :=
  match schema.columns.find? (fun column => decide (column.name = name)) with
  | some column => column.default
  | none => .null

end Schema

/-- A value for each column; names outside the schema are not read. -/
abbrev Row := String → Value

namespace Schema

def admits (schema : Schema) (row : Row) : Bool :=
  schema.columns.all fun column => column.admits (row column.name)

/-- The two rows have one primary key; a null is not equal to a null. -/
def collides (schema : Schema) (row row' : Row) : Bool :=
  !schema.primaryKey.isEmpty &&
    schema.primaryKey.all fun name => decide (row name = row' name ∧ row name ≠ .null)

/-- The row that `INSERT INTO t (columns) VALUES (values)` makes. -/
def row (schema : Schema) (columns : List String) (values : List Value) : Row := fun name =>
  ((columns.zip values).lookup name).getD (schema.default name)

end Schema

/-! ## Tables -/

/-- The rows of a table satisfy its constraints. -/
structure Table where
  schema : Schema
  rows : List Row
  admitted : ∀ row ∈ rows, schema.admits row = true
  distinct : rows.Pairwise fun row row' => schema.collides row row' = false

namespace Table

def empty (schema : Schema) : Table :=
  ⟨schema, [], fun _ mem => absurd mem List.not_mem_nil, List.Pairwise.nil⟩

/-- The table with these rows, if they satisfy the constraints. -/
def ofRows? (schema : Schema) (rows : List Row) : Option Table :=
  if sound : (∀ row ∈ rows, schema.admits row = true) ∧
      rows.Pairwise fun row row' => schema.collides row row' = false
  then some ⟨schema, rows, sound.1, sound.2⟩
  else none

/-- `INSERT`. -/
def insert? (t : Table) (columns : List String) (rows : List (List Value)) : Option Table :=
  if columns.all t.schema.names.contains then
    ofRows? t.schema (t.rows ++ rows.map (t.schema.row columns))
  else none

/-- `ALTER TABLE t ADD COLUMN`: the rows get the default value. -/
def addColumn? (t : Table) (column : Column) : Option Table :=
  if t.schema.names.contains column.name then none
  else ofRows? ⟨t.schema.columns ++ [column], t.schema.primaryKey⟩
    (t.rows.map fun row => Function.update row column.name column.default)

theorem ofRows?_sound {schema : Schema} {rows : List Row}
    (admitted : ∀ row ∈ rows, schema.admits row = true)
    (distinct : rows.Pairwise fun row row' => schema.collides row row' = false) :
    ofRows? schema rows = some ⟨schema, rows, admitted, distinct⟩ := dif_pos ⟨admitted, distinct⟩

/-- A column whose default it admits, and which is not in the primary key, can be added. -/
theorem addColumn?_ok {t : Table} {column : Column}
    (isNew : t.schema.names.contains column.name = false)
    (noKey : column.name ∉ t.schema.primaryKey)
    (admitsDefault : column.admits column.default = true) :
    ∃ t', t.addColumn? column = some t' ∧
      t'.schema = ⟨t.schema.columns ++ [column], t.schema.primaryKey⟩ ∧
      t'.rows = t.rows.map fun row => Function.update row column.name column.default := by
  have other : ∀ c ∈ t.schema.columns, c.name ≠ column.name := by
    intro c mem same
    have named : column.name ∈ t.schema.names := List.mem_map.mpr ⟨c, mem, same⟩
    rw [List.contains_iff_mem.mpr named] at isNew
    cases isNew
  unfold addColumn?
  rw [isNew, if_neg (by decide), ofRows?_sound ?_ ?_]
  · exact ⟨_, rfl, rfl, rfl⟩
  · intro row mem
    obtain ⟨row₀, mem₀, rfl⟩ := List.mem_map.mp mem
    refine List.all_eq_true.mpr fun c inColumns => ?_
    rcases List.mem_append.mp inColumns with old | new
    · rw [Function.update_of_ne (other c old)]
      exact List.all_eq_true.mp (t.admitted row₀ mem₀) c old
    · rw [List.mem_singleton.mp new, Function.update_self]
      exact admitsDefault
  · rw [List.pairwise_map]
    refine t.distinct.imp fun {row row'} apart => ?_
    have same : Schema.collides ⟨t.schema.columns ++ [column], t.schema.primaryKey⟩
        (Function.update row column.name column.default)
        (Function.update row' column.name column.default) = t.schema.collides row row' := by
      unfold Schema.collides
      refine congrArg _ (Bool.eq_iff_iff.mpr ?_)
      rw [List.all_eq_true, List.all_eq_true]
      refine forall₂_congr fun name mem => ?_
      have ne : name ≠ column.name := fun same => noKey (same ▸ mem)
      rw [Function.update_of_ne ne, Function.update_of_ne ne]
    rw [same, apart]

end Table

/-! ## Databases -/

structure Index where
  table : String
  columns : List String
deriving DecidableEq

inductive Object where
  | table (t : Table)
  | index (i : Index)

/-- The objects of a database by their names, as in `sqlite_master`. -/
abbrev Db := String → Option Object

namespace Db

def table? (db : Db) (name : String) : Option Table :=
  match db name with
  | some (.table t) => some t
  | some (.index _) | none => none

/-- The database without a table, and without the indexes on it. -/
def drop (db : Db) (name : String) : Db := fun other =>
  if other = name then none
  else
    match db other with
    | some (.index i) => if i.table = name then none else some (.index i)
    | object => object

/-- The database with a table under another name; its indexes follow it. -/
def rename (db : Db) (name target : String) : Db := fun other =>
  if other = target then db name
  else if other = name then none
  else
    match db other with
    | some (.index i) => some (.index (if i.table = name then { i with table := target } else i))
    | object => object

theorem table?_update_self (db : Db) (name : String) (t : Table) :
    table? (Function.update db name (some (.table t))) name = some t := by
  unfold table?
  rw [Function.update_self]

theorem table?_update_ne {db : Db} {name other : String} {object : Option Object}
    (ne : other ≠ name) : table? (Function.update db name object) other = db.table? other := by
  unfold table?
  rw [Function.update_of_ne ne]

theorem table?_drop {db : Db} {name other : String} (ne : other ≠ name) :
    (db.drop name).table? other = db.table? other := by
  unfold table? drop
  rw [if_neg ne]
  cases found : db other with
  | none => rfl
  | some object =>
    cases object with
    | table t => rfl
    | index i => by_cases same : i.table = name <;> simp [same]

theorem table?_rename {db : Db} {name target other : String} (ne : other ≠ name)
    (ne' : other ≠ target) : (db.rename name target).table? other = db.table? other := by
  unfold table? rename
  rw [if_neg ne', if_neg ne]
  cases found : db other with
  | none => rfl
  | some object => cases object <;> rfl

theorem table?_rename_target (db : Db) (name target : String) :
    (db.rename name target).table? target = db.table? name := by
  unfold table? rename
  rw [if_pos rfl]

theorem rename_source {db : Db} {name target : String} (ne : name ≠ target) :
    db.rename name target name = none := by
  unfold rename
  rw [if_neg ne, if_pos rfl]

end Db

/-! ## Statements -/

inductive Statement where
  | createTable (ifNotExists : Bool) (name : String) (schema : Schema)
  | createIndex (ifNotExists : Bool) (name : String) (index : Index)
  | addColumn (table : String) (column : Column)
  /-- The rows are those of a `VALUES` or of a `SELECT` over the database. -/
  | insert (table : String) (columns : List String) (select : Db → Option (List (List Value)))
  | dropTable (name : String)
  | renameTable (name target : String)

/-- The database after a statement; `none` is an error, which changes nothing. -/
def Statement.exec : Statement → Db → Option Db
  | .createTable ifNotExists name schema, db =>
    match db name with
    | none => some (Function.update db name (some (.table (Table.empty schema))))
    | some (.table _) => if ifNotExists then some db else none
    | some (.index _) => none
  | .createIndex ifNotExists name index, db =>
    match db.table? index.table, db name with
    | none, _ | some _, some (.table _) => none
    | some _, some (.index _) => if ifNotExists then some db else none
    | some t, none =>
      if index.columns.all t.schema.names.contains then
        some (Function.update db name (some (.index index)))
      else none
  | .addColumn name column, db =>
    match db.table? name with
    | none => none
    | some t => (t.addColumn? column).map fun t' => Function.update db name (some (.table t'))
  | .insert name columns select, db =>
    match db.table? name, select db with
    | some t, some rows =>
      (t.insert? columns rows).map fun t' => Function.update db name (some (.table t'))
    | _, _ => none
  | .dropTable name, db =>
    match db.table? name with
    | none => none
    | some _ => some (db.drop name)
  | .renameTable name target, db =>
    match db.table? name, db target with
    | some _, none => some (db.rename name target)
    | _, _ => none

/-- The statements one after another. -/
def execAll : List Statement → Db → Option Db
  | [], db => some db
  | statement :: statements, db => (statement.exec db).bind (execAll statements)

theorem execAll_append (front back : List Statement) (db : Db) :
    execAll (front ++ back) db = (execAll front db).bind (execAll back) := by
  induction front generalizing db with
  | nil => rfl
  | cons statement front ih =>
    simp only [List.cons_append, execAll]
    cases statement.exec db with
    | none => rfl
    | some db' => exact ih db'

/-! ## Transactions -/

/-- What an operation raises: an exception that `except Exception` takes, or one that it does
not. -/
inductive Raised where
  | exception
  | base
deriving DecidableEq

/-- A connection: what is committed, what a transaction sees while one is open, and how many
operations have run. -/
structure Connection where
  committed : Db
  working : Option Db
  operations : Nat

abbrev Session (α : Type) := EStateM Raised Connection α

/-- Which operation fails, counted from the first, and with what. -/
abbrev Failures := Nat → Option Raised

namespace Connection

def current (c : Connection) : Db := c.working.getD c.committed

end Connection

section Sessions

variable (fails : Failures)

/-- An operation: it fails, or it does its work, which may refuse. -/
def operation {α : Type} (work : Connection → Option (α × Connection)) : Session α := fun c =>
  let counted := { c with operations := c.operations + 1 }
  match fails c.operations with
  | some raised => .error raised counted
  | none =>
    match work counted with
    | some (a, c') => .ok a c'
    | none => .error .exception counted

/-- Within a transaction a statement changes what the transaction sees. -/
def execute (statement : Statement) : Session Unit :=
  operation fails fun c =>
    (statement.exec c.current).map fun db =>
      ((), match c.working with
        | some _ => { c with working := some db }
        | none => { c with committed := db })

def query {α : Type} (read : Db → Option α) : Session α :=
  operation fails fun c => (read c.current).map fun a => (a, c)

/-- `BEGIN IMMEDIATE`. -/
def begin : Session Unit :=
  operation fails fun c =>
    match c.working with
    | none => some ((), { c with working := some c.committed })
    | some _ => none

def rollback : Session Unit := operation fails fun c => some ((), { c with working := none })

def commit : Session Unit :=
  operation fails fun c => some ((), { c with committed := c.current, working := none })

/-- `with self.transaction():`. -/
def transaction (body : Session Unit) : Session Unit := do
  begin fails
  tryCatch body fun raised => match raised with
    | .exception => do
      rollback fails
      throw .exception
    | .base => throw .base
  commit fails

end Sessions

/-! ## What a session leaves -/

section Kept

open Script

variable {fails : Failures} {α : Type} {c c' : Connection} {e : Raised} {u : Unit}

theorem operation_eq_ok {work : Connection → Option (α × Connection)} {a : α} :
    operation fails work c = .ok a c' ↔ fails c.operations = none ∧
      work { c with operations := c.operations + 1 } = some (a, c') := by
  unfold operation
  cases fails c.operations with
  | some raised => simp
  | none =>
    cases done : work { c with operations := c.operations + 1 } <;> simp [done, Prod.ext_iff]

theorem operation_eq_error {work : Connection → Option (α × Connection)}
    (raised : operation fails work c = .error e c') :
    c' = { c with operations := c.operations + 1 } := by
  unfold operation at raised
  dsimp only at raised
  split at raised
  · cases raised
    rfl
  · split at raised
    · cases raised
    · cases raised
      rfl

/-- What a session computes when nothing fails: a value and the database it leaves. -/
abbrev Program (α : Type) := StateT Db Option α

/-- A program goes on from where its first part ends. -/
theorem program_bind {β : Type} {x : Program α} {f : α → Program β} {db db₁ : Db} {a : α}
    (did : x db = some (a, db₁)) : (x >>= f) db = f a db₁ := by
  change (x db).bind _ = _
  rw [did]
  rfl

/-- Inside a transaction the session does what the program does, where no operation fails, and
it commits nothing. -/
structure Runs (fails : Failures) (x : Session α) (program : Program α) : Prop where
  ok : ∀ {c db a c'}, c.working = some db → x c = .ok a c' →
    ∃ db', program db = some (a, db') ∧ c'.working = some db' ∧ c'.committed = c.committed
  error : ∀ {c db e c'}, c.working = some db → x c = .error e c' → c'.committed = c.committed
  ends : (∀ n, fails n = none) → ∀ {c db a db'}, c.working = some db →
    program db = some (a, db') → ∃ c', x c = .ok a c'

theorem runs_pure (a : α) : Runs fails (pure a) (pure a) where
  ok open_ ended := by
    obtain ⟨rfl, rfl⟩ := pure_eq_ok.mp ended
    exact ⟨_, rfl, open_, rfl⟩
  error _ ended := by cases pure_eq_error.mp ended
  ends _ _ _ := fun _ done => by
    cases done
    exact ⟨_, rfl⟩

theorem runs_bind {β : Type} {x : Session α} {f : α → Session β} {program : Program α}
    {next : α → Program β} (first : Runs fails x program)
    (rest : ∀ a, Runs fails (f a) (next a)) : Runs fails (x >>= f) (program >>= next) where
  ok open_ ended := by
    obtain ⟨a, s, one, two⟩ := bind_eq_ok.mp ended
    obtain ⟨db₁, did, still, same⟩ := first.ok open_ one
    obtain ⟨db₂, did', still', same'⟩ := (rest a).ok still two
    exact ⟨db₂, (program_bind did).trans did', still', same'.trans same⟩
  error open_ ended := by
    rcases bind_eq_error.mp ended with one | ⟨a, s, one, two⟩
    · exact first.error open_ one
    · obtain ⟨db₁, -, still, same⟩ := first.ok open_ one
      exact ((rest a).error still two).trans same
  ends never := by
    intro c db b db' open_ done
    change (program db).bind _ = _ at done
    obtain ⟨⟨a, db₁⟩, did, did'⟩ := Option.bind_eq_some_iff.mp done
    obtain ⟨c₁, one⟩ := first.ends never open_ did
    obtain ⟨db₂, did₂, still, -⟩ := first.ok open_ one
    cases did.symm.trans did₂
    obtain ⟨c₂, two⟩ := (rest a).ends never still did'
    exact ⟨c₂, bind_eq_ok.mpr ⟨a, c₁, one, two⟩⟩

/-- An operation that works on what the transaction sees. -/
theorem runs_operation {work : Connection → Option (α × Connection)} {program : Program α}
    (works : ∀ c db, c.working = some db →
      work c = (program db).map fun done => (done.1, { c with working := some done.2 })) :
    Runs fails (operation fails work) program where
  ok := by
    intro c db a c' open_ ended
    obtain ⟨-, done⟩ := operation_eq_ok.mp ended
    rw [works { c with operations := c.operations + 1 } db open_] at done
    obtain ⟨⟨a, db'⟩, did, same⟩ := Option.map_eq_some_iff.mp done
    cases same
    exact ⟨db', did, rfl, rfl⟩
  error _ ended := by rw [operation_eq_error ended]
  ends never := by
    intro c db a db' open_ done
    refine ⟨{ c with operations := c.operations + 1, working := some db' },
      operation_eq_ok.mpr ⟨never _, ?_⟩⟩
    rw [works { c with operations := c.operations + 1 } db open_, done]
    rfl

/-- A statement, as a program. -/
def Statement.program (statement : Statement) : Program Unit := fun db =>
  (statement.exec db).map fun db' => ((), db')

theorem Statement.program_eq {statement : Statement} {db db' : Db}
    (ran : statement.exec db = some db') : statement.program db = some ((), db') := by
  unfold Statement.program
  rw [ran, Option.map_some]

theorem runs_execute (statement : Statement) :
    Runs fails (execute fails statement) statement.program := by
  refine runs_operation fun c db open_ => ?_
  simp only [Connection.current, open_, Option.getD_some, Statement.program, Option.map_map]
  rfl

/-- A query, as a program. -/
def reading (read : Db → Option α) : Program α := fun db => (read db).map fun a => (a, db)

theorem reading_eq {read : Db → Option α} {db : Db} {a : α} (found : read db = some a) :
    reading read db = some (a, db) := by
  unfold reading
  rw [found, Option.map_some]

theorem runs_query {read : Db → Option α} : Runs fails (query fails read) (reading read) := by
  refine runs_operation fun c db open_ => ?_
  obtain ⟨committed, working, operations⟩ := c
  cases open_
  simp only [Connection.current, Option.getD_some, reading, Option.map_map]
  rfl

theorem begin_eq_ok :
    begin fails c = .ok u c' ↔ fails c.operations = none ∧ c.working = none ∧
      c' = ⟨c.committed, some c.committed, c.operations + 1⟩ := by
  unfold begin
  rw [operation_eq_ok]
  refine and_congr_right fun _ => ?_
  cases c.working <;> simp [eq_comm]

theorem commit_eq_ok :
    commit fails c = .ok u c' ↔ fails c.operations = none ∧
      c' = ⟨c.current, none, c.operations + 1⟩ := by
  unfold commit
  rw [operation_eq_ok]
  simp [eq_comm, Connection.current]

/-- The handler of a transaction raises again. -/
theorem handler_raises {raised : Raised} :
    (match raised with
      | .exception => do
        rollback fails
        throw .exception
      | .base => throw .base : Session Unit) c ≠ .ok u c' := by
  intro ended
  cases raised with
  | base => cases throw_eq_ok.mp ended
  | exception =>
    obtain ⟨_, _, -, thrown⟩ := bind_eq_ok.mp ended
    cases throw_eq_ok.mp thrown

variable {body : Session Unit} {program : Program Unit}

/-- **A transaction that fails has committed nothing**, whichever operation failed. -/
theorem transaction_error (runs : Runs fails body program)
    (failed : transaction fails body c = .error e c') : c'.committed = c.committed := by
  rcases bind_eq_error.mp failed with one | ⟨_, c₁, began, rest⟩
  · rw [operation_eq_error one]
  obtain ⟨-, -, rfl⟩ := begin_eq_ok.mp began
  rcases bind_eq_error.mp rest with two | ⟨_, c₂, ran, three⟩
  · obtain ⟨raised, c₂, ran, handled⟩ := tryCatch_eq_error.mp two
    have same := runs.error rfl ran
    cases raised with
    | base =>
      obtain ⟨-, rfl⟩ := throw_eq_error.mp handled
      exact same
    | exception =>
      rcases bind_eq_error.mp handled with failed | ⟨_, c₃, rolled, thrown⟩
      · rw [operation_eq_error failed]
        exact same
      · obtain ⟨-, rfl⟩ := throw_eq_error.mp thrown
        obtain ⟨-, rolledBack⟩ := operation_eq_ok.mp rolled
        cases rolledBack
        exact same
  · rw [operation_eq_error three]
    rcases tryCatch_eq_ok.mp ran with ran | ⟨raised, c₃, ran, handled⟩
    · obtain ⟨db', -, -, same⟩ := runs.ok rfl ran
      exact same
    · exact absurd handled handler_raises

/-- A transaction that ends has committed what the program makes of the database. -/
theorem transaction_ok (runs : Runs fails body program)
    (ended : transaction fails body c = .ok u c') :
    ∃ db', program c.committed = some ((), db') ∧ c'.committed = db' ∧ c'.working = none := by
  obtain ⟨_, c₁, began, rest⟩ := bind_eq_ok.mp ended
  obtain ⟨-, -, rfl⟩ := begin_eq_ok.mp began
  obtain ⟨_, c₂, ran, three⟩ := bind_eq_ok.mp rest
  obtain ⟨-, rfl⟩ := commit_eq_ok.mp three
  rcases tryCatch_eq_ok.mp ran with ran | ⟨raised, c₃, ran, handled⟩
  · obtain ⟨db', did, still, -⟩ := runs.ok rfl ran
    refine ⟨db', did, ?_, rfl⟩
    simp only [Connection.current, still, Option.getD_some]
  · exact absurd handled handler_raises

/-- Where no operation fails, a transaction ends if its program does. -/
theorem transaction_ends (runs : Runs fails body program) (never : ∀ n, fails n = none)
    {db' : Db} (closed : c.working = none) (done : program c.committed = some ((), db')) :
    ∃ c', transaction fails body c = .ok () c' := by
  obtain ⟨c₂, ran⟩ := runs.ends never (c := ⟨c.committed, some c.committed, c.operations + 1⟩)
    rfl done
  refine ⟨⟨c₂.current, none, c₂.operations + 1⟩,
    bind_eq_ok.mpr ⟨(), _, begin_eq_ok.mpr ⟨never _, closed, rfl⟩, ?_⟩⟩
  refine bind_eq_ok.mpr ⟨(), c₂, tryCatch_eq_ok.mpr (.inl ran), ?_⟩
  exact commit_eq_ok.mpr ⟨never _, rfl⟩

end Kept

end Sql
