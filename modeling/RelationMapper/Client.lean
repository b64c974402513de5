import RelationMapper.Loading
import RelationMapper.Reconstruction
import RelationMapper.Registry.Validated
import RelationMapper.Validation

/-!
# The client

A client has one connection, one registry of tables and the report of the last validation. Statements of its own pass the
gate of the registry first: they are sent while the registry is valid, and a validation is run before where one is due.
A validation reads the columns of every table through the connection, and leaves a join plan for each table.
-/

namespace RelationMapper

/-- What a client has beside its registry. -/
structure Desk where
  connection : Connection
  report : Option Report
  /-- The number of tables declared so far. -/
  declared : Nat

/-- The state of a client. -/
abbrev Session := Setting JoinPlan Desk

/-- Work of a client. -/
abbrev Work := Act Session

/-- The name of a phase. -/
def Phase.name : Phase → String
  | .unvalidated => "UNVALIDATED"
  | .validating => "VALIDATING"
  | .valid => "VALID"
  | .invalid => "INVALID"

namespace Session

/-- A client that has just been created. -/
def new : Session := ⟨.empty, ⟨.closed, none, 0⟩⟩

/-- The client in writing. -/
def text (s : Session) (o : Options) : String :=
  "Orm(" ++ o.dialect.name ++ ", tables=" ++ Nat.repr s.registry.tables.length ++ ", state=" ++
    s.registry.phase.name ++ ")"

end Session

/-- A table in writing. -/
def Table.text (t : Table) : String :=
  "Table(" ++ Text.quoted t.name ++ ", key=" ++ Text.quoted t.key ++ ", properties=" ++
    Nat.repr t.properties.length ++ ")"

namespace Client

open Setting

variable {α : Type}

/-- Work on the connection. -/
def onConnection (act : Act Connection α) : Work α :=
  ExceptT.mk fun s =>
    let (r, connection) := act.runFrom s.rest.connection
    (r, { s with rest := { s.rest with connection } })

/-- The tables of the registry. -/
def tables : Work (List Table) := return (← getRegistry).tables

/-- Declares a table and adds it to the registry. -/
def declareTable (name key : String) (properties : List (Except Fault Property)) : Work Table := do
  let t ← Act.lift (Table.declare name key (← get).rest.declared properties)
  modify fun s => { s with rest := { s.rest with declared := s.rest.declared + 1 } }
  changeRegistry (·.register t)
  return t

/-- Removes a table from the registry. The database is not changed. -/
def dropTable (t : Table) : Work Unit := changeRegistry (·.unregister t.name)

/-- The columns of a table in the database. -/
def readColumns (o : Options) (table : String) : Work (List ColumnInfo) := do
  let rows ← onConnection (Connection.select o (.columnsOf o.dialect table))
  Act.lift (rows.mapM (ColumnInfo.ofRow o.dialect))

/-- The join plans of tables, by table name. -/
def plansOf (tables : List Table) : Except Fault (List (String × JoinPlan)) :=
  tables.mapM fun t => do return (t.name, ← t.plan tables)

/-- Validates the tables, stores their plans and keeps the report. -/
def validation (o : Options) : Work Report := do
  let report ← validate o.strict.isTruthy (readColumns o) (← tables)
  let plans ← Act.lift (plansOf (← tables))
  changeRegistry (·.storePlans plans)
  modify fun s => { s with rest := { s.rest with report := some report } }
  return report

/-- Validates in any case. -/
def validateAll (o : Options) : Work Report := revalidate (validation o)

/-- Validates unless the registry is valid. -/
def ensureValid (o : Options) : Work Unit := Setting.ensureValid (validation o)

/-- The join plan of a table: the stored one, or a new one where none is stored. -/
def planFor (name : String) : Work JoinPlan := do
  let registry ← getRegistry
  match registry.planFor? name, registry.find? name with
  | some plan, _ => return plan
  | none, some t => Act.lift (t.plan registry.tables)
  | none, none => throw (.misuse (.undeclaredTable name))

/-- Sends a statement. A caller that asks for quiet gets a fault of the driver as an answer. -/
def send (o : Options) (s : Statement) (quiet : Bool) : Work Outcome := do
  match ← (onConnection (Connection.run o s)).outcome with
  | .ok r => return .result r
  | .error e => if quiet && e.isDriver then return .fault e else throw e

/-- Sends a statement once the registry is valid. -/
def query (o : Options) (s : Statement) (quiet : Bool) : Work Outcome := do
  ensureValid o
  send o s quiet

/-- Sends a statement of the library once the registry is valid. -/
def ask (o : Options) (s : Statement) : Work Result := do
  ensureValid o
  onConnection (Connection.run o s)

/-- Sends a statement whether the registry is valid or not, and loads what it answers. A fault of the loader is raised
even if the caller asks for quiet. -/
def adminQuery (o : Options) (s : Statement) (quiet : Bool) : Work Loaded := do
  Act.lift (o.loader.load (← send o s quiet))

/-- Closes the connection. -/
def close : Work Unit := onConnection Connection.close

end Client

end RelationMapper
