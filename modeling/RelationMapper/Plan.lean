import RelationMapper.Table
import RelationMapper.Value.Decoding

/-!
# Join plans

A join plan says what has to be selected to read a table with its relations, and how the rows that come back are read.
The columns of a related table are selected under the name of the relation, and each column is answered under an alias:
its own name, or for a related table the name of the relation, an underscore and its own name.
-/

namespace RelationMapper

/-- A selected column: the table or relation it is read from, its name, the alias under which it is answered and its
type. -/
structure ColumnPlan where
  source : String
  name : String
  label : String
  type : ColumnType
deriving DecidableEq

namespace ColumnPlan

/-- The column in a list of selected columns. -/
def text (c : ColumnPlan) : String := c.source ++ "." ++ c.name ++ " AS " ++ c.label

/-- The value of the column in a row; a column that the row lacks is null. -/
def read [MomentReader] (c : ColumnPlan) (row : Fields) : Except Fault Value := ((row.get? c.label).getD .null).decode c.type

end ColumnPlan

/-- A one-to-many relation that is joined: the property, the related table and its key, the column of the related table
that holds the owner's key, and the selected columns. -/
structure RelationPlan where
  property : String
  table : String
  key : String
  foreignKey : String
  keyColumn : ColumnPlan
  otherColumns : List ColumnPlan
deriving DecidableEq

namespace RelationPlan

/-- The name under which the related table is joined. -/
def label (r : RelationPlan) : String := r.property

/-- The selected columns of the related table, its key first. -/
def columns (r : RelationPlan) : List ColumnPlan := r.keyColumn :: r.otherColumns

end RelationPlan

/-- What has to be selected to read a table with its relations. -/
structure JoinPlan where
  table : String
  key : String
  keyColumn : ColumnPlan
  otherColumns : List ColumnPlan
  relations : List RelationPlan
deriving DecidableEq

namespace JoinPlan

/-- The selected columns of the table itself, its key first. -/
def columns (p : JoinPlan) : List ColumnPlan := p.keyColumn :: p.otherColumns

/-- All selected columns: those of the table, then those of each relation. -/
def allColumns (p : JoinPlan) : List ColumnPlan := p.columns ++ p.relations.flatMap (·.columns)

/-- The selected columns in writing. -/
def selected (p : JoinPlan) : List String := p.allColumns.map (·.text)

/-- The joins in writing. -/
def joins (p : JoinPlan) : List String :=
  p.relations.map fun r =>
    "LEFT OUTER JOIN " ++ r.table ++ " AS " ++ r.label ++ " ON " ++ p.table ++ "." ++ p.key ++ " = " ++
      r.label ++ "." ++ r.foreignKey

end JoinPlan

namespace Table

/-- The plan of the key column, read from a source under aliases with the given start. -/
def planKey (t : Table) (source start : String) : ColumnPlan := ⟨source, t.key, start ++ t.key, .int⟩

/-- The plans of the declared columns, in the order of declaration. -/
def planColumns (t : Table) (source start : String) : Except DeclarationError (List ColumnPlan) :=
  t.properties.filterMapM fun p => do
    return (← p.spec).columnType?.map fun type => ⟨source, p.name, start ++ p.name, type⟩

/-- The plan of a relation; a property that is none has no plan. A relation has to be an array of a declared table. -/
def planRelation (t : Table) (tables : List Table) (p : Property) : Except Fault (Option RelationPlan) := do
  let spec ← p.spec.mapError .declaration
  if spec.isPrimitive then return none
  match findTable? tables spec.base, spec.isArray with
  | some related, true =>
    let start := p.name ++ "_"
    let others ← (related.planColumns p.name start).mapError .declaration
    return some ⟨p.name, related.name, related.key, t.key, related.planKey p.name start, others⟩
  | _, _ => throw (.schema (.unsupportedRelation t.name p.name p.declared))

/-- The join plan of a table among the tables of a schema. -/
def plan (t : Table) (tables : List Table) : Except Fault JoinPlan := do
  let relations ← t.properties.filterMapM (t.planRelation tables)
  let others ← (t.planColumns t.name "").mapError .declaration
  return ⟨t.name, t.key, t.planKey t.name "", others, relations⟩

end Table

end RelationMapper
