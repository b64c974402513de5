import RelationMapper.Plan
import RelationMapper.Value.Keyed

/-!
# Nested records from joined rows

A join answers one flat row for each combination of an owner's related records. `JoinPlan.reconstruct` rebuilds the
owners: rows are grouped by the owner's key and, within an owner and relation, by the related record's key. A null as
related key means that the owner has no such record. Groups stand in the order in which their keys first occur, and
the last row of a group gives its fields.
-/

namespace RelationMapper

/-- The records of a relation that an owner has, by their keys. -/
abbrev Children := List (String × Keyed Fields)

namespace Children

/-- Sets a record of a relation. -/
def put (children : Children) (relation : String) (key : Value) (record : Fields) : Children :=
  children.map fun (name, records) => (name, if name = relation then records.set key record else records)

end Children

/-- An owner under reconstruction: its own fields and the records of its relations. -/
structure Owner where
  fields : Fields
  children : Children

/-- An owner as a record: each relation is a list under the relation's name. -/
def Owner.record (o : Owner) : Fields :=
  o.fields.setAll (o.children.map fun (relation, records) =>
    (relation, .list (records.map fun (_, fields) => .record fields)))

/-- The fields that columns have in a row. -/
def readFields [MomentReader] (columns : List ColumnPlan) (row : Fields) (start : Fields) : Except Fault Fields :=
  columns.foldlM (fun fields c => do return fields.set c.name (← c.read row)) start

/-- The record of a relation in a row and its key, or none where the owner has no such record. -/
def RelationPlan.readRecord [MomentReader] (r : RelationPlan) (row : Fields) : Except Fault (Option (Value × Fields)) := do
  match ← r.keyColumn.read row with
  | .null => return none
  | key =>
    let fields ← readFields r.columns row []
    key.checkKey
    return some (key, fields)

namespace JoinPlan

/-- An owner of which nothing has been read. -/
def newOwner (p : JoinPlan) : Owner := ⟨[], p.relations.map fun r => (r.property, [])⟩

/-- The owner found so far under a key. -/
def ownerOf (p : JoinPlan) (owners : Keyed Owner) (key : Value) : Owner :=
  (owners.find? key).getD p.newOwner

/-- Reads one more row. -/
def readRow [MomentReader] (p : JoinPlan) (owners : Keyed Owner) (row : Fields) : Except Fault (Keyed Owner) := do
  let key ← p.keyColumn.read row
  key.checkKey
  let owner := p.ownerOf owners key
  let fields ← readFields p.columns row owner.fields
  let children ← p.relations.foldlM (fun (children : Children) r => do
    match ← r.readRecord row with
    | none => return children
    | some (key, record) => return children.put r.property key record) owner.children
  return owners.set key ⟨fields, children⟩

/-- Rebuilds the records of a table from joined rows. -/
def reconstruct [MomentReader] (p : JoinPlan) (rows : List Fields) : Except Fault (List Fields) := do
  let owners ← rows.foldlM p.readRow []
  return owners.map fun (_, owner) => owner.record

end JoinPlan

end RelationMapper
