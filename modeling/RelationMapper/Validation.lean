import RelationMapper.Validation.Consistency
import RelationMapper.Validation.Structure

/-!
# Validation

A schema is validated in two parts: each table is compared with its columns in the database, which are read table by
table, and then the structure of the schema is checked. The first fault ends the validation.
-/

namespace RelationMapper

variable {σ : Type}

/-- Compares tables with the database, reading the columns of each table when its turn comes. -/
def compareTables (strict : Bool) (readColumns : String → Act σ (List ColumnInfo)) (r : Report) :
    List Table → Act σ Report
  | [] => return r
  | t :: rest => do
    let columns ← readColumns t.name
    let r ← Act.lift (r.record strict (t.findings columns))
    compareTables strict readColumns r rest

/-- Validates the tables of a schema. -/
def validate (strict : Bool) (readColumns : String → Act σ (List ColumnInfo)) (tables : List Table) : Act σ Report := do
  let r ← compareTables strict readColumns .empty tables
  Act.lift (checkStructure tables)
  return r

end RelationMapper
