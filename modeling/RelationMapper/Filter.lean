import RelationMapper.Statement

/-!
# Filters

A filter gives values for properties of a table; a row passes if every property has its value, or one of several where
the value is like a list. `renderFilter` turns a filter into conditions. The answer `none` means that no row can pass,
because some property has to be among no values at all.
-/

namespace RelationMapper

/-- The literal of a value for a column, after the value was found to fit. -/
def checkedLiteral (quote name : String) (column : ColumnType) (value : Value) : Except Fault String := do
  (assertFits name value column).mapError .mismatch
  value.literal quote (some column)

namespace Table

/-- The condition for one property, or none if its list of values is empty. -/
def renderTest (t : Table) (quote : String) (key value : Value) : Except Fault (Option Condition) := do
  let (name, spec) ← t.named key
  match spec.columnType? with
  | none => throw (.misuse (.filterOnRelation name t.name))
  | some column =>
    match value.items? with
    | some [] => return none
    | some items => return some (.among t.name name (← items.mapM (checkedLiteral quote name column)))
    | none => return some (.equals t.name name (← checkedLiteral quote name column value))

/-- The conditions of a filter, up to the first property that no row can have. -/
def renderTests (t : Table) (quote : String) : Keyed Value → Except Fault (Option (List Condition))
  | [] => return some []
  | (key, value) :: rest => do
    match ← t.renderTest quote key value with
    | none => return none
    | some condition => return (← t.renderTests quote rest).map (condition :: ·)

/-- The conditions of a filter given as a value. Nothing filters nothing; otherwise the filter has to be a map. -/
def renderFilter (t : Table) (quote : String) (filter : Value) : Except Fault (Option (List Condition)) :=
  if !filter.isTruthy then .ok (some [])
  else match filter with
    | .map tests => t.renderTests quote tests
    | _ => .error .noSuchPart

/-- The assignments for the columns among the properties that an entry names. -/
def renderAssignments (t : Table) (quote : String) (entry : Keyed Value) : Except Fault (List Assignment) :=
  entry.filterMapM fun (key, value) => do
    let (name, spec) ← t.named key
    match spec.columnType? with
    | none => return none
    | some column =>
      if value.isSequence then throw (.mismatch (.isArray name t.name))
      return some ⟨name, ← checkedLiteral quote name column value⟩

end Table

end RelationMapper
