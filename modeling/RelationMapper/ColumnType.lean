/-!
# Column types

The six types that a column of a table can have. Everything else that stands where a type is expected names a table.
-/

namespace RelationMapper

/-- The type of a column. -/
inductive ColumnType where
  | int
  | varchar
  | mediumtext
  | bit
  | double
  | datetime
deriving DecidableEq

namespace ColumnType

/-- The name of a type in declarations. -/
def name : ColumnType → String
  | .int => "int"
  | .varchar => "varchar"
  | .mediumtext => "mediumtext"
  | .bit => "bit"
  | .double => "double"
  | .datetime => "datetime"

/-- All types, by name. -/
def all : List ColumnType := [.bit, .datetime, .double, .int, .mediumtext, .varchar]

/-- The type with a given name. -/
def ofName? (s : String) : Option ColumnType := all.find? (·.name == s)

/-- Whether a column of the type holds text. -/
def isText : ColumnType → Bool
  | .varchar | .mediumtext => true
  | _ => false

/-- A name leads back to its type. -/
theorem ofName?_name (t : ColumnType) : ofName? t.name = some t := by cases t <;> decide

end ColumnType

end RelationMapper
