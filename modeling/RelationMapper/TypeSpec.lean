import RelationMapper.ColumnType

/-!
# Type specifications

What a property's declared type says once it has been read: a base name, a precision if one is given, and whether it is
an array. The base is the name of a column type or of a table.
-/

namespace RelationMapper

/-- The meaning of a declared type such as `varchar(256)` or `Post[]`. -/
structure TypeSpec where
  base : String
  precision : Option Nat
  isArray : Bool
deriving DecidableEq

namespace TypeSpec

/-- The column type that the base names, or none if it names a table. -/
def columnType? (t : TypeSpec) : Option ColumnType := ColumnType.ofName? t.base

/-- Whether the base names a column type. -/
def isPrimitive (t : TypeSpec) : Bool := t.columnType?.isSome

/-- A type in declaration form. -/
def text (t : TypeSpec) : String :=
  t.base ++ (t.precision.map fun n => "(" ++ Nat.repr n ++ ")").getD "" ++ if t.isArray then "[]" else ""

end TypeSpec

end RelationMapper
