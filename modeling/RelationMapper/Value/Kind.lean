import RelationMapper.Fault

/-!
# Kinds of values

Which column a value fits does not depend on its type alone: the text `12` fits a number column and the text `true` a
bit column. `Value.kind` sorts values into kinds, `Kind.accepted` lists the column types for each kind, and
`assertFits` refuses a value whose kind does not go with a column's type.
-/

namespace RelationMapper

open Number Text

/-- The kind of data that a value carries. -/
inductive Kind where
  | null
  | text
  | numericText
  | booleanText
  | boolean
  /-- Zero or one. -/
  | binaryInteger
  | integer
  | real
  /-- The time at which a statement is executed. -/
  | timestamp
  | moment
deriving DecidableEq

/-- The column types that accept a kind, by name. -/
def Kind.accepted : Kind → List ColumnType
  | .null => [.bit, .datetime, .double, .int, .mediumtext, .varchar]
  | .text => [.mediumtext, .varchar]
  | .numericText => [.double, .int, .mediumtext, .varchar]
  | .booleanText => [.bit, .mediumtext, .varchar]
  | .boolean => [.bit]
  | .binaryInteger => [.bit, .double, .int]
  | .integer => [.double, .int]
  | .real => [.double]
  | .timestamp | .moment => [.datetime]

/-- Whether characters are an exponent: the letter, perhaps a sign, and a number. Nothing at all is one too. -/
def isExponent : List Char → Bool
  | [] => true
  | c :: rest => (c == 'e' || c == 'E') && isNumber (takeSign rest).2

/-- Whether characters are a numeral without a sign: digits with a point before, among or after them, or none, and
perhaps an exponent. -/
def isUnsignedNumeral (cs : List Char) : Bool :=
  let whole := cs.takeWhile isDigit
  match cs.dropWhile isDigit with
  | '.' :: rest =>
    (!whole.isEmpty || !(rest.takeWhile isDigit).isEmpty) && isExponent (rest.dropWhile isDigit)
  | rest => !whole.isEmpty && isExponent rest

/-- Whether a text is a numeral, with or without a sign. -/
def isNumeral (s : String) : Bool := isUnsignedNumeral (takeSign s.toList).2

/-- Whether a text is one of the two truth values. -/
def isBooleanText (s : String) : Bool := s == "true" || s == "false"

namespace Value

/-- The kind of a value; a value that no column can hold has none. -/
def kind : Value → Except Mismatch Kind
  | .null => .ok .null
  | .now => .ok .timestamp
  | .bool _ => .ok .boolean
  | .text s => .ok (if isBooleanText s then .booleanText else if isNumeral s then .numericText else .text)
  | .int n => .ok (if n = 0 ∨ n = 1 then .binaryInteger else .integer)
  | .real x => if x.isFinite then .ok .real else .error (.notFinite x)
  | .moment _ | .date _ => .ok .moment
  | v => .error (.strangeType (v.strangeType?.getD ""))

end Value

/-- Refuses a value for a column, which the name stands for in the message. -/
def assertFits (name : String) (value : Value) (column : ColumnType) : Except Mismatch Unit := do
  let kind ← value.kind
  if kind.accepted.contains column then return ()
  throw (.incompatible name column kind.accepted)

/-- Refuses a value for a declared type, which has to name a column type. -/
def assertFitsDeclared (name : String) (value : Value) (declared : String) : Except Fault Unit := do
  match (← (TypeSpec.parse declared).mapError .declaration).columnType? with
  | some column => (assertFits name value column).mapError .mismatch
  | none => throw (.mismatch (.notPrimitive declared))

end RelationMapper
