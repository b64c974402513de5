import RelationMapper.Filter
import RelationMapper.Text.Lower

/-!
# The catalog

What a database says about the columns of its tables. MySQL names type and length of a column; SQLite repeats the text
with which the column was declared, and `readDeclaredType` takes it apart. Type names are compared in lower case.
-/

namespace RelationMapper

open Text

/-- A column as the database describes it. Its name is a text, and its greatest length a number or null. -/
structure ColumnInfo where
  name : Value
  type : String
  maxLength : Value

namespace ColumnInfo

/-- The type of a column in declaration form. -/
def typeText (c : ColumnInfo) : String :=
  match c.maxLength with
  | .null => c.type
  | length => if c.type = ColumnType.varchar.name then "varchar(" ++ length.spelled ++ ")" else c.type

/-- Refuses a column whose type cannot be written: the length of a `varchar` may have too many digits. -/
def checkTypeText (c : ColumnInfo) : Except Fault Unit :=
  if c.type = ColumnType.varchar.name then c.maxLength.checkWritable else .ok ()

end ColumnInfo

/-- Splits off a bracketed number; none if the text does not start with one. -/
def takeLength? (cs : List Char) : Option (List Char) :=
  match cs.dropWhile isBlank with
  | '(' :: cs =>
    let cs := cs.dropWhile isBlank
    let digits := cs.takeWhile isDigit
    match (cs.dropWhile isDigit).dropWhile isBlank with
    | ')' :: _ => if digits.isEmpty then none else some digits
    | _ => none
  | _ => none

/-- The type name and length of a declared type. The name is the row of letters at its start, or, if there is none, all
of the text; what follows the name counts only if it is a bracketed number. -/
def readDeclaredType (declared : String) : Except BadValue (String × Option Nat) :=
  let cs := declared.toList.dropWhile isBlank
  let name := cs.takeWhile Char.isAlpha
  if name.isEmpty then .ok (lower declared, none)
  else
    let name := lower (String.ofList name)
    match takeLength? (cs.dropWhile Char.isAlpha) with
    | none => .ok (name, none)
    | some digits =>
      if digitLimit < digits.length then .error (.tooManyDigits digits.length)
      else .ok (name, some (readNat digits))

/-- The cell of a row under a name that has to be there. -/
def cell (row : Fields) (name : String) : Except Fault Value :=
  match row.get? name with
  | some value => .ok value
  | none => .error (.missingName name)

/-- The text of a value; bytes are read as UTF-8. -/
def asText : Value → Except Fault String
  | .bytes b | .buffer b =>
    match strictText? b with
    | some cs => .ok (String.ofList cs)
    | none => .error .notText
  | v => .ok v.spelled

/-- A declared type that stands in a row; nothing is the empty text. -/
def asDeclared (v : Value) : Except Fault String :=
  if !v.isTruthy then .ok ""
  else match v with
    | .text s => .ok s
    | _ => .error .wrongType

namespace ColumnInfo

/-- The column that a row of the catalog describes. SQLite's lengths count for `varchar` alone. -/
def ofRow (dialect : Dialect) (row : Fields) : Except Fault ColumnInfo :=
  match dialect with
  | .mysql => do
    let name ← cell row "COLUMN_NAME"
    let type ← asText (← cell row "DATA_TYPE")
    let length ← cell row "CHARACTER_MAXIMUM_LENGTH"
    return ⟨name, lower type, length⟩
  | .sqlite => do
    let (type, length) ← (readDeclaredType (← asDeclared (← cell row "type"))).mapError .badValue
    let name ← cell row "name"
    let length := if type = ColumnType.varchar.name then length else none
    return ⟨name, type, (length.map fun n => Value.int n).getD .null⟩

end ColumnInfo

end RelationMapper
