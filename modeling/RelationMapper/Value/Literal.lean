import RelationMapper.Text.Percent
import RelationMapper.Value.Kind

/-!
# Values as literals

How a value stands in a statement. A text is percent-encoded, so that no backslash, line break or character beyond
ASCII reaches the statement; the quotes of the dialect that are still in it are doubled, and it is put between two of
them. Quotes are texts of any length.
-/

namespace RelationMapper

open Calendar Number Text

/-- The characters, beside the unreserved ones, that a stored text keeps as they are. -/
def storedSafe : List Char := ";,/?:@&=+$-_.!~*'()#".toList

/-- Doubles every occurrence of a quote, from left to right. Occurrences do not overlap, and an empty quote stands
before every character and at the end. -/
def doubleQuotes (quote : List Char) : (skip : Nat) → List Char → List Char
  | _, [] => if quote.isEmpty then quote ++ quote else []
  | skip + 1, _ :: rest => doubleQuotes quote skip rest
  | 0, c :: rest =>
    if quote.isEmpty then c :: doubleQuotes quote 0 rest
    else if quote.isPrefixOf (c :: rest) then quote ++ quote ++ doubleQuotes quote (quote.length - 1) rest
    else c :: doubleQuotes quote 0 rest

/-- A text in the quotes of a dialect. -/
def textLiteral (quote : String) (s : String) : String :=
  quote ++ String.ofList (doubleQuotes quote.toList 0 (percentEncode storedSafe s.toList)) ++ quote

/-- A date as it is stored: the year has as many digits as it needs. -/
def Calendar.Date.stored (d : Date) : String :=
  Nat.repr d.year ++ "-" ++ padded 2 d.month ++ "-" ++ padded 2 d.day

/-- A moment as it is stored: without fractions of a second and without the distance from universal time. -/
def Calendar.Moment.stored (m : Moment) : String := m.date.stored ++ " " ++ m.time.clock

/-- A number of a statement or message; one with too many digits is not written. -/
def writeInt (n : Int) : Except Fault String :=
  if isTooLong n then .error (.badValue .tooLongToWrite) else .ok (intText n)

namespace Value

/-- A value as a literal. In a bit column the texts for truth are numbers. Numbers are written as numerals, which goes for the
integers and floating point numbers that are values here, and not for numbers of types with a written form of their own. -/
def literal (quote : String) (column : Option ColumnType) : Value → Except Fault String
  | .null => .ok "NULL"
  | .now => .ok "CURRENT_TIMESTAMP"
  | .bool b => .ok (if b then "1" else "0")
  | .text s =>
    if column = some .bit ∧ isBooleanText s then .ok (if s = "true" then "1" else "0")
    else .ok (textLiteral quote s)
  | .moment m => .ok (quote ++ m.stored ++ quote)
  | .date d => .ok (quote ++ d.stored ++ quote)
  | .int n => writeInt n
  | .real x => if x.isFinite then .ok x.text else .error (.mismatch (.notFinite x))
  | v => .error (.mismatch (.strangeType (v.strangeType?.getD "")))

end Value

end RelationMapper
