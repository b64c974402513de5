import RelationMapper.Connection

/-!
# Loading

What a caller gets for a statement of its own. The outcome of a query is what the database answers or, if the caller asked
for quiet, a fault as an answer; a loader turns records into a list of records or into a frame of columns.

A column of a frame holds numbers of one type if it can: integers beside floating point numbers or nulls become floating
point numbers, and the nulls undefined ones. A column keeps its cells as they are if one of them is no number, or if one
type of 64 bits does not hold its integers.
-/

namespace RelationMapper

open Number

/-- What a query of a caller ends with. -/
inductive Outcome where
  | result (r : Result)
  | fault (e : Fault)

/-- What a loader makes of an outcome. -/
inductive Loaded where
  | records (rows : List Fields)
  | frame (columns : List String) (rows : List (List Value))
  | count (n : Int)
  | fault (e : Fault)

/-- What the cells of a column are so far. Of the integers, only those in front of the first null tell whether there are
negative ones and ones that take 64 bits without a sign. -/
structure ColumnSurvey where
  hasReal : Bool
  hasInt : Bool
  hasNull : Bool
  hasNegative : Bool
  hasLarge : Bool

namespace ColumnSurvey

/-- Nothing has been seen of the column. -/
def empty : ColumnSurvey := ⟨false, false, false, false, false⟩

/-- Takes an integer into account. -/
def addInt (s : ColumnSurvey) (n : Int) : ColumnSurvey :=
  { s with
    hasInt := true
    hasNegative := s.hasNegative || (!s.hasNull && n < 0)
    hasLarge := s.hasLarge || (!s.hasNull && 0x8000000000000000 ≤ n) }

/-- Whether there is an integer type of 64 bits for the integers seen, of which the given one is the last. Behind a null
there need not be one. -/
def holds (s : ColumnSurvey) (n : Int) : Bool :=
  s.hasNull || (!(s.hasNegative && s.hasLarge) && -0x8000000000000000 ≤ n && n < 0x10000000000000000)

/-- Whether all cells have to become floating point numbers. Integers are looked at from the first cell to the last one
that matters, and one beyond the range of floating point numbers is too large even if the column keeps its cells. -/
def needsReals (s : ColumnSurvey) : List Value → Except Fault Bool
  | [] => .ok (s.hasReal || (s.hasNull && s.hasInt))
  | .real _ :: rest => needsReals { s with hasReal := true } rest
  | .null :: rest => needsReals { s with hasNull := true } rest
  | .int n :: rest => do
    discard (Value.int n).toReal
    let s := s.addInt n
    if s.holds n then needsReals s rest else return false
  | _ :: _ => .ok false

end ColumnSurvey

/-- A floating point number without a value. -/
def undefinedReal : Value := .real ⟨0x7ff8000000000000⟩

/-- An integer as a floating point number, and null as an undefined one; all else stays as it is. -/
def Value.widened : Value → Value
  | .int n => .real (.ofInt n)
  | .null => undefinedReal
  | v => v

/-- Makes the numbers of a column numbers of one type. -/
def unifyCells (cells : List Value) : Except Fault (List Value) := do
  return if ← ColumnSurvey.empty.needsReals cells then cells.map (·.widened) else cells

/-- The cells of a column, one for each record; a record without the column has an undefined number there. -/
def cellsOf (rows : List Fields) (column : String) : Except Fault (List Value) :=
  unifyCells (rows.map fun row => (row.get? column).getD undefinedReal)

namespace Loader

/-- Loads an outcome. A frame has a cell for every record and column; without columns it has no rows. -/
def load (l : Loader) : Outcome → Except Fault Loaded
  | .fault e => .ok (.fault e)
  | .result (.count n) => .ok (.count n)
  | .result (.records columns rows) =>
    match l with
    | .records => .ok (.records rows)
    | .frame => do
      let cells ← columns.mapM (cellsOf rows)
      let height := if columns.isEmpty then 0 else rows.length
      return .frame columns ((List.range height).map fun i => cells.map fun column => column.getD i .null)

end Loader

end RelationMapper
