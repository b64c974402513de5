import RelationMapper.Value.Literal

/-!
# Values that can be written

Not every value that is read or computed can be handed on in writing. An integer can have too many digits, and a moment
can lie a day or more off universal time: the text for a distance is read whatever its numbers are, and only where the
moment is written does the distance have to be shorter than a day. `Value.checkWritable` finds the first such part of a
value.
-/

namespace RelationMapper

open Calendar

/-- Refuses a moment whose distance from universal time is a day or more. -/
def Calendar.Moment.checkWritable (m : Moment) : Except Fault Unit :=
  if m.hasShortOffset then .ok () else .error (.badValue .offsetTooLong)

namespace Value

mutual

/-- Refuses a value that cannot be written, with the first part of it that is the reason. -/
def checkWritable : Value → Except Fault Unit
  | .int n => discard (writeInt n)
  | .moment m => m.checkWritable
  | .list items | .tuple items | .set items => checkAllWritable items
  | .map entries => checkEntriesWritable entries
  | _ => .ok ()

/-- Refuses values of which one cannot be written. -/
def checkAllWritable : List Value → Except Fault Unit
  | [] => .ok ()
  | v :: rest => do
    checkWritable v
    checkAllWritable rest

/-- Refuses keys and values of which one cannot be written. -/
def checkEntriesWritable : List (Value × Value) → Except Fault Unit
  | [] => .ok ()
  | (key, v) :: rest => do
    checkWritable key
    checkWritable v
    checkEntriesWritable rest

end

end Value

end RelationMapper
