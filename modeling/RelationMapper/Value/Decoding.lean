import RelationMapper.Calendar.Reading
import RelationMapper.Value.Keyed

/-!
# Reading values back

What a database answers for a column is turned back into the value that was stored: texts are percent-decoded, bits
become truth values, and texts in a `datetime` column become moments. Null and everything unexpected stays as it is,
except that a bit column has to hold a truth value.

Which texts are moments is not settled here: a `MomentReader` says so, and what is said of reading goes for all of them. The
reader at hand takes the plain forms.
-/

namespace RelationMapper

open Calendar Text

/-- A reader of moments: the moment that a text is read as, or in words why it is none. -/
class MomentReader where
  read : String → Except String Moment

/-- The reader of the plain forms. -/
instance : MomentReader := ⟨fun s => (Moment.read s).mapError (·.message s)⟩

/-- The number that bytes stand for, most significant byte first. -/
def bytesToNat (bytes : List UInt8) : Nat := bytes.foldl (fun n b => 256 * n + b.toNat) 0

namespace Value

/-- A number instead of bytes. -/
def unpacked : Value → Value
  | .bytes b | .buffer b => .int (bytesToNat b)
  | v => v

/-- Refuses a value that cannot be looked up among keys. A set can, as its content. -/
def checkLookup : Value → Except Fault Unit
  | .set _ => .ok ()
  | v => v.checkKey

/-- Reads a value as a truth value: a truth value, a number that is zero or one, or bytes that stand for zero or one. -/
def readBool : Value → Except Fault Bool
  | .bool b => .ok b
  | v => do
    let v := v.unpacked
    v.checkLookup
    if v.sameNumber (.int 0) then return false
    if v.sameNumber (.int 1) then return true
    v.checkWritable
    throw (.mismatch (.notBool v.shown))

/-- The value of a column from what the database answers. -/
def decode [MomentReader] (column : ColumnType) : Value → Except Fault Value
  | .null => .ok .null
  | .text s =>
    if column.isText then .ok (.text (String.ofList (percentDecode s.toList)))
    else if column = .bit then (Value.text s).readBool.map .bool
    else if column = .datetime then (MomentReader.read s).mapError .badMoment |>.map .moment
    else .ok (.text s)
  | v => if column = .bit then v.readBool.map .bool else .ok v

end Value

end RelationMapper
