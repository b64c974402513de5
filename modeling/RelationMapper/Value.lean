import RelationMapper.Calendar.Date
import RelationMapper.Number.Binary64

/-!
# Values

The values that callers store and databases answer with. Some of them have no place in a table (containers, bytes,
bare objects); they are values nevertheless, because callers may pass them and are told so. Integers and floating point
numbers are these themselves: a number of a type that is derived from theirs can write itself in another way, and is not
among the values.

`Fields` are named values in order, such as options or a row: setting a name that is present keeps its place.
-/

namespace RelationMapper

open Calendar Number

/-- A value. -/
inductive Value where
  | null
  | bool (b : Bool)
  | int (n : Int)
  | real (x : Binary64)
  | text (s : String)
  /-- Bytes that do not change. -/
  | bytes (b : List UInt8)
  /-- Bytes that may change. -/
  | buffer (b : List UInt8)
  | moment (m : Moment)
  | date (d : Date)
  /-- The time at which a statement is executed. -/
  | now
  | list (items : List Value)
  | tuple (items : List Value)
  | set (items : List Value)
  /-- Values under keys, which are values too. -/
  | map (entries : List (Value × Value))
  /-- A bare object, equal to nothing else. -/
  | object

instance : Inhabited Value := ⟨.null⟩

/-- Named values in order. -/
abbrev Fields := List (String × Value)

namespace Fields

/-- The value of a name. -/
def get? (fields : Fields) (name : String) : Option Value := fields.lookup name

/-- Whether a name is present. -/
def has (fields : Fields) (name : String) : Bool := fields.any (·.1 == name)

/-- Sets the value of a name: in its place if it is present, otherwise at the end. -/
def set : Fields → String → Value → Fields
  | [], name, value => [(name, value)]
  | (n, v) :: rest, name, value => if n = name then (n, value) :: rest else (n, v) :: set rest name value

/-- Sets several names, one after the other. -/
def setAll (fields : Fields) (others : Fields) : Fields := others.foldl (fun fs (n, v) => fs.set n v) fields

/-- The row of cells under columns. Of two columns of one name the later cell counts; cells without a column and columns
without a cell are left out. -/
def ofRow (columns : List String) (cells : List Value) : Fields := Fields.setAll [] (columns.zip cells)

end Fields

namespace Value

/-- The items of a value that is like a list. Texts, bytes and maps are not. -/
def items? : Value → Option (List Value)
  | .list items | .tuple items | .set items => some items
  | _ => none

/-- Whether a value is like a list. -/
def isSequence (v : Value) : Bool := v.items?.isSome

/-- Whether a value counts as something: not if it is null, false, zero or empty. -/
def isTruthy : Value → Bool
  | .null => false
  | .bool b => b
  | .int n => n != 0
  | .real x => !x.isZero
  | .text s => s != ""
  | .bytes b | .buffer b => !b.isEmpty
  | .list items | .tuple items | .set items => !items.isEmpty
  | .map entries => !entries.isEmpty
  | .moment _ | .date _ | .now | .object => true

/-- Whether a value has parts that can be gone through one by one. -/
def isIterable : Value → Bool
  | .text _ | .bytes _ | .buffer _ | .list _ | .tuple _ | .set _ | .map _ => true
  | _ => false

/-- A truth value or integer as an integer. -/
def int? : Value → Option Int
  | .bool b => some b.toNat
  | .int n => some n
  | _ => none

/-- Whether two values are numbers, truth values included, of the same value. -/
def sameNumber (a b : Value) : Bool :=
  match a, b with
  | .real x, .real y => x.sameValue y
  | .real x, b => b.int?.any x.equalsInt
  | a, .real y => a.int?.any y.equalsInt
  | a, b => a.int?.any fun m => b.int?.any (m == ·)

mutual

/-- Whether a value can be a key. Containers and buffers that may change cannot, nor can a moment a day or more off universal
time. -/
def isKey : Value → Bool
  | .list _ | .set _ | .map _ | .buffer _ => false
  | .moment m => m.hasShortOffset
  | .tuple items => areKeys items
  | _ => true

/-- Whether all values can be keys. -/
def areKeys : List Value → Bool
  | [] => true
  | v :: rest => isKey v && areKeys rest

end

mutual

/-- Whether two values are the same key: numbers by value, so that one, one point zero and true are one key, and all else
by content. Null is a key like any other. -/
def sameKey : Value → Value → Bool
  | .null, .null => true
  | .text s, .text t => s == t
  | .bytes b, .bytes c => b == c
  | .moment m, .moment n => m.same n
  | .date d, .date e => d == e
  | .now, .now => true
  | .tuple xs, .tuple ys => sameKeys xs ys
  | a, b => sameNumber a b

/-- Whether two rows of values are the same keys. -/
def sameKeys : List Value → List Value → Bool
  | [], [] => true
  | x :: xs, y :: ys => sameKey x y && sameKeys xs ys
  | _, _ => false

end

/-- Whether a value is a given text. -/
def isText (v : Value) (s : String) : Bool :=
  match v with
  | .text t => t == s
  | _ => false

end Value

end RelationMapper
