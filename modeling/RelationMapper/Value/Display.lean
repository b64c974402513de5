import RelationMapper.Number.Numeral
import RelationMapper.Text.Quoted
import RelationMapper.Value

/-!
# Values in words

`Value.shown` is a value as messages show it inside other text: texts in quotes, containers in brackets. `Value.spelled`
is a value on its own: a text is itself, a date has its plain written form, and all else is shown.
-/

namespace RelationMapper

open Calendar Number Text

/-- Numbers with commas between them. -/
def commaNumbers (ns : List Nat) : String := ", ".intercalate (ns.map Nat.repr)

/-- A distance from universal time as it is shown. A negative distance is a day less and the rest of that day. -/
def offsetShown (seconds : Int) : String :=
  if seconds = 0 then "datetime.timezone.utc"
  else
    let rest := if seconds < 0 then "days=-1, seconds=" ++ intText (seconds + 86400) else "seconds=" ++ intText seconds
    "datetime.timezone(datetime.timedelta(" ++ rest ++ "))"

/-- The numbers of a moment that are shown: seconds and microseconds only from the last one that is not zero. -/
def momentNumbers (m : Moment) : List Nat :=
  [m.date.year, m.date.month, m.date.day, m.time.hour, m.time.minute] ++
    (if m.time.second = 0 ∧ m.time.microsecond = 0 then [] else [m.time.second]) ++
    if m.time.microsecond = 0 then [] else [m.time.microsecond]

namespace Value

mutual

/-- A value as it is shown inside other text. -/
def shown : Value → String
  | .null => "None"
  | .bool b => if b then "True" else "False"
  | .int n => intText n
  | .real x => x.text
  | .text s => quoted s
  | .bytes b => quotedBytes b
  | .buffer b => "bytearray(" ++ quotedBuffer b ++ ")"
  | .moment m =>
    "datetime.datetime(" ++ commaNumbers (momentNumbers m) ++
      (m.offset.map fun o => ", tzinfo=" ++ offsetShown o).getD "" ++ ")"
  | .date d => "datetime.date(" ++ commaNumbers [d.year, d.month, d.day] ++ ")"
  | .now => "CURRENT_TIMESTAMP"
  | .list items => "[" ++ ", ".intercalate (shownAll items) ++ "]"
  | .tuple [item] => "(" ++ shown item ++ ",)"
  | .tuple items => "(" ++ ", ".intercalate (shownAll items) ++ ")"
  | .set [] => "set()"
  | .set items => "\x7b" ++ ", ".intercalate (shownAll items) ++ "\x7d"
  | .map entries => "\x7b" ++ ", ".intercalate (shownEntries entries) ++ "\x7d"
  | .object => "<object object>"

/-- Several values as they are shown. -/
def shownAll : List Value → List String
  | [] => []
  | v :: rest => shown v :: shownAll rest

/-- Keys and values as they are shown. -/
def shownEntries : List (Value × Value) → List String
  | [] => []
  | (key, v) :: rest => (shown key ++ ": " ++ shown v) :: shownEntries rest

end

/-- A value on its own. -/
def spelled : Value → String
  | .text s => s
  | .moment m => m.text " "
  | .date d => d.text
  | v => v.shown

/-- The name of the type of a value that has no place in a table; none if it has one. -/
def strangeType? : Value → Option String
  | .bytes _ => some "bytes"
  | .buffer _ => some "bytearray"
  | .list _ => some "list"
  | .tuple _ => some "tuple"
  | .set _ => some "set"
  | .map _ => some "dict"
  | .object => some "object"
  | _ => none

end Value

/-- Texts as a shown list. -/
def shownTexts (texts : List String) : String := (Value.list (texts.map .text)).shown

end RelationMapper
