import RelationMapper.Calendar.Date
import RelationMapper.Text.Blank

/-!
# Reading moments in plain forms

A plain moment is read from `YYYY-MM-DD`, or from `YYYY-MM-DD` followed by a blank or a `T` and `HH:MM`, `HH:MM:SS` or
`HH:MM:SS.f` with any number of places, and at the end `Z`, `+hh:mm` or `+hhmm`. A text of this form can still name no
moment: the first field out of range, from the year down to the second, is the reason. The distance from universal time
has no range: any hours and minutes are read.
-/

namespace RelationMapper.Calendar

/-- Why a text is not read as a moment. -/
inductive MomentError where
  | empty
  | unknownFormat
  | yearOutOfRange
  | monthOutOfRange
  | dayOutOfRange
  | hourOutOfRange
  | minuteOutOfRange
  | secondOutOfRange

/-- Reads a number of exactly `width` digits at the start of a text. -/
def takeNat? (width : Nat) (cs : List Char) : Option (Nat × List Char) :=
  let digits := cs.take width
  if digits.length = width && digits.all Char.isDigit then
    some (digits.foldl (fun n c => 10 * n + (c.toNat - 0x30)) 0, cs.drop width)
  else none

/-- Reads a mark at the start of a text. -/
def takeMark? (mark : Char) : List Char → Option (List Char)
  | c :: rest => if c = mark then some rest else none
  | [] => none

/-- Reads a date at the start of a text. -/
def takeDate? (cs : List Char) : Option (Date × List Char) := do
  let (year, cs) ← takeNat? 4 cs
  let cs ← takeMark? '-' cs
  let (month, cs) ← takeNat? 2 cs
  let cs ← takeMark? '-' cs
  let (day, cs) ← takeNat? 2 cs
  return (⟨year, month, day⟩, cs)

/-- Reads the places after the point of a second: of more than six, the first six count. -/
def takeFraction? (cs : List Char) : Option (Nat × List Char) := do
  let places := cs.takeWhile Char.isDigit
  guard !places.isEmpty
  let (n, _) ← takeNat? 6 (places.take 6 ++ List.replicate (6 - places.length) '0')
  return (n, cs.dropWhile Char.isDigit)

/-- Reads a time of day at the start of a text. -/
def takeTime? (cs : List Char) : Option (Time × List Char) := do
  let (hour, cs) ← takeNat? 2 cs
  let cs ← takeMark? ':' cs
  let (minute, cs) ← takeNat? 2 cs
  match takeMark? ':' cs with
  | none => return (⟨hour, minute, 0, 0⟩, cs)
  | some cs =>
    let (second, cs) ← takeNat? 2 cs
    match takeMark? '.' cs with
    | none => return (⟨hour, minute, second, 0⟩, cs)
    | some cs =>
      let (microsecond, cs) ← takeFraction? cs
      return (⟨hour, minute, second, microsecond⟩, cs)

/-- Reads a distance from universal time that is the whole of a text; an empty text leaves it unknown. -/
def readOffset? : List Char → Option (Option Int)
  | [] => some none
  | ['Z'] => some (some 0)
  | sign :: cs => do
    guard (sign = '+' ∨ sign = '-')
    let (hours, cs) ← takeNat? 2 cs
    let (minutes, cs) ← takeNat? 2 ((takeMark? ':' cs).getD cs)
    guard cs.isEmpty
    let n : Int := hours * 3600 + minutes * 60
    return some (if sign = '-' then -n else n)

/-- Reads the form of a moment; its fields may be out of range. -/
def readForm? (cs : List Char) : Option Moment := do
  let (date, cs) ← takeDate? cs
  match cs with
  | [] => return ⟨date, .midnight, none⟩
  | mark :: cs =>
    guard (mark = ' ' ∨ mark = 'T')
    let (time, cs) ← takeTime? cs
    return ⟨date, time, ← readOffset? cs⟩

/-- The first field of a moment that is out of range. -/
def Moment.outOfRange? (m : Moment) : Option MomentError :=
  if m.date.year < 1 ∨ 9999 < m.date.year then some .yearOutOfRange
  else if m.date.month < 1 ∨ 12 < m.date.month then some .monthOutOfRange
  else if m.date.day < 1 ∨ daysInMonth m.date.year m.date.month < m.date.day then some .dayOutOfRange
  else if 23 < m.time.hour then some .hourOutOfRange
  else if 59 < m.time.minute then some .minuteOutOfRange
  else if 59 < m.time.second then some .secondOutOfRange
  else none

/-- Reads a moment in a plain form. -/
def Moment.read (s : String) : Except MomentError Moment :=
  let cs := s.toList
  if cs.all Text.isBlank then .error .empty
  else match readForm? cs with
    | none => .error .unknownFormat
    | some m =>
      match m.outOfRange? with
      | some e => .error e
      | none => .ok m

namespace MomentError

/-- The reason in words. -/
def reason : MomentError → String
  | .empty => "String does not contain a date"
  | .unknownFormat => "Unknown string format"
  | .yearOutOfRange => "year 0 is out of range"
  | .monthOutOfRange => "month must be in 1..12"
  | .dayOutOfRange => "day is out of range for month"
  | .hourOutOfRange => "hour must be in 0..23"
  | .minuteOutOfRange => "minute must be in 0..59"
  | .secondOutOfRange => "second must be in 0..59"

/-- The reason in words, with the text that was not read. -/
def message (text : String) (e : MomentError) : String := e.reason ++ ": " ++ text

end MomentError

end RelationMapper.Calendar
