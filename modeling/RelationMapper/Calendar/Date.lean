/-!
# Dates and moments

Days of the Gregorian calendar from year 1 to 9999, times of day down to the microsecond, and moments: a day with a time
and, if it is known, the distance from universal time. Each has a written form with a fixed number of places.
-/

namespace RelationMapper.Calendar

/-- A day of the calendar. -/
structure Date where
  year : Nat
  month : Nat
  day : Nat
deriving DecidableEq

/-- A time of day. -/
structure Time where
  hour : Nat
  minute : Nat
  second : Nat
  microsecond : Nat
deriving DecidableEq

/-- A day and a time, and how many seconds the clock is ahead of universal time, if that is known. -/
structure Moment where
  date : Date
  time : Time
  offset : Option Int
deriving DecidableEq

/-- The Gregorian leap years. -/
def isLeapYear (year : Nat) : Bool := year % 4 == 0 && (year % 100 != 0 || year % 400 == 0)

/-- The number of days of a month. -/
def daysInMonth (year month : Nat) : Nat :=
  match month with
  | 2 => if isLeapYear year then 29 else 28
  | 4 | 6 | 9 | 11 => 30
  | _ => 31

/-- Midnight. -/
def Time.midnight : Time := ⟨0, 0, 0, 0⟩

/-- The number of days before the first day of a year. -/
def daysBeforeYear (year : Nat) : Nat :=
  let y := year - 1
  365 * y + y / 4 - y / 100 + y / 400

/-- The number of days from the first day of year 1 to a date. -/
def Date.ordinal (d : Date) : Nat :=
  (List.range (d.month - 1)).foldl (fun days m => days + daysInMonth d.year (m + 1)) (daysBeforeYear d.year) + (d.day - 1)

/-- The microseconds from the start of year 1 to a moment, on the moment's own clock. -/
def Moment.microseconds (m : Moment) : Int :=
  (((m.date.ordinal * 24 + m.time.hour) * 60 + m.time.minute) * 60 + m.time.second) * 1000000 + m.time.microsecond

/-- Whether two moments are the same: at the same time on the same clock, or, if both distances from universal time are
known, at the same universal time. -/
def Moment.same (a b : Moment) : Bool :=
  match a.offset, b.offset with
  | none, none => a.microseconds == b.microseconds
  | some x, some y => a.microseconds - x * 1000000 == b.microseconds - y * 1000000
  | _, _ => false

/-- Whether the distance from universal time, if it is known, is shorter than a day. -/
def Moment.hasShortOffset (m : Moment) : Bool := m.offset.all fun o => o.natAbs < 24 * 3600

/-- A number filled with zeros to a width. -/
def padded (width n : Nat) : String :=
  let digits := Nat.toDigits 10 n
  String.ofList (List.replicate (width - digits.length) '0' ++ digits)

/-- A date in writing: `YYYY-MM-DD`. -/
def Date.text (d : Date) : String := padded 4 d.year ++ "-" ++ padded 2 d.month ++ "-" ++ padded 2 d.day

/-- A time in writing: `HH:MM:SS`. -/
def Time.clock (t : Time) : String := padded 2 t.hour ++ ":" ++ padded 2 t.minute ++ ":" ++ padded 2 t.second

/-- A time in writing, with six more places where it has a fraction of a second. -/
def Time.text (t : Time) : String := t.clock ++ if t.microsecond = 0 then "" else "." ++ padded 6 t.microsecond

/-- A distance from universal time: a sign, hours and minutes, and seconds where there are any. -/
def offsetText (seconds : Int) : String :=
  let n := seconds.natAbs
  (if seconds < 0 then "-" else "+") ++ padded 2 (n / 3600) ++ ":" ++ padded 2 (n / 60 % 60) ++
    if n % 60 = 0 then "" else ":" ++ padded 2 (n % 60)

/-- A moment in writing, with the given mark between the day and the time. -/
def Moment.text (m : Moment) (mark : String) : String :=
  m.date.text ++ mark ++ m.time.text ++ (m.offset.map offsetText).getD ""

end RelationMapper.Calendar
