/-
**Days and times.**

A moment is a number of milliseconds since the start of 1970 in universal time.

Main definitions:

* `Calendar.daysOfDate`, `Calendar.dateOfDays` — days counted, and dates;
* `Calendar.Fields` — a moment as year, month, day and time of day;
* `Calendar.write` and others — how moments are written.
-/

import NotebookEngine.Text.Numeral

set_option autoImplicit false

namespace NotebookEngine

namespace Calendar

/-! ### Days and dates -/

/-- The number of days from the start of 1970 to a date; months count from zero. -/
def daysOfDate (year month day : Int) : Int :=
  let year := year + Int.fdiv month 12
  let month := Int.fmod month 12
  let y := if month < 2 then year - 1 else year
  let era := Int.fdiv y 400
  let yoe := y - era * 400
  let mp := Int.fmod (month + 10) 12
  let doy := Int.fdiv (153 * mp + 2) 5 + day - 1
  let doe := yoe * 365 + Int.fdiv yoe 4 - Int.fdiv yoe 100 + doy
  era * 146097 + doe - 719468

/-- The date of a number of days: year, month from zero, and day. -/
def dateOfDays (days : Int) : Int × Int × Int :=
  let z := days + 719468
  let era := Int.fdiv z 146097
  let doe := z - era * 146097
  let yoe := Int.fdiv (doe - Int.fdiv doe 1460 + Int.fdiv doe 36524 - Int.fdiv doe 146096) 365
  let doy := doe - (365 * yoe + Int.fdiv yoe 4 - Int.fdiv yoe 100)
  let mp := Int.fdiv (5 * doy + 2) 153
  let day := doy - Int.fdiv (153 * mp + 2) 5 + 1
  let month := if mp < 10 then mp + 2 else mp - 10
  let year := yoe + era * 400 + (if month < 2 then 1 else 0)
  (year, month, day)

/-- The number of milliseconds of a day. -/
def dayLength : Int := 86400000

/-! ### Moments -/

/-- A moment as a date and a time of day. -/
structure Fields where
  year : Int
  month : Int
  day : Int
  hour : Int
  minute : Int
  second : Int
  milli : Int
  weekday : Int
  deriving Inhabited

/-- The date and time of a moment. -/
def fieldsOf (millis : Int) : Fields :=
  let days := Int.fdiv millis dayLength
  let time := Int.fmod millis dayLength
  let (year, month, day) := dateOfDays days
  ⟨year, month, day, time / 3600000, time / 60000 % 60, time / 1000 % 60, time % 1000,
    Int.fmod (days + 4) 7⟩

/-- The moment of a date and time, whose parts may be beyond their usual bounds. -/
def momentOf (year month day hour minute second milli : Int) : Int :=
  daysOfDate year month 1 * dayLength + (day - 1) * dayLength + hour * 3600000 + minute * 60000 +
    second * 1000 + milli

/-- The moment of parts that are numbers, not a number if one of them is none or it is too far off. -/
def momentOfNumbers (parts : List Float) : Float :=
  if parts.any fun x => !x.isFinite || x.abs > 1e15 then Script.nan
  else
    let ns := parts.map Script.toInteger
    let part (i : Nat) (missing : Int) : Int := ns[i]?.getD missing
    if (part 0 0).natAbs > 400000 || (part 1 0).natAbs > 10000000 then Script.nan
    else Float.ofInt (momentOf (part 0 1970) (part 1 0) (part 2 1) (part 3 0) (part 4 0) (part 5 0) (part 6 0))

/-- A moment without fraction, not a number if it is too far off. -/
def clip (x : Float) : Float :=
  if !x.isFinite || x.abs > 8.64e15 then Script.nan
  else (if x < 0 then x.ceil else x.floor) + 0

/-! ### Writing -/

/-- A number with at least so many digits. -/
def padded (width : Nat) (n : Int) : String :=
  let s := toString n.natAbs
  (if n < 0 then "-" else "") ++ String.ofList (List.replicate (width - s.length) '0') ++ s

/-- The names of the days of the week. -/
def dayNames : List String := ["Sun", "Mon", "Tue", "Wed", "Thu", "Fri", "Sat"]

/-- The names of the months. -/
def monthNames : List String :=
  ["Jan", "Feb", "Mar", "Apr", "May", "Jun", "Jul", "Aug", "Sep", "Oct", "Nov", "Dec"]

/-- A name by its number. -/
def nameAt (names : List String) (i : Int) : String := names[i.toNat]?.getD ""

/-- A moment in the international format. -/
def writeIso (millis : Int) : String :=
  let f := fieldsOf millis
  let year :=
    if 0 ≤ f.year && f.year ≤ 9999 then padded 4 f.year
    else (if f.year < 0 then "-" else "+") ++ padded 6 f.year.natAbs
  year ++ "-" ++ padded 2 (f.month + 1) ++ "-" ++ padded 2 f.day ++ "T" ++ padded 2 f.hour ++ ":" ++
    padded 2 f.minute ++ ":" ++ padded 2 f.second ++ "." ++ padded 3 f.milli ++ "Z"

/-- The date of a moment. -/
def writeDate (millis : Int) : String :=
  let f := fieldsOf millis
  nameAt dayNames f.weekday ++ " " ++ nameAt monthNames f.month ++ " " ++ padded 2 f.day ++ " " ++
    padded 4 f.year

/-- The time of day of a moment. -/
def writeClock (millis : Int) : String :=
  let f := fieldsOf millis
  padded 2 f.hour ++ ":" ++ padded 2 f.minute ++ ":" ++ padded 2 f.second

/-- The time of day of a moment, with the zone. -/
def writeTime (millis : Int) : String := writeClock millis ++ " GMT+0000"

/-- A moment in the format of mails. -/
def writeUniversal (millis : Int) : String :=
  let f := fieldsOf millis
  nameAt dayNames f.weekday ++ ", " ++ padded 2 f.day ++ " " ++ nameAt monthNames f.month ++ " " ++
    padded 4 f.year ++ " " ++ writeClock millis ++ " GMT"

/-- The date of a moment as a reader would write it. -/
def writeLocalDate (millis : Int) : String :=
  let f := fieldsOf millis
  padded 2 (f.month + 1) ++ "/" ++ padded 2 f.day ++ "/" ++ padded 4 f.year

/-- The time of a moment as a reader would write it. -/
def writeLocalTime (millis : Int) : String :=
  let f := fieldsOf millis
  let hour := if f.hour % 12 = 0 then 12 else f.hour % 12
  padded 2 hour ++ ":" ++ padded 2 f.minute ++ ":" ++ padded 2 f.second ++
    (if f.hour < 12 then " AM" else " PM")

end Calendar

end NotebookEngine
