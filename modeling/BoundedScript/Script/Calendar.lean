import BoundedScript.Decimal.Binary

set_option autoImplicit false

/-!
Times as milliseconds since the start of 1970, in one zone only, and the calendar's parts of them.
-/

namespace BoundedScript.Script.Calendar

def msPerDay : Int := 86400000

-- Days from 1970-01-01 to the first of March of a year, counted in cycles of 400 years.
def daysBeforeMarch (year : Int) : Int :=
  let cycle := Int.fdiv year 400
  let y := year - cycle * 400
  cycle * 146097 + y * 365 + y / 4 - y / 100 - 719468

-- Days from 1970-01-01 to a day; months from 1, days may be any number.
def daysFrom (year month day : Int) : Int :=
  let y := if month ≤ 2 then year - 1 else year
  let m := if month ≤ 2 then month + 9 else month - 3
  daysBeforeMarch y + (153 * m + 2) / 5 + day - 1

structure Day where
  year : Int
  month : Int
  day : Int

def dayOf (days : Int) : Day :=
  let z := days + 719468
  let cycle := Int.fdiv z 146097
  let d := z - cycle * 146097
  let y := (d - d / 1460 + d / 36524 - d / 146096) / 365
  let inYear := d - (365 * y + y / 4 - y / 100)
  let m := (5 * inYear + 2) / 153
  let day := inYear - (153 * m + 2) / 5 + 1
  let month := if m < 10 then m + 3 else m - 9
  ⟨y + cycle * 400 + (if month ≤ 2 then 1 else 0), month, day⟩

structure Moment where
  day : Day
  weekday : Int
  hour : Int
  minute : Int
  second : Int
  millisecond : Int

def momentOf (time : Int) : Moment :=
  let days := Int.fdiv time msPerDay
  let ms := time - days * msPerDay
  ⟨dayOf days, Int.fmod (days + 4) 7, ms / 3600000, ms / 60000 % 60, ms / 1000 % 60, ms % 1000⟩

def Moment.fields (m : Moment) : List Int :=
  [m.day.year, m.day.month - 1, m.day.day, m.hour, m.minute, m.second, m.millisecond]

def timeOf : List Int → Int
  | [year, month, day, hour, minute, second, millisecond] =>
    let y := year + Int.fdiv month 12
    let m := Int.fmod month 12
    daysFrom y (m + 1) day * msPerDay + hour * 3600000 + minute * 60000 + second * 1000 + millisecond
  | _ => 0

def maxTime : Int := 8640000000000000

def monthNames : List String :=
  ["Jan", "Feb", "Mar", "Apr", "May", "Jun", "Jul", "Aug", "Sep", "Oct", "Nov", "Dec"]

def dayNames : List String :=
  ["Sun", "Mon", "Tue", "Wed", "Thu", "Fri", "Sat"]

def padded (width : Nat) (n : Int) : String :=
  let digits := toString n.natAbs
  let zeros := String.ofList (List.replicate (width - digits.length) '0')
  (if n < 0 then "-" else "") ++ zeros ++ digits

namespace Moment

def monthName (m : Moment) : String :=
  monthNames[(m.day.month - 1).toNat]?.getD ""

def dayName (m : Moment) : String :=
  dayNames[m.weekday.toNat]?.getD ""

def clock (m : Moment) : String :=
  padded 2 m.hour ++ ":" ++ padded 2 m.minute ++ ":" ++ padded 2 m.second

def iso (m : Moment) : String :=
  let year := if 0 ≤ m.day.year && m.day.year ≤ 9999 then padded 4 m.day.year
    else (if m.day.year < 0 then "-" else "+") ++ padded 6 m.day.year.natAbs
  year ++ "-" ++ padded 2 m.day.month ++ "-" ++ padded 2 m.day.day ++ "T" ++ m.clock ++ "." ++
    padded 3 m.millisecond ++ "Z"

def dateText (m : Moment) : String :=
  m.dayName ++ " " ++ m.monthName ++ " " ++ padded 2 m.day.day ++ " " ++ padded 4 m.day.year

def timeText (m : Moment) : String :=
  m.clock ++ " GMT+0000"

def universal (m : Moment) : String :=
  m.dayName ++ ", " ++ padded 2 m.day.day ++ " " ++ m.monthName ++ " " ++ padded 4 m.day.year ++ " " ++
    m.clock ++ " GMT"

def shortDate (m : Moment) : String :=
  padded 2 m.day.month ++ "/" ++ padded 2 m.day.day ++ "/" ++ padded 4 m.day.year

def shortTime (m : Moment) : String :=
  let hour := (m.hour + 11) % 12 + 1
  padded 2 hour ++ ":" ++ padded 2 m.minute ++ ":" ++ padded 2 m.second ++
    (if m.hour < 12 then " AM" else " PM")

end Moment

end BoundedScript.Script.Calendar
