import BoundedScript.Script.Calendar
import BoundedScript.Text.Scan

set_option autoImplicit false

/-!
Reading dates: first as the exact form that `Moment.iso` writes, parts at the end left out, then as free
text of words and numbers. A text in the exact form up to its `T` is never free text.
-/

namespace BoundedScript.Script.Calendar

open Text (Scan)
open Text.Scan

structure Fields where
  year : Int
  month : Int := 0
  day : Int := 1
  hour : Int := 0
  minute : Int := 0
  second : Int := 0
  millisecond : Int := 0
  zone : Int := 0

-- Hour 24 names only the end of a day; any day up to 31 counts on from its month's first.
def Fields.time? (f : Fields) : Option Int :=
  let isMidnight := f.minute == 0 && f.second == 0 && f.millisecond == 0
  if f.month ≤ 11 && f.day ≤ 31 && f.minute ≤ 59 && f.second ≤ 59 &&
      (f.hour < 24 || (f.hour == 24 && isMidnight)) then
    some (timeOf [f.year, f.month, f.day, f.hour, f.minute, f.second, f.millisecond] - f.zone * 60000)
  else none

def attempt {α : Type} (s : Scan α) : Scan (Option α) :=
  some <$> s <|> pure none

def decimal (ds : List Char) : Int :=
  ds.foldl (fun n c => n * 10 + (c.toNat - 0x30 : Nat)) 0

def digits (least most : Nat) : Scan (Int × Nat) := do
  let ds := ((← get).take most).takeWhile Char.isDigit
  if ds.length < least then failure
  drop ds.length
  return (decimal ds, ds.length)

def number (least most : Nat) : Scan Int :=
  Prod.fst <$> digits least most

-- Thousandths after a point or a comma, cut off; a mark without digits is not part of the time.
def thousandths : Scan Int := do
  let cs ← get
  let ds := (cs.drop 1 |>.take 9).takeWhile Char.isDigit
  if (cs.head? == some '.' || cs.head? == some ',') && !ds.isEmpty then
    drop (ds.length + 1)
    return decimal ((ds ++ ['0', '0', '0']).take 3)
  else return 0

/-- The distance of a zone in minutes. An exact one has two or four digits; of more than four in free text,
pairs at the end are dropped. -/
def zoneOffset (isExact : Bool) : Scan Int := do
  let sign ← next
  if sign == 'Z' then return 0
  if sign != '+' && sign != '-' then failure
  let (n, count) ← digits 1 9
  if isExact && count != 2 && count != 4 then failure
  let pairs := (count - 3) / 2
  let n := n / Int.pow 100 pairs
  let (hours, minutes) ←
    if 2 < count - 2 * pairs then pure (n / 100, n % 100)
    else if ← passes ":" then do pure (n, ← number 2 2)
    else pure (n, 0)
  if 23 < hours || 59 < minutes then failure
  let offset := hours * 60 + minutes
  return if sign == '-' then -offset else offset

-- A year of four digits, or of six after a sign; there is no year minus zero.
def isoYear : Scan Int := do
  if ← passes "+" then number 6 6
  else if ← passes "-" then
    let y ← number 6 6
    if y == 0 then failure else return -y
  else number 4 4

def isoDay : Scan Fields := do
  let year ← isoYear
  if !(← passes "-") then return { year }
  let month ← number 2 2
  if month < 1 then failure
  if !(← passes "-") then return { year, month := month - 1 }
  let day ← number 2 2
  if day < 1 then failure
  return { year, month := month - 1, day }

def isoZone (f : Fields) : Scan Fields := do
  if ← atEnd then return f
  let zone ← zoneOffset true
  if ← atEnd then return { f with zone } else failure

def isoFields : Scan (Option Fields) := do
  let f ← isoDay
  if !(← passes "T") then return some (← isoZone f)
  match ← attempt (do return (← number 2 2, ← expect ':', ← number 2 2)) with
  | none => return none
  | some (hour, _, minute) =>
    if ← passes ":" then
      let second ← number 2 2
      let millisecond ← thousandths
      return some (← isoZone { f with hour, minute, second, millisecond })
    else return some (← isoZone { f with hour, minute })

structure Loose where
  fields : Fields := { year := 2001 }
  hasYear : Bool := false
  hasMonth : Bool := false
  hasClock : Bool := false
  numbers : List Int := []

-- Two digits name a year from 1950 to 2049.
def shortYear (n : Int) : Int :=
  if n < 50 then n + 2000 else if n < 100 then n + 1900 else n

def zoneNames : List (String × Int) :=
  [("gmt", 0), ("utc", 0), ("ut", 0), ("z", 0), ("edt", -4), ("est", -5), ("cdt", -5), ("cst", -6),
   ("mdt", -6), ("mst", -7), ("pdt", -7), ("pst", -8), ("wet", 0), ("west", 1), ("cet", 1), ("cest", 2),
   ("eet", 2), ("eest", 3)]

def passesWord (w : String) : Scan Bool := do
  let cs := (← get).take w.length
  if cs.map Char.toLower == w.toList then
    drop w.length
    return true
  else return false

def firstOf (names : List String) (i : Nat) : Scan (Option Nat) := do
  match names with
  | [] => return none
  | name :: rest => if ← passesWord (name.map Char.toLower) then return some i else firstOf rest (i + 1)

def skipSeparators : Scan Unit :=
  skipWhile fun c => "-/.,".contains c

def afterRemark : Nat → List Char → Option (List Char)
  | _, [] => none
  | depth, c :: rest =>
    let depth := if c == '(' then depth + 1 else if c == ')' then depth - 1 else depth
    if depth == 0 then some rest else afterRemark depth rest

def clockAfter (l : Loose) (hour : Int) : Scan Loose := do
  let minute ← number 1 2
  if ← passes ":" then
    let second ← number 1 2
    let millisecond ← thousandths
    return { l with fields := { l.fields with hour, minute, second, millisecond }, hasClock := true }
  else
    if (← peek).any (· != ' ') then failure
    return { l with fields := { l.fields with hour, minute }, hasClock := true }

def looseNumber (l : Loose) (n : Int) (count : Nat) : Scan Loose := do
  if ← passes ":" then clockAfter l n
  else if 2 < count then return { l with fields := { l.fields with year := n }, hasYear := true }
  else if n < 1 || 31 < n then
    return { l with fields := { l.fields with year := shortYear n }, hasYear := true }
  else if l.numbers.length == 3 then failure
  else return { l with numbers := l.numbers ++ [n] }

def looseSign (l : Loose) : Scan Loose := do
  match ← if l.hasClock then attempt (zoneOffset false) else pure none with
  | some zone => return { l with fields := { l.fields with zone } }
  | none =>
    let sign ← next
    match ← attempt (number 1 9) with
    | none => return l
    | some n =>
      if sign == '-' && n == 0 then failure
      let year := if sign == '-' then -n else n
      return { l with fields := { l.fields with year }, hasYear := true }

-- Half days and zones, after which no separator is passed.
def looseWord (l : Loose) : Scan (Option Loose) := do
  if ← pure l.hasClock <&&> passesWord "pm" then
    let hour := if l.fields.hour == 12 then 12 else l.fields.hour + 12
    return some { l with fields := { l.fields with hour } }
  else if ← pure l.hasClock <&&> passesWord "am" then
    if 12 < l.fields.hour then failure
    return some { l with fields := { l.fields with hour := l.fields.hour % 12 } }
  else
    match ← firstOf (zoneNames.map Prod.fst) 0 with
    | some i =>
      let hours := (zoneNames[i]?.map Prod.snd).getD 0
      return some { l with fields := { l.fields with zone := hours * 60 } }
    | none => return none

def loosePart (l : Loose) (c : Char) : Scan Loose := do
  if c == '+' || c == '-' then looseSign l <* skipSeparators
  else if c.isDigit then
    let (n, count) ← digits 1 9
    looseNumber l n count <* skipSeparators
  else
    match ← firstOf monthNames 0 with
    | some month =>
      skipWhile fun c => !(c.isDigit || " -/(".contains c)
      skipSeparators
      return { l with fields := { l.fields with month }, hasMonth := true }
    | none =>
      match ← looseWord l with
      | some l => return l
      | none =>
        if c == '(' then
          match afterRemark 0 (← get) with
          | none => failure
          | some rest => set rest
        else
          if c == ')' || l.hasYear || l.hasMonth || l.hasClock || !l.numbers.isEmpty then failure
          skipWhile fun c => !(" -/(".contains c)
        skipSeparators
        return l

def looseParts (l : Loose) : (fuel : Nat) → Scan Loose
  | 0 => return l
  | fuel + 1 => do
    skipWhile (· == ' ')
    match ← peek with
    | none => return l
    | some c => looseParts (← loosePart l c) fuel

def Loose.settle (l : Loose) : Option Fields :=
  let f := l.fields
  if 3 < l.numbers.length + l.hasYear.toNat + l.hasMonth.toNat then none
  else
    match l.numbers with
    | [] => if l.hasYear then some f else none
    | [a] => some (if l.hasMonth then { f with day := a } else { f with month := a - 1 })
    | [a, b] =>
      if l.hasMonth && !l.hasYear then some { f with year := shortYear b, day := a }
      else some { f with month := a - 1, day := b }
    | [a, b, c] => some { f with year := shortYear c, month := a - 1, day := b }
    | _ => none

def maxLength : Nat := 127

def read (cs : List Char) : Option Int :=
  let cs := (cs.take maxLength).takeWhile (· != '\x00')
  match isoFields.run cs with
  | some (f, _) => f.bind Fields.time?
  | none => do
    let (l, _) ← (looseParts {} (cs.length + 1)).run cs
    (← l.settle).time?

end BoundedScript.Script.Calendar
