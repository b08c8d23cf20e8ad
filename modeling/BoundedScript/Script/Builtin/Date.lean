import BoundedScript.Script.Builtin.Primitive
import BoundedScript.Script.Calendar.Reader

set_option autoImplicit false

namespace BoundedScript.Script.DateObject

open Run

def statics : FunctionTable DateFn :=
  [("now", .now, 0), ("parse", .parse, 1), ("UTC", .utc, 7)]

def parts : List (String × DatePart × Nat) :=
  [("FullYear", .year, 3), ("Month", .month, 2), ("Date", .date, 1), ("Hours", .hours, 4),
   ("Minutes", .minutes, 3), ("Seconds", .seconds, 2), ("Milliseconds", .milliseconds, 1)]

def methods : FunctionTable DateFn :=
  [("valueOf", .valueOf, 0), ("toString", .toString, 0), ("toUTCString", .toUTCString, 0),
   ("toGMTString", .toUTCString, 0), ("toISOString", .toISOString, 0),
   ("toDateString", .toDateString, 0), ("toTimeString", .toTimeString, 0),
   ("toLocaleString", .toLocaleString, 0), ("toLocaleDateString", .toLocaleDateString, 0),
   ("toLocaleTimeString", .toLocaleTimeString, 0), ("getTimezoneOffset", .timezoneOffset, 0),
   ("getTime", .getTime, 0), ("setTime", .setTime, 1), ("getDay", .get .day, 0),
   ("getUTCDay", .get .day, 0)] ++
  (parts.flatMap fun (name, part, count) =>
    [("get" ++ name, .get part, 0), ("getUTC" ++ name, .get part, 0), ("set" ++ name, .set part, count),
     ("setUTC" ++ name, .set part, count)]) ++
  [("toJSON", .toJSON, 1)]

-- The moment that a clock would show; there is none here.
def present : Float := 0.0

def clip (t : Int) : Float :=
  if Calendar.maxTime < t.natAbs then Number.nan else Double.ofWhole t

def timeOfFields (fields : List Float) : Float :=
  if fields.all fun x => x.isFinite && x.abs < 1e15 then
    clip (Calendar.timeOf (fields.map fun x => Double.truncateInt x))
  else Number.nan

def thisTime (this : Value) : Run (Addr × Float) := do
  match this with
  | .object a =>
    match ← kindOf a with
    | .date t => return (a, t)
    | _ => typeError "not a Date object"
  | _ => typeError "not a Date object"

def setTime (a : Addr) (t : Float) : Run Value := do
  modifyObj a fun o => { o with kind := .date t }
  return .number t

def momentOf? (t : Float) : Option Calendar.Moment :=
  (Double.toInt? t).map Calendar.momentOf

def show_ (t : Float) (text : Calendar.Moment → String) : Value :=
  match momentOf? t with
  | some m => .text (text m)
  | none => .text "Invalid Date"

def partOf (m : Calendar.Moment) : DatePart → Int
  | .year => m.day.year
  | .month => m.day.month - 1
  | .date => m.day.day
  | .hours => m.hour
  | .minutes => m.minute
  | .seconds => m.second
  | .milliseconds => m.millisecond
  | .day => m.weekday

def fieldsOf : DatePart → Nat × Nat
  | .year => (0, 3)
  | .month => (1, 2)
  | .date => (2, 1)
  | .hours => (3, 4)
  | .minutes => (4, 3)
  | .seconds => (5, 2)
  | .milliseconds => (6, 1)
  | .day => (2, 0)

-- Dates are read from Latin letters; a minus sign counts as a dash.
def plainChar (c : UInt16) : Char :=
  if c == 0x2212 then '-' else if c ≤ 0xff then Char.ofNat c.toNat else 'x'

def read (u : Units) : Float :=
  match Calendar.read (u.toList.map plainChar) with
  | some t => clip t
  | none => Number.nan

section
variable (E : Engine)

def numbersOf (args : Array Value) (count : Nat) : Run (List Float) := do
  let mut out : Array Float := #[]
  for v in args.extract 0 count do out := out.push (← toNumber E v)
  return out.toList

-- The time of year, month and so on; years from 0 to 99 are those of the last century.
def timeOfArgs (args : Array Value) : Run Float := do
  let xs ← numbersOf E args 7
  let year := xs.headD Number.nan
  let t := Number.truncate year
  let year := if !year.isNaN && 0.0 ≤ t && t ≤ 99.0 then 1900.0 + t else year
  let given := year :: xs.drop 1
  return timeOfFields (given ++ [0.0, 0.0, 1.0, 0.0, 0.0, 0.0, 0.0].drop given.length)

def timeOfValue (v : Value) : Run Float := do
  match v with
  | .object a =>
    if let .date t ← kindOf a then return t
  | _ => pure ()
  match ← toPrimitive E .none v with
  | .string u => return read u
  | p =>
    let x ← primitiveToNumber p
    return if x.isFinite && x.abs < 1e17 then clip (Double.truncateInt x) else Number.nan

def make (args : Array Value) (newTarget : Option Value) : Run Value := do
  match newTarget with
  | none => return show_ present fun m => m.dateText ++ " " ++ m.timeText
  | some t =>
    let time ← match args.size with
      | 0 => pure present
      | 1 => timeOfValue E (arg args 0)
      | _ => timeOfArgs E args
    return .object (← newOrdinary (some (← prototypeFor E t .datePrototype)) (.date time))

def setPart (a : Addr) (t : Float) (part : DatePart) (args : Array Value) : Run Value := do
  let (first, count) := fieldsOf part
  let xs ← numbersOf E args count
  let moment := match momentOf? t, part with
    | some m, _ => some m
    | none, .year => some (Calendar.momentOf 0)
    | none, _ => none
  match moment with
  | none => return .number Number.nan
  | some m =>
    if xs.isEmpty then return ← setTime a Number.nan
    let fields := m.fields.map Double.ofWhole
    setTime a (timeOfFields (fields.take first ++ xs ++ fields.drop (first + xs.length)))

def toJson (this : Value) : Run Value := do
  let a ← toObject this
  match ← toPrimitive E .number (.object a) with
  | .number x => if x.isFinite then invoke E (.object a) (.ofString "toISOString") #[] else return .null
  | _ => invoke E (.object a) (.ofString "toISOString") #[]

def toPrimitiveBy (this hint : Value) : Run Value := do
  match this, hint with
  | .object a, .string h =>
    if h == Units.ofString "number" then ordinaryToPrimitive E a valueOfKey toStringKey
    else if h == Units.ofString "string" || h == Units.ofString "default" then
      ordinaryToPrimitive E a toStringKey valueOfKey
    else typeError "invalid hint"
  | .object _, _ => typeError "invalid hint"
  | _, _ => typeError "not an object"

def run (f : DateFn) (this : Value) (args : Array Value) (newTarget : Option Value) : Run Value := do
  match f with
  | .make => make E args newTarget
  | .now => return .number present
  | .parse => return .number (read (← toUnits E (arg args 0)))
  | .utc => return .number (← timeOfArgs E args)
  | .toJSON => toJson E this
  | .toPrimitive => toPrimitiveBy E this (arg args 0)
  | f =>
    let (a, t) ← thisTime this
    match f with
    | .get part =>
      match momentOf? t with
      | some m => return .number (Double.ofWhole (partOf m part))
      | none => return .number Number.nan
    | .set part => setPart E a t part args
    | .setTime =>
      let x ← toNumber E (arg args 0)
      setTime a (if x.isFinite && x.abs < 1e17 then clip (Double.truncateInt x) else Number.nan)
    | .timezoneOffset => return .number (if t.isNaN then t else 0.0)
    | .toISOString =>
      match momentOf? t with
      | some m => return .text m.iso
      | none => rangeError "Date value is NaN"
    | .toString => return show_ t fun m => m.dateText ++ " " ++ m.timeText
    | .toDateString => return show_ t (·.dateText)
    | .toTimeString => return show_ t (·.timeText)
    | .toUTCString => return show_ t (·.universal)
    | .toLocaleString => return show_ t fun m => m.shortDate ++ ", " ++ m.shortTime
    | .toLocaleDateString => return show_ t (·.shortDate)
    | .toLocaleTimeString => return show_ t (·.shortTime)
    | _ => return .number t

end
end BoundedScript.Script.DateObject
