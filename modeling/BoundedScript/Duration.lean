set_option autoImplicit false

namespace BoundedScript

structure Duration where
  nanos : Nat
  inRange : nanos < 0x1_0000_0000_0000_0000 * 1_000_000_000
  deriving DecidableEq

namespace Duration

def ofNanos? (n : Nat) : Option Duration :=
  if h : n < 0x1_0000_0000_0000_0000 * 1_000_000_000 then some ⟨n, h⟩ else none

def ofMillis (n : UInt64) : Duration :=
  ⟨n.toNat * 1_000_000, by have := n.toNat_lt; omega⟩

def millis (d : Duration) : Nat :=
  d.nanos / 1_000_000

def isZero (d : Duration) : Bool :=
  d.nanos == 0

def dropZerosAtEnd (cs : List Char) : List Char :=
  (cs.reverse.dropWhile (· == '0')).reverse

def pointText (whole part places : Nat) : String :=
  let digits := Nat.toDigits 10 part
  let padded := List.replicate (places - digits.length) '0' ++ digits
  match dropZerosAtEnd padded with
  | [] => toString whole
  | kept => toString whole ++ "." ++ String.ofList kept

def brief (d : Duration) : String :=
  if 1_000_000_000 ≤ d.nanos then pointText (d.nanos / 1_000_000_000) (d.nanos % 1_000_000_000) 9 ++ "s"
  else if 1_000_000 ≤ d.nanos then pointText (d.nanos / 1_000_000) (d.nanos % 1_000_000) 6 ++ "ms"
  else if 1000 ≤ d.nanos then pointText (d.nanos / 1000) (d.nanos % 1000) 3 ++ "µs"
  else toString d.nanos ++ "ns"

inductive TimeUnit where
  | nanosecond | microsecond | millisecond | second | minute | hour | day | week | month | year
  deriving DecidableEq

namespace TimeUnit

def names : List (String × TimeUnit) :=
  [("ns", .nanosecond), ("nsec", .nanosecond), ("nanos", .nanosecond),
   ("us", .microsecond), ("µs", .microsecond), ("usec", .microsecond), ("micros", .microsecond),
   ("ms", .millisecond), ("msec", .millisecond), ("millis", .millisecond),
   ("s", .second), ("sec", .second), ("secs", .second), ("second", .second), ("seconds", .second),
   ("m", .minute), ("min", .minute), ("mins", .minute), ("minute", .minute), ("minutes", .minute),
   ("h", .hour), ("hr", .hour), ("hrs", .hour), ("hour", .hour), ("hours", .hour),
   ("d", .day), ("day", .day), ("days", .day),
   ("w", .week), ("wk", .week), ("wks", .week), ("week", .week), ("weeks", .week),
   ("M", .month), ("month", .month), ("months", .month),
   ("y", .year), ("yr", .year), ("yrs", .year), ("year", .year), ("years", .year)]

def ofName? (s : String) : Option TimeUnit :=
  (names.find? (·.1 == s)).map (·.2)

def seconds : TimeUnit → Nat
  | .nanosecond | .microsecond | .millisecond => 0
  | .second => 1
  | .minute => 60
  | .hour => 3600
  | .day => 86400
  | .week => 604800
  | .month => 2630016
  | .year => 31557600

def nanos : TimeUnit → Nat
  | .nanosecond => 1
  | .microsecond => 1000
  | .millisecond => 1_000_000
  | u => u.seconds * 1_000_000_000

-- Fractions of an hour and more are counted in seconds, of less in nanoseconds.
def fractionGrain (u : TimeUnit) : Nat :=
  if 3600 ≤ u.seconds then 1_000_000_000 else 1

end TimeUnit

-- Parts of the written form, the largest unit first; a part that is zero is left out.
def parts (d : Duration) : List (Nat × String) :=
  let total := d.nanos / 1_000_000_000
  let part := d.nanos % 1_000_000_000
  let inYear := total % TimeUnit.year.seconds
  let inMonth := inYear % TimeUnit.month.seconds
  let plural (n : Nat) (name : String) : Nat × String := (n, if n == 1 then name else name ++ "s")
  [plural (total / TimeUnit.year.seconds) "year",
   plural (inYear / TimeUnit.month.seconds) "month",
   plural (inMonth / 86400) "day",
   (inMonth % 86400 / 3600, "h"), (inMonth % 3600 / 60, "m"), (inMonth % 60, "s"),
   (part / 1_000_000, "ms"), (part / 1000 % 1000, "us"), (part % 1000, "ns")].filter (·.1 != 0)

def render (d : Duration) : String :=
  match d.parts with
  | [] => "0s"
  | ps => " ".intercalate (ps.map fun (n, name) => toString n ++ name)

structure Fraction where
  numerator : Nat
  denominator : Nat

inductive Reading where
  | start
  | whole (n : Nat)
  | fraction (n : Nat) (f : Fraction)
  | unit (n : Nat) (f : Option Fraction) (name : List Char)

def wordLimit : Nat := 0x1_0000_0000_0000_0000

def isUnitLetter (c : Char) : Bool :=
  c.isAlpha || c == 'µ'

def digit (c : Char) : Nat :=
  c.toNat - 0x30

def word? (n : Nat) : Option Nat :=
  if n < wordLimit then some n else none

-- Adds `n` units and a fraction of one; every intermediate count must fit a word.
def add? (total n : Nat) (f : Option Fraction) (name : List Char) : Option Nat := do
  let u ← TimeUnit.ofName? (String.ofList name)
  let _ ← word? (n * (if u.seconds == 0 then u.nanos else u.seconds))
  let part ← match f with
    | none => some 0
    | some f => do
      let scaled ← word? (f.numerator * (u.nanos / u.fractionGrain))
      some (scaled / f.denominator * u.fractionGrain)
  let sum := total + n * u.nanos + part
  if sum / 1_000_000_000 < wordLimit then some sum else none

def blank (c : Char) : Bool :=
  c.isWhitespace || c == '\x0b' || c == '\x0c' || c == '\u0085' || c == '\u00a0' || c == '\u3000' ||
    (0x2000 ≤ c.toNat && c.toNat ≤ 0x200a)

def readFrom (total : Nat) : Reading → List Char → Option Nat
  | .start, [] => some total
  | .start, c :: rest =>
    if c.isDigit then readFrom total (.whole (digit c)) rest
    else if blank c then readFrom total .start rest
    else none
  | .whole n, c :: rest =>
    if c.isDigit then (word? (n * 10 + digit c)).bind fun n => readFrom total (.whole n) rest
    else if blank c then readFrom total (.whole n) rest
    else if isUnitLetter c then readFrom total (.unit n none [c]) rest
    else if c == '.' then readFrom total (.fraction n ⟨0, 1⟩) rest
    else none
  | .fraction n f, c :: rest =>
    if c.isDigit then do
      let d ← word? (f.denominator * 10)
      let m ← word? (f.numerator * 10 + digit c)
      readFrom total (.fraction n ⟨m, d⟩) rest
    else if blank c then readFrom total (.fraction n f) rest
    else if isUnitLetter c && f.denominator != 1 then readFrom total (.unit n (some f) [c]) rest
    else none
  | .unit n f name, c :: rest =>
    if c.isDigit then (add? total n f name).bind fun t => readFrom t (.whole (digit c)) rest
    else if blank c then (add? total n f name).bind fun t => readFrom t .start rest
    else if isUnitLetter c then readFrom total (.unit n f (name ++ [c])) rest
    else none
  | .unit n f name, [] => add? total n f name
  | .whole _, [] => none
  | .fraction _ _, [] => none

/-- The span that a text like `1.5s` or `2m 30s` writes; `0` alone needs no unit. -/
def read? (s : String) : Option Duration :=
  if s == "0" then ofNanos? 0
  else match s.toList with
    | [] => none
    | cs => if cs.all blank then none else (readFrom 0 .start cs).bind ofNanos?

end Duration
end BoundedScript
