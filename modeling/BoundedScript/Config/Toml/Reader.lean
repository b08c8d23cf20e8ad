import BoundedScript.Config.Toml.Table
import BoundedScript.Decimal.Binary
import BoundedScript.Text.Scan

set_option autoImplicit false

namespace BoundedScript.Toml

open Text Text.Scan

def isSpace (c : Char) : Bool :=
  c == ' ' || c == '\t'

def isPlain (c : Char) : Bool :=
  c == '\t' || (0x20 ≤ c.val && c != '\x7f')

def isBareKey (c : Char) : Bool :=
  c.isAlphanum || c == '-' || c == '_'

def skipSpaces : Scan Unit :=
  skipWhile isSpace

def lineBreak : Scan Bool := do
  if ← passes "\n" then return true else passes "\r\n"

def comment : Scan Unit := do
  if (← peek) == some '#' then skipWhile isPlain

def lineEnd : Scan Unit := do
  skipSpaces
  comment
  if !(← atEnd) && !(← lineBreak) then failure

def skipLines : (fuel : Nat) → Scan Unit
  | 0 => return ()
  | fuel + 1 => do
    skipSpaces
    comment
    if ← lineBreak then skipLines fuel

def escape : Scan Char := do
  match ← next with
  | 'b' => return '\x08'
  | 't' => return '\t'
  | 'n' => return '\n'
  | 'f' => return '\x0c'
  | 'r' => return '\r'
  | '"' => return '"'
  | '\\' => return '\\'
  | 'u' => charOf (← hexDigits 0 4)
  | 'U' => charOf (← hexDigits 0 8)
  | _ => failure

def basicBody (read : List Char) : (fuel : Nat) → Scan (List Char)
  | 0 => failure
  | fuel + 1 => do
    let c ← next
    if c == '"' then return read.reverse
    else if c == '\\' then basicBody ((← escape) :: read) fuel
    else if isPlain c then basicBody (c :: read) fuel
    else failure

def literalBody : Scan (List Char) := do
  let cs ← takeWhile fun c => isPlain c && c != '\''
  expect '\''
  return cs

-- Up to five quotes in a row: a run of three or more ends the string, what is over belongs to it.
def quoteRun (quote : Char) : Scan Nat := do
  let n := ((← get).takeWhile (· == quote)).length
  let n := min n 5
  drop n
  return n

def skipContinuation : (fuel : Nat) → Scan Unit
  | 0 => return ()
  | fuel + 1 => do
    skipSpaces
    if ← lineBreak then skipContinuation fuel

def endsLine (cs : List Char) : Bool :=
  match cs.dropWhile isSpace with
  | '\n' :: _ => true
  | '\r' :: '\n' :: _ => true
  | _ => false

def blockBody (quote : Char) (read : List Char) : (fuel : Nat) → Scan (List Char)
  | 0 => failure
  | fuel + 1 => do
    if (← peek) == some quote then
      let n ← quoteRun quote
      if 3 ≤ n then return read.reverse ++ List.replicate (n - 3) quote
      else blockBody quote (List.replicate n quote ++ read) fuel
    else if ← lineBreak then blockBody quote ('\n' :: read) fuel
    else
      let c ← next
      if c == '\\' && quote == '"' then
        if endsLine (← get) then do
          skipContinuation fuel
          blockBody quote read fuel
        else blockBody quote ((← escape) :: read) fuel
      else if isPlain c then blockBody quote (c :: read) fuel
      else failure

def stringFrom (quote : Char) : Scan String := do
  if ← passes (String.ofList [quote, quote, quote]) then
    let _ ← lineBreak
    return String.ofList (← blockBody quote [] (← fuel))
  else
    drop 1
    if quote == '"' then return String.ofList (← basicBody [] (← fuel))
    else return String.ofList (← literalBody)

def simpleKey : Scan String := do
  match ← peek with
  | some '"' => do drop 1; return String.ofList (← basicBody [] (← fuel))
  | some '\'' => do drop 1; return String.ofList (← literalBody)
  | _ =>
    let cs ← takeWhile isBareKey
    if cs.isEmpty then failure
    return String.ofList cs

def maxDepth : Nat := 80

def keyFrom (read : List String) : (fuel : Nat) → Scan (List String)
  | 0 => failure
  | fuel + 1 => do
    skipSpaces
    let read := (← simpleKey) :: read
    skipSpaces
    if ← passes "." then keyFrom read fuel else return read

def key : Scan (List String × String) := do
  let names ← keyFrom [] maxDepth
  match names with
  | name :: path => if names.length < maxDepth then return (path.reverse, name) else failure
  | [] => failure

def digitsFrom (isDigit : Char → Bool) (base value count : Nat) : (fuel : Nat) → Scan (Nat × Nat)
  | 0 => failure
  | fuel + 1 => do
    let c ← next
    if !isDigit c then failure
    let value := value * base + ((hexValue? c).getD 0)
    match ← peek with
    | some '_' => do drop 1; digitsFrom isDigit base value (count + 1) fuel
    | some d =>
      if isDigit d then digitsFrom isDigit base value (count + 1) fuel
      else return (value, count + 1)
    | none => return (value, count + 1)

def digits (isDigit : Char → Bool) (base : Nat) : Scan (Nat × Nat) := do
  digitsFrom isDigit base 0 0 (← fuel)

def isHexDigit (c : Char) : Bool :=
  (hexValue? c).isSome

def isOctalDigit (c : Char) : Bool :=
  '0' ≤ c && c ≤ '7'

def isBinaryDigit (c : Char) : Bool :=
  c == '0' || c == '1'

def whole (n : Int) : Scan Document :=
  if -0x8000_0000_0000_0000 ≤ n && n < 0x8000_0000_0000_0000 then return .int n else failure

def exponent : Scan Int := do
  drop 1
  let negative ← passes "-"
  if !negative then
    let _ ← passes "+"
  let (e, _) ← digits Char.isDigit 10
  return if negative then -(e : Int) else e

def isExponentMark (c : Char) : Bool :=
  c == 'e' || c == 'E'

def real (negative : Bool) (n : Nat) (exponent : Int) : Scan Document :=
  let x := Double.ofDecimal n exponent
  if negative then return .real (-x)
  else if x.isInf then failure
  else return .real x

def afterWhole (negative : Bool) (n : Nat) : Scan Document := do
  match ← peek with
  | some '.' => do
    drop 1
    let (f, places) ← digits Char.isDigit 10
    let n := n * Nat.pow 10 places + f
    if (← peek).any isExponentMark then real negative n ((← exponent) - places)
    else real negative n (-(places : Int))
  | some c =>
    if isExponentMark c then do real negative n (← exponent)
    else whole (if negative then -(n : Int) else n)
  | none => whole (if negative then -(n : Int) else n)

def decimal (negative : Bool) : Scan Document := do
  if (← peek) == some '0' then do drop 1; afterWhole negative 0
  else
    let (n, _) ← digits Char.isDigit 10
    afterWhole negative n

def unsigned (isDigit : Char → Bool) (base : Nat) : Scan Document := do
  let (n, _) ← digits isDigit base
  whole n

def special (negative : Bool) : Scan Document := do
  if ← passes "inf" then return .real (if negative then -(1.0 / 0.0) else 1.0 / 0.0)
  else if ← passes "nan" then return .real (0.0 / 0.0)
  else decimal negative

def number : Scan Document := do
  if ← passes "0x" then unsigned isHexDigit 16
  else if ← passes "0o" then unsigned isOctalDigit 8
  else if ← passes "0b" then unsigned isBinaryDigit 2
  else if ← passes "-" then special true
  else do
    let _ ← passes "+"
    special false

def fixedDigits (value : Nat) : (count : Nat) → Scan Nat
  | 0 => return value
  | count + 1 => do
    let c ← next
    if c.isDigit then fixedDigits (value * 10 + (c.toNat - 0x30)) count else failure

def inRange (least greatest : Nat) (n : Nat) : Scan Nat :=
  if least ≤ n && n ≤ greatest then return n else failure

def isLeap (year : Nat) : Bool :=
  (year % 4 == 0 && year % 100 != 0) || year % 400 == 0

def daysOf (year month : Nat) : Nat :=
  if month == 2 then (if isLeap year then 29 else 28)
  else if month == 4 || month == 6 || month == 9 || month == 11 then 30
  else 31

def date : Scan Unit := do
  let year ← fixedDigits 0 4
  expect '-'
  let month ← inRange 1 12 (← fixedDigits 0 2)
  expect '-'
  let _ ← inRange 1 (daysOf year month) (← fixedDigits 0 2)

def time : Scan Unit := do
  let _ ← inRange 0 23 (← fixedDigits 0 2)
  expect ':'
  let _ ← inRange 0 59 (← fixedDigits 0 2)
  expect ':'
  let _ ← inRange 0 60 (← fixedDigits 0 2)
  if ← passes "." then
    let cs ← takeWhile Char.isDigit
    if cs.isEmpty then failure

def offset : Scan Unit := do
  match ← peek with
  | some 'Z' | some 'z' => drop 1
  | some '+' | some '-' => do
    drop 1
    let _ ← inRange 0 23 (← fixedDigits 0 2)
    expect ':'
    let _ ← inRange 0 59 (← fixedDigits 0 2)
  | _ => return ()

def timeFollows (cs : List Char) : Bool :=
  match cs with
  | c :: a :: b :: ':' :: _ =>
    (c == 'T' || c == 't' || c == ' ') && a.isDigit && b.isDigit
  | _ => false

def dateAndTime : Scan Document := do
  date
  if timeFollows (← get) then do
    drop 1
    time
    offset
  return .date

def startsDate (cs : List Char) : Bool :=
  (cs.take 4).all Char.isDigit && cs[4]? == some '-'

def startsTime (cs : List Char) : Bool :=
  (cs.take 2).all Char.isDigit && cs[2]? == some ':'

def numberOrDate : Scan Document := do
  let cs ← get
  if startsDate cs then dateAndTime
  else if startsTime cs then do time; return .date
  else number

def items (item : Scan Document) (read : List Document) : (fuel : Nat) → Scan (List Document)
  | 0 => failure
  | fuel + 1 => do
    skipLines fuel
    if ← passes "]" then return read.reverse
    let read := (← item) :: read
    skipLines fuel
    if ← passes "," then items item read fuel
    else do
      expect ']'
      return read.reverse

def pair (item : Scan Document) (fields : Fields) : Scan Fields := do
  let (path, name) ← key
  expect '='
  skipSpaces
  let d ← item
  match assign path name d fields with
  | some fields => return fields
  | none => failure

def pairs (item : Scan Document) (fields : Fields) : (fuel : Nat) → Scan Fields
  | 0 => failure
  | fuel + 1 => do
    let fields ← pair item fields
    skipSpaces
    if ← passes "," then pairs item fields fuel
    else do
      expect '\x7d'
      return fields

def valueWith (container : Char → Scan Document) : Scan Document := do
  match ← peek with
  | none => failure
  | some c =>
    if c == '"' || c == '\'' then return .string (← stringFrom c)
    else if c == '[' || c == '\x7b' then container c
    else if c == '+' || c == '-' || c.isDigit then numberOrDate
    else if c == 'i' || c == 'n' then number
    else if ← passes "true" then return .bool true
    else if ← passes "false" then return .bool false
    else failure

def value : (depth : Nat) → Scan Document
  | 0 => valueWith fun _ => failure
  | depth + 1 => valueWith fun c => do
    drop 1
    if c == '[' then return .list false (← items (value depth) [] (← fuel))
    else do
      skipSpaces
      if ← passes "\x7d" then return .table []
      else
        let fields ← pairs (value depth) [] (← fuel)
        return .table (toEntries fields)

structure State where
  root : Fields
  path : List String

def ofOption {α : Type} : Option α → Scan α
  | some a => return a
  | none => failure

def header (s : State) : Scan State := do
  let isItem ← passes "["
  let (path, name) ← key
  expect ']'
  if isItem then expect ']'
  lineEnd
  let root ← ofOption (descend false (if isItem then openItem name else openTable name) path .stated s.root)
  return ⟨root, path ++ [name]⟩

def assignment (s : State) : Scan State := do
  let (path, name) ← key
  expect '='
  skipSpaces
  let d ← value (maxDepth - 1)
  lineEnd
  let root ← ofOption (descend false (fun _ fields => assign path name d fields) s.path .stated s.root)
  return { s with root }

def statements (s : State) : (fuel : Nat) → Scan State
  | 0 => return s
  | fuel + 1 => do
    skipSpaces
    comment
    if ← atEnd then return s
    else if ← lineBreak then statements s fuel
    else if ← passes "[" then statements (← header s) fuel
    else statements (← assignment s) fuel

def dropMark (cs : List Char) : List Char :=
  match cs with
  | '\ufeff' :: rest => rest
  | _ => cs

def document : Scan Document := do
  modify dropMark
  let s ← statements ⟨[], []⟩ (← fuel)
  return .table (toEntries s.root)

def read? (text : String) : Option Document :=
  Scan.whole document text

end BoundedScript.Toml
