import BoundedScript.Config.Document
import BoundedScript.Decimal.Binary
import BoundedScript.Text.Identifier
import BoundedScript.Text.Scan

set_option autoImplicit false

namespace BoundedScript.Json5

open Text Text.Scan

def isLineTerminator (c : Char) : Bool :=
  c == '\n' || c == '\r' || c == '\u2028' || c == '\u2029'

def isSpaceSeparator (n : Nat) : Bool :=
  n == 0x20 || n == 0xa0 || n == 0x1680 || (0x2000 ≤ n && n ≤ 0x200a) || n == 0x202f || n == 0x205f ||
    n == 0x3000

def isBlank (c : Char) : Bool :=
  c == '\t' || c == '\x0b' || c == '\x0c' || c == '\ufeff' || isLineTerminator c ||
    isSpaceSeparator c.toNat

-- What follows the end of a comment between marks, if it ends.
def afterBlock : List Char → Option (List Char)
  | '*' :: '/' :: rest => some rest
  | _ :: rest => afterBlock rest
  | [] => none

def skip : (fuel : Nat) → Scan Unit
  | 0 => return ()
  | fuel + 1 => do
    skipWhile isBlank
    match ← get with
    | '/' :: '/' :: rest => do
      set (rest.dropWhile (!isLineTerminator ·))
      skip fuel
    | '/' :: '*' :: rest =>
      match afterBlock rest with
      | some rest => do set rest; skip fuel
      | none => return ()
    | _ => return ()

def skipAll : Scan Unit := do
  skip (← fuel)

-- The character of a `\u` escape; a leading surrogate needs its other half.
def unicodeEscape : Scan Char := do
  let n ← hexDigits 0 4
  if 0xd800 ≤ n && n ≤ 0xdbff then
    expect '\\'
    expect 'u'
    let m ← hexDigits 0 4
    if 0xdc00 ≤ m && m ≤ 0xdfff then charOf (0x10000 + (n - 0xd800) * 0x400 + (m - 0xdc00))
    else failure
  else charOf n

def escape : Scan (Option Char) := do
  let c ← next
  if c == '\r' then
    let _ ← passes "\n"
    return none
  else if isLineTerminator c then return none
  else match c with
    | 'b' => return some '\x08'
    | 'f' => return some '\x0c'
    | 'n' => return some '\n'
    | 'r' => return some '\r'
    | 't' => return some '\t'
    | 'v' => return some '\x0b'
    | '0' => return some '\x00'
    | 'x' => return some (← charOf (← hexDigits 0 2))
    | 'u' => return some (← unicodeEscape)
    | c => if c.isDigit then failure else return some c

def stringBody (quote : Char) (read : List Char) : (fuel : Nat) → Scan String
  | 0 => failure
  | fuel + 1 => do
    let c ← next
    if c == quote then return String.ofList read.reverse
    else if c == '\\' then do
      match ← escape with
      | some c => stringBody quote (c :: read) fuel
      | none => stringBody quote read fuel
    else if isLineTerminator c then failure
    else stringBody quote (c :: read) fuel

def quotedText (quote : Char) : Scan String := do
  drop 1
  stringBody quote [] (← fuel)

def isNameStart (c : Char) : Bool :=
  c == '$' || c == '_' || isIdStart c.toNat

def isNamePart (c : Char) : Bool :=
  isNameStart c || isIdContinue c.toNat || c == '\u200c' || c == '\u200d'

def nameFrom (read : List Char) : (fuel : Nat) → Scan String
  | 0 => failure
  | fuel + 1 => do
    match ← peek with
    | some '\\' => do
      drop 1
      expect 'u'
      let c ← unicodeEscape
      nameFrom (c :: read) fuel
    | some c =>
      if isNameStart c || (!read.isEmpty && isNamePart c) then do drop 1; nameFrom (c :: read) fuel
      else if read.isEmpty then failure
      else return String.ofList read.reverse
    | none => if read.isEmpty then failure else return String.ofList read.reverse

def key : Scan String := do
  match ← peek with
  | some '"' => quotedText '"'
  | some '\'' => quotedText '\''
  | _ => nameFrom [] (← fuel)

inductive Sign where
  | none | plus | minus
  deriving DecidableEq

def Sign.apply (s : Sign) (x : Float) : Float :=
  if s == .minus then -x else x

def decimalValue (cs : List Char) : Nat :=
  cs.foldl (fun n c => n * 10 + (c.toNat - 0x30)) 0

def exponent? : Scan (Option Int) := do
  match ← get with
  | e :: rest =>
    if e != 'e' && e != 'E' then return none
    let (negative, rest) := match rest with
      | '-' :: r => (true, r)
      | '+' :: r => (false, r)
      | r => (false, r)
    let digits := rest.takeWhile Char.isDigit
    if digits.isEmpty then return none
    set (rest.drop digits.length)
    let n : Int := decimalValue digits
    return some (if negative then -n else n)
  | [] => return none

-- A number that no double reaches is read, and is none.
def finite (sign : Sign) (n : Nat) (exponent : Int) : Option Float :=
  let x := Double.ofDecimal n exponent
  if x.isFinite then some (sign.apply x) else none

def decimal (sign : Sign) : Scan Document := do
  let cs ← get
  let whole := if cs.head? == some '0' then ['0'] else cs.takeWhile Char.isDigit
  let rest := cs.drop whole.length
  let (hasPoint, part) := match rest with
    | '.' :: r => (true, r.takeWhile Char.isDigit)
    | _ => (false, [])
  if whole.isEmpty && part.isEmpty then failure
  set (if hasPoint then rest.drop (part.length + 1) else rest)
  let n := decimalValue (whole ++ part)
  match ← exponent? with
  | some e => return .loose (finite sign n (e - part.length)) true
  | none =>
    if hasPoint then return .loose (finite sign n (-(part.length : Int))) true
    else
      let limit := if sign == .minus then 0x8000_0000_0000_0000 else 0x7fff_ffff_ffff_ffff
      return .loose (finite sign n 0) (n ≤ limit)

def isHexMark (cs : List Char) : Bool :=
  match cs with
  | '0' :: x :: d :: _ => (x == 'x' || x == 'X') && (hexValue? d).isSome
  | _ => false

-- Hexadecimal numbers have at most 32 bits and no sign.
def hexadecimal (sign : Sign) : Scan Document := do
  drop 2
  let digits ← takeWhile fun c => (hexValue? c).isSome
  let n := digits.foldl (fun n c => n * 16 + (hexValue? c).getD 0) 0
  return .loose (if sign == .none && n < 0x1_0000_0000 then some (Double.ofWhole n) else none) true

-- The words for what no digits write take a minus sign, not a plus sign.
def special (sign : Sign) (x : Float) : Document :=
  .loose (if sign == .plus then none else some (sign.apply x)) true

def number : Scan Document := do
  let sign ← if ← passes "-" then pure Sign.minus
    else if ← passes "+" then pure Sign.plus
    else pure Sign.none
  if ← passes "Infinity" then return special sign (1.0 / 0.0)
  else if ← passes "NaN" then return special sign (0.0 / 0.0)
  else if isHexMark (← get) then hexadecimal sign
  else decimal sign

def items (item : Scan Document) (read : List Document) : (fuel : Nat) → Scan (List Document)
  | 0 => failure
  | fuel + 1 => do
    let read := (← item) :: read
    skipAll
    if ← passes "," then
      skipAll
      if ← passes "]" then return read.reverse else items item read fuel
    else do
      expect ']'
      return read.reverse

def pairs (item : Scan Document) (read : List (String × Document)) : (fuel : Nat) →
    Scan (List (String × Document))
  | 0 => failure
  | fuel + 1 => do
    let name ← key
    skipAll
    expect ':'
    skipAll
    let d ← item
    let read := (name, d) :: read
    skipAll
    if ← passes "," then
      skipAll
      if ← passes "\x7d" then return read.reverse else pairs item read fuel
    else do
      expect '\x7d'
      return read.reverse

def value : (fuel : Nat) → Scan Document
  | 0 => failure
  | n + 1 => do
    match ← peek with
    | none => failure
    | some c =>
      if c == '"' || c == '\'' then return .string (← quotedText c)
      else if c == '[' then do
        drop 1
        skipAll
        if ← passes "]" then return .list false []
        else return .list false (← items (value n) [] (← fuel))
      else if c == '\x7b' then do
        drop 1
        skipAll
        if ← passes "\x7d" then return .table []
        else return .table (← pairs (value n) [] (← fuel))
      else if ← passes "null" then return .null
      else if ← passes "true" then return .bool true
      else if ← passes "false" then return .bool false
      else number

def document : Scan Document := do
  skipAll
  let d ← value (← fuel)
  skipAll
  return d

def read? (text : String) : Option Document :=
  Scan.whole document text

end BoundedScript.Json5
