import BoundedScript.Decimal.Layout
import BoundedScript.Text.Quoted
import BoundedScript.Text.Utf8

set_option autoImplicit false

namespace BoundedScript.Json

inductive Found where
  | null
  | bool (b : Bool)
  | int (n : Int)
  | float (x : Float)
  | string (s : String)
  | sequence
  | map

inductive ReadError where
  | endOfValue
  | endOfList
  | endOfObject
  | endOfString
  | expectedColon
  | expectedListEnd
  | expectedObjectEnd
  | expectedWord
  | expectedValue
  | keyNotString
  | trailingComma
  | trailingCharacters
  | invalidNumber
  | numberOutOfRange
  | invalidEscape
  | invalidCodePoint
  | loneSurrogate
  | hexEscapeEnd
  | controlCharacter
  | recursionLimit
  | invalidType (found : Found) (expected : String)
  | invalidValue (found : Found) (expected : String)
  | invalidLength (length : Nat) (expected : String)
  | unknownVariant (name : String) (variants : List String)
  | missingField (name : String)
  | duplicateField (name : String)

def Found.text : Found → String
  | .null => "null"
  | .bool true => "boolean `true`"
  | .bool false => "boolean `false`"
  | .int n => "integer `" ++ toString n ++ "`"
  | .float x => "floating point `" ++ Double.render .positionalPoint x ++ "`"
  | .string s => "string " ++ Text.quoted s
  | .sequence => "sequence"
  | .map => "map"

def ticked (name : String) : String :=
  "`" ++ name ++ "`"

def alternatives : List String → String
  | [] => "there are no variants"
  | [a] => "expected " ++ ticked a
  | [a, b] => "expected " ++ ticked a ++ " or " ++ ticked b
  | names => "expected one of " ++ ", ".intercalate (names.map ticked)

def ReadError.message : ReadError → String
  | .endOfValue => "EOF while parsing a value"
  | .endOfList => "EOF while parsing a list"
  | .endOfObject => "EOF while parsing an object"
  | .endOfString => "EOF while parsing a string"
  | .expectedColon => "expected `:`"
  | .expectedListEnd => "expected `,` or `]`"
  | .expectedObjectEnd => "expected `,` or `\x7d`"
  | .expectedWord => "expected ident"
  | .expectedValue => "expected value"
  | .keyNotString => "key must be a string"
  | .trailingComma => "trailing comma"
  | .trailingCharacters => "trailing characters"
  | .invalidNumber => "invalid number"
  | .numberOutOfRange => "number out of range"
  | .invalidEscape => "invalid escape"
  | .invalidCodePoint => "invalid unicode code point"
  | .loneSurrogate => "lone leading surrogate in hex escape"
  | .hexEscapeEnd => "unexpected end of hex escape"
  | .controlCharacter => "control character (\\u0000-\\u001F) found while parsing a string"
  | .recursionLimit => "recursion limit exceeded"
  | .invalidType found expected => "invalid type: " ++ found.text ++ ", expected " ++ expected
  | .invalidValue found expected => "invalid value: " ++ found.text ++ ", expected " ++ expected
  | .invalidLength n expected => "invalid length " ++ toString n ++ ", expected " ++ expected
  | .unknownVariant name variants => "unknown variant " ++ ticked name ++ ", " ++ alternatives variants
  | .missingField name => "missing field " ++ ticked name
  | .duplicateField name => "duplicate field " ++ ticked name

abbrev Reading := StateT Text.Bytes (Except ReadError)

namespace Reading

variable {α : Type}

def isBlank (b : UInt8) : Bool :=
  b == 0x20 || b == 0x0a || b == 0x0d || b == 0x09

def peek : Reading (Option UInt8) := do
  let rest := (← get).dropWhile isBlank
  set rest
  return rest.head?

def drop : Reading Unit :=
  modify List.tail

def next (atEnd : ReadError) : Reading UInt8 := do
  match ← get with
  | [] => throw atEnd
  | b :: rest => set rest; return b

def word : List UInt8 → Reading Unit
  | [] => return ()
  | w :: ws => do
    if (← next .endOfValue) == w then word ws else throw .expectedWord

def rue : List UInt8 := [0x72, 0x75, 0x65]
def alse : List UInt8 := [0x61, 0x6c, 0x73, 0x65]
def ull : List UInt8 := [0x75, 0x6c, 0x6c]

inductive Number where
  | int (n : Int)
  | float (x : Float)

def isDigit (b : UInt8) : Bool :=
  0x30 ≤ b && b ≤ 0x39

def digitOf (b : UInt8) : Nat :=
  b.toNat - 0x30

def ten (n : Nat) : Float :=
  Double.ofWhole (Nat.pow 10 n)

/-- Scales a significand by a power of ten in double arithmetic: one rounding to a double, one for the
product or quotient, and below `10 ^ -308` one more for each further `10 ^ 308`. -/
def scaled (x : Float) (exponent : Int) : (fuel : Nat) → Except ReadError Float
  | 0 => .ok x
  | fuel + 1 =>
    if exponent.natAbs ≤ 308 then
      if 0 ≤ exponent then
        let y := x * ten exponent.natAbs
        if y.isInf then .error .numberOutOfRange else .ok y
      else .ok (x / ten exponent.natAbs)
    else if x == 0.0 then .ok x
    else if 0 ≤ exponent then .error .numberOutOfRange
    else scaled (x / ten 308) (exponent + 308) fuel

def signed (negative : Bool) (x : Float) : Float :=
  if negative then -x else x

def maxExponent : Nat := 0x7fff_ffff

def clampExponent (e : Int) : Int :=
  max (-(0x8000_0000 : Int)) (min 0x7fff_ffff e)

def floatOf (negative : Bool) (significand : Nat) (exponent : Int) : Reading Number :=
  match scaled (Double.ofWhole significand) exponent 8 with
  | .ok x => return .float (signed negative x)
  | .error e => throw e

-- The digits of an exponent; none when they leave 32 bits.
def exponentDigits (e : Nat) : Text.Bytes → Option Nat × Text.Bytes
  | [] => (some e, [])
  | b :: rest =>
    if isDigit b then
      if e * 10 + digitOf b ≤ maxExponent then exponentDigits (e * 10 + digitOf b) rest
      else (none, rest.dropWhile isDigit)
    else (some e, b :: rest)

def exponentValue (negative down : Bool) (significand : Nat) (exponent : Int) : Reading Number := do
  let b ← next .endOfValue
  if !isDigit b then throw .invalidNumber
  let (e, rest) := exponentDigits (digitOf b) (← get)
  set rest
  match e with
  | some e => floatOf negative significand (clampExponent (if down then exponent - e else exponent + e))
  | none =>
    if significand != 0 && !down then throw .numberOutOfRange
    else return .float (signed negative 0.0)

def exponentPart (negative : Bool) (significand : Nat) (exponent : Int) : Reading Number := do
  let down := (← get).head? == some 0x2d
  if down || (← get).head? == some 0x2b then drop
  exponentValue negative down significand exponent

def isExponentMark (b : UInt8) : Bool :=
  b == 0x65 || b == 0x45

def afterDigits (negative : Bool) (significand : Nat) (exponent : Int) : Reading Number := do
  match (← get).head? with
  | some b =>
    if isExponentMark b then do drop; exponentPart negative significand exponent
    else floatOf negative significand exponent
  | none => floatOf negative significand exponent

-- The digits after a point: they join the significand until it would leave 64 bits.
def fractionDigits (significand places : Nat) : Text.Bytes → Nat × Nat × Text.Bytes
  | [] => (significand, places, [])
  | b :: rest =>
    if isDigit b then
      if significand * 10 + digitOf b < 0x1_0000_0000_0000_0000 then
        fractionDigits (significand * 10 + digitOf b) (places + 1) rest
      else (significand, places, rest.dropWhile isDigit)
    else (significand, places, b :: rest)

def fractionValue (negative : Bool) (significand : Nat) (exponent : Int) : Reading Number := do
  let (s, places, rest) := fractionDigits significand 0 (← get)
  set rest
  afterDigits negative s (exponent - places)

def fractionPart (negative : Bool) (significand : Nat) (exponent : Int) : Reading Number := do
  match ← get with
  | [] => throw .endOfValue
  | b :: _ => if isDigit b then fractionValue negative significand exponent else throw .invalidNumber

-- The digits of a whole part past 64 bits are counted, not kept.
def longWhole (negative : Bool) (significand : Nat) : Reading Number := do
  let bytes ← get
  let digits := bytes.takeWhile isDigit
  set (bytes.drop digits.length)
  if (← get).head? == some 0x2e then do drop; fractionPart negative significand digits.length
  else afterDigits negative significand digits.length

def wholeDigits (n : Nat) : Text.Bytes → Nat × Text.Bytes
  | [] => (n, [])
  | b :: rest =>
    if isDigit b && n * 10 + digitOf b < 0x1_0000_0000_0000_0000 then wholeDigits (n * 10 + digitOf b) rest
    else (n, b :: rest)

def wholeNumber (negative : Bool) (n : Nat) : Number :=
  if !negative then .int n
  else if n == 0 || 0x8000_0000_0000_0000 < n then .float (-(Double.ofWhole n))
  else .int (-(n : Int))

def afterWhole (negative : Bool) (n : Nat) : Reading Number := do
  match (← get).head? with
  | some b =>
    if b == 0x2e then do drop; fractionPart negative n 0
    else if isExponentMark b then do drop; exponentPart negative n 0
    else if isDigit b then longWhole negative n
    else return wholeNumber negative n
  | none => return wholeNumber negative n

def number (negative : Bool) : Reading Number := do
  let b ← next .endOfValue
  if b == 0x30 then
    match (← get).head? with
    | some c => if isDigit c then throw .invalidNumber else afterWhole negative 0
    | none => afterWhole negative 0
  else if isDigit b then do
    let (n, rest) := wholeDigits (digitOf b) (← get)
    set rest
    afterWhole negative n
  else throw .invalidNumber

def signedNumber : Reading Number := do
  if (← get).head? == some 0x2d then do drop; number true else number false

def hexValue (b : UInt8) : Option Nat :=
  if isDigit b then some (digitOf b)
  else if 0x61 ≤ b && b ≤ 0x66 then some (b.toNat - 0x57)
  else if 0x41 ≤ b && b ≤ 0x46 then some (b.toNat - 0x37)
  else none

def hexEscape : Text.Bytes → Except ReadError (Nat × Text.Bytes)
  | a :: b :: c :: d :: rest =>
    match hexValue a, hexValue b, hexValue c, hexValue d with
    | some a, some b, some c, some d => .ok (((a * 16 + b) * 16 + c) * 16 + d, rest)
    | _, _, _, _ => .error .invalidEscape
  | _ => .error .endOfString

def unicodeEscape (bytes : Text.Bytes) : Except ReadError (Char × Text.Bytes) := do
  let (n, rest) ← hexEscape bytes
  if 0xdc00 ≤ n && n ≤ 0xdfff then .error .loneSurrogate
  else if n < 0xd800 || 0xdbff < n then .ok (Char.ofNat n, rest)
  else match rest with
    | [] => .error .endOfString
    | 0x5c :: [] => .error .endOfString
    | 0x5c :: 0x75 :: rest =>
      let (m, rest) ← hexEscape rest
      if m < 0xdc00 || 0xdfff < m then .error .loneSurrogate
      else .ok (Char.ofNat (0x10000 + (n - 0xd800) * 0x400 + (m - 0xdc00)), rest)
    | _ => .error .hexEscapeEnd

def simpleEscape (b : UInt8) : Option UInt8 :=
  if b == 0x22 || b == 0x5c || b == 0x2f then some b
  else if b == 0x62 then some 0x08
  else if b == 0x66 then some 0x0c
  else if b == 0x6e then some 0x0a
  else if b == 0x72 then some 0x0d
  else if b == 0x74 then some 0x09
  else none

def pushChar (acc : ByteArray) (c : Char) : ByteArray :=
  acc ++ (String.singleton c).toUTF8

def stringBytes (acc : ByteArray) : (fuel : Nat) → Text.Bytes → Except ReadError (ByteArray × Text.Bytes)
  | 0, _ => .error .endOfString
  | _ + 1, [] => .error .endOfString
  | fuel + 1, b :: rest =>
    if b == 0x22 then .ok (acc, rest)
    else if b == 0x5c then
      match rest with
      | [] => .error .endOfString
      | e :: rest =>
        if e == 0x75 then
          match unicodeEscape rest with
          | .ok (c, rest) => stringBytes (pushChar acc c) fuel rest
          | .error e => .error e
        else match simpleEscape e with
          | some c => stringBytes (acc.push c) fuel rest
          | none => .error .invalidEscape
    else if b < 0x20 then .error .controlCharacter
    else stringBytes (acc.push b) fuel rest

def stringBody : Reading String := do
  let bytes ← get
  match stringBytes .empty (bytes.length + 1) bytes with
  | .error e => throw e
  | .ok (acc, rest) =>
    set rest
    match String.fromUTF8? acc with
    | some s => return s
    | none => throw .invalidCodePoint

def hasItem (first : Bool) : Reading Bool := do
  match ← peek with
  | none => throw .endOfList
  | some b =>
    if b == 0x5d then return false
    else if first then return true
    else if b == 0x2c then do
      drop
      match ← peek with
      | none => throw .endOfValue
      | some c => if c == 0x5d then throw .trailingComma else return true
    else throw .expectedListEnd

def hasKey (first : Bool) : Reading Bool := do
  match ← peek with
  | none => throw .endOfObject
  | some b =>
    if b == 0x7d then return false
    else if first then
      if b == 0x22 then return true else throw .keyNotString
    else if b == 0x2c then do
      drop
      match ← peek with
      | none => throw .endOfValue
      | some c =>
        if c == 0x22 then return true
        else if c == 0x7d then throw .trailingComma
        else throw .keyNotString
    else throw .expectedObjectEnd

def colon : Reading Unit := do
  match ← peek with
  | none => throw .endOfObject
  | some b => if b == 0x3a then drop else throw .expectedColon

def itemsFrom (item : Reading α) (first : Bool) (acc : List α) : (fuel : Nat) → Reading (List α)
  | 0 => throw .endOfList
  | fuel + 1 => do
    if ← hasItem first then itemsFrom item false ((← item) :: acc) fuel
    else return acc.reverse

def fieldsFrom (item : Reading α) (first : Bool) (acc : List (String × α)) :
    (fuel : Nat) → Reading (List (String × α))
  | 0 => throw .endOfObject
  | fuel + 1 => do
    if ← hasKey first then do
      drop
      let key ← stringBody
      colon
      fieldsFrom item false ((key, ← item) :: acc) fuel
    else return acc.reverse

def fuel : Reading Nat := do
  return (← get).length + 1

def listEnd : Reading Unit := do
  match ← peek with
  | none => throw .endOfList
  | some b =>
    if b == 0x5d then drop
    else if b == 0x2c then do
      drop
      match ← peek with
      | some 0x5d => throw .trailingComma
      | _ => throw .trailingCharacters
    else throw .trailingCharacters

def finish : Reading Unit := do
  match ← peek with
  | none => return ()
  | some _ => throw .trailingCharacters

def run (r : Reading α) (bytes : Text.Bytes) : Except ReadError α :=
  match (do let a ← r; finish; return a : Reading α) bytes with
  | .ok (a, _) => .ok a
  | .error e => .error e

end Reading
end BoundedScript.Json
