import BoundedScript.Decimal.Layout
import BoundedScript.Script.Units

set_option autoImplicit false

namespace BoundedScript.Script.Number

def nan : Float := 0.0 / 0.0
def infinity : Float := 1.0 / 0.0
def maxSafe : Nat := 0x1f_ffff_ffff_ffff

def text (x : Float) : String :=
  if x.isNaN then "NaN"
  else if x == infinity then "Infinity"
  else if x == -infinity then "-Infinity"
  else if x == 0.0 then "0"
  else Double.render .script x

def toUnits (x : Float) : Units :=
  Units.ofString (text x)

def truncate (x : Float) : Float :=
  if x.isNaN then 0.0 else if x < 0.0 then x.ceil + 0.0 else x.floor

def toWord (bits : Nat) (x : Float) : Nat :=
  (Int.emod (Double.truncateInt x) (Int.pow 2 bits)).toNat

def toUint32 (x : Float) : Nat :=
  toWord 32 x

def toInt32 (x : Float) : Int :=
  Int.bmod (Double.truncateInt x) 0x1_0000_0000

def toNat? (x : Float) : Option Nat :=
  if 0.0 ≤ x && x < 9007199254740992.0 then
    let n := x.toUInt64
    if n.toFloat == x then some n.toNat else none
  else none

def clampNat (x : Float) (limit : Nat) : Nat :=
  let t := truncate x
  if t ≤ 0.0 then 0
  else if (Double.ofWhole limit) ≤ t then limit
  else t.toUInt64.toNat

def relative (x : Float) (length : Nat) : Nat :=
  let t := truncate x
  if t < 0.0 then
    let back := clampNat (-t) length
    length - back
  else clampNat t length

def digitChar (n : Nat) : Char :=
  if n < 10 then Char.ofNat (0x30 + n) else Char.ofNat (0x57 + n)

def digitOf (c : UInt16) : Nat :=
  let n := c.toNat
  if 0x30 ≤ n && n ≤ 0x39 then n - 0x30
  else if 0x61 ≤ n && n ≤ 0x7a then n - 0x57
  else if 0x41 ≤ n && n ≤ 0x5a then n - 0x37
  else 99

-- Digits of a whole number that a double past the exact range holds: those beyond it are zeros.
def wideDigits (base : Nat) (x : Float) (acc : List Char) : (fuel : Nat) → List Char
  | 0 => acc
  | fuel + 1 =>
    if x < Double.ofWhole base then digitChar x.toUInt64.toNat :: acc
    else
      let q := (x / Double.ofWhole base).floor
      let d := if Double.ofWhole maxSafe ≤ q then 0 else (Double.truncateInt x).toNat % base
      wideDigits base q (digitChar d :: acc) fuel

/-- Digits after the point, the last first, until the number is spent or its precision is: `seen` is what
the digits so far make, `left` the bits that are left to tell. -/
def fractionDigits (radix : Nat) (fraction : Float) (seen : Nat) (left : Float) (acc : List Nat) :
    (fuel : Nat) → Float × List Nat
  | 0 => (fraction, acc)
  | fuel + 1 =>
    if fraction == 0.0 || maxSafe / 2 < seen || left ≤ 0.0 then (fraction, acc)
    else
      let scaled := fraction * Double.ofWhole radix
      let d := scaled.floor
      let n := d.toUInt64.toNat
      fractionDigits radix (scaled - d) (seen * radix + n) (left - (Double.ofWhole radix).log2) (n :: acc) fuel

def bump (radix : Nat) : List Nat → Option (List Nat)
  | [] => none
  | d :: rest => if d + 1 == radix then bump radix rest else some ((d + 1) :: rest)

def wholeText (radix : Nat) (n : Int) : String :=
  let rec go (n : Nat) (acc : List Char) : (fuel : Nat) → List Char
    | 0 => acc
    | fuel + 1 => if n < radix then digitChar n :: acc else go (n / radix) (digitChar (n % radix) :: acc) fuel
  let digits := String.ofList (go n.natAbs [] (Nat.log2 n.natAbs + 2))
  if n < 0 then "-" ++ digits else digits

/-- A finite number in another base: the digit after the last is rounded away, up from half the base, which
an odd base has rounded down. -/
def radixText (radix : Nat) (x : Float) : String :=
  let a := x.abs
  let whole := a.floor
  let sign := if x < 0.0 then "-" else ""
  if maxSafe < (Double.truncateInt whole).toNat then
    sign ++ String.ofList (wideDigits radix whole [] 1100)
  else
    let n := whole.toUInt64.toNat
    let (rest, digits) := fractionDigits radix (a - whole) n 1074.0 [] 1100
    let (n, digits) :=
      if Double.ofWhole (radix / 2) ≤ rest * Double.ofWhole radix then
        match bump radix digits with
        | some ds => (n, ds)
        | none => (n + 1, [])
      else (n, digits.dropWhile (· == 0))
    let head := sign ++ wholeText radix n
    if digits.isEmpty then head else head ++ "." ++ String.ofList (digits.reverse.map digitChar)

def roundDiv (numerator denominator : Nat) : Nat :=
  (2 * numerator + denominator) / (2 * denominator)

def scaledRound (b : Binary) (places : Int) : Nat :=
  roundDiv (b.numerator * Nat.pow 10 places.toNat) (b.denominator * Nat.pow 10 (-places).toNat)

def padLeft (c : Char) (width : Nat) (cs : List Char) : List Char :=
  List.replicate (width - cs.length) c ++ cs

def fixedText (x : Float) (places : Nat) : String :=
  let n := scaledRound (Binary.ofFloat x) places
  let digits := padLeft '0' (places + 1) (Nat.toDigits 10 n)
  let whole := digits.take (digits.length - places)
  let part := digits.drop (digits.length - places)
  let sign := if x < 0.0 then "-" else ""
  sign ++ String.ofList (if places == 0 then whole else whole ++ '.' :: part)

def roundedDigits (x : Float) (count : Nat) : List Char × Int :=
  let b := Binary.ofFloat x
  if b.significand == 0 then (List.replicate count '0', 0)
  else
    let lead := Decimal.floorLog10 b.numerator b.denominator
    let n := scaledRound b (count - 1 - lead)
    if n == Nat.pow 10 count then ('1' :: List.replicate (count - 1) '0', lead + 1)
    else (Nat.toDigits 10 n, lead)

def mantissa : List Char → List Char
  | [] => []
  | [c] => [c]
  | c :: rest => c :: '.' :: rest

def exponentialText (x : Float) (places : Option Nat) : String :=
  let (digits, lead) := match places with
    | some p => roundedDigits x.abs (p + 1)
    | none =>
      let d := Decimal.shortest (Binary.ofFloat x)
      if d.coefficient == 0 then (['0'], 0) else (d.digits, d.leadExponent)
  let sign := if x < 0.0 then "-" else ""
  sign ++ String.ofList (mantissa digits ++ Decimal.exponentText lead)

def precisionText (x : Float) (count : Nat) : String :=
  let (digits, lead) := roundedDigits x.abs count
  let sign := if x < 0.0 then "-" else ""
  if lead < -6 || (count : Int) ≤ lead then
    sign ++ String.ofList (mantissa digits ++ Decimal.exponentText lead)
  else if lead < 0 then
    sign ++ "0." ++ String.ofList (List.replicate (-lead - 1).toNat '0' ++ digits)
  else
    let whole := digits.take (lead + 1).toNat
    let part := digits.drop (lead + 1).toNat
    sign ++ String.ofList (if part.isEmpty then whole else whole ++ '.' :: part)

def takeDigits (radix n count : Nat) : List UInt16 → Nat × Nat × List UInt16
  | [] => (n, count, [])
  | c :: rest =>
    if digitOf c < radix then takeDigits radix (n * radix + digitOf c) (count + 1) rest
    else (n, count, c :: rest)

def infinityUnits : List UInt16 :=
  "Infinity".toList.map fun c => c.toNat.toUInt16

def isExponentMark (c : UInt16) : Bool :=
  c == 0x65 || c == 0x45

def unsignedPrefix (cs : List UInt16) : Option (Float × List UInt16) :=
  if infinityUnits.isPrefixOf cs then some (infinity, cs.drop infinityUnits.length)
  else
    let (n, count, rest) := takeDigits 10 0 0 cs
    let (n, total, places, rest) := match rest with
      | 0x2e :: after =>
        let (m, more, rest') := takeDigits 10 n 0 after
        if count + more == 0 then (n, count, 0, rest) else (m, count + more, more, rest')
      | _ => (n, count, 0, rest)
    if total == 0 then none
    else
      match rest with
      | c :: after =>
        if isExponentMark c then
          let (negative, digits) := match after with
            | 0x2d :: d => (true, d)
            | 0x2b :: d => (false, d)
            | d => (false, d)
          let (e, count, rest') := takeDigits 10 0 0 digits
          if count == 0 then some (Double.ofDecimal n (-(places : Int)), rest)
          else
            let e : Int := if negative then -(e : Int) else e
            some (Double.ofDecimal n (e - places), rest')
        else some (Double.ofDecimal n (-(places : Int)), rest)
      | [] => some (Double.ofDecimal n (-(places : Int)), [])

def decimalPrefix (cs : List UInt16) : Option (Float × List UInt16) :=
  match cs with
  | 0x2d :: rest => (unsignedPrefix rest).map fun (x, r) => (-x, r)
  | 0x2b :: rest => unsignedPrefix rest
  | cs => unsignedPrefix cs

def radixMark : List UInt16 → Option (Nat × List UInt16)
  | 0x30 :: c :: rest =>
    if c == 0x78 || c == 0x58 then some (16, rest)
    else if c == 0x6f || c == 0x4f then some (8, rest)
    else if c == 0x62 || c == 0x42 then some (2, rest)
    else none
  | _ => none

-- The number that a whole string writes; an empty one writes zero.
def ofUnits (u : Units) : Float :=
  let cs := u.trim.toList
  if cs.isEmpty then 0.0
  else match radixMark cs with
    | some (radix, rest) =>
      match takeDigits radix 0 0 rest with
      | (n, count, []) => if count == 0 then nan else Double.ofWhole n
      | _ => nan
    | none =>
      match decimalPrefix cs with
      | some (x, []) => x
      | _ => nan

def wholeOfUnits? (u : Units) : Option Int :=
  let cs := u.trim.toList
  if cs.isEmpty then some 0
  else match radixMark cs with
    | some (radix, rest) =>
      match takeDigits radix 0 0 rest with
      | (n, count, []) => if count == 0 then none else some n
      | _ => none
    | none =>
      let (negative, digits) := match cs with
        | 0x2d :: r => (true, r)
        | 0x2b :: r => (false, r)
        | r => (false, r)
      match takeDigits 10 0 0 digits with
      | (n, count, []) => if count == 0 then none else some (if negative then -(n : Int) else n)
      | _ => none

def parseFloat (u : Units) : Float :=
  match decimalPrefix u.trimStart.toList with
  | some (x, _) => x
  | none => nan

-- The whole number at the front of a string in a base; zero lets the text choose.
def parseInt (u : Units) (radix : Int) : Float :=
  let cs := u.trimStart.toList
  let (negative, cs) := match cs with
    | 0x2d :: r => (true, r)
    | 0x2b :: r => (false, r)
    | r => (false, r)
  if radix != 0 && (radix < 2 || 36 < radix) then nan
  else
    let (radix, cs) :=
      if radix == 0 || radix == 16 then
        match cs with
        | 0x30 :: c :: rest =>
          if c == 0x78 || c == 0x58 then (16, rest) else (if radix == 0 then 10 else radix.toNat, cs)
        | _ => (if radix == 0 then 10 else radix.toNat, cs)
      else (radix.toNat, cs)
    let (n, count, _) := takeDigits radix 0 0 cs
    if count == 0 then nan
    else if negative then -(Double.ofWhole n) else Double.ofWhole n

end BoundedScript.Script.Number
