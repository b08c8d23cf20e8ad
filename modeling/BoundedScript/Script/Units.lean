set_option autoImplicit false

namespace BoundedScript.Script

/-- A script's string: UTF-16 code units, surrogates paired or not. -/
abbrev Units := Array UInt16

namespace Units

def ofChar (c : Char) : List UInt16 :=
  let n := c.toNat
  if n < 0x10000 then [n.toUInt16]
  else [(0xd800 + (n - 0x10000) / 0x400).toUInt16, (0xdc00 + (n - 0x10000) % 0x400).toUInt16]

def pushChar (u : Units) (c : Char) : Units :=
  let n := c.toNat
  if n < 0x10000 then u.push n.toUInt16
  else (u.push (0xd800 + (n - 0x10000) / 0x400).toUInt16).push (0xdc00 + (n - 0x10000) % 0x400).toUInt16

def ofChars (cs : List Char) : Units :=
  cs.foldl pushChar #[]

@[irreducible] def ofString (s : String) : Units :=
  ofChars s.toList

-- The units of a code point; a surrogate stands for itself.
def ofCode (n : Nat) : Units :=
  if n < 0x10000 then #[n.toUInt16]
  else #[(0xd800 + (n - 0x10000) / 0x400).toUInt16, (0xdc00 + (n - 0x10000) % 0x400).toUInt16]

def isHigh (u : UInt16) : Bool :=
  0xd800 ≤ u && u ≤ 0xdbff

def isLow (u : UInt16) : Bool :=
  0xdc00 ≤ u && u ≤ 0xdfff

def pair (high low : UInt16) : Nat :=
  0x10000 + (high.toNat - 0xd800) * 0x400 + (low.toNat - 0xdc00)

def codeAt (u : Units) (i : Nat) : Option (Nat × Nat) :=
  match u[i]? with
  | none => none
  | some a =>
    if isHigh a then
      match u[i + 1]? with
      | some b => if isLow b then some (pair a b, 2) else some (a.toNat, 1)
      | none => some (a.toNat, 1)
    else some (a.toNat, 1)

def codesFrom (u : Units) (i : Nat) (acc : Array Nat) : (fuel : Nat) → Array Nat
  | 0 => acc
  | fuel + 1 =>
    match u.codeAt i with
    | none => acc
    | some (c, n) => codesFrom u (i + n) (acc.push c) fuel

def codes (u : Units) : Array Nat :=
  codesFrom u 0 #[] u.size

def isLone (n : Nat) : Bool :=
  0xd800 ≤ n && n ≤ 0xdfff

def codeBytes (n : Nat) : Nat :=
  if n < 0x80 then 1 else if n < 0x800 then 2 else if n < 0x10000 then 3 else 4

/-- The text, or the place of the first surrogate without a partner, counted in bytes before it. -/
def toText (u : Units) : Except Nat String :=
  let rec go (at_ : Nat) (acc : String) : List Nat → Except Nat String
    | [] => .ok acc
    | n :: rest =>
      if isLone n then .error at_ else go (at_ + codeBytes n) (acc.push (Char.ofNat n)) rest
  go 0 "" u.codes.toList

def toTextLossy (u : Units) : String :=
  u.codes.foldl (fun s n => s.push (if isLone n then '\ufffd' else Char.ofNat n)) ""

def ofCodes (cs : List Nat) : Units :=
  cs.foldl (fun u n => u ++ ofCode n) #[]

def less (a b : Units) : Bool :=
  let rec go : List UInt16 → List UInt16 → Bool
    | _, [] => false
    | [], _ :: _ => true
    | x :: xs, y :: ys => if x == y then go xs ys else x < y
  go a.toList b.toList

def matchesAt (u part : Units) (i : Nat) : Bool :=
  i + part.size ≤ u.size && (u.extract i (i + part.size)) == part

def indexFrom (u part : Units) (i : Nat) : (fuel : Nat) → Option Nat
  | 0 => none
  | fuel + 1 =>
    if u.size < i + part.size then none
    else if u.matchesAt part i then some i
    else indexFrom u part (i + 1) fuel

def indexOf? (u part : Units) (i : Nat) : Option Nat :=
  indexFrom u part i (u.size + 1 - i)

def lastIndexFrom (u part : Units) : Nat → Option Nat
  | 0 => if u.matchesAt part 0 then some 0 else none
  | i + 1 => if u.matchesAt part (i + 1) then some (i + 1) else lastIndexFrom u part i

def lastIndexOf? (u part : Units) (i : Nat) : Option Nat :=
  if u.size < part.size then none else lastIndexFrom u part (min i (u.size - part.size))

def isSpace (u : UInt16) : Bool :=
  (9 ≤ u && u ≤ 13) || u == 0x20 || u == 0xa0 || u == 0x1680 || (0x2000 ≤ u && u ≤ 0x200a) ||
    u == 0x2028 || u == 0x2029 || u == 0x202f || u == 0x205f || u == 0x3000 || u == 0xfeff

def trimStart (u : Units) : Units :=
  u.extract ((u.findIdx? (fun c => !isSpace c)).getD u.size) u.size

def trimEnd (u : Units) : Units :=
  u.popWhile isSpace

def trim (u : Units) : Units :=
  u.trimEnd.trimStart

def isDigit (u : UInt16) : Bool :=
  0x30 ≤ u && u ≤ 0x39

-- Whether every unit is below 256; such strings take one byte a unit.
def isNarrow (u : Units) : Bool :=
  u.all (· < 0x100)

def repeated (u : Units) (n : Nat) : Units :=
  n.fold (fun _ _ acc => acc ++ u) #[]

end Units
end BoundedScript.Script
