set_option autoImplicit false

namespace BoundedScript

structure Binary where
  significand : Nat
  exponent : Int
  deriving DecidableEq

namespace Binary

def ofBits (bits : UInt64) : Binary :=
  let biased : Nat := (bits.toNat / 0x10_0000_0000_0000) % 2048
  let fraction : Nat := bits.toNat % 0x10_0000_0000_0000
  if biased == 0 then ⟨fraction, -1074⟩ else ⟨0x10_0000_0000_0000 + fraction, (biased : Int) - 1075⟩

def ofFloat (x : Float) : Binary :=
  ofBits x.toBits

-- Whether the next smaller double is half as far away as the next greater one.
def isPowerStep (b : Binary) : Bool :=
  b.significand == 0x10_0000_0000_0000 && b.exponent != -1074

def numerator (b : Binary) : Nat :=
  b.significand * Nat.pow 2 b.exponent.toNat

def denominator (b : Binary) : Nat :=
  Nat.pow 2 (-b.exponent).toNat

def toNat? (b : Binary) : Option Nat :=
  if b.numerator % b.denominator == 0 then some (b.numerator / b.denominator) else none

def truncate (b : Binary) : Nat :=
  b.numerator / b.denominator

end Binary

def Double.isNegative (x : Float) : Bool :=
  x.toBits.toNat / 0x8000_0000_0000_0000 == 1

def Double.toInt? (x : Float) : Option Int :=
  if x.isFinite then
    (Binary.ofFloat x).toNat?.map fun n => if Double.isNegative x then -(n : Int) else (n : Int)
  else none

def Double.truncateInt (x : Float) : Int :=
  if x.isFinite then
    let n := (Binary.ofFloat x).truncate
    if Double.isNegative x then -(n : Int) else (n : Int)
  else 0

def Double.ofWhole (n : Int) : Float :=
  if n < 0 then -(Float.ofScientific n.natAbs false 0) else Float.ofScientific n.toNat false 0

/-- The double nearest to `n * 10 ^ exponent`, ties to even; powers out of every double's reach are not
worked out. -/
def Double.ofDecimal (n : Nat) (exponent : Int) : Float :=
  if n == 0 then 0.0
  else if 400 < exponent then 1.0 / 0.0
  else if exponent + (n.log2 / 3 + 1 : Nat) < -400 then 0.0
  else Float.ofScientific n (exponent < 0) exponent.natAbs

end BoundedScript
