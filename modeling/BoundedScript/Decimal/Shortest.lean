import BoundedScript.Decimal.Binary

set_option autoImplicit false

namespace BoundedScript

structure Decimal where
  coefficient : Nat
  exponent : Int
  deriving DecidableEq

namespace Decimal

-- Moves zeros at the end of the coefficient into the exponent; the last argument bounds how many.
def strip (d : Decimal) : Nat → Decimal
  | 0 => d
  | fuel + 1 =>
    if d.coefficient != 0 && d.coefficient % 10 == 0 then
      strip ⟨d.coefficient / 10, d.exponent + 1⟩ fuel
    else d

def digits (d : Decimal) : List Char :=
  Nat.toDigits 10 d.coefficient

def pointPosition (d : Decimal) : Int :=
  d.digits.length + d.exponent

def leadExponent (d : Decimal) : Int :=
  d.pointPosition - 1

-- The exponent of the first digit of `numerator / denominator`, found from an estimate by a step of at
-- most two in either direction.
def floorLog10 (numerator denominator : Nat) : Int :=
  let bits : Int := (Nat.log2 numerator : Int) - Nat.log2 denominator
  let estimate := (bits * 30103) / 100000
  let reaches (e : Int) : Bool :=
    denominator * Nat.pow 10 e.toNat ≤ numerator * Nat.pow 10 (-e).toNat
  if reaches (estimate + 2) then estimate + 2
  else if reaches (estimate + 1) then estimate + 1
  else if reaches estimate then estimate
  else if reaches (estimate - 1) then estimate - 1
  else estimate - 2

/-- The candidate nearest to `b` on the grid of multiples of `10 ^ e` that still reads back as `b`; of two
equally near ones the even one. The reals that read back reach half a step to either side, a quarter
below a power of two, ends included when the significand is even. -/
def onGrid (b : Binary) (e : Int) : Option Nat :=
  let scale := Nat.pow 10 (-e).toNat
  let unit := Nat.pow 10 e.toNat * b.denominator
  let value := 4 * b.numerator * scale
  let step := Nat.pow 2 b.exponent.toNat * scale
  let below := if b.isPowerStep then step else 2 * step
  let above := 2 * step
  let even := b.significand % 2 == 0
  let inside (n : Nat) : Bool :=
    let x := 4 * n * unit
    if even then value ≤ x + below && x ≤ value + above
    else value < x + below && x < value + above
  let low := value / (4 * unit)
  let high := low + 1
  let lowGap := value - 4 * low * unit
  let highGap := 4 * high * unit - value
  if low != 0 && inside low then
    if inside high && (highGap < lowGap || (highGap == lowGap && low % 2 == 1)) then some high
    else some low
  else if inside high then some high
  else none

def shortestFrom (b : Binary) (lead : Int) : (digitCount : Nat) → (fuel : Nat) → Decimal
  | digitCount, 0 =>
    let e := lead - digitCount
    ⟨b.numerator * Nat.pow 10 (-e).toNat / (Nat.pow 10 e.toNat * b.denominator), e⟩
  | digitCount, fuel + 1 =>
    match onGrid b (lead - digitCount) with
    | some n => ⟨n, lead - digitCount⟩
    | none => shortestFrom b lead (digitCount + 1) fuel

/-- The fewest digits that read back as `b`, and of those the nearest. A whole number below `2 ^ 53` is
further from every shorter decimal than from its neighbours. -/
def shortest (b : Binary) : Decimal :=
  if b.significand == 0 then ⟨0, 0⟩
  else
    match b.toNat? with
    | some n =>
      if n < 0x20_0000_0000_0000 then strip ⟨n, 0⟩ 16
      else strip (shortestFrom b (floorLog10 b.numerator b.denominator) 0 17) 20
    | none => strip (shortestFrom b (floorLog10 b.numerator b.denominator) 0 17) 20

end Decimal
end BoundedScript
