import BoundedScript.Script.Engine

set_option autoImplicit false

namespace BoundedScript.Script

open Run

def remainder (x y : Float) : Float :=
  if x.isNaN || y.isNaN || x.isInf || y == 0.0 then Number.nan
  else if y.isInf || x == 0.0 then x
  else
    let a := Binary.ofFloat x
    let b := Binary.ofFloat y
    let e := min a.exponent b.exponent
    let m := a.significand * Nat.pow 2 (a.exponent - e).toNat
    let n := b.significand * Nat.pow 2 (b.exponent - e).toNat
    let r := (Double.ofWhole (m % n : Nat)).scaleB e
    if Double.isNegative x then -r else r

def power (x y : Float) : Float :=
  if y.isNaN then Number.nan
  else if y == 0.0 then 1.0
  else if x.abs == 1.0 && y.isInf then Number.nan
  else Float.pow x y

def maxBits : Nat := 0x400_0000

def reserveBits (bits : Nat) : Run Unit := do
  if maxBits < bits then fail .internalError "out of memory"
  if 65536 ≤ bits then checkBytes (bits / 8)

def checkBits (n : Int) : Run Value := do
  reserveBits (Nat.log2 n.natAbs)
  return .bigint n

def shiftBig (n : Int) (by_ : Int) : Run Value := do
  if n == 0 then return .bigint 0
  else if 0 ≤ by_ then
    reserveBits (Nat.log2 n.natAbs + by_.toNat)
    return .bigint (n * Int.pow 2 by_.toNat)
  else if maxBits < by_.natAbs then return .bigint (if n < 0 then -1 else 0)
  else return .bigint (Int.fdiv n (Int.pow 2 by_.natAbs))

def bitwiseBig (op : Nat → Nat → Nat) (a b : Int) : Int :=
  let bits := max (Nat.log2 a.natAbs) (Nat.log2 b.natAbs) + 3
  Int.bmod (op (a % Int.pow 2 bits).toNat (b % Int.pow 2 bits).toNat : Nat) (Nat.pow 2 bits)

def bigintOp (op : BinaryOp) (a b : Int) : Run Value := do
  match op with
  | .sub => checkBits (a - b)
  | .mul => checkBits (a * b)
  | .div => if b == 0 then rangeError "invalid operation" else return .bigint (Int.tdiv a b)
  | .rem => if b == 0 then rangeError "invalid operation" else return .bigint (Int.tmod a b)
  | .pow =>
    if b < 0 then rangeError "invalid operation"
    else if a.natAbs ≤ 1 then
      return .bigint (if b == 0 then 1 else if a == -1 && b.toNat % 2 == 0 then 1 else a)
    else
      reserveBits (Nat.log2 a.natAbs * b.toNat)
      return .bigint (a.pow b.toNat)
  | .shiftLeft => shiftBig a b
  | .shiftRight => shiftBig a (-b)
  | .shiftRightUnsigned => typeError "BigInt operands are forbidden for >>>"
  | .bitAnd => return .bigint (bitwiseBig Nat.land a b)
  | .bitOr => return .bigint (bitwiseBig Nat.lor a b)
  | .bitXor => return .bigint (bitwiseBig Nat.xor a b)
  | _ => checkBits (a + b)

def numberOp (op : BinaryOp) (x y : Float) : Float :=
  match op with
  | .sub => x - y
  | .mul => x * y
  | .div => x / y
  | .rem => remainder x y
  | .pow => power x y
  | .shiftLeft =>
    Double.ofWhole (Int.bmod (Number.toInt32 x * Int.pow 2 (Number.toUint32 y % 32)) 0x1_0000_0000)
  | .shiftRight => Double.ofWhole (Int.fdiv (Number.toInt32 x) (Int.pow 2 (Number.toUint32 y % 32)))
  | .shiftRightUnsigned => Double.ofWhole (Number.toUint32 x / Nat.pow 2 (Number.toUint32 y % 32) : Nat)
  | .bitAnd => Double.ofWhole (Number.toInt32 (Double.ofWhole (Nat.land (Number.toUint32 x) (Number.toUint32 y))))
  | .bitOr => Double.ofWhole (Number.toInt32 (Double.ofWhole (Nat.lor (Number.toUint32 x) (Number.toUint32 y))))
  | .bitXor => Double.ofWhole (Number.toInt32 (Double.ofWhole (Nat.xor (Number.toUint32 x) (Number.toUint32 y))))
  | _ => x + y

section
variable (E : Engine)

def arithmetic (op : BinaryOp) (a b : Value) : Run Value := do
  match a, b with
  | .number x, .number y => return .number (numberOp op x y)
  | a, b =>
    match ← toNumeric E a, ← toNumeric E b with
    | .number x, .number y => return .number (numberOp op x y)
    | .bigint m, .bigint n => bigintOp op m n
    | _, _ => typeError "cannot convert to BigInt"

def concat (a b : Units) : Run Value := do
  return .string (← checkString (a ++ b))

def add (a b : Value) : Run Value := do
  match a, b with
  | .number x, .number y => return .number (x + y)
  | .string u, .string v => concat u v
  | a, b =>
    let p ← toPrimitive E .none a
    let q ← toPrimitive E .none b
    match p, q with
    | .string u, q => concat u (← primitiveToUnits q)
    | p, .string v => concat (← primitiveToUnits p) v
    | p, q => arithmetic E .add p q

def compareWhole (n : Int) (x : Float) : Option Ordering :=
  if x.isNaN then none
  else if x.isInf then some (if x < 0.0 then .gt else .lt)
  else
    let t := Double.truncateInt x
    if n < t then some .lt
    else if t < n then some .gt
    else
      let f := x - Double.ofWhole t
      some (if f == 0.0 then .eq else if f < 0.0 then .gt else .lt)

def compareFloat (x y : Float) : Option Ordering :=
  if x < y then some .lt else if y < x then some .gt else if x == y then some .eq else none

def comparePrimitive (a b : Value) : Run (Option Ordering) := do
  match a, b with
  | .string u, .string v => return some (if u.less v then .lt else if v.less u then .gt else .eq)
  | .bigint m, .string v =>
    return (Number.wholeOfUnits? v).map fun n => compare m n
  | .string u, .bigint n =>
    return (Number.wholeOfUnits? u).map fun m => compare m n
  | .bigint m, .bigint n => return some (compare m n)
  | .bigint m, q => return compareWhole m (← primitiveToNumber q)
  | p, .bigint n => return (compareWhole n (← primitiveToNumber p)).map Ordering.swap
  | p, q =>
    let x ← primitiveToNumber p
    let y ← primitiveToNumber q
    return compareFloat x y

def compareValues (a b : Value) : Run (Option Ordering) := do
  match a, b with
  | .number x, .number y => return compareFloat x y
  | a, b =>
    let p ← toPrimitive E .number a
    let q ← toPrimitive E .number b
    comparePrimitive p q

def looseEqualPrimitive (a b : Value) : Run Bool := do
  match a, b with
  | .undefined, .null | .null, .undefined => return true
  | .undefined, .undefined | .null, .null => return true
  | .undefined, _ | .null, _ | _, .undefined | _, .null => return false
  | .bool x, .bool y => return x == y
  | .symbol x, .symbol y => return x == y
  | .symbol _, _ | _, .symbol _ => return false
  | .string u, .string v => return u == v
  | .bigint m, .bigint n => return m == n
  | .bigint m, .string v => return Number.wholeOfUnits? v == some m
  | .string u, .bigint n => return Number.wholeOfUnits? u == some n
  | .bigint m, q => return compareWhole m (← primitiveToNumber q) == some .eq
  | p, .bigint n => return compareWhole n (← primitiveToNumber p) == some .eq
  | p, q =>
    let x ← primitiveToNumber p
    let y ← primitiveToNumber q
    return x == y

def looseEqual (a b : Value) : Run Bool := do
  match a, b with
  | .object x, .object y => return x == y
  | .object x, b =>
    if b.isNullish then return false
    looseEqualPrimitive (← toPrimitive E .none (.object x)) b
  | a, .object y =>
    if a.isNullish then return false
    looseEqualPrimitive a (← toPrimitive E .none (.object y))
  | a, b => looseEqualPrimitive a b

def inheritsFrom (target : Addr) : (fuel : Nat) → Addr → Run Bool
  | 0, _ => return false
  | fuel + 1, a => do
    match (← getObj a).parent with
    | none => return false
    | some b => if b == target then return true else inheritsFrom target fuel b

def ordinaryInstance (f v : Value) : Run Bool := do
  match f, v with
  | .object a, .object b =>
    match ← getOf E a prototypeKey with
    | .object p => inheritsFrom p maxParents b
    | _ => typeError "operand 'prototype' property is not an object"
  | _, _ => return false

def instanceTarget : (fuel : Nat) → Value → Run Value
  | 0, f => return f
  | fuel + 1, f => do
    match f with
    | .object a =>
      match ← kindOf a with
      | .bound t _ _ => instanceTarget fuel t
      | _ => return f
    | f => return f

def instanceOf (v f : Value) : Run Bool := do
  match f with
  | .object _ =>
    match ← getMethod E f WellKnown.hasInstance.key with
    | some m => return toBool (← E.call m f #[v])
    | none =>
      if !(← isCallable f) then typeError "invalid 'instanceof' right operand"
      ordinaryInstance E f v
  | _ => typeError "invalid 'instanceof' right operand"

def hasIn (k v : Value) : Run Bool := do
  match v with
  | .object a => hasProperty a (← toPropertyKey E k)
  | _ => typeError "invalid 'in' operand"

def binaryOp (op : BinaryOp) (a b : Value) : Run Value := do
  match op with
  | .add => add E a b
  | .less => return .bool ((← compareValues E a b) == some .lt)
  | .greater => return .bool ((← compareValues E a b) == some .gt)
  | .lessEqual =>
    match ← compareValues E a b with
    | some o => return .bool (o != .gt)
    | none => return .bool false
  | .greaterEqual =>
    match ← compareValues E a b with
    | some o => return .bool (o != .lt)
    | none => return .bool false
  | .equal => return .bool (← looseEqual E a b)
  | .unequal => return .bool (!(← looseEqual E a b))
  | .same => return .bool (strictEqual a b)
  | .different => return .bool (!strictEqual a b)
  | .inOp => return .bool (← hasIn E a b)
  | .instanceOf => return .bool (← instanceOf E a b)
  | op => arithmetic E op a b

end

end BoundedScript.Script
