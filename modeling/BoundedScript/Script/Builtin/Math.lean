import BoundedScript.Script.Builtin.Global

set_option autoImplicit false

namespace BoundedScript.Script.MathFn

open Run

def table : FunctionTable MathFn :=
  [("min", .min, 2), ("max", .max, 2), ("abs", .abs, 1), ("floor", .floor, 1), ("ceil", .ceil, 1),
   ("round", .round, 1), ("sqrt", .sqrt, 1), ("acos", .acos, 1), ("asin", .asin, 1), ("atan", .atan, 1),
   ("atan2", .atan2, 2), ("cos", .cos, 1), ("exp", .exp, 1), ("log", .log, 1), ("pow", .pow, 2),
   ("sin", .sin, 1), ("tan", .tan, 1), ("trunc", .trunc, 1), ("sign", .sign, 1), ("cosh", .cosh, 1),
   ("sinh", .sinh, 1), ("tanh", .tanh, 1), ("acosh", .acosh, 1), ("asinh", .asinh, 1),
   ("atanh", .atanh, 1), ("expm1", .expm1, 1), ("log1p", .log1p, 1), ("log2", .log2, 1),
   ("log10", .log10, 1), ("cbrt", .cbrt, 1), ("hypot", .hypot, 2), ("random", .random, 0),
   ("fround", .fround, 1), ("imul", .imul, 2), ("clz32", .clz32, 1)]

def constants : List (String × Float) :=
  [("E", 2.718281828459045), ("LN10", 2.302585092994046), ("LN2", 0.6931471805599453),
   ("LOG2E", 1.4426950408889634), ("LOG10E", 0.4342944819032518), ("PI", 3.141592653589793),
   ("SQRT1_2", 0.7071067811865476), ("SQRT2", 1.4142135623730951)]

-- To the nearest whole number, a half going up; the sign of zero is kept.
def roundHalfUp (x : Float) : Float :=
  if x.isNaN || x.isInf then x
  else
    let f := x.floor
    let r := if 0.5 ≤ x - f then f + 1.0 else f
    if r == 0.0 && (x < 0.0 || Double.isNegative x) then -0.0 else r

def towardZero (x : Float) : Float :=
  if x < 0.0 then x.ceil else x.floor

def signOf (x : Float) : Float :=
  if 0.0 < x then 1.0 else if x < 0.0 then -1.0 else x

def larger (x y : Float) : Float :=
  if x.isNaN || y.isNaN then Number.nan
  else if x == 0.0 && y == 0.0 then (if Double.isNegative x then y else x)
  else if x < y then y else x

def smaller (x y : Float) : Float :=
  if x.isNaN || y.isNaN then Number.nan
  else if x == 0.0 && y == 0.0 then (if Double.isNegative x then x else y)
  else if y < x then y else x

-- `exp x - 1`, also where the subtraction would lose all digits.
def expLessOne (x : Float) : Float :=
  let u := x.exp
  if u == 1.0 then x
  else
    let d := u - 1.0
    if d == -1.0 || u.isInf then d else d * x / u.log

-- `log (1 + x)`, also where the sum would lose all digits.
def logOnePlus (x : Float) : Float :=
  let u := 1.0 + x
  if u == 1.0 then x else if u.isInf then u else u.log * x / (u - 1.0)

def hypotenuse (x y : Float) : Float :=
  let a := x.abs
  let b := y.abs
  if a.isInf || b.isInf then Number.infinity
  else
    let m := larger a b
    if m == 0.0 || m.isNaN then m
    else if 1e150 < m || m < 1e-150 then m * ((a / m) * (a / m) + (b / m) * (b / m)).sqrt
    else (a * a + b * b).sqrt

def leadingZeros (n : Nat) : Nat :=
  if n == 0 then 32 else 31 - Nat.log2 n

def unary (f : MathFn) (x : Float) : Float :=
  match f with
  | .abs => x.abs
  | .acos => x.acos
  | .acosh => x.acosh
  | .asin => x.asin
  | .asinh => x.asinh
  | .atan => x.atan
  | .atanh => x.atanh
  | .cbrt => x.cbrt
  | .ceil => x.ceil
  | .cos => x.cos
  | .cosh => x.cosh
  | .exp => x.exp
  | .expm1 => expLessOne x
  | .floor => x.floor
  | .fround => x.toFloat32.toFloat
  | .log => x.log
  | .log1p => logOnePlus x
  | .log10 => x.log10
  | .log2 => x.log2
  | .round => roundHalfUp x
  | .sign => signOf x
  | .sin => x.sin
  | .sinh => x.sinh
  | .sqrt => x.sqrt
  | .tan => x.tan
  | .tanh => x.tanh
  | .trunc => towardZero x
  | _ => x

def reduce (E : Engine) (op : Float → Float → Float) (acc : Float) (args : Array Value) : Run Value := do
  let mut acc := acc
  for a in args do
    acc := op acc (← toNumber E a)
  return .number acc

def run (E : Engine) (f : MathFn) (args : Array Value) : Run Value := do
  match f with
  | .max => reduce E larger (-Number.infinity) args
  | .min => reduce E smaller Number.infinity args
  | .hypot => reduce E hypotenuse 0.0 args
  | .random => return .number 0.5
  | .atan2 =>
    let y ← toNumber E (arg args 0)
    return .number (Float.atan2 y (← toNumber E (arg args 1)))
  | .pow =>
    let x ← toNumber E (arg args 0)
    return .number (power x (← toNumber E (arg args 1)))
  | .imul =>
    let x ← toUint32 E (arg args 0)
    let y ← toUint32 E (arg args 1)
    return .number (Double.ofWhole (Int.bmod (x * y : Nat) 0x1_0000_0000))
  | .clz32 => return .nat (leadingZeros (← toUint32 E (arg args 0)))
  | f => return .number (unary f (← toNumber E (arg args 0)))

end BoundedScript.Script.MathFn
