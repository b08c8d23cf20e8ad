import BoundedScript.Script.Builtin.Global
import BoundedScript.Script.Evaluation

set_option autoImplicit false

namespace BoundedScript.Script

open Run

def wrapped (E : Engine) (kind : Kind) (v : Value) (newTarget : Option Value) (default_ : Intrinsic) :
    Run Value := do
  match newTarget with
  | none => return v
  | some t => return .object (← newOrdinary (some (← prototypeFor E t default_)) kind)

namespace BooleanFn

def methods : FunctionTable BooleanFn :=
  [("toString", .toString, 0), ("valueOf", .valueOf, 0)]

def valueOfThis (this : Value) : Run Bool := do
  match this with
  | .bool b => return b
  | .object a =>
    match ← kindOf a with
    | .boolean b => return b
    | _ => typeError "not a boolean"
  | _ => typeError "not a boolean"

def run (E : Engine) (f : BooleanFn) (this : Value) (args : Array Value) (newTarget : Option Value) :
    Run Value := do
  match f with
  | .make =>
    let b := toBool (arg args 0)
    wrapped E (.boolean b) (.bool b) newTarget .booleanPrototype
  | .toString => return .text (if ← valueOfThis this then "true" else "false")
  | .valueOf => return .bool (← valueOfThis this)

end BooleanFn

namespace NumberFn

def statics : FunctionTable NumberFn :=
  [("isNaN", .isNaN, 1), ("isFinite", .isFinite, 1), ("isInteger", .isInteger, 1),
   ("isSafeInteger", .isSafeInteger, 1)]

def methods : FunctionTable NumberFn :=
  [("toExponential", .toExponential, 1), ("toFixed", .toFixed, 1), ("toPrecision", .toPrecision, 1),
   ("toString", .toString, 1), ("toLocaleString", .toString, 0), ("valueOf", .valueOf, 0)]

def constants : List (String × Float) :=
  [("MAX_VALUE", 1.7976931348623157e308), ("MIN_VALUE", 5e-324), ("NaN", Number.nan),
   ("NEGATIVE_INFINITY", -Number.infinity), ("POSITIVE_INFINITY", Number.infinity),
   ("EPSILON", 2.220446049250313e-16), ("MAX_SAFE_INTEGER", 9007199254740991.0),
   ("MIN_SAFE_INTEGER", -9007199254740991.0)]

def valueOfThis (this : Value) : Run Float := do
  match this with
  | .number x => return x
  | .object a =>
    match ← kindOf a with
    | .number x => return x
    | _ => typeError "not a number"
  | _ => typeError "not a number"

def isWhole (x : Float) : Bool :=
  x.isFinite && x.floor == x

def digitCount (E : Engine) (v : Value) (least greatest : Nat) (message : String) : Run Nat := do
  let d ← toInteger E v
  if d < Double.ofWhole least || Double.ofWhole greatest < d then rangeError message
  return d.toUInt64.toNat

def run (E : Engine) (f : NumberFn) (this : Value) (args : Array Value) (newTarget : Option Value) :
    Run Value := do
  let v := arg args 0
  match f with
  | .make =>
    let x ← if args.isEmpty then pure 0.0 else
      match ← toNumeric E v with
      | .number x => pure x
      | .bigint n => pure (Double.ofWhole n)
    wrapped E (.number x) (.number x) newTarget .numberPrototype
  | .isFinite =>
    match v with
    | .number x => return .bool x.isFinite
    | _ => return .bool false
  | .isInteger =>
    match v with
    | .number x => return .bool (isWhole x)
    | _ => return .bool false
  | .isNaN =>
    match v with
    | .number x => return .bool x.isNaN
    | _ => return .bool false
  | .isSafeInteger =>
    match v with
    | .number x => return .bool (isWhole x && x.abs ≤ 9007199254740991.0)
    | _ => return .bool false
  | .toExponential =>
    let x ← valueOfThis this
    let d ← toInteger E v
    if !x.isFinite then return .text (Number.text x)
    if v.isUndefined then return .text (Number.exponentialText x none)
    if d < 0.0 || 100.0 < d then rangeError "toExponential() argument must be between 0 and 100"
    return .text (Number.exponentialText x (some d.toUInt64.toNat))
  | .toFixed =>
    let x ← valueOfThis this
    let d ← digitCount E v 0 100 "toFixed() digits argument must be between 0 and 100"
    if !x.isFinite || 1e21 ≤ x.abs then return .text (Number.text x)
    return .text (Number.fixedText x d)
  | .toPrecision =>
    let x ← valueOfThis this
    if v.isUndefined then return .text (Number.text x)
    let d ← toInteger E v
    if !x.isFinite then return .text (Number.text x)
    if d < 1.0 || 100.0 < d then rangeError "toPrecision() argument must be between 1 and 100"
    return .text (Number.precisionText x d.toUInt64.toNat)
  | .toString =>
    let x ← valueOfThis this
    let radix ← if v.isUndefined then pure 10 else
      digitCount E v 2 36 "toString() radix argument must be between 2 and 36"
    if radix == 10 || !x.isFinite then return .text (Number.text x)
    return .text (Number.radixText radix x)
  | .valueOf => return .number (← valueOfThis this)

end NumberFn

namespace SymbolFn

def statics : FunctionTable SymbolFn :=
  [("for", .for, 1), ("keyFor", .keyFor, 1)]

def methods : FunctionTable SymbolFn :=
  [("toString", .toString, 0), ("valueOf", .valueOf, 0)]

def newSymbol (description : Option Units) : Run Nat := fun s =>
  .ok s.symbols.size { s with symbols := s.symbols.push description }

def valueOfThis (this : Value) : Run Nat := do
  match this with
  | .symbol id => return id
  | .object a =>
    match ← kindOf a with
    | .symbol id => return id
    | _ => typeError "not a symbol"
  | _ => typeError "not a symbol"

def describe (id : Nat) : Run (Option Units) := do
  return ((← get).symbols[id]?).join

def textOf (id : Nat) : Run Value := do
  return .string (Units.ofString "Symbol(" ++ (← describe id).getD #[] ++ Units.ofString ")")

def run (E : Engine) (f : SymbolFn) (this : Value) (args : Array Value) (newTarget : Option Value) :
    Run Value := do
  let v := arg args 0
  match f with
  | .make =>
    if newTarget.isSome then typeError "not a constructor"
    let description ← if v.isUndefined then pure none else some <$> toUnits E v
    return .symbol (← newSymbol description)
  | .for =>
    let u ← toUnits E v
    match (← get).registry.find? (·.1 == u) with
    | some (_, id) => return .symbol id
    | none =>
      let id ← newSymbol (some u)
      modify fun s => { s with registry := (u, id) :: s.registry }
      return .symbol id
  | .keyFor =>
    match v with
    | .symbol id =>
      match (← get).registry.find? (·.2 == id) with
      | some (u, _) => return .string u
      | none => return .undefined
    | _ => typeError "not a symbol"
  | .toString => textOf (← valueOfThis this)
  | .valueOf | .toPrimitive => return .symbol (← valueOfThis this)
  | .description =>
    match ← describe (← valueOfThis this) with
    | some u => return .string u
    | none => return .undefined

end SymbolFn

namespace BigIntFn

def statics : FunctionTable BigIntFn :=
  [("asUintN", .asUintN, 2), ("asIntN", .asIntN, 2)]

def methods : FunctionTable BigIntFn :=
  [("toString", .toString, 0), ("toLocaleString", .toString, 0), ("valueOf", .valueOf, 0)]

def valueOfThis (this : Value) : Run Int := do
  match this with
  | .bigint n => return n
  | .object a =>
    match ← kindOf a with
    | .bigint n => return n
    | _ => typeError "not a bigint"
  | _ => typeError "not a bigint"

def toBitCount (E : Engine) (v : Value) : Run Nat := do
  let x ← toInteger E v
  if x < 0.0 || Double.ofWhole Number.maxSafe < x then rangeError "invalid array index"
  return x.toUInt64.toNat

def run (E : Engine) (f : BigIntFn) (this : Value) (args : Array Value) (newTarget : Option Value) :
    Run Value := do
  let v := arg args 0
  match f with
  | .make =>
    if newTarget.isSome then typeError "not a constructor"
    match ← toPrimitive E .number v with
    | .number x =>
      if !x.isFinite then rangeError "cannot convert NaN or Infinity to BigInt"
      match Double.toInt? x with
      | some n => return .bigint n
      | none => rangeError "cannot convert to BigInt: not an integer"
    | p => return .bigint (← bigintOfPrimitive p)
  | .asIntN =>
    let bits ← toBitCount E v
    let n ← toBigInt E (arg args 1)
    if maxBits < bits then return .bigint n
    return .bigint (Int.bmod n (Nat.pow 2 bits))
  | .asUintN =>
    let bits ← toBitCount E v
    let n ← toBigInt E (arg args 1)
    if maxBits < bits then return .bigint n
    return .bigint (n % Int.pow 2 bits)
  | .toString =>
    let n ← valueOfThis this
    let radix ← if v.isUndefined then pure 10 else
      NumberFn.digitCount E v 2 36 "toString() radix argument must be between 2 and 36"
    return .text (Number.wholeText radix n)
  | .valueOf => return .bigint (← valueOfThis this)

end BigIntFn
end BoundedScript.Script
