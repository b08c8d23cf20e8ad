import BoundedScript.Script.Heap

set_option autoImplicit false

namespace BoundedScript.Script

inductive Completion where
  | normal
  | returned (v : Value)
  | broke (label : Option String)
  | continued (label : Option String)

/-- What the parts of the interpreter need of the whole: the same, with one level of nesting less left. -/
structure Engine where
  eval : Env → Expr → Run Value
  exec : Env → Stmt → Run Completion
  call : (fn this : Value) → (args : Array Value) → Run Value
  construct : (fn : Value) → (args : Array Value) → (newTarget : Value) → Run Value

open Run

def arg (args : Array Value) (i : Nat) : Value :=
  args[i]?.getD .undefined

section
variable (E : Engine)

def readSlot (receiver : Value) : Option Property → Run Value
  | none => return .undefined
  | some p =>
    match p.slot with
    | .data v _ => return v
    | .accessor (.object g) _ => E.call (.object g) receiver #[]
    | .accessor _ _ => return .undefined

def getFrom (a : Addr) (receiver : Value) (k : PropKey) : Run Value := do
  readSlot E receiver (← find? a k)

def getOf (a : Addr) (k : PropKey) : Run Value :=
  getFrom E a (.object a) k

def nullishName : Value → String
  | .null => "null"
  | _ => "undefined"

def protoOf : Value → Option Intrinsic
  | .bool _ => some .booleanPrototype
  | .number _ => some .numberPrototype
  | .bigint _ => some .bigintPrototype
  | .string _ => some .stringPrototype
  | .symbol _ => some .symbolPrototype
  | _ => none

def getValue (v : Value) (k : PropKey) : Run Value := do
  match v with
  | .object a => getOf E a k
  | .undefined | .null =>
    typeError ("cannot read property '" ++ (← describeKey k) ++ "' of " ++ nullishName v)
  | .string u =>
    match k with
    | .index n =>
      match u[n]? with
      | some c => return .string #[c]
      | none => getFrom E Intrinsic.stringPrototype.addr v k
    | k => if k == lengthKey then return .nat u.size else getFrom E Intrinsic.stringPrototype.addr v k
  | v =>
    match protoOf v with
    | some i => getFrom E i.addr v k
    | none => return .undefined

def isCallable : Value → Run Bool
  | .object a => do
    match ← kindOf a with
    | .closure _ | .native _ | .bound _ _ _ => return true
    | _ => return false
  | _ => return false

def getMethod (v : Value) (k : PropKey) : Run (Option Value) := do
  let f ← getValue E v k
  if f.isNullish then return none
  else if ← isCallable f then return some f
  else typeError "not a function"

def invoke (v : Value) (k : PropKey) (args : Array Value) : Run Value := do
  E.call (← getValue E v k) v args

inductive Hint where
  | none | number | string

def Hint.name : Hint → String
  | .none => "default"
  | .number => "number"
  | .string => "string"

-- The first of two methods that gives something other than an object.
def ordinaryToPrimitive (a : Addr) (first second : PropKey) : Run Value := do
  for k in [first, second] do
    let f ← getOf E a k
    if ← isCallable f then
      let v ← E.call f (.object a) #[]
      if !v.isObject then return v
  typeError "toPrimitive"

def toPrimitive (hint : Hint) (v : Value) : Run Value := do
  match v with
  | .object a =>
    let f ← getOf E a WellKnown.toPrimitive.key
    if f.isNullish then
      match hint with
      | .string => ordinaryToPrimitive E a toStringKey valueOfKey
      | _ => ordinaryToPrimitive E a valueOfKey toStringKey
    else
      let r ← E.call f v #[.text hint.name]
      if r.isObject then typeError "toPrimitive" else return r
  | v => return v

def toBool : Value → Bool
  | .undefined | .null => false
  | .bool b => b
  | .number x => !(x == 0.0 || x.isNaN)
  | .bigint n => n != 0
  | .string u => u.size != 0
  | .symbol _ | .object _ => true

def primitiveToNumber : Value → Run Float
  | .undefined => return Number.nan
  | .null => return 0.0
  | .bool b => return if b then 1.0 else 0.0
  | .number x => return x
  | .string u => return Number.ofUnits u
  | .bigint _ => typeError "cannot convert BigInt to number"
  | .symbol _ => typeError "cannot convert symbol to number"
  | .object _ => return Number.nan

def toNumber (v : Value) : Run Float := do
  match v with
  | .number x => return x
  | v => primitiveToNumber (← toPrimitive E .number v)

inductive Numeric where
  | number (x : Float)
  | bigint (n : Int)

def toNumeric (v : Value) : Run Numeric := do
  match v with
  | .number x => return .number x
  | v =>
    match ← toPrimitive E .number v with
    | .bigint n => return .bigint n
    | p => return .number (← primitiveToNumber p)

def primitiveToUnits : Value → Run Units
  | .undefined => return Units.ofString "undefined"
  | .null => return Units.ofString "null"
  | .bool true => return Units.ofString "true"
  | .bool false => return Units.ofString "false"
  | .number x => return Number.toUnits x
  | .bigint n => return Units.ofString (toString n)
  | .string u => return u
  | .symbol _ => typeError "cannot convert symbol to string"
  | .object _ => return #[]

def toUnits (v : Value) : Run Units := do
  match v with
  | .string u => return u
  | v => primitiveToUnits (← toPrimitive E .string v)

def keyOfNumber (x : Float) : PropKey :=
  match Number.toNat? x with
  | some n => if n < 0xffff_ffff then .index n else .name (Number.toUnits x)
  | none => .name (Number.toUnits x)

def toPropertyKey (v : Value) : Run PropKey := do
  match v with
  | .string u => return .ofUnits u
  | .number x => return keyOfNumber x
  | .symbol id => return .symbol id
  | v =>
    match ← toPrimitive E .string v with
    | .symbol id => return .symbol id
    | p => return .ofUnits (← primitiveToUnits p)

def toObject (v : Value) : Run Addr := do
  match v with
  | .object a => return a
  | .undefined | .null => typeError "Cannot convert undefined or null to object"
  | .bool b => newOrdinary (some Intrinsic.booleanPrototype.addr) (.boolean b)
  | .number x => newOrdinary (some Intrinsic.numberPrototype.addr) (.number x)
  | .bigint n => newOrdinary (some Intrinsic.bigintPrototype.addr) (.bigint n)
  | .string u => newOrdinary (some Intrinsic.stringPrototype.addr) (.string u)
  | .symbol id => newOrdinary (some Intrinsic.symbolPrototype.addr) (.symbol id)

def toInteger (v : Value) : Run Float := do
  return Number.truncate (← toNumber E v)

def toInt32 (v : Value) : Run Int := do
  return Number.toInt32 (← toNumber E v)

def toUint32 (v : Value) : Run Nat := do
  return Number.toUint32 (← toNumber E v)

def toLength (v : Value) : Run Nat := do
  return Number.clampNat (← toNumber E v) Number.maxSafe

def lengthOf (a : Addr) : Run Nat := do
  match ← kindOf a with
  | .array _ length _ => return length
  | _ => toLength E (← getOf E a lengthKey)

def readOnly {α : Type} (k : PropKey) : Run α := do
  typeError ("'" ++ (← describeKey k) ++ "' is read-only")

def callSetter (setter receiver v : Value) : Run Unit := do
  match setter with
  | .object _ =>
    let _ ← E.call setter receiver #[v]
  | _ => typeError "no setter for property"

def storeOwn (a : Addr) (k : PropKey) (v : Value) : Run Unit := do
  let o ← getObj a
  match o.own? k with
  | some ⟨.data _ true, enumerable, configurable⟩ =>
    match o.kind, k with
    | .array _ length lengthFixed, k =>
      if k == lengthKey then
        match Number.toNat? (← toNumber E v) with
        | some n =>
          if n < 0x1_0000_0000 then
            if !(← setArrayLength a n) && n != length then
              if lengthFixed then readOnly k else typeError "not configurable"
          else rangeError "invalid array length"
        | none => rangeError "invalid array length"
      else match k with
        | .index n =>
          match o with
          | ⟨_, _, _, .array items _ _⟩ =>
            if n < items.size then putItem a n v
            else modifyObj a fun o => o.put k ⟨.data v true, enumerable, configurable⟩
          | _ => pure ()
        | k => modifyObj a fun o => o.put k ⟨.data v true, enumerable, configurable⟩
    | _, k => modifyObj a fun o => o.put k ⟨.data v true, enumerable, configurable⟩
  | some ⟨.data _ false, _, _⟩ => readOnly k
  | some ⟨.accessor _ s, _, _⟩ => callSetter E s (.object a) v
  | none =>
    if !o.extensible then typeError "object is not extensible"
    match o.kind, k with
    | .array _ length true, .index n => if length ≤ n then readOnly k
    | _, _ => pure ()
    putOwn a k (.plain v)

def setOf (a : Addr) (k : PropKey) (v : Value) : Run Unit := do
  match ← ownProperty? a k with
  | some _ => storeOwn E a k v
  | none =>
    match ← find? a k with
    | none => storeOwn E a k v
    | some ⟨.data _ true, _, _⟩ => storeOwn E a k v
    | some ⟨.data _ false, _, _⟩ => readOnly k
    | some ⟨.accessor _ s, _, _⟩ => callSetter E s (.object a) v

def setValue (target : Value) (k : PropKey) (v : Value) : Run Unit := do
  match target with
  | .object a => setOf E a k v
  | .undefined | .null =>
    typeError ("cannot set property '" ++ (← describeKey k) ++ "' of " ++ nullishName target)
  | t =>
    match protoOf t with
    | some i => viaParent i.addr
    | none => typeError "not an object"
where
  viaParent (a : Addr) : Run Unit := do
    match ← find? a k with
    | some ⟨.accessor _ s, _, _⟩ => callSetter E s target v
    | some ⟨.data _ false, _, _⟩ => readOnly k
    | _ => typeError "not an object"

def bigintOfPrimitive : Value → Run Int
  | .bool b => return if b then 1 else 0
  | .bigint n => return n
  | .string u =>
    match Number.wholeOfUnits? u with
    | some n => return n
    | none => fail .syntaxError "invalid BigInt literal"
  | .number _ | .undefined | .null | .symbol _ | .object _ => typeError "cannot convert to BigInt"

def toBigInt (v : Value) : Run Int := do
  bigintOfPrimitive (← toPrimitive E .number v)

def typeName (v : Value) : Run String := do
  match v with
  | .undefined => return "undefined"
  | .null => return "object"
  | .bool _ => return "boolean"
  | .number _ => return "number"
  | .bigint _ => return "bigint"
  | .string _ => return "string"
  | .symbol _ => return "symbol"
  | .object _ => return if ← isCallable v then "function" else "object"

end

def isConstructorAt : (fuel : Nat) → Addr → Run Bool
  | 0, _ => return false
  | fuel + 1, a => do
    match ← kindOf a with
    | .closure c =>
      match c.fn.info.kind with
      | .plain => return !c.fn.info.isAsync && !c.fn.info.isGenerator
      | .classConstructor | .derivedConstructor => return true
      | _ => return false
    | .native f => return f.isConstructor
    | .bound (.object t) _ _ => isConstructorAt fuel t
    | _ => return false

def isConstructor : Value → Run Bool
  | .object a => isConstructorAt 1000 a
  | _ => return false

def isArray : Value → Run Bool
  | .object a => do
    match ← kindOf a with
    | .array _ _ _ => return true
    | _ => return false
  | _ => return false

end BoundedScript.Script
