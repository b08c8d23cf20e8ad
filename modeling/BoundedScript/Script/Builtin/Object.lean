import BoundedScript.Script.Builtin.Global
import BoundedScript.Script.Evaluation

set_option autoImplicit false

namespace BoundedScript.Script

open Run

def describeProperty (p : Property) : Run Value := do
  let a ← newPlain
  match p.slot with
  | .data v w =>
    putOwn a valueKey (.plain v)
    putOwn a (.ofString "writable") (.plain (.bool w))
  | .accessor g s =>
    putOwn a (.ofString "get") (.plain g)
    putOwn a (.ofString "set") (.plain s)
  putOwn a (.ofString "enumerable") (.plain (.bool p.enumerable))
  putOwn a (.ofString "configurable") (.plain (.bool p.configurable))
  return .object a

def readChange (E : Engine) (v : Value) : Run Change := do
  match v with
  | .object a =>
    let field (name : String) : Run (Option Value) := do
      let k := PropKey.ofString name
      if ← hasProperty a k then return some (← getOf E a k) else return none
    let enumerable ← field "enumerable"
    let configurable ← field "configurable"
    let value ← field "value"
    let writable ← field "writable"
    let get ← field "get"
    let set ← field "set"
    for f in [get, set] do
      match f with
      | some g => if !g.isUndefined && !(← isCallable g) then typeError "not a function"
      | none => pure ()
    if (get.isSome || set.isSome) && (value.isSome || writable.isSome) then
      typeError "cannot have setter/getter and value or writable"
    return ⟨value, writable.map toBool, get, set, enumerable.map toBool, configurable.map toBool⟩
  | _ => typeError "not an object"

def defineOrFail (a : Addr) (k : PropKey) (c : Change) : Run Unit := do
  if !(← defineOwn a k c) then
    if (← ownProperty? a k).isSome then typeError "property is not configurable"
    else typeError "object is not extensible"

def trySetParent (a : Addr) (parent : Option Addr) : Run (Option String) := do
  let o ← getObj a
  if o.parent == parent then return none
  if a == Intrinsic.objectPrototype.addr then
    return some "'Immutable prototype object 'Object.prototype' cannot have their prototype set'"
  if !o.extensible then return some "object is not extensible"
  match parent with
  | some p => if p == a || (← inheritsFrom a maxParents p) then return some "circular prototype chain"
  | none => pure ()
  modifyObj a fun o => { o with parent }
  return none

def setParent (a : Addr) (parent : Option Addr) : Run Unit := do
  match ← trySetParent a parent with
  | some objection => typeError objection
  | none => pure ()

def restrictAll (a : Addr) (freeze : Bool) : Run Unit := do
  modifyObj a fun o => { o.spreadItems with extensible := false }
  for k in ← ownKeys a do
    let o ← getObj a
    match o.kind with
    | .array items length _ =>
      if k == lengthKey then
        if freeze then modifyObj a fun o => { o with kind := .array items length true }
      else restrict a k o
    | _ => restrict a k o
where
  restrict (a : Addr) (k : PropKey) (o : Obj) : Run Unit := do
    match o.props.get? k with
    | some ⟨.data v w, e, _⟩ => modifyObj a fun o => o.put k ⟨.data v (w && !freeze), e, false⟩
    | some ⟨s, e, _⟩ => modifyObj a fun o => o.put k ⟨s, e, false⟩
    | none => pure ()

def isRestricted (a : Addr) (frozen : Bool) : Run Bool := do
  let o ← getObj a
  if o.extensible then return false
  return o.ownKeys.all fun k =>
    match o.own? k with
    | some ⟨.data _ w, _, c⟩ => !c && !(frozen && w)
    | some ⟨_, _, c⟩ => !c
    | none => true

def listProperties (E : Engine) (v : Value) (kind : IterationKind) : Run Value := do
  let a ← toObject v
  let mut out : Array Value := #[]
  for k in ← ownKeys a do
    tick
    match k with
    | .symbol _ => pure ()
    | k =>
      match ← ownProperty? a k with
      | none => pure ()
      | some p =>
        if p.enumerable then
          match kind with
          | .keys => out := out.push k.toValue
          | .values => out := out.push (← readSlot E (.object a) (some p))
          | .entries =>
            let item ← readSlot E (.object a) (some p)
            out := out.push (← newArray #[k.toValue, item])
  newArray out

def kindTag (v : Value) : Run String := do
  match v with
  | .object a =>
    match ← kindOf a with
    | .array _ _ _ => return "Array"
    | .closure _ | .native _ | .bound _ _ _ => return "Function"
    | .error => return "Error"
    | .boolean _ => return "Boolean"
    | .number _ => return "Number"
    | .string _ => return "String"
    | .date _ => return "Date"
    | .regexp _ _ _ => return "RegExp"
    | .arguments => return "Arguments"
    | _ => return "Object"
  | _ => return "Object"

namespace ObjectFn

def statics : FunctionTable ObjectFn :=
  [("create", .create, 2), ("getPrototypeOf", .getPrototypeOf, 1), ("setPrototypeOf", .setPrototypeOf, 2),
   ("defineProperty", .defineProperty, 3), ("defineProperties", .defineProperties, 2),
   ("getOwnPropertyNames", .getOwnPropertyNames, 1), ("getOwnPropertySymbols", .getOwnPropertySymbols, 1),
   ("groupBy", .groupBy, 2), ("keys", .keys, 1), ("values", .values, 1), ("entries", .entries, 1),
   ("isExtensible", .isExtensible, 1), ("preventExtensions", .preventExtensions, 1),
   ("getOwnPropertyDescriptor", .getOwnPropertyDescriptor, 2),
   ("getOwnPropertyDescriptors", .getOwnPropertyDescriptors, 1), ("is", .is, 2), ("assign", .assign, 2),
   ("seal", .seal, 1), ("freeze", .freeze, 1), ("isSealed", .isSealed, 1), ("isFrozen", .isFrozen, 1),
   ("fromEntries", .fromEntries, 1), ("hasOwn", .hasOwn, 2)]

def methods : FunctionTable ObjectFn :=
  [("toString", .toString, 0), ("toLocaleString", .toLocaleString, 0), ("valueOf", .valueOf, 0),
   ("hasOwnProperty", .hasOwnProperty, 1), ("isPrototypeOf", .isPrototypeOf, 1),
   ("propertyIsEnumerable", .propertyIsEnumerable, 1)]

def defineAll (E : Engine) (a : Addr) (source : Value) : Run Unit := do
  let s ← toObject source
  for k in ← ownKeys s do
    match ← ownProperty? s k with
    | some p =>
      if p.enumerable then
        let c ← readChange E (← readSlot E (.object s) (some p))
        defineOrFail a k c
    | none => pure ()

def assignFrom (E : Engine) (target : Addr) (source : Value) : Run Unit := do
  if source.isNullish then return ()
  let s ← toObject source
  for k in ← ownKeys s do
    tick
    match ← ownProperty? s k with
    | some p => if p.enumerable then setOf E target k (← readSlot E (.object s) (some p))
    | none => pure ()

def ofEntries (E : Engine) (v : Value) : Run Value := do
  let a ← newPlain
  let _ ← iterate E v () (β := Empty) fun () item => do
    if !item.isObject then typeError "not an object"
    let k ← getValue E item (.index 0)
    let x ← getValue E item (.index 1)
    putOwn a (← toPropertyKey E k) (.plain x)
    return .inl ()
  return .object a

def groupItems (E : Engine) (v f : Value) : Run Value := do
  if !(← isCallable f) then typeError "not a function"
  let a ← newOrdinary none .ordinary
  let _ ← iterate E v (0 : Nat) (β := Empty) fun i item => do
    let k ← toPropertyKey E (← E.call f .undefined #[item, .nat i])
    match ← ownProperty? a k with
    | some ⟨.data (.object g) _, _, _⟩ => putItem g (← lengthOf E g) item
    | _ => putOwn a k (.plain (← newArray #[item]))
    return .inl (i + 1)
  return .object a

def tagOf (E : Engine) (this : Value) : Run Value := do
  match this with
  | .undefined => return .text "[object Undefined]"
  | .null => return .text "[object Null]"
  | v =>
    let a ← toObject v
    let tag ← kindTag (.object a)
    match ← getOf E a WellKnown.toStringTag.key with
    | .string u => return .string (Units.ofString "[object " ++ u ++ Units.ofString "]")
    | _ => return .text ("[object " ++ tag ++ "]")

def keysOfKind (v : Value) (symbols : Bool) : Run Value := do
  let a ← toObject v
  let keys := (← ownKeys a).filter fun k => match k with
    | .symbol _ => symbols
    | _ => !symbols
  newArray (keys.map PropKey.toValue).toArray

def run (E : Engine) (f : ObjectFn) (this : Value) (args : Array Value) (newTarget : Option Value) :
    Run Value := do
  let v := arg args 0
  match f with
  | .make =>
    match newTarget with
    | some (.object t) =>
      match ← kindOf t with
      | .native (.object .make) => if v.isNullish then return .object (← newPlain) else return .object (← toObject v)
      | _ => return .object (← newOrdinary (some (← prototypeFor E (.object t) .objectPrototype)) .ordinary)
    | _ => if v.isNullish then return .object (← newPlain) else return .object (← toObject v)
  | .assign =>
    let a ← toObject v
    for s in args.extract 1 args.size do assignFrom E a s
    return .object a
  | .create =>
    let parent ← match v with
      | .object p => pure (some p)
      | .null => pure none
      | _ => typeError "not a prototype"
    let a ← newOrdinary parent .ordinary
    if !(arg args 1).isUndefined then defineAll E a (arg args 1)
    return .object a
  | .defineProperty =>
    match v with
    | .object a =>
      let k ← toPropertyKey E (arg args 1)
      defineOrFail a k (← readChange E (arg args 2))
      return v
    | _ => typeError "not an object"
  | .defineProperties =>
    match v with
    | .object a =>
      defineAll E a (arg args 1)
      return v
    | _ => typeError "not an object"
  | .keys => listProperties E v .keys
  | .values => listProperties E v .values
  | .entries => listProperties E v .entries
  | .freeze =>
    if let .object a := v then restrictAll a true
    return v
  | .seal =>
    if let .object a := v then restrictAll a false
    return v
  | .preventExtensions =>
    if let .object a := v then modifyObj a fun o => { o with extensible := false }
    return v
  | .isFrozen =>
    match v with
    | .object a => return .bool (← isRestricted a true)
    | _ => return .bool true
  | .isSealed =>
    match v with
    | .object a => return .bool (← isRestricted a false)
    | _ => return .bool true
  | .isExtensible =>
    match v with
    | .object a => return .bool (← getObj a).extensible
    | _ => return .bool false
  | .fromEntries => ofEntries E v
  | .groupBy => groupItems E v (arg args 1)
  | .getOwnPropertyDescriptor =>
    let a ← toObject v
    match ← ownProperty? a (← toPropertyKey E (arg args 1)) with
    | some p => describeProperty p
    | none => return .undefined
  | .getOwnPropertyDescriptors =>
    let a ← toObject v
    let r ← newPlain
    for k in ← ownKeys a do
      match ← ownProperty? a k with
      | some p => putOwn r k (.plain (← describeProperty p))
      | none => pure ()
    return .object r
  | .getOwnPropertyNames => keysOfKind v false
  | .getOwnPropertySymbols => keysOfKind v true
  | .getPrototypeOf =>
    let a ← toObject v
    return Value.ofAddr? (← getObj a).parent
  | .setPrototypeOf =>
    if v.isNullish then typeError "not an object"
    let parent ← match arg args 1 with
      | .object p => pure (some p)
      | .null => pure none
      | _ => typeError "not an object"
    if let .object a := v then setParent a parent
    return v
  | .hasOwn =>
    let a ← toObject v
    return .bool (← ownProperty? a (← toPropertyKey E (arg args 1))).isSome
  | .is => return .bool (sameValue v (arg args 1))
  | .hasOwnProperty =>
    let k ← toPropertyKey E v
    let a ← toObject this
    return .bool (← ownProperty? a k).isSome
  | .isPrototypeOf =>
    match v with
    | .object b => return .bool (← inheritsFrom (← toObject this) maxParents b)
    | _ => return .bool false
  | .propertyIsEnumerable =>
    let k ← toPropertyKey E v
    let a ← toObject this
    return .bool ((← ownProperty? a k).any (·.enumerable))
  | .toString => tagOf E this
  | .toLocaleString => invoke E this toStringKey #[]
  | .valueOf => return .object (← toObject this)
  | .protoGet =>
    let a ← toObject this
    return Value.ofAddr? (← getObj a).parent
  | .protoSet =>
    if this.isNullish then typeError "not an object"
    match this, v with
    | .object a, .object p => setParent a (some p)
    | .object a, .null => setParent a none
    | _, _ => pure ()
    return .undefined

end ObjectFn
end BoundedScript.Script
