import BoundedScript.Script.Builtin.Object

set_option autoImplicit false

namespace BoundedScript.Script

open Run

-- Members in their order; those added meanwhile are met too.
def forMembers (members : Run Members) (f : Value → Value → Run Unit) : Run Unit :=
  loop (fun (i : Nat) => do
    let m ← members
    match m.entries[i]? with
    | none => return .inr ()
    | some none => return .inl (i + 1)
    | some (some (k, v)) =>
      f k v
      return .inl (i + 1)) 0 manyRounds

namespace MapFn

def methods : FunctionTable MapFn :=
  [("get", .get, 1), ("set", .set, 2), ("has", .has, 1), ("delete", .delete, 1), ("clear", .clear, 0),
   ("forEach", .forEach, 1), ("values", .values, 0), ("keys", .keys, 0), ("entries", .entries, 0)]

def membersOf (v : Value) : Run (Addr × Members) := do
  match v with
  | .object a =>
    match ← kindOf a with
    | .map m => return (a, m)
    | _ => typeError "Map object expected"
  | _ => typeError "Map object expected"

def update (a : Addr) (f : Members → Members) : Run Unit :=
  modifyObj a fun o => match o with
    | ⟨p, t, e, .map m⟩ => ⟨p, t, e, .map (f m)⟩
    | o => o

def makeMap (E : Engine) (items : Value) (newTarget : Value) : Run Value := do
  let a ← newOrdinary (some (← prototypeFor E newTarget .mapPrototype)) (.map .empty)
  if items.isNullish then return .object a
  let adder ← getOf E a (.ofString "set")
  if !(← isCallable adder) then typeError "not a function"
  let _ ← iterate E items () (β := Empty) fun () item => do
    if !item.isObject then typeError "not an object"
    let k ← getValue E item (.index 0)
    let v ← getValue E item (.index 1)
    let _ ← E.call adder (.object a) #[k, v]
    return .inl ()
  return .object a

def group (E : Engine) (items f : Value) : Run Value := do
  if !(← isCallable f) then typeError "not a function"
  let a ← newOrdinary (some Intrinsic.mapPrototype.addr) (.map .empty)
  let _ ← iterate E items (0 : Nat) (β := Empty) fun i item => do
    let k ← E.call f .undefined #[item, .nat i]
    let (_, m) ← membersOf (.object a)
    match m.get? k with
    | some (.object g) => putItem g (← lengthOf E g) item
    | _ =>
      let g ← newArray #[item]
      update a fun m => m.insert k g
    return .inl (i + 1)
  return .object a

def iterator (a : Addr) (kind : IterationKind) : Run Value := do
  return .object (← newOrdinary (some Intrinsic.mapIteratorPrototype.addr) (.mapIterator a 0 kind))

def run (E : Engine) (f : MapFn) (this : Value) (args : Array Value) (newTarget : Option Value) :
    Run Value := do
  match f with
  | .make =>
    match newTarget with
    | some t => makeMap E (arg args 0) t
    | none => typeError "must be called with new"
  | .groupBy => group E (arg args 0) (arg args 1)
  | f =>
    let (a, m) ← membersOf this
    match f with
    | .get => return (m.get? (arg args 0)).getD .undefined
    | .set =>
      update a fun m => m.insert (arg args 0) (arg args 1)
      return this
    | .has => return .bool (m.contains (arg args 0))
    | .delete =>
      update a fun m => m.erase (arg args 0)
      return .bool (m.contains (arg args 0))
    | .clear =>
      update a Members.clear
      return .undefined
    | .size => return .nat m.size
    | .forEach =>
      let g := arg args 0
      if !(← isCallable g) then typeError "not a function"
      forMembers (Prod.snd <$> membersOf this) fun k v => do
        let _ ← E.call g (arg args 1) #[v, k, this]
      return .undefined
    | .keys => iterator a .keys
    | .values => iterator a .values
    | _ => iterator a .entries

end MapFn

namespace SetFn

def methods : FunctionTable SetFn :=
  [("add", .add, 1), ("has", .has, 1), ("delete", .delete, 1), ("clear", .clear, 0),
   ("forEach", .forEach, 1), ("values", .values, 0), ("entries", .entries, 0)]

def membersOf (v : Value) : Run (Addr × Members) := do
  match v with
  | .object a =>
    match ← kindOf a with
    | .set m => return (a, m)
    | _ => typeError "Set object expected"
  | _ => typeError "Set object expected"

def update (a : Addr) (f : Members → Members) : Run Unit :=
  modifyObj a fun o => match o with
    | ⟨p, t, e, .set m⟩ => ⟨p, t, e, .set (f m)⟩
    | o => o

def makeSet (E : Engine) (items : Value) (newTarget : Value) : Run Value := do
  let a ← newOrdinary (some (← prototypeFor E newTarget .setPrototype)) (.set .empty)
  if items.isNullish then return .object a
  let adder ← getOf E a (.ofString "add")
  if !(← isCallable adder) then typeError "not a function"
  let _ ← iterate E items () (β := Empty) fun () item => do
    let _ ← E.call adder (.object a) #[item]
    return .inl ()
  return .object a

def iterator (a : Addr) (kind : IterationKind) : Run Value := do
  return .object (← newOrdinary (some Intrinsic.setIteratorPrototype.addr) (.setIterator a 0 kind))

def run (E : Engine) (f : SetFn) (this : Value) (args : Array Value) (newTarget : Option Value) :
    Run Value := do
  match f with
  | .make =>
    match newTarget with
    | some t => makeSet E (arg args 0) t
    | none => typeError "must be called with new"
  | f =>
    let (a, m) ← membersOf this
    let v := arg args 0
    match f with
    | .add =>
      update a fun m => m.insert v v
      return this
    | .has => return .bool (m.contains v)
    | .delete =>
      update a fun m => m.erase v
      return .bool (m.contains v)
    | .clear =>
      update a Members.clear
      return .undefined
    | .size => return .nat m.size
    | .forEach =>
      if !(← isCallable v) then typeError "not a function"
      forMembers (Prod.snd <$> membersOf this) fun k _ => do
        let _ ← E.call v (arg args 1) #[k, k, this]
      return .undefined
    | .entries => iterator a .entries
    | _ => iterator a .values

end SetFn

namespace IteratorFn

def nextMember (m : Members) (i : Nat) : (fuel : Nat) → Option (Value × Value × Nat)
  | 0 => none
  | fuel + 1 =>
    match m.entries[i]? with
    | none => none
    | some none => nextMember m (i + 1) fuel
    | some (some (k, v)) => some (k, v, i + 1)

def setKind (a : Addr) (kind : Kind) : Run Unit :=
  modifyObj a fun o => { o with kind }

-- A place past the end of anything, from which an iterator does not come back.
def spent : Nat := 0x1000_0000_0000_0000

def pairResult (kind : IterationKind) (k v : Value) : Run Value := do
  match kind with
  | .keys => stepResult k false
  | .values => stepResult v false
  | .entries => stepResult (← newArray #[k, v]) false

def advance (E : Engine) (this : Value) : Run Value := do
  match this with
  | .object a =>
    match ← kindOf a with
    | .arrayIterator target i kind =>
      let n ← match target with
        | .object t => if i < spent then lengthOf E t else pure 0
        | .string u => pure u.size
        | _ => pure 0
      if n ≤ i then
        setKind a (.arrayIterator target spent kind)
        stepResult .undefined true
      else
        setKind a (.arrayIterator target (i + 1) kind)
        match kind with
        | .keys => stepResult (.nat i) false
        | kind => pairResult kind (.nat i) (← getValue E target (.index i))
    | .stringIterator u i =>
      match u.codeAt i with
      | none => stepResult .undefined true
      | some (_, n) =>
        setKind a (.stringIterator u (i + n))
        stepResult (.string (u.extract i (i + n))) false
    | .mapIterator target i kind =>
      let m ← match ← kindOf target with
        | .map m => pure m
        | _ => pure .empty
      match nextMember m i (m.entries.size + 1) with
      | none =>
        setKind a (.mapIterator target spent kind)
        stepResult .undefined true
      | some (k, v, j) =>
        setKind a (.mapIterator target j kind)
        pairResult kind k v
    | .setIterator target i kind =>
      let m ← match ← kindOf target with
        | .set m => pure m
        | _ => pure .empty
      match nextMember m i (m.entries.size + 1) with
      | none =>
        setKind a (.setIterator target spent kind)
        stepResult .undefined true
      | some (k, _, j) =>
        setKind a (.setIterator target j kind)
        pairResult kind k k
    | .generator => stepResult .undefined true
    | _ => typeError "not an iterator"
  | _ => typeError "not an iterator"

end IteratorFn

namespace ReflectFn

def table : FunctionTable ReflectFn :=
  [("apply", .apply, 3), ("construct", .construct, 2), ("defineProperty", .defineProperty, 3),
   ("deleteProperty", .deleteProperty, 2), ("get", .get, 2),
   ("getOwnPropertyDescriptor", .getOwnPropertyDescriptor, 2), ("getPrototypeOf", .getPrototypeOf, 1),
   ("has", .has, 2), ("isExtensible", .isExtensible, 1), ("ownKeys", .ownKeys, 1),
   ("preventExtensions", .preventExtensions, 1), ("set", .set, 3), ("setPrototypeOf", .setPrototypeOf, 2)]

def run (E : Engine) (f : ReflectFn) (args : Array Value) : Run Value := do
  match f with
  | .apply =>
    if !(← isCallable (arg args 0)) then typeError "not a function"
    E.call (arg args 0) (arg args 1) (← listItems E (arg args 2))
  | .construct =>
    let t := arg args 0
    let n := if 2 < args.size then arg args 2 else t
    if !(← isConstructor t) || !(← isConstructor n) then typeError "not a constructor"
    E.construct t (← listItems E (arg args 1)) n
  | f =>
    match arg args 0 with
    | .object a =>
      let key := toPropertyKey E (arg args 1)
      match f with
      | .defineProperty =>
        let k ← key
        return .bool (← defineOwn a k (← readChange E (arg args 2)))
      | .deleteProperty => return .bool (← deleteOwn a (← key))
      | .get => getFrom E a (if 2 < args.size then arg args 2 else .object a) (← key)
      | .getOwnPropertyDescriptor =>
        match ← ownProperty? a (← key) with
        | some p => describeProperty p
        | none => return .undefined
      | .getPrototypeOf => return Value.ofAddr? (← getObj a).parent
      | .has => return .bool (← hasProperty a (← key))
      | .isExtensible => return .bool (← getObj a).extensible
      | .ownKeys => newArray ((← getObj a).ownKeys.map PropKey.toValue).toArray
      | .preventExtensions =>
        modifyObj a fun o => { o with extensible := false }
        return .bool true
      | .set =>
        match ← attempt (setOf E a (← key) (arg args 2)) with
        | .ok () => return .bool true
        | .error (.thrown _) => return .bool false
        | .error e => throw e
      | _ =>
        match arg args 1 with
        | .object p => return .bool (← trySetParent a (some p)).isNone
        | .null => return .bool (← trySetParent a none).isNone
        | _ => typeError "not an object"
    | _ => typeError "not an object"

end ReflectFn

namespace PromiseFn

def run (E : Engine) (f : PromiseFn) (args : Array Value) (newTarget : Option Value) : Run Value := do
  match f with
  | .make =>
    match newTarget with
    | none => typeError "must be called with new"
    | some _ =>
      if !(← isCallable (arg args 0)) then typeError "not a function"
      let done ← newOrdinary (some Intrinsic.functionPrototype.addr) (.native (.function .nothing))
      match ← attempt (E.call (arg args 0) .undefined #[.object done, .object done]) with
      | .error .interrupted => throw .interrupted
      | _ => return .object (← newOrdinary (some Intrinsic.promisePrototype.addr) .promise)
  | _ => return .object (← newOrdinary (some Intrinsic.promisePrototype.addr) .promise)

end PromiseFn
end BoundedScript.Script
