import BoundedScript.Script.Iteration
import BoundedScript.Script.RegExp.Reader
import BoundedScript.Script.Scope

set_option autoImplicit false

namespace BoundedScript.Script

open Run

variable (E : Engine)

def keyOf (env : Env) (key : Expr) : Run PropKey := do
  match key with
  | .constant (.string u) => return .ofUnits u
  | .constant (.number x) => return keyOfNumber x
  | key => toPropertyKey E (← E.eval env key)

-- Reads an item of an array without going through its properties.
def readMember (v k : Value) : Run Value := do
  match v, k with
  | .object a, .number x =>
    match Number.toNat? x with
    | some n =>
      match ← kindOf a with
      | .array items _ _ =>
        match items[n]? with
        | some (some item) => return item
        | _ => getOf E a (keyOfNumber x)
      | _ => getOf E a (keyOfNumber x)
    | none => getOf E a (keyOfNumber x)
  | v, k =>
    if v.isNullish then
      match k with
      | .object _ => typeError ("cannot read property of " ++ nullishName v)
      | k => getValue E v (← toPropertyKey E k)
    else getValue E v (← toPropertyKey E k)

inductive Place where
  | name (n : String)
  | member (object : Value) (key : PropKey)
  | superMember (base : Value) (key : PropKey)

def placeOf (env : Env) (target : Expr) : Run Place := do
  match target with
  | .name n => return .name n
  | .member o k =>
    let object ← E.eval env o
    return .member object (← keyOf E env k)
  | .superMember k =>
    let base ← superBase env
    return .superMember base (← keyOf E env k)
  | _ => fail .syntaxError "invalid assignment left-hand side"

def readPlace (env : Env) : Place → Run Value
  | .name n => readName E env n
  | .member o k => getValue E o k
  | .superMember base k => do
    match base with
    | .object a => getFrom E a (← readThis env) k
    | b => getValue E b k

def writePlace (env : Env) (v : Value) : Place → Run Unit
  | .name n => assignName E env n v
  | .member o k => setValue E o k v
  | .superMember _ k => do setValue E (← readThis env) k v

mutual

def bindPattern (env : Env) (mode : BindMode) (v : Value) : Pattern → Run Unit
  | .hole => return ()
  | .name n =>
    match mode with
    | .introduce => initializeName E env n v
    | .assign => assignName E env n v
  | .target e => do writePlace E env v (← placeOf E env e)
  | .array items => do
    let c ← openCursor E v
    match ← attempt (bindItems env mode (some c) items) with
    | .ok (some c) => closeCursor E c
    | .ok none => return ()
    | .error e => throw e
  | .object fields => do
    if v.isNullish then typeError "Cannot convert undefined or null to object"
    bindFields env mode v [] fields
  | .field _ p => bindPattern env mode v p
  | .withDefault p d => do
    let v ← if v.isUndefined then E.eval env d else pure v
    bindPattern env mode v p
  | .rest p => bindPattern env mode v p

-- Gives the items of a sequence to patterns; the result is where the sequence was left, if it did not
-- end.
def bindItems (env : Env) (mode : BindMode) (c : Option Cursor) : List Pattern → Run (Option Cursor)
  | [] => return c
  | .rest p :: _ => do
    let items ← match c with
      | none => pure #[]
      | some c =>
        loop (fun (acc : Array Value × Cursor) => do
          match ← stepCursor E acc.2 with
          | none => return .inr acc.1
          | some (item, c) => return .inl (acc.1.push item, c)) (#[], c) manyRounds
    bindPattern env mode (← newArray items) p
    return none
  | p :: more => do
    match c with
    | none =>
      bindPattern env mode .undefined p
      bindItems env mode none more
    | some c =>
      match ← stepCursor E c with
      | none =>
        bindPattern env mode .undefined p
        bindItems env mode none more
      | some (item, c) =>
        match ← attempt (bindPattern env mode item p) with
        | .ok () => bindItems env mode (some c) more
        | .error e =>
          closeQuietly E c
          throw e

def bindFields (env : Env) (mode : BindMode) (v : Value) (taken : List PropKey) : List Pattern → Run Unit
  | [] => return ()
  | .field key p :: more => do
    let k ← keyOf E env key
    bindPattern env mode (← getValue E v k) p
    bindFields env mode v (k :: taken) more
  | .rest p :: more => do
    let a ← newPlain
    copyProperties E a v taken
    bindPattern env mode (.object a) p
    bindFields env mode v taken more
  | _ :: more => bindFields env mode v taken more

end

-- The values of arguments or array items; a hole stands as none.
def evalItems (env : Env) (acc : Array (Option Value)) : List Expr → Run (Array (Option Value))
  | [] => return acc
  | .absent :: rest => evalItems env (acc.push none) rest
  | .spread e :: rest => do
    let items ← collect E (← E.eval env e)
    evalItems env (acc ++ items.map some) rest
  | e :: rest => do
    let v ← E.eval env e
    evalItems env (acc.push (some v)) rest

def evalArgs (env : Env) (acc : Array Value) : List Expr → Run (Array Value)
  | [] => return acc
  | .spread e :: rest => do
    let items ← collect E (← E.eval env e)
    evalArgs env (acc ++ items) rest
  | e :: rest => do
    let v ← E.eval env e
    evalArgs env (acc.push v) rest

def evalTemplate (env : Env) (acc : Units) : List Units → List Expr → Run Value
  | s :: strings, e :: parts => do
    let v ← E.eval env e
    let u ← toUnits E v
    evalTemplate env (← checkString (acc ++ s ++ u)) strings parts
  | s :: _, [] => return .string (acc ++ s)
  | [], _ => return .string acc

def evalTagged (env : Env) (fn this : Value) (cooked : List (Option Units)) (raw : List Units)
    (parts : List Expr) : Run Value := do
  let strings ← newArray (cooked.map fun u => match u with
    | some u => Value.string u
    | none => .undefined).toArray
  let raws ← newArray (raw.map Value.string).toArray
  match strings, raws with
  | .object s, .object r =>
    modifyObj r fun o => { o with extensible := false }
    putOwn s (.ofString "raw") (.fixed raws)
    modifyObj s fun o => { o with extensible := false }
  | _, _ => pure ()
  E.call fn this (← evalArgs E env #[strings] parts)

def prototypeFor (newTarget : Value) (default_ : Intrinsic) : Run Addr := do
  match newTarget with
  | .object a =>
    match ← getOf E a prototypeKey with
    | .object p => return p
    | _ => return default_.addr
  | _ => return default_.addr

def newRegExp (p : RegExp.Program) (source flags : Units) (parent : Addr) : Run Value := do
  let props := PropTable.empty.insert lastIndexKey ⟨.data (.number 0.0) true, false, false⟩
  let a ← alloc ⟨some parent, props, true, .regexp p source flags⟩
  return .object a

def evalRegExp (source flags : Units) : Run Value := do
  match RegExp.compile source flags with
  | some p => newRegExp p source flags Intrinsic.regexpPrototype.addr
  | none => syntaxError "invalid regular expression"

def evalConstant : Constant → Value
  | .null => .null
  | .bool b => .bool b
  | .number x => .number x
  | .bigint n => .bigint n
  | .string u => .string u

def functionName (k : PropKey) : Run Value := do
  match k with
  | .symbol id =>
    match ((← get).symbols[id]?).join with
    | some u => return .string (Units.ofString "[" ++ u ++ Units.ofString "]")
    | none => return .text ""
  | k => return k.toValue

def prefixed (word : String) (name : Value) : Value :=
  match name with
  | .string u => .string (Units.ofString word ++ u)
  | v => v

def putAccessor (a : Addr) (k : PropKey) (get set : Option Value) (enumerable : Bool) : Run Unit := do
  let (g, s) := match ← ownProperty? a k with
    | some ⟨.accessor g s, _, _⟩ => (g, s)
    | _ => (.undefined, .undefined)
  putOwn a k ⟨.accessor (get.getD g) (set.getD s), enumerable, true⟩

def putMethod (env : Env) (a : Addr) (k : PropKey) (f : Function) (enumerable : Bool) : Run Unit := do
  let fn ← makeFunction env f (some a)
  let name ← functionName k
  match f.info.kind with
  | .getter =>
    putOwn fn nameKey (.readable (prefixed "get " name))
    putAccessor a k (some (.object fn)) none enumerable
  | .setter =>
    putOwn fn nameKey (.readable (prefixed "set " name))
    putAccessor a k none (some (.object fn)) enumerable
  | _ =>
    putOwn fn nameKey (.readable name)
    putOwn a k ⟨.data (.object fn) true, enumerable, true⟩

def isAnonymousFunction : Expr → Bool
  | .function f => f.info.name.isEmpty
  | .classExpr none _ _ _ _ => true
  | _ => false

def evalNamed (env : Env) (k : PropKey) (e : Expr) : Run Value := do
  let v ← E.eval env e
  match v with
  | .object a =>
    if isAnonymousFunction e then
      let isUnnamed := match ← ownProperty? a nameKey with
        | some ⟨.data (.string u) _, _, _⟩ => u.size == 0
        | _ => false
      if isUnnamed then putOwn a nameKey (.readable (← functionName k))
    return v
  | v => return v

def evalFields (env : Env) (a : Addr) : List Field → Run Unit
  | [] => return ()
  | .mk kind _ key value :: rest => do
    match kind, value with
    | .spread, e => copyProperties E a (← E.eval env e) []
    | .proto, e =>
      match ← E.eval env e with
      | .object p => modifyObj a fun o => { o with parent := some p }
      | .null => modifyObj a fun o => { o with parent := none }
      | _ => pure ()
    | .method, .function f =>
      let k ← keyOf E env key
      putMethod env a k f true
    | _, e =>
      let k ← keyOf E env key
      putOwn a k (.plain (← evalNamed E env k e))
    evalFields env a rest

def evalObject (env : Env) (fields : List Field) : Run Value := do
  let a ← newPlain
  evalFields E env a fields
  return .object a

-- A function and what it is called on; an optional link that finds nothing ends its chain.
def evalCallee (env : Env) : Expr → Run (Value × Value)
  | .member o k => do
    let object ← E.eval env o
    match k with
    | .constant (.string u) => return (← getValue E object (.ofUnits u), object)
    | k => return (← readMember E object (← E.eval env k), object)
  | .superMember k => do
    let this ← readThis env
    let base ← superBase env
    let key ← keyOf E env k
    match base with
    | .object a => return (← getFrom E a this key, this)
    | b => return (← getValue E b key, this)
  | .paren e => evalCallee env e
  | .optional e => do
    let (f, this) ← evalCallee env e
    if f.isNullish then throw .chainEnded
    return (f, this)
  | .chain e => do
    match ← attempt (evalCallee env e) with
    | .ok r => return r
    | .error .chainEnded => return (.undefined, .undefined)
    | .error e => throw e
  | e => do return (← E.eval env e, .undefined)

def evalCall (env : Env) (callee : Expr) (args : List Expr) : Run Value := do
  let (f, this) ← evalCallee E env callee
  E.call f this (← evalArgs E env #[] args)

def evalNew (env : Env) (callee : Expr) (args : List Expr) : Run Value := do
  let f ← E.eval env callee
  let args ← evalArgs E env #[] args
  if !(← isConstructor f) then
    if ← isCallable f then typeError "not a constructor" else typeError "not a function"
  E.construct f args f

def initializeFields (this : Value) (callee : Addr) : Run Unit := do
  match ← kindOf callee, this with
  | .closure c, .object a =>
    for (k, f) in c.fields do
      let v ← if f.isUndefined then pure .undefined else E.call f this #[]
      putOwn a k (.plain v)
  | _, _ => return ()

def evalSuperCall (env : Env) (args : List Expr) : Run Value := do
  match env.callee, env.this with
  | some callee, .pending cell =>
    let parent := Value.ofAddr? (← getObj callee).parent
    let args ← evalArgs E env #[] args
    if !(← isConstructor parent) then typeError "not a constructor"
    let this ← E.construct parent args env.newTarget
    if (← getCell cell).isSome then fail .referenceError "'this' can be initialized only once"
    setCell cell this
    initializeFields E this callee
    return this
  | _, _ => fail .syntaxError "super() is only valid in derived class constructors"

def evalMember (env : Env) (o k : Expr) : Run Value := do
  let object ← E.eval env o
  match k with
  | .constant (.string u) => getValue E object (.ofUnits u)
  | k => readMember E object (← E.eval env k)

def evalTypeOf (env : Env) (e : Expr) : Run Value := do
  match e.unparen with
  | .name n =>
    match ← readName? E env n with
    | some v => return .text (← typeName v)
    | none => return .text "undefined"
  | e => return .text (← typeName (← E.eval env e))

def deleteMember (object : Value) (k : PropKey) : Run Value := do
  let a ← toObject object
  if ← deleteOwn a k then return .bool true else typeError "could not delete property"

def evalDelete (env : Env) (e : Expr) : Run Value := do
  match e.unparen with
  | .member o k =>
    let object ← E.eval env o
    deleteMember object (← keyOf E env k)
  | .superMember _ => fail .referenceError "unsupported reference to 'super'"
  | .chain (.member o k) =>
    match ← attempt (E.eval env o) with
    | .ok object => deleteMember object (← keyOf E env k)
    | .error .chainEnded => return .bool true
    | .error e => throw e
  | e =>
    let _ ← E.eval env e
    return .bool true

def negate (v : Value) : Run Value := do
  match ← toNumeric E v with
  | .number x => return .number (-x)
  | .bigint n => return .bigint (-n)

def plus (v : Value) : Run Value := do
  match v with
  | .number x => return .number x
  | v =>
    match ← toPrimitive E .number v with
    | .bigint _ => typeError "BigInt argument with unary +"
    | p => return .number (← primitiveToNumber p)

def complement (v : Value) : Run Value := do
  match ← toNumeric E v with
  | .number x => return .number (Double.ofWhole (-(Number.toInt32 x) - 1))
  | .bigint n => return .bigint (-n - 1)

def evalUnary (env : Env) (op : UnaryOp) (e : Expr) : Run Value := do
  match op with
  | .typeOf => evalTypeOf E env e
  | .delete => evalDelete E env e
  | .not => return .bool (!toBool (← E.eval env e))
  | .negate => negate E (← E.eval env e)
  | .plus => plus E (← E.eval env e)
  | .complement => complement E (← E.eval env e)
  | .discard =>
    let _ ← E.eval env e
    return .undefined

def evalUpdate (env : Env) (delta : Int) (isPrefix : Bool) (target : Expr) : Run Value := do
  let place ← placeOf E env target
  match ← toNumeric E (← readPlace E env place) with
  | .number x =>
    let y := x + Double.ofWhole delta
    writePlace E env (.number y) place
    return .number (if isPrefix then y else x)
  | .bigint n =>
    writePlace E env (.bigint (n + delta)) place
    return .bigint (if isPrefix then n + delta else n)

def evalBinary (env : Env) (op : BinaryOp) (a b : Expr) : Run Value := do
  let x ← E.eval env a
  let y ← E.eval env b
  binaryOp E op x y

def decides (op : LogicalOp) (v : Value) : Bool :=
  match op with
  | .and => !toBool v
  | .or => toBool v
  | .coalesce => !v.isNullish

def evalLogical (env : Env) (op : LogicalOp) (a b : Expr) : Run Value := do
  let v ← E.eval env a
  if decides op v then return v else E.eval env b

def evalConditional (env : Env) (test yes no : Expr) : Run Value := do
  if toBool (← E.eval env test) then E.eval env yes else E.eval env no

def evalAssign (env : Env) (target : Pattern) (value : Expr) : Run Value := do
  match target with
  | .name n =>
    let v ← E.eval env value
    assignName E env n v
    return v
  | .target (.member o k) =>
    let object ← E.eval env o
    match k with
    | .constant (.string u) =>
      let v ← E.eval env value
      setValue E object (.ofUnits u) v
      return v
    | k =>
      let key ← E.eval env k
      let v ← E.eval env value
      setValue E object (← toPropertyKey E key) v
      return v
  | .target e =>
    let place ← placeOf E env e
    let v ← E.eval env value
    writePlace E env v place
    return v
  | p =>
    let v ← E.eval env value
    bindPattern E env .assign v p
    return v

def evalCompound (env : Env) (op : BinaryOp) (target value : Expr) : Run Value := do
  let place ← placeOf E env target
  let old ← readPlace E env place
  let v ← E.eval env value
  let new ← binaryOp E op old v
  writePlace E env new place
  return new

def evalLogicalAssign (env : Env) (op : LogicalOp) (target value : Expr) : Run Value := do
  let place ← placeOf E env target
  let old ← readPlace E env place
  if decides op old then return old
  let v ← E.eval env value
  writePlace E env v place
  return v

def evalChain (env : Env) (e : Expr) : Run Value := do
  match ← attempt (E.eval env e) with
  | .ok v => return v
  | .error .chainEnded => return .undefined
  | .error e => throw e

def evalOptional (env : Env) (e : Expr) : Run Value := do
  let v ← E.eval env e
  if v.isNullish then throw .chainEnded else return v

def restName : String := "args"

def defaultMaker (isDerived : Bool) (source : Units) : Function :=
  if isDerived then
    .mk ⟨"", .derivedConstructor, false, false, 0, source, [], [], false, false⟩ [.rest (.name restName)]
      [.expr (.superCall [.spread (.name restName)])]
  else .mk ⟨"", .classConstructor, false, false, 0, source, [], [], false, false⟩ [] []

def classParents (parent : Option Value) : Run (Option Addr × Addr) := do
  match parent with
  | none => return (some Intrinsic.objectPrototype.addr, Intrinsic.functionPrototype.addr)
  | some .null => return (none, Intrinsic.functionPrototype.addr)
  | some (.object a) =>
    if !(← isConstructor (.object a)) then typeError "parent class must be constructor"
    match ← getOf E a prototypeKey with
    | .object p => return (some p, a)
    | .null => return (none, a)
    | _ => typeError "parent prototype must be an object or null"
  | some _ => typeError "parent class must be constructor"

def evalMembers (env : Env) (maker proto : Addr) (fields late : List (PropKey × Value)) :
    List Field → Run (List (PropKey × Value) × List (PropKey × Value))
  | [] => return (fields.reverse, late.reverse)
  | .mk kind isStatic key value :: rest => do
    let home := if isStatic then maker else proto
    match kind, value with
    | .method, .function f =>
      putMethod env home (← keyOf E env key) f false
      evalMembers env maker proto fields late rest
    | .block, .function f =>
      let fn ← makeFunction env f (some maker)
      evalMembers env maker proto fields ((.name #[], .object fn) :: late) rest
    | .value, value =>
      let k ← keyOf E env key
      let fn ← match value with
        | .function f => Value.object <$> makeFunction env f (some home)
        | _ => pure .undefined
      if isStatic then evalMembers env maker proto fields ((k, fn) :: late) rest
      else evalMembers env maker proto ((k, fn) :: fields) late rest
    | _, _ => evalMembers env maker proto fields late rest

def evalClass (env : Env) (name : Option String) (parent maker : Expr) (members : List Field)
    (source : Units) : Run Value := do
  let env ← match name with
    | some n => declareNames env [(n, false)]
    | none => pure env
  let (isDerived, parentValue) ← match parent with
    | .absent => pure (false, none)
    | e => do pure (true, some (← E.eval env e))
  let (protoParent, makerParent) ← classParents E parentValue
  let proto ← newOrdinary protoParent .ordinary
  let f := match maker with
    | .function f => f
    | _ => defaultMaker isDerived source
  let f := f.withInfo fun i => { i with name := name.getD "", source }
  let fn ← makeFunction env f (some proto)
  modifyObj fn fun o => { o with parent := some makerParent }
  putOwn fn prototypeKey (.fixed (.object proto))
  putOwn proto constructorKey (.hidden (.object fn))
  let (fields, late) ← evalMembers E env fn proto [] [] members
  modifyObj fn fun o => match o.kind with
    | .closure c => { o with kind := .closure { c with fields } }
    | _ => o
  if let some n := name then initializeName E env n (.object fn)
  for (k, f) in late do
    let v ← if f.isUndefined then pure .undefined else E.call f (.object fn) #[]
    if k != .name #[] then putOwn fn k (.plain v)
  return .object fn

def evalExpr (env : Env) : Expr → Run Value
  | .absent => return .undefined
  | .constant c => return evalConstant c
  | .name n => readName E env n
  | .this => readThis env
  | .newTarget => return env.newTarget
  | .template strings parts => evalTemplate E env #[] strings parts
  | .tagged tag cooked raw parts => do
    let (f, this) ← evalCallee E env tag
    evalTagged E env f this cooked raw parts
  | .regexp source flags => evalRegExp source flags
  | .array items => do
    let items ← evalItems E env #[] items
    return .object (← newOrdinary (some Intrinsic.arrayPrototype.addr) (.array items items.size false))
  | .object fields => evalObject E env fields
  | .function f => do
    if f.info.bindsSelf then
      let cell ← newCell none
      let a ← makeFunction (env.bind f.info.name cell false) f none
      setCell cell (.object a)
      return .object a
    else return .object (← makeFunction env f none)
  | .classExpr name parent maker members source => evalClass E env name parent maker members source
  | .paren e => E.eval env e
  | .spread e => E.eval env e
  | .unary op e => evalUnary E env op e
  | .update delta isPrefix target => evalUpdate E env delta isPrefix target
  | .binary op a b => evalBinary E env op a b
  | .logical op a b => evalLogical E env op a b
  | .conditional test yes no => evalConditional E env test yes no
  | .assign target value => evalAssign E env target value
  | .compound op target value => evalCompound E env op target value
  | .logicalAssign op target value => evalLogicalAssign E env op target value
  | .comma a b => do
    let _ ← E.eval env a
    E.eval env b
  | .member o k => evalMember E env o k
  | .superMember k => do
    let base ← superBase env
    readPlace E env (.superMember base (← keyOf E env k))
  | .call callee args => evalCall E env callee args
  | .new callee args => evalNew E env callee args
  | .superCall args => evalSuperCall E env args
  | .optional e => evalOptional E env e
  | .chain e => evalChain E env e
  | .await e => do
    let _ ← E.eval env e
    throw .suspended
  | .yield e => do
    let _ ← E.eval env e
    throw .suspended

end BoundedScript.Script
