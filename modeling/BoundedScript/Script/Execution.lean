import BoundedScript.Script.Evaluation

set_option autoImplicit false

namespace BoundedScript.Script

open Run

variable (E : Engine)

def execList (env : Env) : List Stmt → Run Completion
  | [] => return .normal
  | s :: rest => do
    match ← E.exec env s with
    | .normal => execList env rest
    | c => return c

def execBlock (env : Env) (scope : List (String × Bool)) (body : List Stmt) : Run Completion := do
  let env ← if scope.isEmpty then pure env else declareNames env scope
  hoistFunctions E env body
  execList E env body

def afterBody (labels : List String) : Completion → Option Completion
  | .normal => none
  | .continued none => none
  | .continued (some l) => if labels.contains l then none else some (.continued (some l))
  | .broke none => some .normal
  | c => some c

def testHolds (env : Env) (test : Expr) : Run Bool := do
  match test with
  | .absent => return true
  | test => return toBool (← E.eval env test)

def execWhile (env : Env) (labels : List String) (test : Expr) (body : Stmt) : Run Completion :=
  loop (fun () => do
    if !(← testHolds E env test) then return .inr .normal
    match afterBody labels (← E.exec env body) with
    | none => return .inl ()
    | some c => return .inr c) () manyRounds

def execDoWhile (env : Env) (labels : List String) (body : Stmt) (test : Expr) : Run Completion :=
  loop (fun () => do
    match afterBody labels (← E.exec env body) with
    | some c => return .inr c
    | none => if ← testHolds E env test then return .inl () else return .inr .normal) () manyRounds

-- The same names in cells of their own, with the values they have.
def freshNames (env outer : Env) (scope : List (String × Bool)) : Run Env := do
  scope.foldlM (fun (e : Env) (n, mutable) => do
    let v ← match env.lookup? n with
      | some b => getCell b.cell
      | none => pure none
    return e.bind n (← newCell v) mutable) outer

def execFor (outer : Env) (labels : List String) (scope : List (String × Bool)) (fresh : Bool)
    (init : Stmt) (test update : Expr) (body : Stmt) : Run Completion := do
  let env ← declareNames outer scope
  let _ ← E.exec env init
  let renew (env : Env) : Run Env :=
    if fresh && !scope.isEmpty then freshNames env outer scope else pure env
  loop (fun (env : Env) => do
    if !(← testHolds E env test) then return .inr .normal
    match afterBody labels (← E.exec env body) with
    | some c => return .inr c
    | none =>
      let env ← renew env
      match update with
      | .absent => return .inl env
      | update =>
        let _ ← E.eval env update
        return .inl env) (← renew env) manyRounds

def bindRound (outer : Env) (scope : List (String × Bool)) (kind : Option DeclareKind) (target : Pattern)
    (v : Value) : Run Env := do
  let env ← declareNames outer scope
  let mode : BindMode := match kind with
    | some .letKind | some .const => .introduce
    | _ => .assign
  bindPattern E env mode v target
  return env

-- Names of enumerable properties of an object and its parents, nearer ones hiding those further off.
def enumerableKeys (seen : List PropKey) (acc : Array PropKey) (a : Addr) : (fuel : Nat) → Run (Array PropKey)
  | 0 => return acc
  | fuel + 1 => do
    let o ← getObj a
    let keys := o.ownKeys.filter fun k => match k with
      | .symbol _ => false
      | k => !seen.contains k
    let acc := keys.foldl (fun (acc : Array PropKey) k =>
      if (o.own? k).any (·.enumerable) then acc.push k else acc) acc
    match o.parent with
    | none => return acc
    | some b =>
      let p ← getObj b
      if p.parent.isNone && p.props.entries.isEmpty then return acc
      else enumerableKeys (keys ++ seen) acc b fuel

def execForIn (env : Env) (labels : List String) (scope : List (String × Bool)) (kind : Option DeclareKind)
    (target : Pattern) (source : Expr) (body : Stmt) : Run Completion := do
  let v ← E.eval (← declareNames env scope) source
  if v.isNullish then return .normal
  let a ← toObject v
  let keys ← enumerableKeys [] #[] a maxParents
  loop (fun (i : Nat) => do
    match keys[i]? with
    | none => return .inr .normal
    | some k =>
      if !(← hasProperty a k) then return .inl (i + 1)
      let inner ← bindRound E env scope kind target k.toValue
      match afterBody labels (← E.exec inner body) with
      | none => return .inl (i + 1)
      | some c => return .inr c) 0 manyRounds

def execForOf (env : Env) (labels : List String) (scope : List (String × Bool)) (kind : Option DeclareKind)
    (target : Pattern) (source : Expr) (body : Stmt) : Run Completion := do
  let v ← E.eval (← declareNames env scope) source
  match ← iterate E v () (fun () item => do
      let inner ← bindRound E env scope kind target item
      match afterBody labels (← E.exec inner body) with
      | none => return .inl ()
      | some c => return .inr c) with
  | .inl () => return .normal
  | .inr c => return c

-- A statement under labels: loops take them, and a break to one of them ends the statement.
def execLabelled (env : Env) (labels : List String) : Stmt → Run Completion
  | .labelled l body => do
    match ← execLabelled env (l :: labels) body with
    | .broke (some m) => return if m == l then .normal else .broke (some m)
    | c => return c
  | .whileDo test body => execWhile E env labels test body
  | .doWhile body test => execDoWhile E env labels body test
  | .forLoop scope fresh init test update body => execFor E env labels scope fresh init test update body
  | .forIn scope kind target source body => execForIn E env labels scope kind target source body
  | .forOf scope kind target source body => execForOf E env labels scope kind target source body
  | s => E.exec env s

def execDeclare (env : Env) (kind : DeclareKind) (target : Pattern) (value : Expr) : Run Completion := do
  match kind, value with
  | .var, .absent => return .normal
  | _, value =>
    let v ← E.eval env value
    let mode : BindMode := match kind with
      | .var => .assign
      | _ => .introduce
    bindPattern E env mode v target
    return .normal

def runHandler (env : Env) (scope : List (String × Bool)) (param : Pattern) (handler : Stmt) (v : Value) :
    Run Completion := do
  let env ← declareNames env scope
  bindPattern E env .introduce v param
  E.exec env handler

def execTry (env : Env) (body : Stmt) (hasHandler : Bool) (scope : List (String × Bool)) (param : Pattern)
    (handler : Stmt) (hasFinalizer : Bool) (finalizer : Stmt) : Run Completion := do
  let guarded : Run Completion :=
    if hasHandler then do
      match ← attempt (E.exec env body) with
      | .ok c => return c
      | .error (.thrown v) => runHandler E env scope param handler v
      | .error e => throw e
    else E.exec env body
  if !hasFinalizer then guarded
  else
    let outcome ← attempt guarded
    match outcome with
    | .error .interrupted => throw .interrupted
    | outcome =>
      match ← E.exec env finalizer with
      | .normal =>
        match outcome with
        | .ok c => return c
        | .error e => throw e
      | c => return c

def selectCase (env : Env) (v : Value) : List Stmt → Run (Option (List Stmt))
  | [] => return none
  | .case false test body :: rest => do
    if strictEqual v (← E.eval env test) then return some (.case false test body :: rest)
    else selectCase env v rest
  | _ :: rest => selectCase env v rest

def fromDefault : List Stmt → List Stmt
  | [] => []
  | .case true test body :: rest => .case true test body :: rest
  | _ :: rest => fromDefault rest

def execCases (env : Env) : List Stmt → Run Completion
  | .case _ _ body :: rest => do
    match ← execList E env body with
    | .normal => execCases env rest
    | .broke none => return .normal
    | c => return c
  | _ => return .normal

def caseBodies : List Stmt → List Stmt
  | .case _ _ body :: rest => body ++ caseBodies rest
  | _ => []

def execSwitch (env : Env) (value : Expr) (scope : List (String × Bool)) (cases : List Stmt) :
    Run Completion := do
  let v ← E.eval env value
  let env ← declareNames env scope
  hoistFunctions E env (caseBodies cases)
  match ← selectCase E env v cases with
  | some selected => execCases E env selected
  | none => execCases E env (fromDefault cases)

def execStmt (env : Env) : Stmt → Run Completion
  | .empty => return .normal
  | .expr e => do
    let _ ← E.eval env e
    return .normal
  | .declare kind target value => execDeclare E env kind target value
  | .group items => execList E env items
  | .function _ => return .normal
  | .classDecl n e => do
    initializeName E env n (← E.eval env e)
    return .normal
  | .return e => do return .returned (← E.eval env e)
  | .ifElse test yes no => do
    if toBool (← E.eval env test) then E.exec env yes else E.exec env no
  | .whileDo test body => execWhile E env [] test body
  | .doWhile body test => execDoWhile E env [] body test
  | .forLoop scope fresh init test update body => execFor E env [] scope fresh init test update body
  | .forIn scope kind target source body => execForIn E env [] scope kind target source body
  | .forOf scope kind target source body => execForOf E env [] scope kind target source body
  | .block scope body => execBlock E env scope body
  | .breakTo l => return .broke l
  | .continueTo l => return .continued l
  | .labelled l body => execLabelled E env [] (.labelled l body)
  | .throw e => do throwValue (← E.eval env e)
  | .tryCatch body hasHandler scope param handler hasFinalizer finalizer =>
    execTry E env body hasHandler scope param handler hasFinalizer finalizer
  | .switch value scope cases => execSwitch E env value scope cases
  | .case _ _ _ => return .normal

def makeArguments (args : Array Value) : Run Value := do
  let a ← newOrdinary (some Intrinsic.objectPrototype.addr) .arguments
  putOwn a lengthKey (.hidden (.nat args.size))
  let values ← ownProperty? Intrinsic.arrayPrototype.addr (.ofString "values")
  match values with
  | some p => putOwn a WellKnown.iterator.key ⟨p.slot, false, true⟩
  | none => pure ()
  for h : i in [0:args.size] do
    putOwn a (.index i) (.plain args[i])
  return .object a

def bindParams (env : Env) (args : Array Value) (i : Nat) : List Pattern → Run Unit
  | [] => return ()
  | .rest p :: _ => do
    bindPattern E env .introduce (← newArray (args.extract i args.size)) p
  | p :: more => do
    bindPattern E env .introduce (arg args i) p
    bindParams env args (i + 1) more

def plainNames : List Pattern → Option (List String)
  | [] => some []
  | .name n :: more => (plainNames more).map (n :: ·)
  | _ => none

def bindPlain (env : Env) (args : Array Value) (i : Nat) : List String → Run Env
  | [] => return env
  | n :: more => do
    let env ← bindValue env n (arg args i) true
    bindPlain env args (i + 1) more

def runBody (env : Env) (f : Function) (params : List String) : Run (Option Value) := do
  let info := f.info
  let env ← info.vars.foldlM (fun (env : Env) n =>
    if params.contains n then pure env else bindValue env n .undefined true) env
  let env ← declareNames env info.lexicals
  hoistFunctions E env f.body
  match ← execList E env f.body with
  | .returned v => return some v
  | _ => return none

def runFunction (env : Env) (f : Function) (args : Array Value) : Run (Option Value) := do
  let env ← if f.info.usesArguments then bindValue env "arguments" (← makeArguments args) true else pure env
  match plainNames f.params with
  | some names => runBody E (← bindPlain env args 0 names) f names
  | none =>
    let names := Pattern.boundNamesOf f.params
    let env ← declareNames env (names.map fun n => (n, true))
    bindParams E env args 0 f.params
    runBody E env f names

def maxCalls : Nat := 800

def nested {α : Type} (x : Run α) : Run α := do
  tick
  if maxCalls ≤ (← get).callDepth then rangeError "Maximum call stack size exceeded"
  fun s =>
    match x { s with callDepth := s.callDepth + 1 } with
    | .ok a s => .ok a { s with callDepth := s.callDepth - 1 }
    | .error e s => .error e { s with callDepth := s.callDepth - 1 }

def newPromise : Run Value := do
  return .object (← newOrdinary (some Intrinsic.promisePrototype.addr) .promise)

def callClosure (a : Addr) (c : Closure) (this : Value) (args : Array Value) : Run Value := do
  let info := c.fn.info
  match info.kind with
  | .classConstructor | .derivedConstructor =>
    typeError "class constructors must be invoked with 'new'"
  | kind =>
    let env : Env := match kind with
      | .arrow => { c.env with isScript := false }
      | _ => ⟨c.env.vars, .value this, .undefined, c.home, some a, false⟩
    if info.isGenerator then
      match ← getOf E a prototypeKey with
      | .object p => return .object (← newOrdinary (some p) .generator)
      | _ => return .object (← newOrdinary (some Intrinsic.generatorPrototype.addr) .generator)
    else if info.isAsync then
      match ← attempt (nested (runFunction E env c.fn args)) with
      | .error .interrupted => throw .interrupted
      | _ => newPromise
    else
      return (← nested (runFunction E env c.fn args)).getD .undefined

def constructClosure (a : Addr) (c : Closure) (args : Array Value) (newTarget : Value) : Run Value := do
  match c.fn.info.kind with
  | .derivedConstructor =>
    let cell ← newCell none
    let env : Env := ⟨c.env.vars, .pending cell, newTarget, c.home, some a, false⟩
    match ← nested (runFunction E env c.fn args) with
    | some (.object o) => return .object o
    | some v =>
      if v.isUndefined then readThis env else typeError "derived class constructor must return an object or undefined"
    | none => readThis env
  | _ =>
    let proto ← prototypeFor E newTarget .objectPrototype
    let this := Value.object (← newOrdinary (some proto) .ordinary)
    initializeFields E this a
    let env : Env := ⟨c.env.vars, .value this, newTarget, c.home, some a, false⟩
    match ← nested (runFunction E env c.fn args) with
    | some (.object o) => return .object o
    | _ => return this

def execScript (env : Env) (last : Value) : List Stmt → Run Value
  | [] => return last
  | .expr e :: rest => do
    let v ← E.eval env e
    execScript env v rest
  | s :: rest => do
    match ← E.exec env s with
    | .normal => execScript env last rest
    | _ => return last

-- Runs a script: its `var` names and functions become properties of the global object.
def runProgram (p : Program) : Run Value := do
  let env : Env := ⟨[], .value Intrinsic.global.value, .undefined, none, none, true⟩
  for n in p.vars do
    if (← ownProperty? Intrinsic.global.addr (globalKey n)).isNone then
      putOwn Intrinsic.global.addr (globalKey n) ⟨.data .undefined true, true, false⟩
  let env ← declareNames env p.lexicals
  hoistFunctions E env p.body
  execScript E env .undefined p.body

end BoundedScript.Script
