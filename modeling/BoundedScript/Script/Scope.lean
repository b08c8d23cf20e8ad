import BoundedScript.Script.Operator

set_option autoImplicit false

namespace BoundedScript.Script

open Run

namespace Env

def lookup? (env : Env) (n : String) : Option Binding :=
  env.vars.find? (·.name == n)

def bind (env : Env) (n : String) (cell : Nat) (mutable : Bool) : Env :=
  { env with vars := ⟨n, cell, mutable⟩ :: env.vars }

end Env

def declareNames (env : Env) : List (String × Bool) → Run Env
  | [] => return env
  | (n, mutable) :: rest => do
    let cell ← newCell none
    declareNames (env.bind n cell mutable) rest

def bindValue (env : Env) (n : String) (v : Value) (mutable : Bool) : Run Env := do
  return env.bind n (← newCell (some v)) mutable

def globalKey (n : String) : PropKey :=
  .ofString n

section
variable (E : Engine)

def notDefined {α : Type} (n : String) : Run α :=
  fail .referenceError (n ++ " is not defined")

def notInitialized {α : Type} (n : String) : Run α :=
  fail .referenceError (n ++ " is not initialized")

def readName? (env : Env) (n : String) : Run (Option Value) := do
  match env.lookup? n with
  | some b =>
    match ← getCell b.cell with
    | some v => return some v
    | none => notInitialized n
  | none =>
    match ← find? Intrinsic.global.addr (globalKey n) with
    | some p => return some (← readSlot E Intrinsic.global.value (some p))
    | none => return none

def readName (env : Env) (n : String) : Run Value := do
  match ← readName? E env n with
  | some v => return v
  | none => notDefined n

def assignName (env : Env) (n : String) (v : Value) : Run Unit := do
  match env.lookup? n with
  | some b =>
    match ← getCell b.cell with
    | none => notInitialized n
    | some _ => if b.mutable then setCell b.cell v else readOnly (.name (Units.ofString n))
  | none =>
    if ← hasProperty Intrinsic.global.addr (globalKey n) then setOf E Intrinsic.global.addr (globalKey n) v
    else notDefined n

def initializeName (env : Env) (n : String) (v : Value) : Run Unit := do
  match env.lookup? n with
  | some b => setCell b.cell v
  | none => setOf E Intrinsic.global.addr (globalKey n) v

def readThis (env : Env) : Run Value := do
  match env.this with
  | .value v => return v
  | .pending cell =>
    match ← getCell cell with
    | some v => return v
    | none => notInitialized "this"

def superBase (env : Env) : Run Value := do
  match env.home with
  | some h => return Value.ofAddr? (← getObj h).parent
  | none => return .undefined

end

inductive BindMode where
  | introduce
  | assign

def functionPrototypeOf (info : FunctionInfo) : Intrinsic :=
  match info.isAsync, info.isGenerator with
  | false, false => .functionPrototype
  | true, false => .asyncFunctionPrototype
  | false, true => .generatorFunctionPrototype
  | true, true => .asyncGeneratorFunctionPrototype

def functionProps (name : Value) (length : Nat) : PropTable :=
  PropTable.empty
    |>.insert lengthKey (.readable (.nat length))
    |>.insert nameKey (.readable name)

def makeFunction (env : Env) (f : Function) (home : Option Addr) : Run Addr := do
  let info := f.info
  let props := functionProps (.text info.name) info.expectedArgs
  let a ← alloc ⟨some (functionPrototypeOf info).addr, props, true, .closure ⟨f, env, home, []⟩⟩
  if info.isGenerator then
    let proto := if info.isAsync then Intrinsic.asyncGeneratorPrototype else .generatorPrototype
    let p ← newOrdinary (some proto.addr) .ordinary
    putOwn a prototypeKey ⟨.data (.object p) true, false, false⟩
  else
    match info.kind with
    | .plain =>
      if !info.isAsync then
        let p ← newPlain
        putOwn p constructorKey (.hidden (.object a))
        putOwn a prototypeKey ⟨.data (.object p) true, false, false⟩
    | _ => pure ()
  return a

def hoistFunctions (E : Engine) (env : Env) : List Stmt → Run Unit
  | [] => return ()
  | .function f :: rest => do
    let a ← makeFunction env f none
    initializeName E env f.info.name (.object a)
    hoistFunctions E env rest
  | _ :: rest => hoistFunctions E env rest

def copyProperties (E : Engine) (target : Addr) (source : Value) (skipped : List PropKey) : Run Unit := do
  if source.isNullish then return ()
  let a ← toObject source
  for k in ← ownKeys a do
    tick
    if !skipped.contains k then
      match ← ownProperty? a k with
      | some p => if p.enumerable then putOwn target k (.plain (← readSlot E (.object a) (some p)))
      | none => pure ()

end BoundedScript.Script
