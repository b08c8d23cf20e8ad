import BoundedScript.Script.Builtin.Collection
import BoundedScript.Script.Builtin.Date
import BoundedScript.Script.Builtin.Error
import BoundedScript.Script.Builtin.Function
import BoundedScript.Script.Builtin.Json
import BoundedScript.Script.Builtin.Math
import BoundedScript.Script.Builtin.RegExp
import BoundedScript.Script.Execution

set_option autoImplicit false

namespace BoundedScript.Script

open Run

section
variable (E : Engine)

-- Runs one of the interpreter's own functions; `newTarget` is there when `new` called it.
def callNative (f : Native) (this : Value) (args : Array Value) (newTarget : Option Value) : Run Value :=
  match f with
  | .global f => f.run E args
  | .math f => f.run E args
  | .object f => f.run E this args newTarget
  | .function f => f.run E this args
  | .error f => f.run E this args newTarget
  | .array f => ArrayObject.run E f this args newTarget
  | .string f => StringObject.run E f this args newTarget
  | .number f => f.run E this args newTarget
  | .boolean f => f.run E this args newTarget
  | .symbol f => f.run E this args newTarget
  | .bigint f => f.run E this args newTarget
  | .json f => JsonObject.run E f args
  | .map f => f.run E this args newTarget
  | .set f => f.run E this args newTarget
  | .regexp f => RegExpObject.run E f this args newTarget
  | .date f => DateObject.run E f this args newTarget
  | .iterator .self => return this
  | .iterator .next => do
    match this with
    | .object a =>
      match ← kindOf a with
      | .matchIterator _ _ _ _ _ => RegExpObject.advanceMatches E this
      | _ => IteratorFn.advance E this
    | _ => typeError "not an object"
  | .reflect f => f.run E args
  | .promise f => f.run E args newTarget

def callFunction (fn this : Value) (args : Array Value) : Run Value := do
  match fn with
  | .object a =>
    match ← kindOf a with
    | .closure c => callClosure E a c this args
    | .native f => callNative E f this args none
    | .bound target receiver front => E.call target receiver (front.toArray ++ args)
    | _ => typeError "not a function"
  | _ => typeError "not a function"

def constructObject (fn : Value) (args : Array Value) (newTarget : Value) : Run Value := do
  match fn with
  | .object a =>
    match ← kindOf a with
    | .closure c => constructClosure E a c args newTarget
    | .native f =>
      if f.isConstructor then callNative E f .undefined args (some newTarget) else typeError "not a constructor"
    | .bound target _ front =>
      E.construct target (front.toArray ++ args) (if sameValue newTarget fn then target else newTarget)
    | _ => typeError "not a constructor"
  | _ => typeError "not a constructor"

end

namespace Engine

def tooDeep {α : Type} : Run α :=
  rangeError "Maximum call stack size exceeded"

def exhausted : Engine where
  eval _ _ := tooDeep
  exec _ _ := tooDeep
  call _ _ _ := tooDeep
  construct _ _ _ := tooDeep

def next (E : Engine) : Engine where
  eval := evalExpr E
  exec := execStmt E
  call := callFunction E
  construct := constructObject E

def ofDepth : (depth : Nat) → Engine
  | 0 => exhausted
  | depth + 1 => next (ofDepth depth)

def maxLevels : Nat := 8000

def full : Engine :=
  ofDepth maxLevels

end Engine
end BoundedScript.Script
