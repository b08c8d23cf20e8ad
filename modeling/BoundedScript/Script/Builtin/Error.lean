import BoundedScript.Script.Builtin.Global
import BoundedScript.Script.Evaluation

set_option autoImplicit false

namespace BoundedScript.Script

open Run

namespace ErrorClass

def all : List ErrorClass :=
  [.error, .evalError, .rangeError, .referenceError, .syntaxError, .typeError, .uriError, .internalError,
   .aggregateError]

end ErrorClass

namespace ErrorFn

def makeError (E : Engine) (c : ErrorClass) (args : Array Value) (newTarget : Option Value) : Run Value := do
  let proto ← prototypeFor E (newTarget.getD .undefined) c.prototype
  let (message, options) := if c == .aggregateError then (arg args 1, arg args 2) else (arg args 0, arg args 1)
  let a ← newOrdinary (some proto) .error
  if !message.isUndefined then
    putOwn a messageKey (.hidden (.string (← toUnits E message)))
  match options with
  | .object o =>
    let cause := PropKey.ofString "cause"
    if ← hasProperty o cause then putOwn a cause (.hidden (← getOf E o cause))
  | _ => pure ()
  if c == .aggregateError then
    putOwn a (.ofString "errors") (.hidden (← newArray (← collect E (arg args 0))))
  putOwn a stackKey (.hidden (.text runStack))
  return .object a

def textOf (E : Engine) (this : Value) : Run Value := do
  match this with
  | .object a =>
    let name ← getOf E a nameKey
    let name ← if name.isUndefined then pure (Units.ofString "Error") else toUnits E name
    let message ← getOf E a messageKey
    let message ← if message.isUndefined then pure #[] else toUnits E message
    if name.size == 0 then return .string message
    else if message.size == 0 then return .string name
    else return .string (name ++ Units.ofString ": " ++ message)
  | _ => typeError "not an object"

def run (E : Engine) (f : ErrorFn) (this : Value) (args : Array Value) (newTarget : Option Value) :
    Run Value :=
  match f with
  | .make c => makeError E c args newTarget
  | .toString => textOf E this

end ErrorFn
end BoundedScript.Script
