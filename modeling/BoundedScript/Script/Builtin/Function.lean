import BoundedScript.Script.Builtin.Global
import BoundedScript.Script.Iteration
import BoundedScript.Script.Scope

set_option autoImplicit false

namespace BoundedScript.Script.FunctionFn

open Run

def methods : FunctionTable FunctionFn :=
  [("call", .call, 1), ("apply", .apply, 2), ("bind", .bind, 1), ("toString", .toString, 0)]

def nativeText (name : Units) : Units :=
  Units.ofString "function " ++ name ++ Units.ofString "() \x7b\n    [native code]\n\x7d"

def sourceText (E : Engine) (a : Addr) : Run Value := do
  match ← kindOf a with
  | .closure c => return .string c.fn.info.source
  | .native _ | .bound _ _ _ =>
    match ← getOf E a nameKey with
    | .string u => return .string (nativeText u)
    | _ => return .string (nativeText #[])
  | _ => typeError "not a function"

def bindTo (E : Engine) (target : Value) (args : Array Value) : Run Value := do
  match target with
  | .object t =>
    if !(← isCallable target) then typeError "not a function"
    let bound := args.extract 1 args.size
    let length ← match ← ownProperty? t lengthKey with
      | some p =>
        match ← readSlot E target (some p) with
        | .number x => pure (Number.clampNat x Number.maxSafe - bound.size)
        | _ => pure 0
      | none => pure 0
    let name := match ← getOf E t nameKey with
      | .string u => u
      | _ => #[]
    let props := functionProps (.string (Units.ofString "bound " ++ name)) length
    return .object (← alloc ⟨(← getObj t).parent, props, true, .bound target (arg args 0) bound.toList⟩)
  | _ => typeError "not a function"

def run (E : Engine) (f : FunctionFn) (this : Value) (args : Array Value) : Run Value := do
  match f with
  | .nothing => return .undefined
  | .call => E.call this (arg args 0) (args.extract 1 args.size)
  | .apply =>
    if !(← isCallable this) then typeError "not a function"
    if (arg args 1).isNullish then E.call this (arg args 0) #[]
    else E.call this (arg args 0) (← listItems E (arg args 1))
  | .bind => bindTo E this args
  | .toString =>
    match this with
    | .object a => sourceText E a
    | _ => typeError "not a function"
  | .hasInstance =>
    match ← instanceTarget 1000 this with
    | f => if ← isCallable f then return .bool (← ordinaryInstance E f (arg args 0)) else return .bool false

end BoundedScript.Script.FunctionFn
