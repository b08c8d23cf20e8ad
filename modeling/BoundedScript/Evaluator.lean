import BoundedScript.Config.Basic
import BoundedScript.Script.Session
import BoundedScript.Template

set_option autoImplicit false

namespace BoundedScript

inductive Primitive where
  | null
  | bool (b : Bool)
  | number (x : Float)
  | string (s : String)
  | bigint (n : Int)

namespace Primitive

-- The text of a number: never an exponent, no fraction when it is whole, and no sign for zero.
def numberText (x : Float) : String :=
  if x.isNaN then "NaN"
  else if x.isInf then (if x < 0.0 then "-Infinity" else "Infinity")
  else if x == 0.0 then "0"
  else Double.render .positional x

def text : Primitive → String
  | .null => ""
  | .bool b => toString b
  | .number x => numberText x
  | .string s => s
  | .bigint n => toString n

-- Whole numbers below `2 ^ 63` in size are integers, what is not finite is null.
def numberJson (x : Float) : Json :=
  match Double.toInt? x with
  | some n => if n.natAbs < 0x8000_0000_0000_0000 then .int n else .float x
  | none => if x.isFinite then .float x else .null

def toJson : Primitive → Json
  | .null => .null
  | .bool b => .bool b
  | .number x => numberJson x
  | .string s => .string s
  | .bigint n => .string (toString n)

end Primitive

namespace Evaluator

open Script

abbrev Bindings := List (String × Json)

def install : Bindings → Run (Except Fault Unit)
  | [] => return .ok ()
  | (name, document) :: rest => do
    match ← Session.guarded do
        let v ← JsonObject.ofJson document
        setOf Engine.full Intrinsic.global.addr (.ofString name) v with
    | .ok () => install rest
    | .error text => return .error (.runtimeFault text)

def exportPrimitive (v : Value) : Except Fault Primitive :=
  match v with
  | .undefined => .error .noValue
  | .null => .ok .null
  | .bool b => .ok (.bool b)
  | .number x => .ok (.number x)
  | .bigint n => .ok (.bigint n)
  | .string u =>
    match u.toText with
    | .ok s => .ok (.string s)
    | .error i =>
      .error (.runtimeFault
        ("Conversion from string failed: invalid utf-8 sequence of 1 bytes from index " ++ toString i))
  | .symbol _ => .error (.runtimeFault "expression produced a symbol, expected a primitive")
  | .object _ => .error (.runtimeFault "expression produced an object, expected a primitive")

def source (expression : String) : String :=
  "\"use strict\"; (" ++ expression ++ ")"

def task (expression : String) (bindings : Bindings) : Run (Except Fault Primitive) := do
  match ← install bindings with
  | .error f => return .error f
  | .ok () =>
    match ← Session.outcome (source expression) with
    | .error text => return .error (.runtimeFault text)
    | .ok v => return exportPrimitive v

def evaluate (config : EvaluatorConfig) (expression : String) (bindings : Bindings)
    (clock : Session.Clock := Session.stepsFor) : Except Fault Primitive := do
  match Expression.validate expression with
  | .error r => .error (.rejected r)
  | .ok expression =>
    match bindings.find? fun b => !Expression.isIdentifier b.1 with
    | some (name, _) => .error (.invalidIdentifier name)
    | none => Session.run ⟨config.timeout, config.memoryLimit.toNat⟩ (task expression bindings) clock

def textsBy (evaluate : String → Bindings → Except Fault Primitive) (bindings : Bindings) :
    Template.Substitution := fun e =>
  (evaluate e bindings).map Primitive.text

def substitution (config : EvaluatorConfig) (bindings : Bindings)
    (clock : Session.Clock := Session.stepsFor) : Template.Substitution :=
  textsBy (fun e bindings => evaluate config e bindings clock) bindings

end Evaluator
end BoundedScript
