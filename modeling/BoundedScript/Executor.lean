import BoundedScript.Evaluator
import BoundedScript.Supervisor
import BoundedScript.Text.CaseMap

set_option autoImplicit false

namespace BoundedScript

inductive Isolation where
  | inProcess | process
  deriving DecidableEq

namespace Isolation

def name : Isolation → String
  | .inProcess => "in-process"
  | .process => "process"

def ofName (s : String) : Except Fault Isolation :=
  match Text.lowerText s with
  | "in-process" | "inline" => .ok .inProcess
  | "process" | "sandbox" => .ok .process
  | _ => .error (.invalidInput ("Unknown isolation: " ++ s ++ ". Supported: in-process, process"))

end Isolation

inductive ScriptKind where
  | expression | transform
  deriving DecidableEq

namespace ScriptKind

def name : ScriptKind → String
  | .expression => "expression"
  | .transform => "transform"

def title : ScriptKind → String
  | .expression => "Expression"
  | .transform => "Transform"

def names : List String :=
  ["expression", "transform"]

def ofName (s : String) : Except Json.ReadError ScriptKind :=
  if s == "expression" then .ok .expression
  else if s == "transform" then .ok .transform
  else .error (.unknownVariant s names)

def decode : Json.Decoder ScriptKind :=
  Json.Decoder.choice ofName

end ScriptKind

inductive Script.Order where
  | expression (text : String) (bindings : Evaluator.Bindings)
  | transform (code : String) (payload : Json)

def Script.Order.kind : Script.Order → ScriptKind
  | .expression _ _ => .expression
  | .transform _ _ => .transform

inductive Executor where
  | inline (config : EvaluatorConfig)
  | process (supervisor : Supervisor)

namespace Executor

def create (c : Config) : Isolation → Except Fault Executor
  | .inProcess => .ok (.inline c.evaluator)
  | .process => (Supervisor.new c.sandbox).map .process

def id : Executor → String
  | .inline _ => "inline"
  | .process _ => "process"

def title : Executor → String
  | .inline _ => "In-process expression evaluator"
  | .process _ => "Process sandbox"

def isolation : Executor → Isolation
  | .inline _ => .inProcess
  | .process _ => .process

def supportedKinds : Executor → List ScriptKind
  | .inline _ => [.expression]
  | .process _ => [.transform]

def timeout : Executor → Duration
  | .inline c => c.timeout
  | .process s => s.config.timeout

def supports (e : Executor) (k : ScriptKind) : Bool :=
  e.supportedKinds.contains k

def toJson (e : Executor) : Json :=
  .object [("id", .string e.id), ("name", .string e.title), ("isolation", .string e.isolation.name),
    ("supported_kinds", .array (e.supportedKinds.map fun k => .string k.name)),
    ("timeout", .string e.timeout.render)]

def unsupported (e : Executor) (k : ScriptKind) : Fault :=
  .invalidInput (e.id ++ " executor does not run " ++ k.title ++ " scripts")

def execute {m : Type → Type} [Monad m] (launcher : Launcher m) (e : Executor) (o : Script.Order) :
    m (Except Fault Json) :=
  match e, o with
  | .inline c, .expression text bindings =>
    return (Evaluator.evaluate c text bindings).map Primitive.toJson
  | .process s, .transform code payload => s.runTransform launcher code payload
  | e, o => return .error (e.unsupported o.kind)

def isTwo : Json → Bool
  | .int 2 => true
  | _ => false

def isTrue : Json → Bool
  | .bool true => true
  | _ => false

def healthCheck {m : Type → Type} [Monad m] (launcher : Launcher m) (e : Executor) :
    m (Except Fault Bool) := do
  match e with
  | .inline _ => return (← execute launcher e (.expression "1 + 1" [])).map isTwo
  | .process _ => return (← execute launcher e (.transform "(r) => r" (.bool true))).map isTrue

end Executor
end BoundedScript
