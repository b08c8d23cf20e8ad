import BoundedScript.CommandLine.Arguments
import BoundedScript.CommandLine.LogFilter
import BoundedScript.Config.Files
import BoundedScript.Evaluator
import BoundedScript.Supervisor

set_option autoImplicit false

namespace BoundedScript.CommandLine

open Text (Bytes)

structure Host (m : Type → Type) where
  environment : Environment
  readFile : String → m (Except FileFault Bytes)
  input : m Bytes
  launcher : Launcher m

structure Outcome where
  exitCode : Nat
  output : Bytes
  issues : List String := []
  fault : Option String := none

-- A failure and its causes, the nearest first.
abbrev Failure := List String

def name : String := "jsfence"
def version : String := "0.1.0"
def usage : String :=
  "Usage: jsfence [--config <CONFIG>] <eval|render|transform|config>\n"

def chain : Fault → Failure
  | .rejected r => [(Fault.rejected r).message, r.message]
  | .template e cause => (Fault.template e cause).message :: chain cause
  | .json text => [(Fault.json text).message, text]
  | .io text => [(Fault.io text).message, text]
  | f => [f.message]

def orFail {α : Type} : Except Fault α → Except Failure α
  | .ok a => .ok a
  | .error f => .error (chain f)

def during {α : Type} (what : String) : Except Failure α → Except Failure α
  | .ok a => .ok a
  | .error f => .error (what :: f)

section
variable {m : Type → Type} [Monad m]

abbrev Step (m : Type → Type) := ExceptT Failure m

def ofExcept {α : Type} (e : Except Failure α) : Step m α :=
  ExceptT.mk (return e)

def dotEnv (h : Host m) : m (Option Bytes) := do
  match ← h.readFile ".env" with
  | .ok bytes => return some bytes
  | .error _ => return none

def load (h : Host m) (path : Option String) : Step m Config := do
  let c ← match path with
    | some p => ofExcept (during ("loading " ++ p) (orFail (Config.ofFile p (← h.readFile p))))
    | none =>
      let p := Config.path h.environment
      ofExcept (orFail (Config.ofExisting p (← h.readFile p)))
  return c.withEnvironment h.environment (← ExceptT.lift (dotEnv h))

-- The name and the value that an argument binds: a JSON document if it is one, else the text itself.
def binding (arg : String) : Except Failure (String × Json) :=
  match splitEquals arg.toList with
  | (_, none) => .error ["binding " ++ Text.quoted arg ++ " is not NAME=VALUE"]
  | (name, some raw) =>
    let raw := String.ofList raw
    .ok (String.ofList (Text.trimList name),
      match Json.readText raw with
      | .ok v => v
      | .error _ => .string raw)

-- The bindings that arguments make; the last one for a name counts.
def bindings (args : List String) : Except Failure Evaluator.Bindings := do
  let pairs ← args.mapM binding
  return Json.sortFields pairs

def text (what : String) (content : Except FileFault Bytes) : Except Failure String :=
  match content.bind Config.textOf with
  | .ok s => .ok s
  | .error f => .error [what, f.message]

def readSource (h : Host m) (source : String) : Step m String := do
  if source == "-" then ofExcept (text "reading stdin" (.ok (← h.input)))
  else ofExcept (text ("reading " ++ source) (← h.readFile source))

def document (what text : String) : Except Failure Json :=
  match Json.readText text with
  | .ok v => .ok v
  | .error e => .error [what ++ " is not valid JSON", e.message]

def line (s : String) : Bytes :=
  Text.bytesOf (s ++ "\n")

def done (output : Bytes) : Outcome :=
  ⟨0, output, [], none⟩

def eval (c : Config) (expression : String) (args : List String) : Step m Outcome := do
  let bs ← ofExcept (bindings args)
  let v ← ofExcept (orFail (Evaluator.evaluate c.evaluator expression bs))
  return done (line v.text)

def render (h : Host m) (c : Config) (template : String) (args : List String) : Step m Outcome := do
  let bs ← ofExcept (bindings args)
  let t ← ofExcept (document "template" (← readSource h template))
  let v ← ofExcept (orFail (Template.fill (Evaluator.substitution c.evaluator bs) t))
  return done (line v.renderLaidOut)

def transform (h : Host m) (c : Config) (code : String) (input : Option String) : Step m Outcome := do
  let code ← ofExcept (text ("reading " ++ code) (← h.readFile code))
  let payload ← match input with
    | some source => ofExcept (document "input" (← readSource h source))
    | none => pure .null
  let s ← ofExcept (orFail (Supervisor.new c.sandbox))
  let v ← ofExcept (orFail (← ExceptT.lift (s.runTransform h.launcher code payload)))
  return done (line v.renderLaidOut)

def showConfig (c : Config) : Step m Outcome := do
  match Toml.render c.toJson with
  | .error text => throw [text]
  | .ok text =>
    let found := c.validate
    let issues := found.errors.map (fun i => "error: " ++ i.text) ++
      found.warnings.map fun i => "warning: " ++ i.text
    if found.isValid then return ⟨0, line text, issues, none⟩
    else return ⟨1, line text, issues,
      some ("configuration has " ++ toString found.errors.length ++ " error(s)")⟩

def runCommand (h : Host m) (i : Invocation) : Step m Outcome := do
  match i.command with
  | .config true => return done (line (i.configPath.getD (Config.path h.environment)))
  | .config false => showConfig (← load h i.configPath)
  | .eval expression args => eval (← load h i.configPath) expression args
  | .render template args => render h (← load h i.configPath) template args
  | .transform code input => transform h (← load h i.configPath) code input

def logged (h : Host m) (o : Outcome) : Outcome :=
  if showsErrors name (h.environment.get? "RUST_LOG") then o else { o with fault := none }

def run (h : Host m) (args : List String) : m Outcome := do
  if Worker.isInvocation (name :: args) then
    return done (Worker.serve (.ofEnv h.environment) ⟨← h.input, none⟩ none).bytes
  else match parse args with
    | .error .version => return done (line (name ++ " " ++ version))
    | .error .help => return done (Text.bytesOf usage)
    | .error .usage => return ⟨2, [], [usage], none⟩
    | .ok i =>
      match ← (runCommand h i).run with
      | .ok o => return logged h o
      | .error f => return logged h ⟨1, [], [], some (": ".intercalate f)⟩

end
end BoundedScript.CommandLine
