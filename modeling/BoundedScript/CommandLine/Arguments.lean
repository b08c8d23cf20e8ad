set_option autoImplicit false

namespace BoundedScript.CommandLine

inductive Command where
  | eval (expression : String) (bindings : List String)
  | render (template : String) (bindings : List String)
  | transform (code : String) (input : Option String)
  | config (pathOnly : Bool)
  deriving DecidableEq

structure Invocation where
  configPath : Option String
  command : Command
  deriving DecidableEq

inductive Stop where
  | version | help | usage
  deriving DecidableEq

structure Switch where
  long : String
  short : Option Char := none
  takesValue : Bool := true
  repeats : Bool := false
  takesEmpty : Bool := true

structure Level where
  switches : List Switch
  positions : Nat
  commands : List String
  hasVersion : Bool

structure Given where
  values : List (String × String)
  positional : List String
  command : Option (String × List String)

namespace Given

def valuesOf (name : String) (g : Given) : List String :=
  (g.values.filter (·.1 == name)).map (·.2)

def value? (name : String) (g : Given) : Option String :=
  (g.valuesOf name).head?

def has (name : String) (g : Given) : Bool :=
  g.values.any (·.1 == name)

end Given

def looksLikeSwitch (arg : String) : Bool :=
  arg.startsWith "-" && arg != "-"

def add (s : Switch) (value : String) (g : Given) : Except Stop Given :=
  if !s.repeats && g.has s.long then .error .usage
  else if value.isEmpty && s.takesValue && !s.takesEmpty then .error .usage
  else .ok { g with values := g.values ++ [(s.long, value)] }

def splitEquals : List Char → List Char × Option (List Char)
  | [] => ([], none)
  | '=' :: rest => ([], some rest)
  | c :: rest =>
    let (name, value) := splitEquals rest
    (c :: name, value)

abbrev Open := Option Switch

def long (l : Level) (body : List Char) (g : Given) : Except Stop (Given × Open) :=
  let (name, value) := splitEquals body
  let name := String.ofList name
  if name == "help" then .error (if value.isSome then .usage else .help)
  else if name == "version" && l.hasVersion then .error (if value.isSome then .usage else .version)
  else match l.switches.find? (·.long == name) with
    | none => .error .usage
    | some s =>
      match s.takesValue, value with
      | true, some v => (add s (String.ofList v) g).map (·, none)
      | true, none => .ok (g, some s)
      | false, some _ => .error .usage
      | false, none => (add s "" g).map (·, none)

-- Letters behind one hyphen; what follows the letter of a switch with a value is that value.
def short (l : Level) (g : Given) : List Char → Except Stop (Given × Open)
  | [] => .ok (g, none)
  | c :: rest =>
    if c == 'h' then .error .help
    else if c == 'V' && l.hasVersion then .error .version
    else match l.switches.find? (·.short == some c) with
      | none => .error .usage
      | some s =>
        if !s.takesValue then
          match add s "" g with
          | .ok g => short l g rest
          | .error e => .error e
        else match rest with
          | [] => .ok (g, some s)
          | '=' :: value => (add s (String.ofList value) g).map (·, none)
          | value => (add s (String.ofList value) g).map (·, none)

def position (l : Level) (arg : String) (g : Given) : Except Stop Given :=
  if g.positional.length < l.positions then .ok { g with positional := g.positional ++ [arg] }
  else .error .usage

def switchOf (l : Level) (arg : String) (g : Given) : Except Stop (Given × Open) :=
  match arg.toList with
  | '-' :: '-' :: body => long l body g
  | _ :: body => short l g body
  | [] => .error .usage

/-- Reads the arguments of one level. `waiting` is a switch whose value comes next, `plain` says that `--`
has been passed. -/
def readLevel (l : Level) (g : Given) (waiting : Open) (plain : Bool) :
    List String → Except Stop Given
  | [] => if waiting.isSome then .error .usage else .ok g
  | arg :: rest =>
    match waiting with
    | some s =>
      if looksLikeSwitch arg then .error .usage
      else match add s arg g with
        | .ok g => readLevel l g none plain rest
        | .error e => .error e
    | none =>
      if plain then
        match position l arg g with
        | .ok g => readLevel l g none true rest
        | .error e => .error e
      else if l.commands.contains arg then .ok { g with command := some (arg, rest) }
      else if arg == "--" then readLevel l g none true rest
      else if looksLikeSwitch arg then
        match switchOf l arg g with
        | .ok (g, waiting) => readLevel l g waiting false rest
        | .error e => .error e
      else match position l arg g with
        | .ok g => readLevel l g none false rest
        | .error e => .error e

def read (l : Level) (args : List String) : Except Stop Given :=
  readLevel l ⟨[], [], none⟩ none false args

def configSwitch : Switch :=
  { long := "config", takesEmpty := false }

def bindingSwitch : Switch :=
  { long := "var", short := some 'v', repeats := true }

def inputSwitch : Switch :=
  { long := "input", short := some 'i' }

def pathSwitch : Switch :=
  { long := "path", takesValue := false }

def topLevel : Level :=
  ⟨[configSwitch], 0, ["eval", "render", "transform", "config", "help"], true⟩

def commandLevel (switches : List Switch) (positions : Nat) : Level :=
  ⟨configSwitch :: switches, positions, [], false⟩

def expressionCommand (make : String → List String → Command) (args : List String) :
    Except Stop (Given × Command) := do
  let g ← read (commandLevel [bindingSwitch] 1) args
  match g.positional with
  | [arg] => return (g, make arg (g.valuesOf "var"))
  | _ => throw .usage

def transformCommand (args : List String) : Except Stop (Given × Command) := do
  let g ← read (commandLevel [inputSwitch] 1) args
  match g.positional with
  | [arg] => if arg.isEmpty then throw .usage else return (g, .transform arg (g.value? "input"))
  | _ => throw .usage

def configCommand (args : List String) : Except Stop (Given × Command) := do
  let g ← read (commandLevel [pathSwitch] 0) args
  return (g, .config (g.has "path"))

def command (name : String) (args : List String) : Except Stop (Given × Command) :=
  match name with
  | "eval" => expressionCommand .eval args
  | "render" => expressionCommand .render args
  | "transform" => transformCommand args
  | "config" => configCommand args
  | _ => throw .help

/-- What a command line without the program's name asks for. A configuration named behind the command goes
before one named in front of it. -/
def parse (args : List String) : Except Stop Invocation := do
  let top ← read topLevel args
  match top.command with
  | none => throw .usage
  | some (name, rest) => do
    let (g, c) ← command name rest
    return ⟨(g.value? "config").or (top.value? "config"), c⟩

end BoundedScript.CommandLine
