import BoundedScript.Script.Token

set_option autoImplicit false

namespace BoundedScript.Script

structure OpenScope where
  lexicals : List (String × Bool)
  -- Names declared by `var` here or in a block inside.
  vars : List String
  params : List String
  isFunction : Bool

structure Surroundings where
  inFunction : Bool
  isArrow : Bool
  isAsync : Bool
  isGenerator : Bool
  superMember : Bool
  superCall : Bool
  newTarget : Bool
  labels : List (String × Bool)
  inLoop : Bool
  breakable : Bool
  usesArguments : Bool

def Surroundings.script : Surroundings :=
  ⟨false, false, false, false, false, false, false, [], false, false, false⟩

structure ArrowHead where
  start : Nat
  isAsync : Bool
  params : List Expr

structure ParseState where
  ahead : Lexeme
  lastStop : Nat
  scopes : List OpenScope
  within : Surroundings
  functionCount : Nat
  -- Defaults in object literals that only a pattern may have and no pattern has claimed yet.
  openDefaults : Nat
  arrowHead : Option ArrowHead

abbrev Parse := ReaderT Source (StateT ParseState Option)

namespace Parse

def advance : Parse Unit := do
  let s ← get
  match Lexer.next (← read) s.ahead.stop with
  | some t => set { s with ahead := t, lastStop := s.ahead.stop }
  | none => failure

def resumeAt (i : Nat) : Parse Unit := do
  match Lexer.next (← read) i with
  | some t => modify fun s => { s with ahead := t, lastStop := i }
  | none => failure

def token : Parse Token := do
  return (← get).ahead.token

def start : Parse Nat := do
  return (← get).ahead.start

def isPunct (p : String) : Parse Bool := do
  match (← get).ahead.token with
  | .punct q => return p == q
  | _ => return false

def isWord (w : String) : Parse Bool := do
  match (← get).ahead.token with
  | .word n false => return w == n
  | _ => return false

def eat (p : String) : Parse Bool := do
  if ← isPunct p then advance; return true else return false

def eatWord (w : String) : Parse Bool := do
  if ← isWord w then advance; return true else return false

def expect (p : String) : Parse Unit := do
  if !(← eat p) then failure

def newlineAhead : Parse Bool := do
  return (← get).ahead.newline

def semicolon : Parse Unit := do
  if ← eat ";" then return ()
  let s ← get
  match s.ahead.token with
  | .endOfText => return ()
  | .punct "\x7d" => return ()
  | _ => if s.ahead.newline then return () else failure

def sourceFrom (first : Nat) : Parse Units := do
  let last := (← get).lastStop
  return ((← read).extract first last).foldl Units.pushChar #[]

def keywords : List String :=
  ["break", "case", "catch", "class", "const", "continue", "debugger", "default", "delete", "do", "else",
   "enum", "export", "extends", "false", "finally", "for", "function", "if", "import", "in", "instanceof",
   "new", "null", "return", "super", "switch", "this", "throw", "true", "try", "typeof", "var", "void",
   "while", "with", "implements", "interface", "let", "package", "private", "protected", "public", "static",
   "yield"]

def isReserved (n : String) : Bool :=
  keywords.contains n

def isFixedName (n : String) : Bool :=
  n == "eval" || n == "arguments"

def bindingName : Parse String := do
  match ← token with
  | .word n _ =>
    if isReserved n || isFixedName n then failure
    if n == "await" && (← get).within.isAsync then failure
    advance
    return n
  | _ => failure

def noteArguments (n : String) : Parse Unit := do
  if n == "arguments" then
    modify fun s => { s with within := { s.within with usesArguments := true } }

-- Names a declared name clashes with when it is declared by `var`: lexical names of every block up to
-- the function.
def addVar (n : String) : List OpenScope → Option (List OpenScope)
  | [] => some []
  | s :: outer =>
    if s.lexicals.any (·.1 == n) then none
    else
      let s := if s.vars.contains n then s else { s with vars := s.vars ++ [n] }
      if s.isFunction then some (s :: outer) else (addVar n outer).map (s :: ·)

def addLexical (n : String) (mutable : Bool) : List OpenScope → Option (List OpenScope)
  | [] => none
  | s :: outer =>
    if s.lexicals.any (·.1 == n) || s.vars.contains n || s.params.contains n then none
    else some ({ s with lexicals := s.lexicals ++ [(n, mutable)] } :: outer)

def declare (kind : DeclareKind) (n : String) : Parse Unit := do
  let s ← get
  let scopes := match kind with
    | .var => addVar n s.scopes
    | .letKind => addLexical n true s.scopes
    | .const => addLexical n false s.scopes
  match scopes with
  | some scopes => set { s with scopes }
  | none => failure

-- A function declared at the top of a function is like `var`, in a block like `let`.
def declareFunction (n : String) : Parse Unit := do
  match (← get).scopes with
  | s :: _ => declare (if s.isFunction then .var else .letKind) n
  | [] => failure

def withScope {α : Type} (isFunction : Bool) (params : List String) (body : Parse α) :
    Parse (α × OpenScope) := do
  modify fun s => { s with scopes := ⟨[], [], params, isFunction⟩ :: s.scopes }
  let a ← body
  let s ← get
  match s.scopes with
  | top :: outer =>
    set { s with scopes := outer }
    return (a, top)
  | [] => failure

def loop {α β : Type} (step : α → Parse (α ⊕ β)) (a : α) : (fuel : Nat) → Parse β
  | 0 => failure
  | fuel + 1 => do
    match ← step a with
    | .inl a => loop step a fuel
    | .inr b => return b

def rounds : Parse Nat := do
  return (← read).size + 2

end Parse

end BoundedScript.Script
