import BoundedScript.Script.Grammar.Expression

set_option autoImplicit false

namespace BoundedScript.Script

namespace Grammar

open Parse

variable (G : Grammar)

def bindingTarget (kind : DeclareKind) : Parse Pattern := do
  let p ← (do
    if (← isPunct "[") || (← isPunct "\x7b") then pattern true (← primary G)
    else return .name (← bindingName) : Parse Pattern)
  p.boundNames.forM (declare kind)
  return p

def initializer (target : Pattern) (allowIn : Bool) : Parse Expr := do
  let value ← G.assign allowIn
  match target with
  | .name n => return value.named n
  | _ => return value

def declarations (kind : DeclareKind) (allowIn : Bool) (first : Pattern) : Parse (List Stmt) := do
  let one (p : Pattern) : Parse Stmt := do
    if ← eat "=" then return .declare kind p (← initializer G p allowIn)
    else
      match kind, p with
      | .const, _ => failure
      | _, .name _ => return .declare kind p .absent
      | _, _ => failure
  let d ← one first
  loop (fun (acc : List Stmt) => do
    if ← eat "," then return .inl ((← one (← bindingTarget G kind)) :: acc)
    else return .inr acc.reverse) [d] (← rounds)

def declareKind? : Parse (Option DeclareKind) := do
  if ← eatWord "var" then return some .var
  else if ← eatWord "let" then return some .letKind
  else if ← eatWord "const" then return some .const
  else return none

def subStatement : Parse Stmt := do
  if (← isWord "let") || (← isWord "const") || (← isWord "class") || (← isWord "function") then failure
  G.statement

def inLoop (body : Parse Stmt) : Parse Stmt := do
  let saved := (← get).within
  modify fun s => { s with within := { s.within with inLoop := true, breakable := true } }
  let b ← body
  modify fun s => { s with within := { s.within with inLoop := saved.inLoop, breakable := saved.breakable } }
  return b

def blockStatements : Parse Stmt := do
  let (body, scope) ← withScope false [] (statements G)
  return .block scope.lexicals body

def block : Parse Stmt := do
  expect "\x7b"
  blockStatements G

inductive LoopHead where
  | plain (init : Stmt) (test update : Expr)
  | overKeys (kind : Option DeclareKind) (target : Pattern) (source : Expr)
  | overItems (kind : Option DeclareKind) (target : Pattern) (source : Expr)

def afterInit (init : Stmt) : Parse LoopHead := do
  expect ";"
  let test ← if ← isPunct ";" then pure .absent else G.expr true
  expect ";"
  let update ← if ← isPunct ")" then pure .absent else G.expr true
  return .plain init test update

def loopHead : Parse LoopHead := do
  if ← isPunct ";" then return ← afterInit G .empty
  match ← declareKind? with
  | some kind =>
    let target ← bindingTarget G kind
    if ← eatWord "of" then return .overItems (some kind) target (← G.assign true)
    else if ← eatWord "in" then return .overKeys (some kind) target (← G.expr true)
    else afterInit G (.group (← declarations G kind false target))
  | none =>
    let e ← G.expr false
    if ← eatWord "of" then return .overItems none (← pattern false e) (← G.assign true)
    else if ← eatWord "in" then return .overKeys none (← pattern false e) (← G.expr true)
    else afterInit G (.expr e)

def forStatement : Parse Stmt := do
  expect "("
  let before := (← get).functionCount
  let ((head, body), scope) ← withScope false [] do
    let head ← loopHead G
    expect ")"
    let body ← inLoop (subStatement G)
    return (head, body)
  let fresh := (← get).functionCount != before
  match head with
  | .plain init test update => return .forLoop scope.lexicals fresh init test update body
  | .overKeys kind target source => return .forIn scope.lexicals kind target source body
  | .overItems kind target source => return .forOf scope.lexicals kind target source body

def switchStatement : Parse Stmt := do
  expect "("
  let value ← G.expr true
  expect ")"
  expect "\x7b"
  let saved := (← get).within
  modify fun s => { s with within := { s.within with breakable := true } }
  let caseBody : Parse (List Stmt) := do
    loop (fun (acc : List Stmt) => do
      if (← isPunct "\x7d") || (← isWord "case") || (← isWord "default") then return .inr acc.reverse
      return .inl ((← G.statement) :: acc)) [] (← rounds)
  let (cases, scope) ← withScope false [] do
    loop (fun (acc : List Stmt × Bool) => do
      let (cases, hasDefault) := acc
      if ← eat "\x7d" then return .inr cases.reverse
      if ← eatWord "case" then
        let test ← G.expr true
        expect ":"
        return .inl (.case false test (← caseBody) :: cases, hasDefault)
      else if ← eatWord "default" then
        if hasDefault then failure
        expect ":"
        return .inl (.case true .absent (← caseBody) :: cases, true)
      else failure) ([], false) (← rounds)
  modify fun s => { s with within := { s.within with breakable := saved.breakable } }
  return .switch value scope.lexicals cases

def catchClause : Parse (List (String × Bool) × Pattern × Stmt) := do
  if ← eat "(" then
    let ((param, handler), scope) ← withScope false [] do
      let param ← bindingTarget G .letKind
      expect ")"
      -- A `var` may repeat the name of the caught value, a `let` may not.
      let names := param.boundNames
      modify fun s => { s with
        scopes := match s.scopes with
          | top :: outer => { top with lexicals := [], params := names } :: outer
          | [] => [] }
      expect "\x7b"
      let (body, inner) ← withScope false names (statements G)
      return (param, Stmt.block inner.lexicals body)
    return (scope.params.map fun n => (n, true), param, handler)
  else return ([], .hole, ← block G)

def tryStatement : Parse Stmt := do
  let body ← block G
  let handler ← if ← eatWord "catch" then some <$> catchClause G else pure none
  let finalizer ← if ← eatWord "finally" then some <$> block G else pure none
  match handler, finalizer with
  | none, none => failure
  | some (scope, param, h), f => return .tryCatch body true scope param h f.isSome (f.getD .empty)
  | none, some f => return .tryCatch body false [] .hole .empty true f

def jumpLabel : Parse (Option String) := do
  if ← newlineAhead then return none
  match ← token with
  | .word n _ => if isReserved n then return none else advance; return some n
  | _ => return none

def breakStatement : Parse Stmt := do
  let label ← jumpLabel
  let within := (← get).within
  match label with
  | none => if !within.breakable then failure
  | some n => if !within.labels.any (·.1 == n) then failure
  semicolon
  return .breakTo label

def continueStatement : Parse Stmt := do
  let label ← jumpLabel
  let within := (← get).within
  match label with
  | none => if !within.inLoop then failure
  | some n => if !within.labels.any (fun (m, loops) => m == n && loops) then failure
  semicolon
  return .continueTo label

def labelledStatement (n : String) : Parse Stmt := do
  let within := (← get).within
  if isReserved n || within.labels.any (·.1 == n) then failure
  let loops := (← isWord "for") || (← isWord "while") || (← isWord "do")
  -- A label before another label of a loop is also one of the loop.
  let loops := loops || (match ← token with | .word _ _ => true | _ => false)
  modify fun s => { s with within := { s.within with labels := (n, loops) :: s.within.labels } }
  let body ← subStatement G
  modify fun s => { s with within := { s.within with labels := within.labels } }
  return .labelled n body

def expressionStatement : Parse Stmt := do
  let e ← G.expr true
  match e with
  | .name n =>
    if ← isPunct ":" then
      advance
      labelledStatement G n
    else
      semicolon
      return .expr e
  | e =>
    semicolon
    return .expr e

def wordStatement (w : String) (first : Nat) : Parse Stmt := do
  if w == "var" || w == "let" || w == "const" then
    match ← declareKind? with
    | none => failure
    | some kind =>
      let items ← declarations G kind true (← bindingTarget G kind)
      semicolon
      return .group items
  else if w == "function" then
    advance
    let f ← functionAfter G first false true
    declareFunction f.info.name
    return .function f
  else if w == "class" then
    advance
    match ← classAfter G first true with
    | (some n, e) => declare .letKind n; return .classDecl n e
    | (none, _) => failure
  else if w == "if" then
    advance
    expect "("
    let test ← G.expr true
    expect ")"
    let yes ← subStatement G
    let no ← if ← eatWord "else" then subStatement G else pure .empty
    return .ifElse test yes no
  else if w == "for" then advance; forStatement G
  else if w == "while" then
    advance
    expect "("
    let test ← G.expr true
    expect ")"
    return .whileDo test (← inLoop (subStatement G))
  else if w == "do" then
    advance
    let body ← inLoop (subStatement G)
    if !(← eatWord "while") then failure
    expect "("
    let test ← G.expr true
    expect ")"
    let _ ← eat ";"
    return .doWhile body test
  else if w == "return" then
    if !(← get).within.inFunction then failure
    advance
    if (← newlineAhead) || (← isPunct ";") || (← isPunct "\x7d") then
      semicolon
      return .return .absent
    match ← token with
    | .endOfText => return .return .absent
    | _ =>
      let e ← G.expr true
      semicolon
      return .return e
  else if w == "break" then advance; breakStatement
  else if w == "continue" then advance; continueStatement
  else if w == "throw" then
    advance
    if ← newlineAhead then failure
    let e ← G.expr true
    semicolon
    return .throw e
  else if w == "try" then advance; tryStatement G
  else if w == "switch" then advance; switchStatement G
  else if w == "debugger" then
    advance
    semicolon
    return .empty
  else if w == "async" then
    let saved ← get
    advance
    if (← isWord "function") && !(← newlineAhead) then
      advance
      let f ← functionAfter G first true true
      declareFunction f.info.name
      return .function f
    else
      set saved
      expressionStatement G
  else expressionStatement G

def statementBody : Parse Stmt := do
  let first ← start
  match ← token with
  | .punct "\x7b" => advance; blockStatements G
  | .punct ";" => advance; return .empty
  | .word w false => wordStatement G w first
  | _ => expressionStatement G

end Grammar

end BoundedScript.Script
