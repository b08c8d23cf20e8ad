import BoundedScript.Script.Binding
import BoundedScript.Script.RegExp.Reader

set_option autoImplicit false

namespace BoundedScript.Script

structure Grammar where
  expr : (allowIn : Bool) → Parse Expr
  assign : (allowIn : Bool) → Parse Expr
  unary : Parse Expr
  power : Parse Expr
  newExpr : Parse Expr
  statement : Parse Stmt

namespace Grammar

open Parse

variable (G : Grammar)

def pattern (binding : Bool) (e : Expr) : Parse Pattern := do
  match toPattern binding 200 e with
  | some (p, claimed) =>
    if binding && !p.declares then failure
    modify fun s => { s with openDefaults := s.openDefaults - claimed }
    return p
  | none => failure

-- Whether strings in front of a body ask for the strict rules, which hold anyway.
def asksStrict : List Stmt → Bool
  | .expr (.constant (.string u)) :: rest => u == Units.ofString "use strict" || asksStrict rest
  | _ => false

def isPlainName : Pattern → Bool
  | .name _ => true
  | _ => false

def finishFunction (within : Surroundings) (info : FunctionInfo) (first : Nat)
    (params : Parse (List Pattern)) (body : Parse (List Stmt)) : Parse Function := do
  let saved := (← get).within
  modify fun s => { s with within, functionCount := s.functionCount + 1, arrowHead := none }
  let ((params, body), scope) ← withScope true [] do
    let params ← params
    let names := Pattern.boundNamesOf params
    if names.eraseDups.length != names.length then failure
    modify fun s => { s with
      scopes := match s.scopes with
        | top :: outer => { top with params := names } :: outer
        | [] => [] }
    let body ← body
    if asksStrict body && !params.all isPlainName then failure
    return (params, body)
  let uses := (← get).within.usesArguments
  modify fun s => { s with
    within := { saved with usesArguments := saved.usesArguments || (info.kind == .arrow && uses) } }
  let plain (p : Pattern) : Bool := match p with
    | .withDefault _ _ | .rest _ => false
    | _ => true
  let info := { info with
    expectedArgs := (params.takeWhile plain).length
    source := ← sourceFrom first
    vars := scope.vars
    lexicals := scope.lexicals
    usesArguments := uses && info.kind != .arrow }
  return .mk info params body

def parameters : Parse (List Pattern) := do
  expect "("
  loop (fun (acc : List Pattern) => do
    if ← eat ")" then return .inr acc.reverse
    if ← eat "..." then
      let p ← pattern true (← G.assign true)
      match p with
      | .withDefault _ _ => failure
      | p =>
        expect ")"
        return .inr (Pattern.rest p :: acc).reverse
    let p ← pattern true (← G.assign true)
    if !(← isPunct ")") then expect ","
    return .inl (p :: acc)) [] (← rounds)

def statements : Parse (List Stmt) := do
  loop (fun (acc : List Stmt) => do
    if ← eat "\x7d" then return .inr acc.reverse
    return .inl ((← G.statement) :: acc)) [] (← rounds)

def functionBody : Parse (List Stmt) := do
  expect "\x7b"
  statements G

def emptyInfo (name : String) (kind : FunctionKind) : FunctionInfo :=
  ⟨name, kind, false, false, 0, #[], [], [], false, false⟩

def inside (isAsync isGenerator superMember superCall : Bool) : Surroundings :=
  { Surroundings.script with
    inFunction := true, isAsync, isGenerator, superMember, superCall, newTarget := true }

def functionAfter (first : Nat) (isAsync : Bool) (needsName : Bool) : Parse Function := do
  let isGenerator ← eat "*"
  let name ← if ← isPunct "(" then
      if needsName then failure else pure ""
    else bindingName
  let info := { emptyInfo name .plain with isAsync, isGenerator, bindsSelf := !needsName && !name.isEmpty }
  finishFunction (inside isAsync isGenerator false false) info first (parameters G) (functionBody G)

def method (first : Nat) (kind : FunctionKind) (name : String) (isAsync isGenerator : Bool) :
    Parse Function := do
  let info := { emptyInfo name kind with isAsync, isGenerator }
  let superCall := match kind with
    | .derivedConstructor => true
    | _ => false
  let f ← finishFunction (inside isAsync isGenerator true superCall) info first (parameters G) (functionBody G)
  match kind with
  | .getter => if f.params.isEmpty then return f else failure
  | .setter =>
    match f.params with
    | [.rest _] => failure
    | [_] => return f
    | _ => failure
  | _ => return f

def arrowAfter (head : ArrowHead) (allowIn : Bool) : Parse Expr := do
  if ← newlineAhead then failure
  expect "=>"
  let saved := (← get).within
  let within := { saved with
    inFunction := true, isArrow := true, isAsync := head.isAsync, isGenerator := false, labels := [],
    inLoop := false, breakable := false, usesArguments := false }
  let info := { emptyInfo "" .arrow with isAsync := head.isAsync }
  let params ← head.params.mapM fun e =>
    match e with
    | .spread (.assign _ _) => failure
    | .spread e => do return Pattern.rest (← pattern true e)
    | e => pattern true e
  let body : Parse (List Stmt) := do
    if ← isPunct "\x7b" then functionBody G
    else return [.return (← G.assign allowIn)]
  return .function (← finishFunction within info head.start (pure params) body)

-- A property name: what it is, and whether it is a plain word that may stand for a variable.
def propertyKey : Parse (Expr × Option String) := do
  match ← token with
  | .word n _ => advance; return (.constant (.string (Units.ofString n)), some n)
  | .string u => advance; return (.constant (.string u), none)
  | .number x => advance; return (.constant (.number x), none)
  | .bigint n => advance; return (.constant (.string (Units.ofString (toString n))), none)
  | .punct "[" =>
    advance
    let e ← G.assign true
    expect "]"
    return (e, none)
  | _ => failure

def keyName : Expr → String
  | .constant (.string u) => u.toTextLossy
  | _ => ""

def endsKey : Parse Bool := do
  match ← token with
  | .punct p => return p == "(" || p == "," || p == ":" || p == "\x7d" || p == "=" || p == ";"
  | .endOfText => return true
  | _ => return false

def allowedKey (allows : String → Bool) : Parse (Expr × Bool) := do
  let isComputed ← isPunct "["
  let (key, _) ← propertyKey G
  if isComputed || allows (keyName key) then return (key, isComputed) else failure

def methodField (allows : String → Bool) (isStatic : Bool) (first : Nat) (kind : FunctionKind)
    (isAsync isGenerator : Bool) : Parse Field := do
  let (key, _) ← allowedKey G allows
  let f ← method G first kind (keyName key) isAsync isGenerator
  return .mk .method isStatic key (.function f)

def modifiedField? (allows : String → Bool) (isStatic : Bool) (first : Nat) : Parse (Option Field) := do
  let field := methodField G allows isStatic first
  let saved ← get
  let modifier (word : String) (rest : Parse Field) : Parse (Option Field) := do
    if ← eatWord word then
      if ← endsKey then set saved; return none
      else return some (← rest)
    else return none
  if ← eat "*" then return some (← field .method false true)
  if let some f ← modifier "get" (field .getter false false) then return some f
  if let some f ← modifier "set" (field .setter false false) then return some f
  modifier "async" do
    if ← newlineAhead then failure
    let isGenerator ← eat "*"
    field .method true isGenerator

def objectField : Parse Field := do
  let first ← start
  if ← eat "..." then return .mk .spread false .absent (← G.assign true)
  if let some f ← modifiedField? G (fun _ => true) false first then return f
  let escaped := match ← token with
    | .word _ e => e
    | _ => false
  let isComputed ← isPunct "["
  let (key, word) ← propertyKey G
  if ← isPunct "(" then
    let f ← method G first .method (keyName key) false false
    return .mk .method false key (.function f)
  else if ← eat ":" then
    let value ← G.assign true
    if keyName key == "__proto__" && !isComputed then return .mk .proto false key value
    else return .mk .value false key (if isComputed then value else value.named (keyName key))
  else
    match word with
    | none => failure
    | some n =>
      if isReserved n || (escaped && isReserved n) then failure
      if n == "await" && (← get).within.isAsync then failure
      noteArguments n
      if ← eat "=" then
        if isFixedName n then failure
        let d ← G.assign true
        modify fun s => { s with openDefaults := s.openDefaults + 1 }
        return .mk .value true key (.assign (.name n) (d.named n))
      else return .mk .value false key (.name n)

def isProto : Field → Bool
  | .mk .proto _ _ _ => true
  | _ => false

def objectLiteral : Parse Expr := do
  let fields ← loop (fun (acc : List Field) => do
    if ← eat "\x7d" then return .inr acc.reverse
    let f ← objectField G
    if !(← isPunct "\x7d") then expect ","
    return .inl (f :: acc)) [] (← rounds)
  if 1 < (fields.filter isProto).length then failure
  return .object fields

def arrayLiteral : Parse Expr := do
  let items ← loop (fun (acc : List Expr) => do
    if ← eat "]" then return .inr acc.reverse
    if ← eat "," then return .inl (.absent :: acc)
    let item ← if ← eat "..." then pure (Expr.spread (← G.assign true)) else G.assign true
    if !(← isPunct "]") then expect ","
    return .inl (item :: acc)) [] (← rounds)
  return .array items

def arguments : Parse (List Expr) := do
  expect "("
  loop (fun (acc : List Expr) => do
    if ← eat ")" then return .inr acc.reverse
    let item ← if ← eat "..." then pure (Expr.spread (← G.assign true)) else G.assign true
    if !(← isPunct ")") then expect ","
    return .inl (item :: acc)) [] (← rounds)

def templateParts : Parse (List (Option Units) × List Units × List Expr) := do
  let src ← read
  loop (fun (acc : Nat × List (Option Units) × List Units × List Expr) => do
    let (i, cooked, raw, parts) := acc
    match Lexer.templateFrom src i (some #[]) #[] (src.size + 1) with
    | none => failure
    | some (text, written, more, j) =>
      let cooked := text :: cooked
      let raw := written :: raw
      resumeAt j
      if more then
        let e ← G.expr true
        if !(← isPunct "\x7d") then failure
        return .inl ((← get).ahead.stop, cooked, raw, e :: parts)
      else return .inr (cooked.reverse, raw.reverse, parts.reverse))
    ((← get).ahead.stop, [], [], []) (← rounds)

def template : Parse Expr := do
  let (cooked, _, parts) ← templateParts G
  match cooked.mapM id with
  | some strings => return .template strings parts
  | none => failure

def regexp : Parse Expr := do
  let src ← read
  let i ← start
  match Lexer.regexpFrom src (i + 1) false #[] (src.size + 1) with
  | none => failure
  | some (source, j) =>
    match Lexer.nameFrom src j "" false (src.size + 1) with
    | none => failure
    | some (flags, escaped, k) =>
      if escaped then failure
      let flags := Units.ofString flags
      if (RegExp.compile source flags).isNone then failure
      resumeAt k
      return .regexp source flags

-- What stands between parentheses: an expression, or parameters when an arrow follows.
def parenthesized (first : Nat) : Parse Expr := do
  let (items, plain) ← loop (fun (acc : List Expr × Bool) => do
    let (items, plain) := acc
    if ← eat ")" then return .inr (items.reverse, plain && !items.isEmpty)
    if ← eat "..." then
      let e ← G.assign true
      expect ")"
      return .inr ((Expr.spread e :: items).reverse, false)
    let e ← G.assign true
    if ← isPunct ")" then return .inl (e :: items, plain)
    else
      expect ","
      return .inl (e :: items, !(← isPunct ")"))) ([], true) (← rounds)
  if ← isPunct "=>" then
    modify fun s => { s with arrowHead := some ⟨first, false, items⟩ }
    return .absent
  else if plain then
    match items with
    | [] => failure
    | e :: rest => return .paren (rest.foldl .comma e)
  else failure

def classMember (isDerived : Bool) : Parse (Field ⊕ Function) := do
  let first ← start
  let saved ← get
  let isStatic ← (do
    if ← eatWord "static" then
      if ← endsKey then set saved; return false else return true
    else return false : Parse Bool)
  if isStatic && (← isPunct "\x7b") then
    let f ← finishFunction (inside false false true false) (emptyInfo "" .method) first (pure []) (functionBody G)
    return .inl (.mk .block true .absent (.function f))
  let allows (name : String) := name != if isStatic then "prototype" else "constructor"
  if let some f ← modifiedField? G allows isStatic first then return .inl f
  let (key, isComputed) ← allowedKey G fun name => !isStatic || allows name
  if ← isPunct "(" then
    if !isStatic && !isComputed && keyName key == "constructor" then
      let kind : FunctionKind := if isDerived then .derivedConstructor else .classConstructor
      return .inr (← method G first kind "" false false)
    else
      let f ← method G first .method (keyName key) false false
      return .inl (.mk .method isStatic key (.function f))
  else
    if !isComputed && keyName key == "constructor" then failure
    let valueStart ← start
    if ← eat "=" then
      let body : Parse (List Stmt) := do
        let e ← G.assign true
        return [.return (e.named (keyName key))]
      let f ← finishFunction (inside false false true false) (emptyInfo "" .method) valueStart (pure []) body
      semicolon
      return .inl (.mk .value isStatic key (.function f))
    else
      semicolon
      return .inl (.mk .value isStatic key .absent)

def classAfter (first : Nat) (needsName : Bool) : Parse (Option String × Expr) := do
  let named ← (do
    match ← token with
    | .word n _ => return n != "extends"
    | _ => return false : Parse Bool)
  let name ← if named then some <$> bindingName else if needsName then failure else pure none
  let parent ← if ← eatWord "extends" then G.unary else pure .absent
  let isDerived := match parent with
    | .absent => false
    | _ => true
  expect "\x7b"
  let (members, maker) ← loop (fun (acc : List Field × Option Function) => do
    let (members, maker) := acc
    if ← eat "\x7d" then return .inr (members.reverse, maker)
    if ← eat ";" then return .inl acc
    match ← classMember G isDerived with
    | .inl m => return .inl (m :: members, maker)
    | .inr f => if maker.isSome then failure else return .inl (members, some f)) ([], none) (← rounds)
  let maker := match maker with
    | some f => Expr.function f
    | none => .absent
  return (name, .classExpr name parent maker members (← sourceFrom first))

def nameExpr (n : String) : Parse Expr := do
  if isReserved n then failure
  if n == "await" && (← get).within.isAsync then failure
  noteArguments n
  advance
  return .name n

def afterAsync (first : Nat) : Parse Expr := do
  if ← newlineAhead then return .name "async"
  if ← eatWord "function" then return .function (← functionAfter G first true false)
  match ← token with
  | .word n _ =>
    if isReserved n then return .name "async"
    advance
    if ← isPunct "=>" then
      modify fun s => { s with arrowHead := some ⟨first, true, [.name n]⟩ }
      return .absent
    else failure
  | _ => return .name "async"

def superExpr : Parse Expr := do
  advance
  let within := (← get).within
  if ← isPunct "(" then
    if within.superCall then return .superCall (← arguments G) else failure
  else if !within.superMember then failure
  else if ← eat "." then
    match ← token with
    | .word n _ => advance; return .superMember (.constant (.string (Units.ofString n)))
    | _ => failure
  else if ← eat "[" then
    let e ← G.expr true
    expect "]"
    return .superMember e
  else failure

def primary : Parse Expr := do
  let first ← start
  match ← token with
  | .number x => advance; return .constant (.number x)
  | .bigint n => advance; return .constant (.bigint n)
  | .string u => advance; return .constant (.string u)
  | .punct "(" => advance; parenthesized G first
  | .punct "[" => advance; arrayLiteral G
  | .punct "\x7b" => advance; objectLiteral G
  | .punct "\x60" => template G
  | .punct "/" => regexp
  | .punct "/=" => regexp
  | .word n true => nameExpr n
  | .word "null" _ => advance; return .constant .null
  | .word "true" _ => advance; return .constant (.bool true)
  | .word "false" _ => advance; return .constant (.bool false)
  | .word "this" _ => advance; return .this
  | .word "function" _ => advance; return .function (← functionAfter G first false false)
  | .word "class" _ => advance; return (← classAfter G first false).2
  | .word "async" _ => advance; afterAsync G first
  | .word "super" _ => superExpr G
  | .word "new" _ => G.newExpr
  | .word n _ => nameExpr n
  | _ => failure

def memberName : Parse Expr := do
  match ← token with
  | .word n _ => advance; return .constant (.string (Units.ofString n))
  | _ => failure

def taggedTemplate (tag : Expr) : Parse Expr := do
  let (cooked, raw, parts) ← templateParts G
  return .tagged tag cooked raw parts

def links (calls : Bool) (e : Expr) : Parse Expr := do
  loop (fun (acc : Expr × Bool) => do
    let (e, inChain) := acc
    let stop := Sum.inr (if inChain then Expr.chain e else e)
    match ← token with
    | .punct "." => advance; return .inl (.member e (← memberName), inChain)
    | .punct "[" =>
      advance
      let k ← G.expr true
      expect "]"
      return .inl (.member e k, inChain)
    | .punct "(" => if calls then return .inl (.call e (← arguments G), inChain) else return stop
    | .punct "\x60" => if inChain then failure else return .inl (← taggedTemplate G e, inChain)
    | .punct "?." =>
      if !calls then failure
      advance
      if ← isPunct "(" then return .inl (.call (.optional e) (← arguments G), true)
      else if ← eat "[" then
        let k ← G.expr true
        expect "]"
        return .inl (.member (.optional e) k, true)
      else if ← isPunct "\x60" then failure
      else return .inl (.member (.optional e) (← memberName), true)
    | _ => return stop) (e, false) (← rounds)

def newAfter : Parse Expr := do
  advance
  if ← eat "." then
    if (← isWord "target") && (← get).within.newTarget then advance; return .newTarget else failure
  if ← isWord "import" then failure
  let callee ← links G false (← if ← isWord "new" then G.newExpr else primary G)
  if ← isPunct "(" then return .new callee (← arguments G) else return .new callee []

def postfixOps (e : Expr) : Parse Expr := do
  if ← newlineAhead then return e
  let isUp ← isPunct "++"
  let isDown ← isPunct "--"
  if isUp || isDown then
    advance
    return .update (if isUp then 1 else -1) false (← simpleTarget e)
  else return e
where
  simpleTarget (e : Expr) : Parse Expr :=
    match e.unparen with
    | .name n => if isFixedName n then failure else return .name n
    | .member o k => return .member o k
    | .superMember k => return .superMember k
    | _ => failure

def leftHandSide : Parse Expr := do
  let e ← primary G
  if (← get).arrowHead.isSome && (← isPunct "=>") then return e
  links G true e

-- Unary operators. The result says whether an operator stood there, which `**` does not allow on its
-- left.
def unaryExpr : Parse (Expr × Bool) := do
  let op (o : UnaryOp) : Parse (Expr × Bool) := do
    advance
    return (.unary o (← G.unary), true)
  match ← token with
  | .punct "-" => op .negate
  | .punct "+" => op .plus
  | .punct "!" => op .not
  | .punct "~" => op .complement
  | .word "typeof" false => op .typeOf
  | .word "void" false => op .discard
  | .word "delete" false =>
    advance
    let e ← G.unary
    match e.unparen with
    | .name _ => failure
    | _ => return (.unary .delete e, true)
  | .punct "++" => do
    advance
    let e ← G.unary
    return (.update 1 true (← postfixOps.simpleTarget e), false)
  | .punct "--" => do
    advance
    let e ← G.unary
    return (.update (-1) true (← postfixOps.simpleTarget e), false)
  | .word "await" false =>
    if (← get).within.isAsync then
      advance
      return (.await (← G.unary), true)
    else return (← postfixOps (← leftHandSide G), false)
  | _ => return (← postfixOps (← leftHandSide G), false)

def powerExpr : Parse Expr := do
  let (e, hasOperator) ← unaryExpr G
  if ← isPunct "**" then
    if hasOperator then failure
    advance
    return .binary .pow e (← G.power)
  else return e

def binaryLevels : List (List (String × BinaryOp)) :=
  [[("*", .mul), ("/", .div), ("%", .rem)],
   [("+", .add), ("-", .sub)],
   [("<<", .shiftLeft), (">>", .shiftRight), (">>>", .shiftRightUnsigned)],
   [("<", .less), (">", .greater), ("<=", .lessEqual), (">=", .greaterEqual)],
   [("==", .equal), ("!=", .unequal), ("===", .same), ("!==", .different)],
   [("&", .bitAnd)],
   [("^", .bitXor)],
   [("|", .bitOr)]]

def operatorAhead (allowIn : Bool) (ops : List (String × BinaryOp)) : Parse (Option BinaryOp) := do
  match ← token with
  | .punct p => return (ops.find? (·.1 == p)).map (·.2)
  | .word w false =>
    if (ops.any (·.1 == "<")) then
      if w == "instanceof" then return some .instanceOf
      else if w == "in" && allowIn then return some .inOp
      else return none
    else return none
  | _ => return none

-- Operators of the given levels, the loosest first.
def binary (allowIn : Bool) : List (List (String × BinaryOp)) → Parse Expr
  | [] => powerExpr G
  | ops :: tighter => do
    let left ← binary allowIn tighter
    loop (fun (left : Expr) => do
      match ← operatorAhead allowIn ops with
      | none => return .inr left
      | some op =>
        advance
        let right ← binary allowIn tighter
        return .inl (.binary op left right)) left (← rounds)

def bitOrExpr (allowIn : Bool) : Parse Expr :=
  binary G allowIn binaryLevels.reverse

def andExpr (allowIn : Bool) (left : Expr) : Parse Expr := do
  loop (fun (left : Expr) => do
    if ← eat "&&" then return .inl (.logical .and left (← bitOrExpr G allowIn))
    else return .inr left) left (← rounds)

-- `&&` and `||`, or `??`; the two do not mix without parentheses.
def logicalExpr (allowIn : Bool) : Parse Expr := do
  let left ← bitOrExpr G allowIn
  if ← isPunct "??" then
    let e ← loop (fun (left : Expr) => do
      if ← eat "??" then return .inl (.logical .coalesce left (← bitOrExpr G allowIn))
      else return .inr left) left (← rounds)
    if (← isPunct "&&") || (← isPunct "||") then failure
    return e
  else
    let e ← andExpr G allowIn left
    let e ← loop (fun (left : Expr) => do
      if ← eat "||" then
        let right ← andExpr G allowIn (← bitOrExpr G allowIn)
        return .inl (.logical .or left right)
      else return .inr left) e (← rounds)
    if ← isPunct "??" then failure
    return e

def conditional (allowIn : Bool) : Parse Expr := do
  let test ← logicalExpr G allowIn
  if (← get).arrowHead.isSome && (← isPunct "=>") then return test
  if ← eat "?" then
    let yes ← G.assign true
    expect ":"
    let no ← G.assign allowIn
    return .conditional test yes no
  else return test

def compoundOps : List (String × BinaryOp) :=
  [("+=", .add), ("-=", .sub), ("*=", .mul), ("/=", .div), ("%=", .rem), ("**=", .pow),
   ("<<=", .shiftLeft), (">>=", .shiftRight), (">>>=", .shiftRightUnsigned), ("&=", .bitAnd),
   ("|=", .bitOr), ("^=", .bitXor)]

def logicalOps : List (String × LogicalOp) :=
  [("&&=", .and), ("||=", .or), ("??=", .coalesce)]

def assigned (target : Expr) (allowIn : Bool) : Parse Expr := do
  advance
  let value ← G.assign allowIn
  match target with
  | .name n => return value.named n
  | _ => return value

def yieldExpr : Parse Expr := do
  advance
  if ← newlineAhead then return .yield .absent
  let _ ← eat "*"
  match ← token with
  | .punct p =>
    if p == ")" || p == "]" || p == "\x7d" || p == "," || p == ";" || p == ":" then return .yield .absent
    else return .yield (← G.assign true)
  | .endOfText => return .yield .absent
  | _ => return .yield (← G.assign true)

def assignExpr (allowIn : Bool) : Parse Expr := do
  if (← get).within.isGenerator && (← isWord "yield") then return ← yieldExpr G
  let first ← start
  let left ← conditional G allowIn
  let s ← get
  match s.ahead.token with
  | .punct "=>" =>
    match s.arrowHead, left with
    | some head, .absent =>
      if head.start == first then
        set { s with arrowHead := none }
        arrowAfter G head allowIn
      else failure
    | _, .name n =>
      if s.lastStop == first + n.length then arrowAfter G ⟨first, false, [.name n]⟩ allowIn else failure
    | _, .call (.name "async") args => arrowAfter G ⟨first, true, args⟩ allowIn
    | _, _ => failure
  | .punct "=" =>
    let target ← pattern false left
    match target with
    | .hole => failure
    | .withDefault _ _ => failure
    | target => return .assign target (← assigned G left allowIn)
  | .punct p =>
    match compoundOps.find? (·.1 == p) with
    | some (_, op) =>
      let target ← postfixOps.simpleTarget left
      advance
      return .compound op target (← G.assign allowIn)
    | none =>
      match logicalOps.find? (·.1 == p) with
      | some (_, op) =>
        let target ← postfixOps.simpleTarget left
        return .logicalAssign op target (← assigned G target allowIn)
      | none => return left
  | _ => return left

def commaExpr (allowIn : Bool) : Parse Expr := do
  let e ← G.assign allowIn
  loop (fun (e : Expr) => do
    if ← eat "," then return .inl (.comma e (← G.assign allowIn)) else return .inr e) e (← rounds)

end Grammar

end BoundedScript.Script
