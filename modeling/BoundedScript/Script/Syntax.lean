import BoundedScript.Script.Units

set_option autoImplicit false

namespace BoundedScript.Script

inductive UnaryOp where
  | negate | plus | not | complement | typeOf | discard | delete

inductive BinaryOp where
  | add | sub | mul | div | rem | pow
  | shiftLeft | shiftRight | shiftRightUnsigned | bitAnd | bitOr | bitXor
  | less | greater | lessEqual | greaterEqual | equal | unequal | same | different
  | inOp | instanceOf

inductive LogicalOp where
  | and | or | coalesce

inductive Constant where
  | null
  | bool (b : Bool)
  | number (x : Float)
  | bigint (n : Int)
  | string (u : Units)

inductive DeclareKind where
  | var | letKind | const
  deriving DecidableEq

inductive FunctionKind where
  | plain | arrow | method | getter | setter | classConstructor | derivedConstructor
  deriving DecidableEq

structure FunctionInfo where
  name : String
  kind : FunctionKind
  isAsync : Bool
  isGenerator : Bool
  -- Parameters before the first that has a default or is a rest parameter.
  expectedArgs : Nat
  source : Units
  vars : List String
  -- Names of `let`, `const` and `class` at the top of the body; true when they may be assigned.
  lexicals : List (String × Bool)
  usesArguments : Bool
  bindsSelf : Bool

inductive FieldKind where
  | value
  -- `__proto__: value` in an object literal.
  | proto
  | method
  | spread
  | block
  deriving DecidableEq

mutual

inductive Expr where
  | absent
  | constant (c : Constant)
  | name (n : String)
  | this
  | newTarget
  | template (strings : List Units) (parts : List Expr)
  | tagged (tag : Expr) (cooked : List (Option Units)) (raw : List Units) (parts : List Expr)
  | regexp (source flags : Units)
  | array (items : List Expr)
  | object (fields : List Field)
  | function (f : Function)
  | classExpr (name : Option String) (parent maker : Expr) (members : List Field) (source : Units)
  | paren (e : Expr)
  | spread (e : Expr)
  | unary (op : UnaryOp) (e : Expr)
  | update (delta : Int) (isPrefix : Bool) (target : Expr)
  | binary (op : BinaryOp) (a b : Expr)
  | logical (op : LogicalOp) (a b : Expr)
  | conditional (test yes no : Expr)
  | assign (target : Pattern) (value : Expr)
  | compound (op : BinaryOp) (target value : Expr)
  | logicalAssign (op : LogicalOp) (target value : Expr)
  | comma (a b : Expr)
  | member (object key : Expr)
  | superMember (key : Expr)
  | call (callee : Expr) (args : List Expr)
  | new (callee : Expr) (args : List Expr)
  | superCall (args : List Expr)
  -- A link that ends the chain around it when its operand is nullish.
  | optional (e : Expr)
  | chain (e : Expr)
  | await (e : Expr)
  | yield (e : Expr)

inductive Field where
  | mk (kind : FieldKind) (isStatic : Bool) (key value : Expr)

inductive Pattern where
  | hole
  | name (n : String)
  | target (e : Expr)
  | array (items : List Pattern)
  | object (fields : List Pattern)
  | field (key : Expr) (p : Pattern)
  | withDefault (p : Pattern) (value : Expr)
  | rest (p : Pattern)

inductive Function where
  | mk (info : FunctionInfo) (params : List Pattern) (body : List Stmt)

inductive Stmt where
  | empty
  | expr (e : Expr)
  | declare (kind : DeclareKind) (target : Pattern) (value : Expr)
  | group (items : List Stmt)
  | function (f : Function)
  | classDecl (name : String) (value : Expr)
  | return (e : Expr)
  | ifElse (test : Expr) (yes no : Stmt)
  | whileDo (test : Expr) (body : Stmt)
  | doWhile (body : Stmt) (test : Expr)
  -- `scope` names what the head declares anew; `fresh` says that functions may keep hold of it, so that
  -- every round has its own.
  | forLoop (scope : List (String × Bool)) (fresh : Bool) (init : Stmt) (test update : Expr) (body : Stmt)
  | forIn (scope : List (String × Bool)) (kind : Option DeclareKind) (target : Pattern) (source : Expr)
      (body : Stmt)
  | forOf (scope : List (String × Bool)) (kind : Option DeclareKind) (target : Pattern) (source : Expr)
      (body : Stmt)
  | block (scope : List (String × Bool)) (body : List Stmt)
  | breakTo (label : Option String)
  | continueTo (label : Option String)
  | labelled (label : String) (body : Stmt)
  | throw (e : Expr)
  | tryCatch (body : Stmt) (hasHandler : Bool) (scope : List (String × Bool)) (param : Pattern)
      (handler : Stmt) (hasFinalizer : Bool) (finalizer : Stmt)
  | switch (value : Expr) (scope : List (String × Bool)) (cases : List Stmt)
  | case (isDefault : Bool) (test : Expr) (body : List Stmt)

end

instance : Inhabited Expr := ⟨.absent⟩
instance : Inhabited Stmt := ⟨.empty⟩

def Function.info : Function → FunctionInfo
  | .mk i _ _ => i

def Function.params : Function → List Pattern
  | .mk _ p _ => p

def Function.body : Function → List Stmt
  | .mk _ _ b => b

def Function.withInfo (change : FunctionInfo → FunctionInfo) : Function → Function
  | .mk i p b => .mk (change i) p b

structure Program where
  vars : List String
  lexicals : List (String × Bool)
  body : List Stmt

def Expr.unparen : Expr → Expr
  | .paren e => e.unparen
  | e => e

mutual

def Pattern.boundNames : Pattern → List String
  | .hole => []
  | .name n => [n]
  | .target _ => []
  | .array items => Pattern.boundNamesOf items
  | .object fields => Pattern.boundNamesOf fields
  | .field _ p => p.boundNames
  | .withDefault p _ => p.boundNames
  | .rest p => p.boundNames

def Pattern.boundNamesOf : List Pattern → List String
  | [] => []
  | p :: more => p.boundNames ++ Pattern.boundNamesOf more

end

mutual

def Pattern.declares : Pattern → Bool
  | .hole | .name _ => true
  | .target _ => false
  | .array items => Pattern.allDeclare items
  | .object fields => Pattern.allDeclare fields
  | .field _ p => p.declares
  | .withDefault p _ => p.declares
  | .rest p => p.declares

def Pattern.allDeclare : List Pattern → Bool
  | [] => true
  | p :: more => p.declares && Pattern.allDeclare more

end

end BoundedScript.Script
