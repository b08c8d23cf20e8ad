import BoundedScript.Script.Grammar.Statement

set_option autoImplicit false

namespace BoundedScript.Script

namespace Grammar

def next (G : Grammar) : Grammar where
  expr := commaExpr G
  assign := assignExpr G
  unary := Prod.fst <$> unaryExpr G
  power := powerExpr G
  newExpr := newAfter G
  statement := statementBody G

def none : Grammar where
  expr _ := failure
  assign _ := failure
  unary := failure
  power := failure
  newExpr := failure
  statement := failure

def ofDepth : (depth : Nat) → Grammar
  | 0 => none
  | depth + 1 => next (ofDepth depth)

end Grammar

def maxNesting : Nat := 1200

def fullGrammar : Grammar :=
  Grammar.ofDepth maxNesting

def scriptReader : Parse Program := do
  let (body, scope) ← Parse.withScope true [] do
    Parse.loop (fun (acc : List Stmt) => do
      match ← Parse.token with
      | .endOfText => return .inr acc.reverse
      | _ => return .inl ((← fullGrammar.statement) :: acc)) [] (← Parse.rounds)
  if (← get).openDefaults != 0 then failure
  return ⟨scope.vars, scope.lexicals, body⟩

def parse (text : String) : Option Program := do
  let src : Source := text.toList.toArray
  let first ← Lexer.next src 0
  let (p, _) ← (scriptReader.run src).run ⟨first, 0, [], .script, 0, 0, none⟩
  some p

end BoundedScript.Script
