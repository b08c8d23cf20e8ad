import BoundedScript.Script.Parse

set_option autoImplicit false

namespace BoundedScript.Script

def Expr.named (name : String) : Expr → Expr
  | .function f => if f.info.name.isEmpty then .function (f.withInfo fun i => { i with name }) else .function f
  | .classExpr none parent maker members source => .classExpr (some name) parent maker members source
  | e => e

/-- What a written expression is as the target of an assignment, or as a declaration when `binding`. The
defaults it claims are counted. -/
def toPattern (binding : Bool) : (fuel : Nat) → Expr → Option (Pattern × Nat)
  | 0, _ => none
  | fuel + 1, e =>
    match e with
    | .absent => some (.hole, 0)
    | .name n =>
      if Parse.isFixedName n || (binding && Parse.isReserved n) then none else some (.name n, 0)
    | .member _ _ => if binding then none else some (.target e, 0)
    | .superMember _ => if binding then none else some (.target e, 0)
    | .paren inner =>
      match inner.unparen with
      | .name n => if binding || Parse.isFixedName n then none else some (.name n, 0)
      | .member o k => if binding then none else some (.target (.member o k), 0)
      | _ => none
    | .array items => do
      let ps ← items.mapM fun item =>
        match item with
        | .spread (.assign _ _) => none
        | .spread e => (toPattern binding fuel e).map fun (p, n) => (Pattern.rest p, n)
        | e => toPattern binding fuel e
      if (ps.dropLast.any fun p => match p.1 with | .rest _ => true | _ => false) then none
      some (.array (ps.map (·.1)), (ps.map (·.2)).sum)
    | .object fields => do
      let ps ← fields.mapM fun f =>
        match f with
        | .mk .value true key (.assign p d) => some (Pattern.field key (.withDefault p d), 1)
        | .mk .value _ key v => (toPattern binding fuel v).map fun (p, n) => (Pattern.field key p, n)
        | .mk .proto _ key v => (toPattern binding fuel v).map fun (p, n) => (Pattern.field key p, n)
        | .mk .spread _ _ e =>
          match e with
          | .array _ | .object _ | .assign _ _ => none
          | e => (toPattern binding fuel e).map fun (p, n) => (Pattern.rest p, n)
        | _ => none
      if (ps.dropLast.any fun p => match p.1 with | .rest _ => true | _ => false) then none
      some (.object (ps.map (·.1)), (ps.map (·.2)).sum)
    | .assign p d =>
      if binding && !(isBinding p) then none else some (.withDefault p d, 0)
    | _ => none
where
  isBinding : Pattern → Bool
    | .name _ | .array _ | .object _ => true
    | _ => false

end BoundedScript.Script
