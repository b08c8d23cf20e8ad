import BoundedScript.Proofs.Script.Enclosed.Reading

set_option autoImplicit false

namespace BoundedScript.Script

open Lexer Parse

namespace Grammar

def itemStep (G : Grammar) (acc : List Expr × Bool) : Parse ((List Expr × Bool) ⊕ (List Expr × Bool)) := do
  let (items, plain) := acc
  if ← eat ")" then return .inr (items.reverse, plain && !items.isEmpty)
  if ← eat "..." then
    let e ← G.assign true
    expect ")"
    return .inr ((Expr.spread e :: items).reverse, false)
  let e ← G.assign true
  if ← isPunct ")" then return .inl (e :: items, plain)
  else
    expect ","
    return .inl (e :: items, !(← isPunct ")"))

def items (G : Grammar) : Parse (List Expr × Bool) := do
  loop (itemStep G) ([], true) (← rounds)

theorem items_apply (G : Grammar) (src : Source) (s : ParseState) :
    items G src s = loop (itemStep G) ([], true) (src.size + 2) src s :=
  rfl

theorem parenthesized_eq (G : Grammar) (first : Nat) : parenthesized G first = (do
    let (items, plain) ← items G
    if ← isPunct "=>" then
      modify fun s => { s with arrowHead := some ⟨first, false, items⟩ }
      return .absent
    else if plain then
      match items with
      | [] => failure
      | e :: rest => return .paren (rest.foldl .comma e)
    else failure) :=
  rfl

end Grammar

namespace Enclosed

open Grammar hiding none

structure Tracking (v : Enclosed) (G : Grammar) : Prop where
  expr : ∀ allowIn t, v.Good t → v.Follows (G.expr allowIn) (G.expr allowIn) t
  assign : ∀ allowIn t, v.Good t → v.Follows (G.assign allowIn) (G.assign allowIn) t
  unary : ∀ t, v.Good t → v.Follows G.unary G.unary t
  power : ∀ t, v.Good t → v.Follows G.power G.power t
  newExpr : ∀ t, v.Good t → v.Follows G.newExpr G.newExpr t
  statement : ∀ t, v.Good t → v.Fronts G.statement G.statement t

def endsStatement? (s : ParseState) : Bool :=
  ahead? s "\x7d" || s.ahead.newline || s.ahead.token matches .endOfText

theorem endsStatement?_eq (s : ParseState) : (match s.ahead.token with
    | .endOfText => pure ()
    | .punct "\x7d" => pure ()
    | _ => if s.ahead.newline then pure () else failure : Parse Unit) = if endsStatement? s then pure () else failure := by
  rw [endsStatement?]
  split
  next last => rw [last, Bool.or_true, if_pos rfl]
  next brace =>
    rw [ahead?_iff.mpr brace]
    rfl
  next other brace =>
    have apart : ahead? s "\x7d" = false := by
      rw [Bool.eq_false_iff, ne_eq, ahead?_iff]
      exact brace
    have more : (s.ahead.token matches .endOfText) = false := by
      split
      next last => exact (other last).elim
      next => rfl
    rw [apart, more, Bool.or_false, Bool.false_or]

theorem regexp_apply (src : Source) (s : ParseState) : regexp src s =
    (regexpFrom src (s.ahead.start + 1) false #[] (src.size + 1)).bind fun r =>
      (nameFrom src r.2 "" false (src.size + 1)).bind fun n =>
        if n.2.1 || (RegExp.compile r.1 (Units.ofString n.1)).isNone then none
        else (do resumeAt n.2.2; return Expr.regexp r.1 (Units.ofString n.1) : Parse Expr) src s := by
  have asked : (read : Parse Source) src s = some (src, s) := rfl
  have begun : start src s = some (s.ahead.start, s) := rfl
  rw [regexp, bind_eq asked, bind_eq begun]
  cases regexpFrom src (s.ahead.start + 1) false #[] (src.size + 1) with
  | none => rfl
  | some r =>
    dsimp only [Option.bind_some]
    cases nameFrom src r.2 "" false (src.size + 1) with
    | none => rfl
    | some n =>
      obtain ⟨flags, escaped, k⟩ := n
      cases escaped with
      | true => rfl
      | false =>
        dsimp only [Option.bind_some]
        cases (RegExp.compile r.1 (Units.ofString flags)).isNone <;> rfl

def templateStep (G : Grammar) (src : Source) (acc : Nat × List (Option Units) × List Units × List Expr) :
    Parse ((Nat × List (Option Units) × List Units × List Expr) ⊕ (List (Option Units) × List Units × List Expr)) := do
  let (i, cooked, raw, parts) := acc
  match Lexer.templateFrom src i (some #[]) #[] (src.size + 1) with
  | .none => failure
  | some (text, written, more, j) =>
    let cooked := text :: cooked
    let raw := written :: raw
    resumeAt j
    if more then
      let e ← G.expr true
      if !(← isPunct "\x7d") then failure
      return .inl ((← get).ahead.stop, cooked, raw, e :: parts)
    else return .inr (cooked.reverse, raw.reverse, parts.reverse)

theorem templateParts_eq (G : Grammar) : templateParts G = (do
    let src ← read
    let s ← get
    let n ← rounds
    loop (templateStep G src) (s.ahead.stop, [], [], []) n) :=
  rfl

def templateRest (G : Grammar) (src : Source) (cooked : List (Option Units)) (raw : List Units) (parts : List Expr)
    (more : Bool)
    (fuel : Nat) : Parse (List (Option Units) × List Units × List Expr) :=
  if more then do
    let e ← G.expr true
    if ← isPunct "\x7d" then
      let s ← get
      loop (templateStep G src) (s.ahead.stop, cooked, raw, e :: parts) fuel
    else failure
  else return (cooked.reverse, raw.reverse, parts.reverse)

theorem templateLoop_succ {G : Grammar} {src : Source} {i j fuel : Nat} {cooked : List (Option Units)}
    {raw : List Units} {parts : List Expr} {text : Option Units} {written : Units} {more : Bool}
    (found : templateFrom src i (some #[]) #[] (src.size + 1) = some (text, written, more, j)) :
    loop (templateStep G src) (i, cooked, raw, parts) (fuel + 1) =
      resumeAt j >>= fun _ => templateRest G src (text :: cooked) (written :: raw) parts more fuel := by
  rw [loop, templateStep]
  dsimp only
  rw [found]
  dsimp only
  rw [bind_assoc]
  refine bind_congr fun _ => ?_
  rw [templateRest]
  cases more with
  | false => rw [if_neg Bool.false_ne_true, if_neg Bool.false_ne_true, pure_bind]
  | true =>
    rw [if_pos rfl, if_pos rfl, bind_assoc]
    refine bind_congr fun e => ?_
    rw [bind_assoc]
    refine bind_congr fun closed => ?_
    cases closed <;> rfl

section Names

variable {v : Enclosed} {t : ParseState} (good : v.Good t)
include good

theorem bindingName_tracks : v.Follows bindingName bindingName t := by
  refine .tokenInside good ?_
  cases t.ahead.token with
  | word n escaped =>
    refine .guarded (fun _ => .failure) fun _ => .get <| .guarded (fun _ => .failure) fun _ => ?_
    exact .andThen (.advance good) fun _ u good => .pure good n rfl
  | _ => exact .failure

theorem noteArguments_tracks (n : String) : v.Stays (noteArguments n) (noteArguments n) t :=
  .guarded (fun _ => .alter (good.like rfl rfl rfl) rfl rfl) fun _ => .pure good () rfl

theorem pattern_tracks (binding : Bool) (e : Expr) : v.Stays (pattern binding e) (pattern binding e) t := by
  rw [pattern]
  cases toPattern binding 200 e with
  | none => exact .failure
  | some r =>
    exact .guarded (fun _ => .failure) fun _ => .bind (.alter (good.like rfl rfl rfl) rfl rfl) fun _ u good =>
      .pure good r.1 rfl

theorem semicolon_tracks : v.Stays semicolon semicolon t := by
  have told {src : Source} {s : ParseState} {x : Parse Unit} (same : x = if endsStatement? s then pure () else failure) :
      x src s = if endsStatement? s then some ((), s) else none := by
    rw [same]
    cases endsStatement? s <;> rfl
  refine .eat good (fun u good => .pure good () rfl) <| .get ?_
  intro _ u ran
  replace ran := (told (endsStatement?_eq t)).symm.trans ran
  obtain ⟨ends, same⟩ := Option.ite_none_right_eq_some.mp ran
  cases same
  refine ⟨good, .refl _, fun _ => (told (endsStatement?_eq (v.state t))).trans (if_pos ?_)⟩
  rcases token_state good with same | ⟨last, -⟩
  · rwa [endsStatement?, ahead?, same, newline_state]
  · rw [endsStatement?, last, Bool.or_true]

theorem declared_in_tracks (scopes : Option (List OpenScope)) : v.Stays
    (match scopes with
      | some scopes => set { v.state t with scopes }
      | none => failure : Parse Unit)
    (match scopes with
      | some scopes => set { t with scopes }
      | none => failure) t := by
  cases scopes with
  | none => exact .failure
  | some scopes => exact .set (good.like rfl rfl rfl) rfl rfl

theorem declare_tracks (kind : DeclareKind) (n : String) : v.Stays (declare kind n) (declare kind n) t :=
  .get (declared_in_tracks good _)

theorem declareFunction_tracks (n : String) : v.Stays (declareFunction n) (declareFunction n) t := by
  refine .get ?_
  have scopes : (v.state t).scopes = t.scopes := rfl
  rw [scopes]
  cases t.scopes with
  | nil => exact .failure
  | cons s outer => exact declare_tracks good _ n

theorem className_tracks : v.Stays
    (do match ← token with
      | .word n _ => return n != "extends"
      | _ => return false : Parse Bool)
    (do match ← token with
      | .word n _ => return n != "extends"
      | _ => return false) t := by
  refine .token good ?_ (.given good false) (.given good false)
  cases t.ahead.token <;> exact .given good _

end Names

section Functions

variable {v : Enclosed} {G : Grammar} (tracking : v.Tracking G)

section Parts

variable {t : ParseState} (good : v.Good t)
include good

theorem finishFunction_tracks (within : Surroundings) (info : FunctionInfo) {first : Nat} (low : v.shift ≤ first)
    {params : Parse (List Pattern)} {body : Parse (List Stmt)} (read : ∀ u, v.Good u → v.Stays params params u)
    (rest : ∀ u, v.Good u → v.Tracks (fun _ => true) (fun _ => false) body body u) :
    v.Follows (finishFunction within info (first - v.shift) params body) (finishFunction within info first params body) t := by
  refine .get <| .bind (.alter (good.headless rfl rfl rfl) rfl rfl) fun _ u good => ?_
  refine .andThen (.withScope (c := true) (d := false) (fun u good => ?_) good) fun ⟨⟨params, body⟩, scope⟩ u good => ?_
  · refine .bind (read u good) fun params u good => ?_
    refine .guarded (fun _ => .failure) fun _ => .bind (.alter (good.like rfl rfl rfl) rfl rfl) fun _ u good => ?_
    refine .andThen (rest u good) fun body u good => ?_
    exact .guarded (fun _ => .failure) fun _ => .pure good _ rfl
  · exact .get <| .bind (.alter (good.like rfl rfl rfl) rfl rfl) fun _ u good =>
      .bind (.sourceFrom low good) fun source u good => .pure good _ rfl

theorem separated_tracks {β : Type} {r : β → Bool} {mark : String} {b : β} (deep : r b = true) :
    v.Tracks (fun _ => false) r (do
      if !(← isPunct mark) then expect ","
      return b) (do
      if !(← isPunct mark) then expect ","
      return b) t := by
  refine .closing (.isPunctInside good ?_) ?_
  · exact .guarded (fun _ => .bind (.expect good) fun _ u good => .done good b) fun _ => .done good b
  · refine Leads.behind (isPunct_apply mark) ?_
    cases ahead? t mark with
    | true => exact .pure deep
    | false => exact .after fun _ u => .pure deep

include tracking

theorem parameters_tracks : v.Follows (parameters G) (parameters G) t := by
  refine .andThen (.expect good) fun _ u good => .rounds good fun m n room => ?_
  refine (Tracks.loopOn (fun acc u good => ?_) good room).stays
  refine .eat good (fun u good => .pure good _ rfl) <| .eat good (fun u good => ?_) ?_
  · refine .bind (tracking.assign true u good) fun e u good => .bind (pattern_tracks good true e) fun p u good => ?_
    split
    · exact .failure
    · exact .bind (.expect good) fun _ u good => .pure good _ rfl
  · refine .andThen (tracking.assign true _ good) fun e u good => .bind (pattern_tracks good true e) fun p u good => ?_
    exact separated_tracks good (Sum.elim_inl _ _ _)

theorem statements_tracks : v.Follows (statements G) (statements G) t := by
  refine .rounds good fun m n room => .loopOn (fun acc u good => ?_) good room
  refine .eat good (fun u good => .pure good _ rfl) ?_
  exact .andPure (tracking.statement _ good) (fun _ _ => rfl) fun _ _ => rfl

theorem functionBody_tracks : v.Follows (functionBody G) (functionBody G) t :=
  .andThen (.expect good) fun _ _ good => (statements_tracks tracking good).stays

theorem declared_tracks (within : Surroundings) (info : FunctionInfo) {first : Nat} (low : v.shift ≤ first) :
    v.Follows (finishFunction within info (first - v.shift) (parameters G) (functionBody G))
      (finishFunction within info first (parameters G) (functionBody G)) t :=
  finishFunction_tracks good within info low (fun _ good => (parameters_tracks tracking good).stays) fun _ good =>
    functionBody_tracks tracking good

theorem functionAfter_tracks {first : Nat} (low : v.shift ≤ first) (isAsync needsName : Bool) :
    v.Follows (functionAfter G (first - v.shift) isAsync needsName) (functionAfter G first isAsync needsName) t := by
  refine .bind (.eats good) fun isGenerator u good => .isPunct good (by decide) <| .guarded (fun _ => ?_) fun _ => ?_
  · exact .guarded (fun _ => .failure) fun _ => .bind (.given good "") fun name u good => declared_tracks tracking good _ _ low
  · exact .bind (bindingName_tracks good) fun name u good => declared_tracks tracking good _ _ low

theorem method_tracks {first : Nat} (low : v.shift ≤ first) (kind : FunctionKind) (name : String) (isAsync isGenerator : Bool) :
    v.Follows (method G (first - v.shift) kind name isAsync isGenerator) (method G first kind name isAsync isGenerator) t := by
  refine .andThen (declared_tracks tracking good _ _ low) fun f u good => ?_
  cases kind with
  | getter => exact .guarded (fun _ => .given good f) fun _ => .failure
  | setter =>
    dsimp only
    split
    · exact .failure
    · exact .given good f
    · exact .failure
  | _ => exact .given good f

theorem arrowAfter_tracks (allowIn : Bool) {h : ArrowHead} (low : v.shift ≤ h.start) :
    v.Follows (arrowAfter G (v.head h) allowIn) (arrowAfter G h allowIn) t := by
  refine .newlineAhead <| .guarded (fun _ => .failure) fun _ => .andThen (.expect good) fun _ u good => .get ?_
  refine .bind (.mapM (fun e u good => ?_) _ good) fun params u good => ?_
  · split
    · exact .failure
    · exact .bind (pattern_tracks good true _) fun p u good => .given good p.rest
    · exact pattern_tracks good true _
  · refine .andThen (finishFunction_tracks good _ _ low (fun u good => .given good params) fun u good => ?_)
      fun f u good => .given good _
    refine .isPunct good (by decide) <| .guarded (fun _ => functionBody_tracks tracking good) fun _ => ?_
    exact .andThen (tracking.assign allowIn u good) fun e u good => .given good _

theorem propertyKey_tracks : v.Follows (propertyKey G) (propertyKey G) t := by
  refine .tokenInside good ?_
  split
  all_goals first
    | exact .failure
    | exact .andThen (.advance good) fun _ u good => .given good _
    | skip
  refine .andThen (.advance good) fun _ u good => .bind (tracking.assign true u good) fun e u good => ?_
  exact .bind (.expect good) fun _ u good => .given good _

theorem allowedKey_tracks (allows : String → Bool) : v.Follows (allowedKey G allows) (allowedKey G allows) t :=
  .isPunct good (by decide) <| .andThen (propertyKey_tracks tracking good) fun _ u good =>
    .guarded (fun _ => .given good _) fun _ => .failure

theorem methodField_tracks (allows : String → Bool) (isStatic : Bool) {first : Nat} (low : v.shift ≤ first)
    (kind : FunctionKind) (isAsync isGenerator : Bool) :
    v.Follows (methodField G allows isStatic (first - v.shift) kind isAsync isGenerator)
      (methodField G allows isStatic first kind isAsync isGenerator) t :=
  .andThen (allowedKey_tracks tracking good allows) fun _ _ good =>
    .bind (method_tracks tracking good low _ _ _ _) fun _ _ good => .given good _

theorem modifiedField?_tries (allows : String → Bool) (isStatic : Bool) {first : Nat} (low : v.shift ≤ first) :
    v.Tries Option.isSome false (modifiedField? G allows isStatic (first - v.shift))
      (modifiedField? G allows isStatic first) t := by
  have field (kind : FunctionKind) (isAsync isGenerator : Bool) (u : ParseState) (good : v.Good u) :
      v.Follows (do return some (← methodField G allows isStatic (first - v.shift) kind isAsync isGenerator))
        (do return some (← methodField G allows isStatic first kind isAsync isGenerator)) u :=
    .andThen (methodField_tracks tracking good allows isStatic low kind isAsync isGenerator) fun f u good => .given good _
  have gives {x : Parse Field} (u : ParseState) : Leads v.outer u (do return some (← x)) fun o _ => o.isSome = true :=
    .after fun f u => .pure rfl
  have modifier (word : String) (kind : FunctionKind) (isAsync isGenerator : Bool) :=
    Tries.modifier word good Option.isSome_none (field kind isAsync isGenerator) gives rfl
  refine .get <| .eat good (fun u good => (field _ _ _ u good).stays) gives <|
    .orElse (modifier _ _ _ _) (fun _ => ⟨rfl, rfl⟩) <|
    .orElse (modifier _ _ _ _) (fun _ => ⟨rfl, rfl⟩) <|
      .modifier _ (c := true) good Option.isSome_none (fun u good => ?_) gives rfl
  refine .andThen (s := fun _ => false) ?_ fun f u good => .given good _
  refine .newlineAhead <| .guarded (fun _ => .failure) fun _ => .bind (.eats good) fun isGenerator u good => ?_
  exact methodField_tracks tracking good allows isStatic low _ _ _

theorem objectField_tracks : v.Follows (objectField G) (objectField G) t := by
  have low : v.shift ≤ t.ahead.start := good.low.trans good.order
  refine .start good <| .eat good (fun u good => ?_) ?_
  · exact .bind (tracking.assign true u good) fun e u good => .given good _
  refine .again (modifiedField?_tries tracking good _ false low) (fun o u found good => ?_) fun o missed => ?_
  · obtain ⟨f, rfl⟩ := Option.isSome_iff_exists.mp found
    exact .given good f
  obtain rfl := Option.isSome_eq_false_iff.mp missed |> Option.isNone_iff_eq_none.mp
  refine .tokenInside good <| .isPunct good (by decide) <|
    .andThen (propertyKey_tracks tracking good) fun ⟨key, word⟩ u good => ?_
  refine .isPunct good (by decide) <| .guarded (fun _ => ?_) fun _ => ?_
  · exact .bind (method_tracks tracking good low _ _ _ _) fun f u good => .given good _
  refine .eat good (fun u good => ?_) ?_
  · exact .bind (tracking.assign true u good) fun e u good => .guarded (fun _ => .given good _) fun _ => .given good _
  cases word with
  | none => exact .failure
  | some n =>
    refine .guarded (fun _ => .failure) fun _ => .get <| .guarded (fun _ => .failure) fun _ => ?_
    refine .bind (noteArguments_tracks good n) fun _ u good => .eat good (fun u good => ?_) (.given good _)
    refine .guarded (fun _ => .failure) fun _ => .bind (tracking.assign true u good) fun e u good => ?_
    exact .bind (.alter (good.like rfl rfl rfl) rfl rfl) fun _ u good => .given good _

theorem objectLiteral_tracks : v.Follows (objectLiteral G) (objectLiteral G) t := by
  refine .rounds good fun m n room => .andThen (.loopOn (d := false) (fun acc u good => ?_) good room) fun fields u good => ?_
  · refine .eat good (fun u good => .done good _) ?_
    exact .andThen (objectField_tracks tracking good) fun f u good => separated_tracks good (Sum.elim_inl _ _ _)
  · exact .guarded (fun _ => .failure) fun _ => .given good _

theorem arrayLiteral_tracks : v.Follows (arrayLiteral G) (arrayLiteral G) t := by
  refine .rounds good fun m n room => .andThen (.loopOn (d := false) (fun acc u good => ?_) good room) fun items u good =>
    .given good _
  refine .eat good (fun u good => .done good _) <| .eat good (fun u good => .done good _) <| .eat good (fun u good => ?_) ?_
  · refine .bind (tracking.assign true u good) fun e u good => .bind (.given good _) fun item u good => ?_
    exact separated_tracks good (Sum.elim_inl _ _ _)
  · exact .andThen (tracking.assign true _ good) fun item u good => separated_tracks good (Sum.elim_inl _ _ _)

theorem arguments_tracks : v.Follows (arguments G) (arguments G) t := by
  refine .andThen (.expect good) fun _ u good => .rounds good fun m n room => ?_
  refine (Tracks.loopOn (fun acc u good => ?_) good room).stays
  refine .eat good (fun u good => .done good _) <| .eat good (fun u good => ?_) ?_
  · refine .bind (tracking.assign true u good) fun e u good => .bind (.given good _) fun item u good => ?_
    exact separated_tracks good (Sum.elim_inl _ _ _)
  · exact .andThen (tracking.assign true _ good) fun item u good => separated_tracks good (Sum.elim_inl _ _ _)

theorem items_tracks : v.Follows (items G) (items G) t := by
  refine .rounds good fun m n room => .loopOn (d := false) ?_ good room
  rintro ⟨items, plain⟩ u good
  refine .eat good (fun u good => .done good _) <| .eat good (fun u good => ?_) ?_
  · refine .bind (tracking.assign true u good) fun e u good => .bind (.expect good) fun _ u good => .done good _
  · refine .andThen (tracking.assign true _ good) fun e u good => .closing (.isPunctInside good ?_) ?_
    · refine .guarded (fun _ => .done good _) fun _ => .bind (.expect good) fun _ u good => .isPunctInside good (.done good _)
    · refine Leads.behind (isPunct_apply ")") ?_
      cases ahead? u ")" with
      | true => exact .pure (Sum.elim_inl _ _ _)
      | false => exact .after fun _ u => .behind (isPunct_apply ")") (.pure (Sum.elim_inl _ _ _))

theorem parenthesized_tracks {first : Nat} (low : v.shift ≤ first) :
    v.Follows (parenthesized G (first - v.shift)) (parenthesized G first) t := by
  rw [parenthesized_eq, parenthesized_eq]
  refine .andThen (items_tracks tracking good) fun ⟨items, plain⟩ u good => ?_
  refine .isPunct good (by decide) <| .guarded (fun _ => ?_) fun _ => .guarded (fun _ => ?_) fun _ => .failure
  · exact .bind (.alter (good.headed low) rfl rfl) fun _ u good => .given good _
  · cases items with
    | nil => exact .failure
    | cons e rest => exact .given good _

theorem classMember_tracks (isDerived : Bool) : v.Follows (classMember G isDerived) (classMember G isDerived) t := by
  have low : v.shift ≤ t.ahead.start := good.low.trans good.order
  have static := Tries.modifier "static" (q := id) (c := false) (d := true) good rfl (fun u good => .done good true)
    (fun u => .pure rfl) rfl
  refine .start good <| .get <| .onward static good fun isStatic u good => .isPunct good (by decide) <|
    .guarded (fun _ => ?_) fun _ => ?_
  · refine .andThen (finishFunction_tracks good _ _ low (fun u good => .given good []) fun u good => ?_)
      fun f u good => .given good _
    exact functionBody_tracks tracking good
  refine .again (modifiedField?_tries tracking good _ isStatic low) (fun o u found good => ?_) fun o missed => ?_
  · obtain ⟨f, rfl⟩ := Option.isSome_iff_exists.mp found
    exact .given good _
  obtain rfl := Option.isSome_eq_false_iff.mp missed |> Option.isNone_iff_eq_none.mp
  refine .andThen (allowedKey_tracks tracking good _) fun ⟨key, isComputed⟩ u good => ?_
  refine .isPunct good (by decide) <| .guarded (fun _ => .guarded (fun _ => ?_) fun _ => ?_) fun _ => ?_
  · exact .bind (method_tracks tracking good low _ _ _ _) fun f u good => .given good _
  · exact .bind (method_tracks tracking good low _ _ _ _) fun f u good => .given good _
  refine .guarded (fun _ => .failure) fun _ => .startEat good (by decide) (fun w after => ?_) ?_
  · refine .bind (finishFunction_tracks after _ _ (good.low.trans good.order) (fun u good => .given good []) fun u good => ?_)
      fun f u good => .bind (semicolon_tracks good) fun _ u good => .given good _
    exact .andThen (tracking.assign true u good) fun e u good => .given good _
  · exact .bind (semicolon_tracks good) fun _ u good => .given good _

theorem classAfter_tracks {first : Nat} (low : v.shift ≤ first) (needsName : Bool) :
    v.Follows (classAfter G (first - v.shift) needsName) (classAfter G first needsName) t := by
  have titled {k k' : Option String → Parse (Option String × Expr)} (named : Bool) (u : ParseState) (good : v.Good u)
      (next : ∀ name u, v.Good u → v.Follows (k name) (k' name) u) :
      v.Follows
        (if named = true then some <$> bindingName >>= k else if needsName = true then failure >>= k else
          pure none >>= k)
        (if named = true then some <$> bindingName >>= k' else if needsName = true then failure >>= k' else
          pure none >>= k') u :=
    .guarded (fun _ => .bind (.mapped (bindingName_tracks good)) next) fun _ =>
      .guarded (fun _ => .failure) fun _ => .bind (.given good none) next
  refine .bind (className_tracks good) fun named u good => titled named u good fun name u good => ?_
  refine .optional good (fun u good => (tracking.unary u good).stays) (.given good _) fun parent u good => ?_
  refine .andThen (.expect good) fun _ u good => .rounds good fun m n room => .bind (.loopOn (d := false) ?_ good room) ?_
  · rintro ⟨members, maker⟩ u good
    refine .eat good (fun u good => .done good _) <| .eat good (fun u good => .done good _) ?_
    refine .andThen (classMember_tracks tracking good _) fun member u good => ?_
    cases member with
    | inl member => exact .done good _
    | inr made => exact .guarded (fun _ => .failure) fun _ => .done good _
  · rintro ⟨members, maker⟩ u good
    exact .bind (.sourceFrom low good) fun source u good => .given good _

omit tracking in
theorem nameExpr_tracks (n : String) : v.Follows (nameExpr n) (nameExpr n) t := by
  refine .guarded (fun _ => .failure) fun _ => .get <| .guarded (fun _ => .failure) fun _ => ?_
  exact .bind (noteArguments_tracks good n) fun _ u good => .andThen (.advance good) fun _ u good => .given good _

theorem afterAsync_tracks {first : Nat} (low : v.shift ≤ first) :
    v.Stays (afterAsync G (first - v.shift)) (afterAsync G first) t := by
  refine .newlineAhead <| .guarded (fun _ => .given good _) fun _ => .eatWord good (fun u good => ?_) <|
    .token good ?_ (.given good _) (.given good _)
  · exact .bind (functionAfter_tracks tracking good low _ _) fun f u good => .given good _
  cases t.ahead.token with
  | word n escaped =>
    refine .guarded (fun _ => .given good _) fun _ => .andThen (.advance good) fun _ u good => ?_
    refine .isPunct good (by decide) <| .guarded (fun _ => ?_) fun _ => .failure
    exact .bind (.alter (good.headed low) rfl rfl) fun _ u good => .given good _
  | _ => exact .given good _

omit tracking in
theorem memberName_tracks : v.Follows memberName memberName t := by
  refine .tokenInside good ?_
  cases t.ahead.token with
  | word n escaped => exact .andThen (.advance good) fun _ u good => .given good _
  | _ => exact .failure

theorem superExpr_tracks : v.Follows (superExpr G) (superExpr G) t := by
  refine .andThen (.advance good) fun _ u good => .get <| .isPunct good (by decide) <| .guarded (fun _ => ?_) fun _ => ?_
  · exact .guarded (fun _ => .bind (arguments_tracks tracking good) fun args u good => .given good _) fun _ => .failure
  refine .guarded (fun _ => .failure) fun _ => .eat good (fun u good => ?_) <| .eat good (fun u good => ?_) .failure
  · refine .token good ?_ .failure .failure
    cases u.ahead.token with
    | word n escaped => exact .andThen (.advance good) fun _ u good => .given good _
    | _ => exact .failure
  · refine .bind (tracking.expr true u good) fun e u good => .bind (.expect good) fun _ u good => .given good _

omit tracking in
theorem regexp_tracks (mark : t.ahead.token = .punct "/" ∨ t.ahead.token = .punct "/=") : v.Follows regexp regexp t := by
  have low := good.low.trans good.order
  have stop : t.ahead.stop ≤ t.ahead.start + 2 := by
    have real := good.real
    rcases mark with same | same <;>
    · rw [same] at real
      rw [(tokenAt_punct real).2]
      exact Nat.add_le_add_left (by decide) _
  intro e u ran
  rw [regexp_apply] at ran
  obtain ⟨⟨source, j⟩, found, rest⟩ := Option.bind_eq_some_iff.mp ran
  obtain ⟨⟨flags, escaped, k⟩, named, rest⟩ := Option.bind_eq_some_iff.mp rest
  obtain ⟨plain, rest⟩ := Option.ite_none_left_eq_some.mp rest
  have later : t.ahead.start + 1 + 1 ≤ j := regexpFrom_le found
  have further : j ≤ k := named_le named
  let made : Unit → Parse Expr := fun _ => return .regexp source (Units.ofString flags)
  have limit := v.ending.bounds
  have short := v.ending.size_le
  have there : t.ahead.start + 1 = v.shift + (t.ahead.start - v.shift + 1) := by omega
  have agreed (reached : k ≤ v.edge) : ∃ j' k', k' ≤ v.size ∧ k = v.shift + k' ∧
      regexpFrom v.inner (t.ahead.start - v.shift + 1) false #[] (v.inner.size + 1) = some (source, j') ∧
      nameFrom v.inner j' "" false (v.inner.size + 1) = some (flags, escaped, k') := by
    obtain ⟨j', within, rfl, found'⟩ := regexpFrom_agrees (i := t.ahead.start - v.shift + 1) false #[] (by omega)
      (by omega : v.size < t.ahead.start - v.shift + 1 + (v.inner.size + 1)) source j (there ▸ found) (by omega)
    obtain ⟨k', within', rfl, named'⟩ := nameFrom_agrees (i := j') "" false within (by omega)
      (by omega : v.size < j' + (v.inner.size + 1)) (flags, escaped) k named reached
    exact ⟨j', k', within', rfl, found', named'⟩
  have settled : v.Settled k := by
    by_cases reached : k ≤ v.edge
    · obtain ⟨_, k', within, rfl, -⟩ := agreed reached
      exact .inl (Nat.add_le_add_left within _)
    · exact .inr (Nat.not_le.mp reached)
  have apart : t.ahead.start ≠ v.edge := by
    rcases mark with same | same <;> exact good.marked same (by decide)
  have resumed : v.Follows regexp (do resumeAt k; return Expr.regexp source (Units.ofString flags)) t := by
    refine .resumed (f := made) (g := made) good (by omega) settled ?_ rfl (fun reached => ?_) fun u good _ => .given good _
    · rcases mark with same | same <;> rw [same] <;> nofun
    · obtain ⟨j', k', -, rfl, found', named'⟩ := agreed reached
      rw [regexp_apply, start_same apart, found', Option.bind_some, named', Option.bind_some, if_neg plain,
        Nat.add_sub_cancel_left]
  exact resumed e u rest

theorem templateLoop_tracks {m n i : Nat} (room : v.edge < t.ahead.start + m) (later : t.ahead.stop ≤ i)
    (wordless : ∀ n escaped, t.ahead.token ≠ .word n escaped) (cooked : List (Option Units)) (raw : List Units)
    (parts : List Expr) :
    v.Follows (loop (templateStep G v.inner) (i - v.shift, cooked, raw, parts) m)
      (loop (templateStep G v.outer) (i, cooked, raw, parts) n) t := by
  induction n generalizing t m i cooked raw parts with
  | zero => exact .failure
  | succ n ih =>
    cases found : templateFrom v.outer i (some #[]) #[] (v.outer.size + 1) with
    | none =>
      intro a u ran
      rw [loop, templateStep, found] at ran
      cases ran
    | some r =>
      obtain ⟨text, written, more, j⟩ := r
      have order := good.order_stop
      have low := good.low.trans good.order
      have further := templateFrom_le found
      have limit := v.ending.bounds
      have short := v.ending.size_le
      have there : i = v.shift + (i - v.shift) := by omega
      have agreed (reached : j ≤ v.edge) : ∃ k, k ≤ v.size ∧ j = v.shift + k ∧
          templateFrom v.inner (i - v.shift) (some #[]) #[] (v.inner.size + 1) = some (text, written, more, k) :=
        templateFrom_agrees (i := i - v.shift) (some #[]) #[] (by omega)
          (by omega : v.size < i - v.shift + (v.inner.size + 1)) (text, written, more) j (there ▸ found) reached
      have settled : v.Settled j := by
        by_cases reached : j ≤ v.edge
        · obtain ⟨k, within, rfl, -⟩ := agreed reached
          exact .inl (Nat.add_le_add_left within _)
        · exact .inr (Nat.not_le.mp reached)
      let rest (src : Source) (fuel : Nat) := templateRest G src (text :: cooked) (written :: raw) parts more fuel
      refine .resumed (f := fun _ => rest v.inner (m - 1)) (g := fun _ => rest v.outer n) (i := j) good
        (by omega) settled wordless (by rw [templateLoop_succ found]) (fun reached => ?_) fun u good onward => ?_
      · obtain ⟨k, -, rfl, found'⟩ := agreed reached
        obtain ⟨m, rfl⟩ : ∃ m', m = m' + 1 := ⟨m - 1, by omega⟩
        rw [templateLoop_succ found', Nat.add_sub_cancel_left]
        rfl
      · have begun := onward.later ‹v.Good t›
        refine .guarded (fun _ => ?_) fun _ => .given good _
        refine .linked (fun _ _ => false) (tracking.expr true u good) (fun e w there onward' => ?_) (by simp) (by simp)
        have past := onward'.later good
        refine .isPunct there (by decide) <| .guarded (fun brace => .get ?_) fun _ => .failure
        rw [ahead?_iff] at brace
        rw [stop_same (there.marked brace (by decide))]
        exact (ih there (by omega) (Nat.le_refl _) (by rw [brace]; exact fun _ _ => Token.noConfusion) _ _ _).stays

theorem templateParts_tracks (mark : t.ahead.token = .punct "\x60") : v.Follows (templateParts G) (templateParts G) t := by
  have whole : v.Follows
      (do
        let s ← get
        let n ← rounds
        loop (templateStep G v.inner) (s.ahead.stop, [], [], []) n)
      (do
        let s ← get
        let n ← rounds
        loop (templateStep G v.outer) (s.ahead.stop, [], [], []) n) t := by
    refine .get <| .rounds good fun m n room => ?_
    rw [stop_same (good.marked mark (by decide))]
    exact templateLoop_tracks tracking good room (Nat.le_refl _) (by rw [mark]; nofun) _ _ _
  rw [templateParts_eq]
  exact whole.exchange rfl fun _ => rfl

theorem template_tracks (mark : t.ahead.token = .punct "\x60") : v.Follows (template G) (template G) t := by
  refine .andThen (templateParts_tracks tracking good mark) fun ⟨cooked, raw, parts⟩ u good => ?_
  dsimp only
  cases cooked.mapM id with
  | none => exact .failure
  | some strings => exact .given good _

theorem taggedTemplate_tracks (mark : t.ahead.token = .punct "\x60") (tag : Expr) :
    v.Follows (taggedTemplate G tag) (taggedTemplate G tag) t :=
  .andThen (templateParts_tracks tracking good mark) fun ⟨_, _, _⟩ _ good => .given good _

theorem primary_tracks : v.Follows (primary G) (primary G) t := by
  have low : v.shift ≤ t.ahead.start := good.low.trans good.order
  have told (e : Expr) : v.Follows (do advance; return e) (do advance; return e) t :=
    .andThen (.advance good) fun _ u good => .given good e
  refine .start good <| .tokenInside good ?_
  split
  next => exact told _
  next => exact told _
  next => exact told _
  next => exact .andThen (.advance good) fun _ u good => (parenthesized_tracks tracking good low).stays
  next => exact .andThen (.advance good) fun _ u good => (arrayLiteral_tracks tracking good).stays
  next => exact .andThen (.advance good) fun _ u good => (objectLiteral_tracks tracking good).stays
  next mark => exact template_tracks tracking good mark
  next mark => exact regexp_tracks good (.inl mark)
  next mark => exact regexp_tracks good (.inr mark)
  next => exact nameExpr_tracks good _
  next => exact told _
  next => exact told _
  next => exact told _
  next => exact told _
  next =>
    exact .andThen (.advance good) fun _ u good => .bind (functionAfter_tracks tracking good low _ _) fun f u good =>
      .given good _
  next =>
    exact .andThen (.advance good) fun _ u good => .bind (classAfter_tracks tracking good low _) fun c u good => .given good _
  next => exact .andThen (.advance good) fun _ u good => afterAsync_tracks tracking good low
  next => exact superExpr_tracks tracking good
  next => exact tracking.newExpr t good
  next => exact nameExpr_tracks good _
  next => exact .failure

theorem links_tracks (calls : Bool) (e : Expr) : v.Stays (links G calls e) (links G calls e) t := by
  refine .rounds good fun m n room => .loop (d := false) ?_ good room
  rintro ⟨e, inChain⟩ u good
  have called {p : (Expr × Bool) ⊕ Expr → Bool} (e : Expr) (inChain : Bool) (u : ParseState) (good : v.Good u) :
      v.Tracks p (fun _ => false) (do return .inl (.call e (← arguments G), inChain) : Parse ((Expr × Bool) ⊕ Expr))
        (do return .inl (.call e (← arguments G), inChain)) u :=
    .andThen (arguments_tracks tracking good) fun args u good => .given good _
  have named {p : (Expr × Bool) ⊕ Expr → Bool} (e : Expr) (inChain : Bool) (u : ParseState) (good : v.Good u) :
      v.Tracks p (fun _ => false) (do return .inl (.member e (← memberName), inChain) : Parse ((Expr × Bool) ⊕ Expr))
        (do return .inl (.member e (← memberName), inChain)) u :=
    .andThen (memberName_tracks good) fun name u good => .given good _
  have keyed {p : (Expr × Bool) ⊕ Expr → Bool} (e : Expr) (inChain : Bool) (u : ParseState) (good : v.Good u) :
      v.Tracks p (fun _ => false)
        (do
          let k ← G.expr true
          expect "]"
          return .inl (.member e k, inChain) : Parse ((Expr × Bool) ⊕ Expr))
        (do
          let k ← G.expr true
          expect "]"
          return .inl (.member e k, inChain)) u :=
    .andThen (tracking.expr true u good) fun k u good => .bind (.expect good) fun _ u good => .given good _
  have either : (Sum.elim (fun _ => false) fun _ => false : (Expr × Bool) ⊕ Expr → Bool) = fun _ => false :=
    Sum.elim_const_const _
  rw [either]
  refine .token good ?_ (.pure good _ rfl) (.pure good _ rfl)
  split
  next => exact .andThen (.advance good) (fun _ => named _ _)
  next => exact .andThen (.advance good) (fun _ => keyed _ _)
  next => exact .guarded (fun _ => called _ _ u good) fun _ => .pure good _ rfl
  next mark =>
    exact .guarded (fun _ => .failure) fun _ => .andThen (taggedTemplate_tracks tracking good mark _) fun e u good =>
      .given good _
  next =>
    refine .guarded (fun _ => .failure) fun _ => .andThen (.advance good) fun _ u good => .isPunct good (by decide) <|
      .guarded (fun _ => called _ _ u good) fun _ => .eat good (keyed _ _) <| .isPunct good (by decide) <|
        .guarded (fun _ => .failure) fun _ =>
        named _ _ _ good
  next => exact .pure good _ rfl

omit tracking in
theorem simpleTarget_tracks (e : Expr) : v.Stays (postfixOps.simpleTarget e) (postfixOps.simpleTarget e) t := by
  rw [postfixOps.simpleTarget]
  split
  · exact .guarded (fun _ => .failure) fun _ => .given good _
  · exact .given good _
  · exact .given good _
  · exact .failure

omit tracking in
theorem postfixOps_tracks (e : Expr) : v.Stays (postfixOps e) (postfixOps e) t := by
  refine .newlineAhead <| .guarded (fun _ => .given good e) fun _ => .isPunct good (by decide) <| .isPunct good (by decide) <|
    .guarded (fun _ => ?_) fun _ => .given good e
  exact .andThen (.advance good) fun _ u good => .bind (simpleTarget_tracks good e) fun target u good => .given good _

theorem leftHandSide_tracks : v.Follows (leftHandSide G) (leftHandSide G) t := by
  refine .andThen (primary_tracks tracking good) fun e u good => .get <| .isPunct good (by decide) ?_
  have heads : (v.state u).arrowHead.isSome = u.arrowHead.isSome := Option.isSome_map
  rw [heads]
  exact .guarded (fun _ => .given good e) fun _ => links_tracks tracking good true e

theorem unaryExpr_tracks : v.Follows (unaryExpr G) (unaryExpr G) t := by
  have operated (o : UnaryOp) : v.Follows (do advance; return (Expr.unary o (← G.unary), true))
      (do advance; return (Expr.unary o (← G.unary), true)) t :=
    .andThen (.advance good) fun _ u good => .bind (tracking.unary u good) fun e u good => .given good _
  have updated (by' : Int) : v.Follows
      (do advance; let e ← G.unary; return (Expr.update by' true (← postfixOps.simpleTarget e), false))
      (do advance; let e ← G.unary; return (Expr.update by' true (← postfixOps.simpleTarget e), false)) t :=
    .andThen (.advance good) fun _ u good => .bind (tracking.unary u good) fun e u good =>
      .bind (simpleTarget_tracks good e) fun target u good => .given good _
  have operand : v.Follows (do return (← postfixOps (← leftHandSide G), false))
      (do return (← postfixOps (← leftHandSide G), false)) t :=
    .andThen (leftHandSide_tracks tracking good) fun e u good => .bind (postfixOps_tracks good e) fun e u good => .given good _
  refine .tokenInside good ?_
  split
  next => exact operated _
  next => exact operated _
  next => exact operated _
  next => exact operated _
  next => exact operated _
  next => exact operated _
  next =>
    refine .andThen (.advance good) fun _ u good => .bind (tracking.unary u good) fun e u good => ?_
    split
    · exact .failure
    · exact .given good _
  next => exact updated 1
  next => exact updated (-1)
  next =>
    refine .get <| .guarded (fun _ => ?_) fun _ => operand
    exact .andThen (.advance good) fun _ u good => .bind (tracking.unary u good) fun e u good => .given good _
  next => exact operand

theorem powerExpr_tracks : v.Follows (powerExpr G) (powerExpr G) t := by
  refine .andThen (unaryExpr_tracks tracking good) fun ⟨e, hasOperator⟩ u good => .isPunct good (by decide) <|
    .guarded (fun _ => ?_) fun _ =>
    .given good _
  refine .guarded (fun _ => .failure) fun _ => .andThen (.advance good) fun _ u good => ?_
  exact .bind (tracking.power u good) fun e u good => .given good _

omit tracking in
theorem operatorAhead_tracks (allowIn : Bool) {ops : List (String × BinaryOp)} (other : ∀ op ∈ ops, op.1 ≠ ")") :
    v.Stays (operatorAhead allowIn ops) (operatorAhead allowIn ops) t := by
  have none : ops.find? (fun op => op.1 == ")") = .none :=
    List.find?_eq_none.mpr fun op listed same => other op listed (beq_iff_eq.mp same)
  refine .token good ?_ ?_ (.given good _)
  · cases t.ahead.token with
    | punct p => exact .given good _
    | word w escaped =>
      cases escaped with
      | true => exact .given good _
      | false =>
        exact .guarded (fun _ => .guarded (fun _ => .given good _) fun _ => .guarded (fun _ => .given good _) fun _ =>
          .given good _) fun _ => .given good _
    | _ => exact .given good _
  · dsimp only
    rw [none]
    exact .given good _

theorem binary_tracks (allowIn : Bool) {levels : List (List (String × BinaryOp))}
    (other : ∀ ops ∈ levels, ∀ op ∈ ops, op.1 ≠ ")") : v.Follows (binary G allowIn levels) (binary G allowIn levels) t := by
  induction levels generalizing t with
  | nil => exact powerExpr_tracks tracking good
  | cons ops tighter ih =>
    have tighter' : ∀ ops ∈ tighter, ∀ op ∈ ops, op.1 ≠ ")" := fun ops listed => other ops (List.mem_cons_of_mem _ listed)
    refine .andThen (ih good tighter') fun left u good => .rounds good fun m n room => ?_
    refine .loop (fun left u good => ?_) good room
    refine .bind (operatorAhead_tracks good allowIn (other ops List.mem_cons_self)) fun op u good => ?_
    cases op with
    | none => exact .pure good _ rfl
    | some op =>
      exact .andThen (.advance good) fun _ u good => .bind (ih good tighter') fun right u good => .done good _

theorem bitOrExpr_tracks (allowIn : Bool) : v.Follows (bitOrExpr G allowIn) (bitOrExpr G allowIn) t :=
  binary_tracks tracking good allowIn (by decide)

omit tracking in
theorem operands_tracks {mark : String} {α : Type} {operand : Parse α} {h : Expr → α → Expr}
    (read : ∀ u, v.Good u → v.Follows operand operand u) {m n : Nat} (room : v.edge < t.ahead.start + m) (left : Expr) :
    v.Stays
      (loop (fun (left : Expr) => do if ← eat mark then return .inl (h left (← operand)) else return .inr left) left m)
      (loop (fun (left : Expr) => do if ← eat mark then return .inl (h left (← operand)) else return .inr left) left n) t := by
  refine .loop (fun left u good => ?_) good room
  exact .eat good (fun u good => .bind (read u good) fun right u good => .done good _) (.pure good _ rfl)

theorem andExpr_tracks (allowIn : Bool) (left : Expr) : v.Stays (andExpr G allowIn left) (andExpr G allowIn left) t :=
  .rounds good fun _ _ room => operands_tracks good (fun _ good => bitOrExpr_tracks tracking good allowIn) room left

theorem logicalExpr_tracks (allowIn : Bool) : v.Follows (logicalExpr G allowIn) (logicalExpr G allowIn) t := by
  refine .andThen (bitOrExpr_tracks tracking good allowIn) fun left u good => .isPunct good (by decide) <|
    .guarded (fun _ => ?_) fun _ => ?_
  · refine .rounds good fun m n room => .bind (operands_tracks good
      (fun _ good => bitOrExpr_tracks tracking good allowIn) room left)
      fun e u good => ?_
    exact .isPunct good (by decide) <| .isPunct good (by decide) <| .guarded (fun _ => .failure) fun _ => .given good e
  · refine .bind (andExpr_tracks tracking good allowIn left) fun e u good => ?_
    refine .rounds good fun m n room => .bind (.loop (d := false) (fun left u good => ?_) good room) fun e u good => ?_
    · refine .eat good (fun u good => ?_) (.pure good _ rfl)
      refine .bind (bitOrExpr_tracks tracking good allowIn) fun right u good => ?_
      exact .bind (andExpr_tracks tracking good allowIn right) fun right u good => .done good _
    · exact .isPunct good (by decide) <| .guarded (fun _ => .failure) fun _ => .given good e

theorem conditional_tracks (allowIn : Bool) : v.Follows (conditional G allowIn) (conditional G allowIn) t := by
  refine .andThen (logicalExpr_tracks tracking good allowIn) fun test u good => .get <| .isPunct good (by decide) ?_
  have heads : (v.state u).arrowHead.isSome = u.arrowHead.isSome := Option.isSome_map
  rw [heads]
  refine .guarded (fun _ => .given good test) fun _ => .eat good (fun u good => ?_) (.given good test)
  refine .bind (tracking.assign true u good) fun yes u good => .bind (.expect good) fun _ u good => ?_
  exact .bind (tracking.assign allowIn u good) fun no u good => .given good _

theorem assigned_tracks (target : Expr) (allowIn : Bool) :
    v.Follows (assigned G target allowIn) (assigned G target allowIn) t := by
  refine .andThen (.advance good) fun _ u good => .bind (tracking.assign allowIn u good) fun value u good => ?_
  split <;> exact .given good _

theorem yieldExpr_tracks : v.Follows (yieldExpr G) (yieldExpr G) t := by
  have told (u : ParseState) (good : v.Good u) :
      v.Stays (do return Expr.yield (← G.assign true)) (do return Expr.yield (← G.assign true)) u :=
    .bind (tracking.assign true u good) fun e u good => .given good _
  refine .andThen (.advance good) fun _ u good => .newlineAhead <| .guarded (fun _ => .given good _) fun _ =>
    .bind (.eats good) fun _ u good => .token good ?_ (.given good _) (.given good _)
  cases u.ahead.token with
  | punct p => exact .guarded (fun _ => .given good _) fun _ => told u good
  | endOfText => exact .given good _
  | _ => exact told u good

theorem commaExpr_tracks (allowIn : Bool) : v.Follows (commaExpr G allowIn) (commaExpr G allowIn) t :=
  .andThen (tracking.assign allowIn t good) fun e _ good => .rounds good fun _ _ room =>
    operands_tracks good (tracking.assign allowIn) room e

theorem assignExpr_tracks (allowIn : Bool) : v.Follows (assignExpr G allowIn) (assignExpr G allowIn) t := by
  have low : v.shift ≤ t.ahead.start := good.low.trans good.order
  refine .get <| .isWord good <| .guarded (fun _ => yieldExpr_tracks tracking good) fun _ => .start good ?_
  refine .andThen (conditional_tracks tracking good allowIn) fun left u good => .get ?_
  by_cases bracket : u.ahead.start = v.edge
  · rw [token_ends bracket, (good.bracket bracket).1]
    rcases v.ending.closer with last | last <;> rw [last] <;> exact .given good left
  rw [token_same bracket]
  have named (n : String) : v.Stays
      (if (v.state u).lastStop == t.ahead.start - v.shift + n.length then
        arrowAfter G ⟨t.ahead.start - v.shift, false, [.name n]⟩ allowIn else failure)
      (if u.lastStop == t.ahead.start + n.length then
        arrowAfter G ⟨t.ahead.start, false, [.name n]⟩ allowIn else failure) u := by
    have last : (v.state u).lastStop = u.lastStop - v.shift := rfl
    have same : (u.lastStop - v.shift == t.ahead.start - v.shift + n.length) = (u.lastStop == t.ahead.start + n.length) := by
      have later := good.low
      rw [Bool.eq_iff_iff, beq_iff_eq, beq_iff_eq]
      omega
    rw [last, same]
    exact .guarded (fun _ => (arrowAfter_tracks tracking good allowIn (h := ⟨_, _, _⟩) low).stays) fun _ => .failure
  have called (args : List Expr) : v.Stays (arrowAfter G ⟨t.ahead.start - v.shift, true, args⟩ allowIn)
      (arrowAfter G ⟨t.ahead.start, true, args⟩ allowIn) u :=
    (arrowAfter_tracks tracking good allowIn (h := ⟨_, _, _⟩) low).stays
  split
  next =>
    have heads : (v.state u).arrowHead = u.arrowHead.map v.head := rfl
    rw [heads]
    cases same : u.arrowHead with
    | none =>
      dsimp only [Option.map_none]
      split
      next none => cases none
      next => exact named _
      next => exact called _
      next => exact .failure
    | some head =>
      dsimp only [Option.map_some]
      split
      next some =>
        cases some
        have low' := good.heads head same
        have begun : ((v.head head).start == t.ahead.start - v.shift) = (head.start == t.ahead.start) := by
          rw [Bool.eq_iff_iff, beq_iff_eq, beq_iff_eq]
          dsimp only [Enclosed.head]
          omega
        rw [begun]
        refine .guarded (fun _ => .bind (.set (good.headless rfl rfl rfl) rfl rfl) fun _ u good => ?_) fun _ => .failure
        exact (arrowAfter_tracks tracking good allowIn low').stays
      next => exact named _
      next => exact called _
      next unnamed uncalled present =>
        split
        next => exact (present _ rfl rfl).elim
        next => exact (unnamed _ rfl).elim
        next => exact (uncalled _ rfl).elim
        next => exact .failure
  next =>
    refine .bind (pattern_tracks good false left) fun target u good => ?_
    split
    next => exact .failure
    next => exact .failure
    next => exact .bind (assigned_tracks tracking good left allowIn) fun value u good => .given good _
  next =>
    split
    next =>
      refine .bind (simpleTarget_tracks good left) fun target u good => .bind (.advance good) fun _ u good => ?_
      exact .bind (tracking.assign allowIn u good) fun value u good => .given good _
    next =>
      split
      next =>
        refine .bind (simpleTarget_tracks good left) fun target u good => ?_
        exact .bind (assigned_tracks tracking good target allowIn) fun value u good => .given good _
      next => exact .given good left
  next => exact .given good left

theorem newAfter_tracks : v.Follows (newAfter G) (newAfter G) t := by
  have made (e : Expr) (u : ParseState) (good : v.Good u) : v.Stays
      (do
        let callee ← links G false e
        if ← isPunct "(" then return Expr.new callee (← arguments G) else return .new callee [])
      (do
        let callee ← links G false e
        if ← isPunct "(" then return Expr.new callee (← arguments G) else return .new callee []) u := by
    refine .bind (links_tracks tracking good false e) fun callee u good => .isPunct good (by decide) <|
      .guarded (fun _ => ?_) fun _ =>
      .given good _
    exact .bind (arguments_tracks tracking good) fun args u good => .given good _
  refine .andThen (.advance good) fun _ u good => .eat good (fun u good => ?_) <| .isWord good <| .guarded (fun _ => .failure)
    fun _ => .isWord good <| .guarded (fun _ => .bind (tracking.newExpr _ good) made) fun _ =>
      .bind (primary_tracks tracking good) made
  refine .isWord good <| .get <| .guarded (fun _ => ?_) fun _ => .failure
  exact .bind (.advance good) fun _ u good => .given good _

end Parts

end Functions

end Enclosed

end BoundedScript.Script
