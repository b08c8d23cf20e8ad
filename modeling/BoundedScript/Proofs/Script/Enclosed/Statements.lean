import BoundedScript.Proofs.Script.Enclosed.Expressions

set_option autoImplicit false

namespace BoundedScript.Script.Enclosed

open Lexer Parse
open Grammar hiding none

variable {v : Enclosed} {G : Grammar} (tracking : v.Tracking G)

section Parts

variable {t : ParseState} (good : v.Good t)
include good

theorem declareKind?_tracks : v.Stays declareKind? declareKind? t :=
  .eatWord good (fun _ good => .given good _) <| .eatWord good (fun _ good => .given good _) <|
    .eatWord good (fun _ good => .given good _) <| .given good _

theorem jumpLabel_tracks : v.Stays jumpLabel jumpLabel t := by
  refine .newlineAhead <| .guarded (fun _ => .given good _) fun _ =>
    .token good ?_ (.given good _) (.given good _)
  cases t.ahead.token with
  | word n escaped =>
    exact .guarded (fun _ => .given good _) fun _ => .andThen (.advance good) fun _ u good => .given good _
  | _ => exact .given good _

theorem breakStatement_tracks : v.Stays breakStatement breakStatement t := by
  refine .bind (jumpLabel_tracks good) fun label u good => .get ?_
  have ended : v.Stays (do semicolon; return Stmt.breakTo label) (do semicolon; return Stmt.breakTo label) u :=
    .bind (semicolon_tracks good) fun _ u good => .given good _
  cases label with
  | none => exact .guarded (fun _ => .failure) fun _ => ended
  | some n => exact .guarded (fun _ => .failure) fun _ => ended

theorem continueStatement_tracks : v.Stays continueStatement continueStatement t := by
  refine .bind (jumpLabel_tracks good) fun label u good => .get ?_
  have ended : v.Stays (do semicolon; return Stmt.continueTo label) (do semicolon; return Stmt.continueTo label) u :=
    .bind (semicolon_tracks good) fun _ u good => .given good _
  cases label with
  | none => exact .guarded (fun _ => .failure) fun _ => ended
  | some n => exact .guarded (fun _ => .failure) fun _ => ended

theorem inLoop_tracks {body : Parse Stmt} (read : ∀ u, v.Good u → v.Fronts body body u) :
    v.Fronts (inLoop body) (inLoop body) t :=
  .get <| .bind (.alter (good.like rfl rfl rfl) rfl rfl) fun _ u good => .andThen (read u good) fun b _ good =>
    .bind (.alter (good.like rfl rfl rfl) rfl rfl) fun _ _ good => .done good b

include tracking

theorem bindingTarget_tracks (kind : DeclareKind) : v.Follows (bindingTarget G kind) (bindingTarget G kind) t := by
  have target : v.Follows
      (do
        if (← isPunct "[") || (← isPunct "\x7b") then pattern true (← primary G)
        else return .name (← bindingName) : Parse Pattern)
      (do
        if (← isPunct "[") || (← isPunct "\x7b") then pattern true (← primary G)
        else return .name (← bindingName)) t := by
    refine .isPunct good (by decide) <| .isPunct good (by decide) <| .guarded (fun _ => ?_) fun _ => ?_
    · exact .andThen (primary_tracks tracking good) fun e u good => pattern_tracks good true e
    · exact .andThen (bindingName_tracks good) fun n u good => .given good _
  exact .andThen target fun p u good => .bind (.forM (fun n u good => declare_tracks good kind n) _ good) fun _ u good =>
    .given good p

theorem initializer_tracks (target : Pattern) (allowIn : Bool) :
    v.Follows (initializer G target allowIn) (initializer G target allowIn) t := by
  refine .andThen (tracking.assign allowIn t good) fun value u good => ?_
  split <;> exact .given good _

theorem declaration_tracks (kind : DeclareKind) (allowIn : Bool) (p : Pattern) : v.Stays
    (do
      if ← eat "=" then return .declare kind p (← initializer G p allowIn)
      else
        match kind, p with
        | .const, _ => failure
        | _, .name _ => return .declare kind p .absent
        | _, _ => failure : Parse Stmt)
    (do
      if ← eat "=" then return .declare kind p (← initializer G p allowIn)
      else
        match kind, p with
        | .const, _ => failure
        | _, .name _ => return .declare kind p .absent
        | _, _ => failure) t := by
  refine .eat good (fun u good => .bind (initializer_tracks tracking good p allowIn) fun e u good => .given good _) ?_
  split
  · exact .failure
  · exact .given good _
  · exact .failure

theorem declarations_tracks (kind : DeclareKind) (allowIn : Bool) (first : Pattern) :
    v.Stays (declarations G kind allowIn first) (declarations G kind allowIn first) t := by
  refine .bind (declaration_tracks tracking good kind allowIn first) fun d u good =>
    .rounds good fun m n room => .loop (fun acc u good => ?_) good room
  refine .eat good (fun u good => ?_) (.pure good _ rfl)
  exact .bind (bindingTarget_tracks tracking good kind) fun p u good =>
    .bind (declaration_tracks tracking good kind allowIn p) fun d u good => .done good _

theorem subStatement_tracks : v.Fronts (subStatement G) (subStatement G) t :=
  .isWord good <| .isWord good <| .isWord good <| .isWord good <| .guarded (fun _ => .failure) fun _ =>
    tracking.statement t good

theorem blockStatements_tracks : v.Follows (blockStatements G) (blockStatements G) t :=
  .andThen (.withScope (fun _ good => statements_tracks tracking good) good) fun _ _ good => .given good _

theorem block_tracks : v.Follows (block G) (block G) t :=
  .andThen (.expect good) fun _ _ good => (blockStatements_tracks tracking good).stays

theorem afterInit_tracks (init : Stmt) :
    v.Tracks (fun _ => false) (fun _ => true) (afterInit G init) (afterInit G init) t := by
  refine .bind (.expect good) fun _ u good => .isPunct good (by decide) <| .either (d := false) (fun _ => .given good _)
    (fun _ => (tracking.expr true u good).stays) fun test u good => .bind (.expect good) fun _ u good => ?_
  exact .isPunctInside good <| .either (d := false) (fun _ => .given good _) (fun _ => (tracking.expr true u good).stays)
    fun update u good => .done good _

theorem loopHead_tracks : v.Tracks (fun _ => false) (fun _ => true) (loopHead G) (loopHead G) t := by
  refine .isPunct good (by decide) <| .guarded (fun _ => afterInit_tracks tracking good _) fun _ =>
    .bind (declareKind?_tracks good) fun kind? u good => ?_
  cases kind? with
  | some kind =>
    refine .bind (bindingTarget_tracks tracking good kind) fun target u good => .eatWord good (fun u good => ?_) <|
      .eatWord good (fun u good => ?_) ?_
    · exact .bind (tracking.assign true u good) fun e u good => .done good _
    · exact .bind (tracking.expr true u good) fun e u good => .done good _
    · exact .bind (declarations_tracks tracking good kind false target) fun items u good => afterInit_tracks tracking good _
  | none =>
    refine .bind (tracking.expr false u good) fun e u good => .eatWord good (fun u good => ?_) <|
      .eatWord good (fun u good => ?_) (afterInit_tracks tracking good _)
    · refine .bind (pattern_tracks good false e) fun p u good => .bind (tracking.assign true u good) fun e u good =>
        .done good _
    · refine .bind (pattern_tracks good false e) fun p u good => .bind (tracking.expr true u good) fun e u good => .done good _

theorem forStatement_tracks : v.Fronts (forStatement G) (forStatement G) t := by
  refine .andThen (.expect good) fun _ u good => .get <| .bind (.withScope (c := true) (d := true) (fun u good => ?_) good) ?_
  · refine .bind (loopHead_tracks tracking good) fun head u good => .andThen (.expect good) fun _ u good => ?_
    exact .bind (inLoop_tracks good fun u good => subStatement_tracks tracking good) fun body u good => .done good _
  · rintro ⟨⟨head, body⟩, scope⟩ u good
    refine .get ?_
    cases head <;> exact .done good _

theorem switchStatement_tracks : v.Fronts (switchStatement G) (switchStatement G) t := by
  have caseBody (u : ParseState) (good : v.Good u) : v.Tracks (fun _ => false) (fun _ => true)
      (do
        loop (fun (acc : List Stmt) => do
          if (← isPunct "\x7d") || (← isWord "case") || (← isWord "default") then return .inr acc.reverse
          return .inl ((← G.statement) :: acc)) [] (← rounds) : Parse (List Stmt))
      (do
        loop (fun (acc : List Stmt) => do
          if (← isPunct "\x7d") || (← isWord "case") || (← isWord "default") then return .inr acc.reverse
          return .inl ((← G.statement) :: acc)) [] (← rounds)) u := by
    refine .rounds good fun m n room => .repeated (c := false) (d := true) (e := true) (fun acc u good => ?_)
      (fun _ => rfl) good room
    refine .isPunct good (by decide) <| .isWord good <| .isWord good <| .guarded (fun _ => .pure good _ rfl) fun _ => ?_
    exact .andPure (tracking.statement u good) (fun _ _ => rfl) fun _ _ => rfl
  refine .andThen (.expect good) fun _ u good => .bind (tracking.expr true u good) fun value u good =>
    .bind (.expect good) fun _ u good => .bind (.expect good) fun _ u good => .get <|
      .bind (.alter (good.like rfl rfl rfl) rfl rfl) fun _ u good => ?_
  refine .bind (.withScope (c := true) (d := true) (fun u good => ?_) good) fun ⟨cases, scope⟩ u good =>
    .bind (.alter (good.like rfl rfl rfl) rfl rfl) fun _ u good => .done good _
  refine .rounds good fun m n room => .loopOn ?_ good room
  rintro ⟨cases, hasDefault⟩ u good
  refine .eat good (fun u good => .done good _) <| .eatWord good (fun u good => ?_) <| .eatWord good (fun u good => ?_) .failure
  · refine .bind (tracking.expr true u good) fun test u good => .bind (.expect good) fun _ u good => ?_
    exact .bind (caseBody u good) fun body u good => .done good _
  · refine .guarded (fun _ => .failure) fun _ => .bind (.expect good) fun _ u good => ?_
    exact .bind (caseBody u good) fun body u good => .done good _

theorem catchClause_tracks : v.Follows (catchClause G) (catchClause G) t := by
  refine .eat good (fun u good => ?_) <| .andThen (block_tracks tracking good) fun b u good => .given good _
  refine .bind (.withScope (c := true) (d := false) (fun u good => ?_) good) fun ⟨⟨param, handler⟩, scope⟩ u good =>
    .given good _
  refine .andThen (bindingTarget_tracks tracking good .letKind) fun param u good => .bind (.expect good) fun _ u good => ?_
  refine .bind (.alter (good.like rfl rfl rfl) rfl rfl) fun _ u good => .bind (.expect good) fun _ u good => ?_
  exact .bind (.withScope (fun u good => statements_tracks tracking good) good) fun ⟨body, inner⟩ u good => .given good _

theorem tryStatement_tracks : v.Follows (tryStatement G) (tryStatement G) t := by
  refine .andThen (block_tracks tracking good) fun body u good => ?_
  refine .optional good (fun u good => (Tracks.mapped (catchClause_tracks tracking good)).stays) (.given good none)
    fun handler u good => .optional good (fun u good => (Tracks.mapped (block_tracks tracking good)).stays) (.given good none)
      fun finalizer u good => ?_
  dsimp only
  split
  · exact .failure
  · exact .given good _
  · exact .given good _

theorem labelledStatement_tracks (n : String) : v.Fronts (labelledStatement G n) (labelledStatement G n) t := by
  refine .get <| .guarded (fun _ => .failure) fun _ => .isWord good <| .isWord good <| .isWord good <| .tokenInside good ?_
  refine .bind (.alter (good.like rfl rfl rfl) rfl rfl) fun _ u good =>
    .andThen (subStatement_tracks tracking good) fun body u good => ?_
  exact .bind (.alter (good.like rfl rfl rfl) rfl rfl) fun _ u good => .done good _

theorem expressionStatement_tracks : v.Fronts (expressionStatement G) (expressionStatement G) t := by
  refine .andThen (tracking.expr true t good) fun e u good => ?_
  split
  · refine .isPunct good (by decide) <| .guarded (fun _ => ?_) fun _ => .bind (semicolon_tracks good) fun _ u good =>
      .done good _
    exact .bind (.advance good) fun _ u good => (labelledStatement_tracks tracking good _).stays
  · exact .bind (semicolon_tracks good) fun _ u good => .done good _

theorem wordStatement_tracks (w : String) {first : Nat} (low : v.shift ≤ first) (word : ∃ n, t.ahead.token = .word n false) :
    v.Fronts (wordStatement G w (first - v.shift)) (wordStatement G w first) t := by
  rw [wordStatement, wordStatement]
  refine .guarded (fun _ => ?_) fun _ => ?_
  · refine .bind (declareKind?_tracks good) fun kind? u good => ?_
    cases kind? with
    | none => exact .failure
    | some kind =>
      refine .andThen (bindingTarget_tracks tracking good kind) fun target u good => ?_
      refine .bind (declarations_tracks tracking good kind true target) fun items u good => ?_
      exact .bind (semicolon_tracks good) fun _ u good => .done good _
  refine .guarded (fun _ => ?_) fun _ => ?_
  · refine .andThen (.advance good) fun _ u good => .bind (functionAfter_tracks tracking good low _ _) fun f u good => ?_
    exact .bind (declareFunction_tracks good _) fun _ u good => .done good _
  refine .guarded (fun _ => ?_) fun _ => ?_
  · refine .andThen (.advance good) fun _ u good => .bind (classAfter_tracks tracking good low _) fun ⟨name, e⟩ u good => ?_
    cases name with
    | none => exact .failure
    | some n => exact .bind (declare_tracks good _ n) fun _ u good => .done good _
  refine .guarded (fun _ => ?_) fun _ => ?_
  · refine .andThen (.advance good) fun _ u good => .bind (.expect good) fun _ u good =>
      .bind (tracking.expr true u good) fun test u good => .bind (.expect good) fun _ u good => ?_
    refine .bind (subStatement_tracks tracking good) fun yes u good => .optional (d := true) good
      (fun u good => (subStatement_tracks tracking good).stays) (.done good _) fun no u good => .done good _
  refine .guarded (fun _ => ?_) fun _ => ?_
  · exact .andThen (.advance good) fun _ u good => (forStatement_tracks tracking good).stays
  refine .guarded (fun _ => ?_) fun _ => ?_
  · refine .andThen (.advance good) fun _ u good => .bind (.expect good) fun _ u good =>
      .bind (tracking.expr true u good) fun test u good => .bind (.expect good) fun _ u good => ?_
    exact .bind (inLoop_tracks good fun u good => subStatement_tracks tracking good) fun body u good => .done good _
  refine .guarded (fun _ => ?_) fun _ => ?_
  · refine .andThen (.advance good) fun _ u good =>
      .bind (inLoop_tracks good fun u good => subStatement_tracks tracking good) fun body u good => ?_
    refine .eatWordCases good (fun u good => ?_) .failure
    refine .bind (.expect good) fun _ u good => .bind (tracking.expr true u good) fun test u good => ?_
    exact .bind (.expect good) fun _ u good => .bind (.eats good) fun _ u good => .done good _
  refine .guarded (fun _ => ?_) fun _ => ?_
  · refine .get <| .guarded (fun _ => .failure) fun _ => .andThen (.advance good) fun _ u good => ?_
    refine .newlineAhead <| .isPunct good (by decide) <| .isPunct good (by decide) <| .guarded (fun _ => ?_) fun _ =>
      .tokenInside good ?_
    · exact .bind (semicolon_tracks good) fun _ u good => .done good _
    have given : v.Tracks (fun _ => false) (fun _ => true) (do
        let e ← G.expr true
        semicolon
        return Stmt.return e) (do
        let e ← G.expr true
        semicolon
        return Stmt.return e) u :=
      .bind (tracking.expr true u good) fun e u good => .bind (semicolon_tracks good) fun _ u good => .done good _
    cases u.ahead.token with
    | endOfText => exact .done good _
    | _ => exact given
  refine .guarded (fun _ => ?_) fun _ => ?_
  · exact .andThen (.advance good) fun _ u good => (breakStatement_tracks good).weaken nofun nofun
  refine .guarded (fun _ => ?_) fun _ => ?_
  · exact .andThen (.advance good) fun _ u good => (continueStatement_tracks good).weaken nofun nofun
  refine .guarded (fun _ => ?_) fun _ => ?_
  · refine .andThen (.advance good) fun _ u good => .newlineAhead <| .guarded (fun _ => .failure) fun _ => ?_
    exact .bind (tracking.expr true u good) fun e u good => .bind (semicolon_tracks good) fun _ u good => .done good _
  refine .guarded (fun _ => ?_) fun _ => ?_
  · exact .andThen (.advance good) fun _ u good => (tryStatement_tracks tracking good).weaken nofun nofun
  refine .guarded (fun _ => ?_) fun _ => ?_
  · exact .andThen (.advance good) fun _ u good => (switchStatement_tracks tracking good).stays
  refine .guarded (fun _ => ?_) fun _ => ?_
  · exact .andThen (.advance good) fun _ u good => .bind (semicolon_tracks good) fun _ u good => .done good _
  refine .guarded (fun _ => ?_) fun _ => expressionStatement_tracks tracking good
  refine .get <| .retried good word (fun u good => ?_) (expressionStatement_tracks tracking good)
  refine .bind (.advance good) fun _ u good => .bind (functionAfter_tracks tracking good low _ _) fun f u good => ?_
  exact .bind (declareFunction_tracks good _) fun _ u good => .done good _

theorem statementBody_tracks : v.Fronts (statementBody G) (statementBody G) t := by
  have low : v.shift ≤ t.ahead.start := good.low.trans good.order
  refine .start good <| .tokenInside good ?_
  split
  next => exact .andThen (.advance good) fun _ u good =>
    (blockStatements_tracks tracking good).stays.weaken nofun (fun _ _ => rfl)
  next => exact .andThen (.advance good) fun _ u good => .done good _
  next word => exact wordStatement_tracks tracking good _ low ⟨_, word⟩
  next => exact expressionStatement_tracks tracking good

end Parts

theorem Tracking.next {v : Enclosed} {G : Grammar} (tracking : v.Tracking G) : v.Tracking (Grammar.next G) where
  expr allowIn _ good := commaExpr_tracks tracking good allowIn
  assign allowIn _ good := assignExpr_tracks tracking good allowIn
  unary _ good := .mapped (unaryExpr_tracks tracking good)
  power _ good := powerExpr_tracks tracking good
  newExpr _ good := newAfter_tracks tracking good
  statement _ good := statementBody_tracks tracking good

theorem ofDepth_tracking (v : Enclosed) (depth : Nat) : v.Tracking (ofDepth depth) := by
  induction depth with
  | zero =>
    exact ⟨fun _ _ _ => .failure, fun _ _ _ => .failure, fun _ _ => .failure, fun _ _ => .failure, fun _ _ => .failure,
      fun _ _ => .failure⟩
  | succ depth ih => exact ih.next

end BoundedScript.Script.Enclosed
