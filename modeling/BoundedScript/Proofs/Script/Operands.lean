import BoundedScript.Proofs.Script.Tokens

set_option autoImplicit false

namespace BoundedScript.Script.Grammar

open Parse

variable {G : Grammar} {src : Source}

structure Ended (t : ParseState) : Prop where
  closed : t.ahead.token = .punct ")" ∨ t.ahead.token = .punct ";" ∨ t.ahead.token = .endOfText

section Ended

variable {s t : ParseState} (ended : Ended t)
include ended

theorem ahead?_ended {p : String} (other : p ≠ ")" ∧ p ≠ ";") : ahead? t p = false := by
  rw [Bool.eq_false_iff]
  intro here
  rw [ahead?_iff] at here
  rcases ended.closed with same | same | same <;> rw [same] at here
  · exact other.1 (Token.punct.inj here).symm
  · exact other.2 (Token.punct.inj here).symm
  · cases here

theorem links_ended (e : Expr) : links G true e src t = some (e, t) := by
  have rounds : rounds src t = some (src.size + 2, t) := rfl
  rw [links, bind_eq rounds, loop]
  refine (bind_eq (a := .inr e) (t := t) ?_).trans rfl
  dsimp only
  rw [bind_eq token_apply]
  rcases ended.closed with same | same | same <;> rw [same] <;> rfl

theorem postfixOps_ended (e : Expr) : postfixOps e src t = some (e, t) := by
  have newline : newlineAhead src t = some (t.ahead.newline, t) := rfl
  rw [postfixOps, bind_eq newline]
  split
  · rfl
  · rw [bind_eq (isPunct_apply "++"), bind_eq (isPunct_apply "--"), ahead?_ended ended ⟨by decide, by decide⟩,
      ahead?_ended ended ⟨by decide, by decide⟩]
    rfl

theorem leftHandSide_ended {e : Expr} (first : primary G src s = some (e, t)) : leftHandSide G src s = some (e, t) := by
  have got : (get : Parse ParseState) src t = some (t, t) := rfl
  rw [leftHandSide, bind_eq first, bind_eq got, bind_eq (isPunct_apply "=>"), ahead?_ended ended ⟨by decide, by decide⟩,
    Bool.and_false]
  exact links_ended ended e

-- What an expression may start with that is no operand yet.
def openers : List Token :=
  [.punct "-", .punct "+", .punct "!", .punct "~", .punct "++", .punct "--", .word "typeof" false,
   .word "void" false, .word "delete" false, .word "await" false]

theorem unaryExpr_ended {e : Expr} (first : primary G src s = some (e, t)) (operand : s.ahead.token ∉ openers) :
    unaryExpr G src s = some ((e, false), t) := by
  have whole : (do return (← postfixOps (← leftHandSide G), false) : Parse (Expr × Bool)) src s =
      some ((e, false), t) := by
    rw [bind_eq (leftHandSide_ended ended first), bind_eq (postfixOps_ended ended e)]
    rfl
  have never : ∀ {o}, s.ahead.token = o → o ∈ openers → False := fun same listed => operand (same ▸ listed)
  rw [unaryExpr, bind_eq token_apply]
  refine Eq.trans (congrFun (congrFun ?_ src) s) whole
  split <;> first | rfl | (rename_i same; exact (never same (by simp [openers])).elim)

theorem powerExpr_ended {e : Expr} (first : primary G src s = some (e, t)) (operand : s.ahead.token ∉ openers) :
    powerExpr G src s = some (e, t) := by
  rw [powerExpr, bind_eq (unaryExpr_ended ended first operand)]
  dsimp only
  rw [bind_eq (isPunct_apply "**"), ahead?_ended ended ⟨by decide, by decide⟩]
  rfl

theorem operatorAhead_ended {allowIn : Bool} {ops : List (String × BinaryOp)} (known : ∀ p ∈ ops, p.1 ≠ ")" ∧ p.1 ≠ ";") :
    operatorAhead allowIn ops src t = some (Option.none, t) := by
  have missed : ∀ q, q = ")" ∨ q = ";" → ops.find? (·.1 == q) = Option.none := by
    intro q closing
    rw [List.find?_eq_none]
    intro p listed same
    have spelled := eq_of_beq same
    rcases closing with rfl | rfl
    · exact (known p listed).1 spelled
    · exact (known p listed).2 spelled
  rw [operatorAhead, bind_eq token_apply]
  rcases ended.closed with same | same | same <;> rw [same]
  · exact congrArg (fun o => some (o.map (·.2), t)) (missed _ (.inl rfl))
  · exact congrArg (fun o => some (o.map (·.2), t)) (missed _ (.inr rfl))
  · rfl

theorem binary_ended {allowIn : Bool} {e : Expr} (first : primary G src s = some (e, t)) (operand : s.ahead.token ∉ openers)
    {levels : List (List (String × BinaryOp))} (known : ∀ ops ∈ levels, ∀ p ∈ ops, p.1 ≠ ")" ∧ p.1 ≠ ";") :
    binary G allowIn levels src s = some (e, t) := by
  induction levels with
  | nil => exact powerExpr_ended ended first operand
  | cons ops tighter ih =>
    obtain ⟨here, later⟩ := List.forall_mem_cons.mp known
    have rounds : rounds src t = some (src.size + 2, t) := rfl
    rw [binary, bind_eq (ih later), bind_eq rounds, loop]
    refine (bind_eq (a := .inr e) (t := t) ?_).trans rfl
    rw [bind_eq (operatorAhead_ended ended here)]
    rfl

theorem bitOrExpr_ended {allowIn : Bool} {e : Expr} (first : primary G src s = some (e, t))
    (operand : s.ahead.token ∉ openers) : bitOrExpr G allowIn src s = some (e, t) :=
  binary_ended ended first operand (by simp [binaryLevels, List.forall_mem_cons, -List.mem_cons, -Prod.forall])

theorem operations_ended {mark : String} (other : mark ≠ ")" ∧ mark ≠ ";") {op : LogicalOp} {operand : Parse Expr}
    (left : Expr) (fuel : Nat) :
    loop (fun (left : Expr) => do
      if ← eat mark then return .inl (.logical op left (← operand))
      else return .inr left) left (fuel + 1) src t = some (left, t) := by
  rw [loop]
  refine (bind_eq (a := .inr left) (t := t) ?_).trans rfl
  rw [bind_eq (eat_missed (ahead?_ended ended other))]
  rfl

theorem logicalExpr_ended {allowIn : Bool} {e : Expr} (first : primary G src s = some (e, t))
    (operand : s.ahead.token ∉ openers) : logicalExpr G allowIn src s = some (e, t) := by
  have rounds : rounds src t = some (src.size + 2, t) := rfl
  have ands : andExpr G allowIn e src t = some (e, t) := by
    rw [andExpr, bind_eq rounds]
    exact operations_ended ended ⟨by decide, by decide⟩ e _
  have ors : loop (fun (left : Expr) => do
      if ← eat "||" then
        let right ← andExpr G allowIn (← bitOrExpr G allowIn)
        return .inl (.logical .or left right)
      else return .inr left) e (src.size + 2) src t = some (e, t) := by
    rw [loop]
    refine (bind_eq (a := .inr e) (t := t) ?_).trans rfl
    rw [bind_eq (eat_missed (ahead?_ended ended ⟨by decide, by decide⟩))]
    rfl
  have coalesce : ahead? t "??" = false := ahead?_ended ended ⟨by decide, by decide⟩
  rw [logicalExpr, bind_eq (bitOrExpr_ended ended first operand), bind_eq (isPunct_apply "??"), coalesce]
  simp only [Bool.false_eq_true, if_false]
  rw [bind_eq ands, bind_eq rounds, bind_eq ors, bind_eq (isPunct_apply "??"), coalesce]
  rfl

theorem conditional_ended {allowIn : Bool} {e : Expr} (first : primary G src s = some (e, t))
    (operand : s.ahead.token ∉ openers) : conditional G allowIn src s = some (e, t) := by
  have got : (get : Parse ParseState) src t = some (t, t) := rfl
  rw [conditional, bind_eq (logicalExpr_ended ended first operand), bind_eq got, bind_eq (isPunct_apply "=>"),
    ahead?_ended ended ⟨by decide, by decide⟩, Bool.and_false]
  simp only [Bool.false_eq_true, if_false]
  rw [bind_eq (eat_missed (ahead?_ended ended ⟨by decide, by decide⟩))]
  rfl

theorem assignExpr_ended {allowIn : Bool} {e : Expr} (first : primary G src s = some (e, t))
    (operand : s.ahead.token ∉ openers) (script : s.within.isGenerator = false) :
    assignExpr G allowIn src s = some (e, t) := by
  have got : ∀ t, (get : Parse ParseState) src t = some (t, t) := fun _ => rfl
  have begun : start src s = some (s.ahead.start, s) := rfl
  rw [assignExpr, bind_eq (got s), bind_eq (isWord_apply _), script, Bool.false_and]
  simp only [Bool.false_eq_true, if_false]
  rw [bind_eq begun, bind_eq (conditional_ended ended first operand), bind_eq (got t)]
  rcases ended.closed with same | same | same <;> rw [same] <;> rfl

theorem commaExpr_ended {allowIn : Bool} {e : Expr} (first : primary G src s = some (e, t))
    (operand : s.ahead.token ∉ openers) (script : s.within.isGenerator = false) :
    commaExpr (next G) allowIn src s = some (e, t) := by
  have rounds : rounds src t = some (src.size + 2, t) := rfl
  have assigned : (next G).assign allowIn src s = some (e, t) := assignExpr_ended ended first operand script
  rw [commaExpr, bind_eq assigned, bind_eq rounds, loop]
  refine (bind_eq (a := .inr e) (t := t) ?_).trans rfl
  rw [bind_eq (eat_missed (ahead?_ended ended ⟨by decide, by decide⟩))]
  rfl

end Ended

structure Poised (s : ParseState) (l : Lexeme) : Prop where
  ahead : s.ahead = l
  scopes : s.scopes = [⟨[], [], [], true⟩]
  headless : s.arrowHead = Option.none
  defaults : s.openDefaults = 0
  script : s.within.isGenerator = false ∧ s.within.isAsync = false

theorem items_single {s t u : ParseState} {e : Expr} (fuel : Nat) (open₁ : eat ")" src s = some (false, s))
    (open₂ : eat "..." src s = some (false, s)) (assigned : G.assign true src s = some (e, t))
    (closing : ahead? t ")" = true) (closed : eat ")" src t = some (true, u)) :
    loop (fun (acc : List Expr × Bool) => do
      let (items, plain) := acc
      if ← eat ")" then return .inr (items.reverse, plain && !items.isEmpty)
      if ← eat "..." then
        let e ← G.assign true
        expect ")"
        return .inr ((Expr.spread e :: items).reverse, false)
      let e ← G.assign true
      if ← isPunct ")" then return .inl (e :: items, plain)
      else
        expect ","
        return .inl (e :: items, !(← isPunct ")"))) ([], true) (fuel + 2) src s = some (([e], true), u) := by
  refine (loop_again (b := ([e], true)) (t := t) _ ?_).trans (loop_done _ ?_)
  · dsimp only
    rw [bind_eq open₁, if_neg Bool.false_ne_true, bind_eq open₂, if_neg Bool.false_ne_true, bind_eq assigned,
      bind_eq (isPunct_apply ")"), closing]
    rfl
  · dsimp only
    rw [bind_eq closed]
    rfl

section Comes

variable {s : ParseState} {l : Lexeme} (comes : Lexer.next src s.ahead.stop = some l)
include comes

theorem primary_string {u : Units} (text : s.ahead.token = .string u) :
    primary G src s = some (.constant (.string u), { s with ahead := l, lastStop := s.ahead.stop }) := by
  have begun : start src s = some (s.ahead.start, s) := rfl
  rw [primary, bind_eq begun, bind_eq token_apply, text]
  exact bind_eq (advance_eq comes)

theorem semicolon_taken (mark : s.ahead.token = .punct ";") :
    semicolon src s = some ((), { s with ahead := l, lastStop := s.ahead.stop }) := by
  rw [semicolon, bind_eq (eat_taken (ahead?_iff.mpr mark) comes)]
  rfl

end Comes

theorem semicolon_omitted {s : ParseState} (last : s.ahead.token = .endOfText) : semicolon src s = some ((), s) := by
  have got : (get : Parse ParseState) src s = some (s, s) := rfl
  have other : ahead? s ";" = false := by
    rw [Parse.ahead?, last]
  rw [semicolon, bind_eq (eat_missed other), if_neg Bool.false_ne_true, bind_eq got, last]
  rfl

section Poised

variable {s : ParseState} {l l' : Lexeme} (poised : Poised s l)
include poised

theorem Poised.ended (closed : l.token = .punct ")" ∨ l.token = .punct ";" ∨ l.token = .endOfText) : Ended s :=
  ⟨by rwa [poised.ahead]⟩

theorem Poised.ahead?_punct {q : String} (mark : l.token = .punct q) (p : String) : Parse.ahead? s p = (p == q) := by
  rw [Parse.ahead?, poised.ahead, mark]

theorem Poised.ahead?_word {n : String} {escaped : Bool} (word : l.token = .word n escaped) (p : String) :
    Parse.ahead? s p = false := by
  rw [Parse.ahead?, poised.ahead, word]

section Comes

variable (comes : Lexer.next src l.stop = some l')
include comes

theorem Poised.follows : Lexer.next src s.ahead.stop = some l' := by
  rwa [poised.ahead]

omit comes in
theorem Poised.advanced (l' : Lexeme) (last : Nat) : Poised { s with ahead := l', lastStop := last } l' :=
  ⟨rfl, poised.scopes, poised.headless, poised.defaults, poised.script⟩

theorem advance_poised : ∃ t, advance src s = some ((), t) ∧ Poised t l' :=
  ⟨_, advance_eq (poised.follows comes), poised.advanced l' _⟩

theorem primary_name {n : String} (word : l.token = .word n false) (free : n ∉ keywords) (direct : n ≠ "async") :
    ∃ t, primary G src s = some (.name n, t) ∧ Poised t l' := by
  have begun : start src s = some (s.ahead.start, s) := rfl
  have got : (get : Parse ParseState) src s = some (s, s) := rfl
  have noted : ∃ u, noteArguments n src s = some ((), u) ∧ Poised u l := by
    rw [noteArguments]
    split
    · exact ⟨_, rfl, poised.ahead, poised.scopes, poised.headless, poised.defaults, poised.script⟩
    · exact ⟨s, rfl, poised⟩
  obtain ⟨u, noted, same⟩ := noted
  obtain ⟨t, passed, later⟩ := advance_poised same comes
  have named : nameExpr n src s = some (.name n, t) := by
    have unreserved : isReserved n = false := by
      rw [isReserved, Bool.eq_false_iff, ne_eq, List.contains_iff_mem]
      exact free
    rw [nameExpr, unreserved]
    simp only [Bool.false_eq_true, if_false]
    rw [bind_eq got, poised.script.2, Bool.and_false]
    simp only [Bool.false_eq_true, if_false]
    rw [bind_eq noted, bind_eq passed]
    rfl
  refine ⟨t, ?_, later⟩
  rw [primary, bind_eq begun, bind_eq token_apply, poised.ahead, word]
  refine Eq.trans (congrFun (congrFun ?_ src) s) named
  -- Words that are no names are not read as such.
  have apart : ∀ w ∈ keywords, n ≠ w := fun w listed same => free (same ▸ listed)
  split <;> rename_i same <;> first
    | exact (same n false rfl).elim
    | cases same <;> first
      | rfl
      | exact (direct rfl).elim
      | exact (apart _ (by decide) rfl).elim

end Comes

theorem primary_parenthesized {l₁ l₂ l₃ : Lexeme} {e : Expr} (mark : l.token = .punct "(")
    (first : Lexer.next src l.stop = some l₁) (word : ∃ n, l₁.token = .word n false ∧ n ∉ keywords ∧ n ≠ "await")
    (inner : ∀ s, Poised s l₁ → ∃ t, primary G src s = some (e, t) ∧ Poised t l₂) (closes : l₂.token = .punct ")")
    (last : Lexer.next src l₂.stop = some l₃) (arrowless : l₃.token ≠ .punct "=>") :
    ∃ t, primary (next G) src s = some (.paren e, t) ∧ Poised t l₃ := by
  have begun : start src s = some (s.ahead.start, s) := rfl
  obtain ⟨n, word, free, direct⟩ := word
  obtain ⟨s₁, passed, here⟩ := advance_poised poised first
  obtain ⟨s₂, found, there⟩ := inner s₁ here
  let s₃ : ParseState := { s₂ with ahead := l₃, lastStop := s₂.ahead.stop }
  have past : Poised s₃ l₃ := there.advanced l₃ _
  refine ⟨s₃, ?_, past⟩
  have operand : s₁.ahead.token ∉ openers := by
    rw [here.ahead, word]
    intro listed
    simp only [openers, List.mem_cons, Token.word.injEq, reduceCtorEq, and_true, List.not_mem_nil, or_false, false_or] at listed
    rcases listed with rfl | rfl | rfl | rfl
    · exact free (by decide)
    · exact free (by decide)
    · exact free (by decide)
    · exact direct rfl
  have assigned : (next G).assign true src s₁ = some (e, s₂) :=
    assignExpr_ended (there.ended (.inl closes)) found operand here.script.1
  have rounds : rounds src s₁ = some (src.size + 2, s₁) := rfl
  have closing : ahead? s₂ ")" = true := by rw [there.ahead?_punct closes]; rfl
  have items := items_single src.size (eat_missed (here.ahead?_word word _)) (eat_missed (here.ahead?_word word _))
    assigned closing (eat_taken closing (there.follows last))
  have headless : ahead? s₃ "=>" = false := by
    rw [Bool.eq_false_iff, ne_eq, ahead?_iff]
    exact arrowless
  rw [primary, bind_eq begun, bind_eq token_apply, poised.ahead, mark]
  refine (bind_eq passed).trans ?_
  rw [parenthesized, bind_eq rounds, bind_eq items]
  dsimp only
  rw [bind_eq (isPunct_apply "=>"), headless]
  rfl

theorem statementBody_ended {e : Expr} (opens : l.token ∉ openers ∧ l.token ≠ .punct ";" ∧ l.token ≠ .punct "\x7b")
    (wordless : ∀ n escaped, l.token ≠ .word n escaped) (nameless : ∀ n, e ≠ .name n) {t u : ParseState} (ended : Ended t)
    (first : primary G src s = some (e, t)) (stops : semicolon src t = some ((), u)) :
    statementBody (next (next G)) src s = some (.expr e, u) := by
  have begun : start src s = some (s.ahead.start, s) := rfl
  have operand : s.ahead.token ∉ openers := by
    rw [poised.ahead]
    exact opens.1
  have read : (next (next G)).expr true src s = some (e, t) := commaExpr_ended ended first operand poised.script.1
  have stated : expressionStatement (next (next G)) src s = some (.expr e, u) := by
    rw [expressionStatement, bind_eq read]
    split
    next n => exact (nameless n rfl).elim
    next => exact bind_eq stops
  rw [statementBody, bind_eq begun, bind_eq token_apply, poised.ahead]
  refine Eq.trans (congrFun (congrFun ?_ src) s) stated
  split
  next same => exact (opens.2.2 same).elim
  next same => exact (opens.2.1 same).elim
  next same => exact (wordless _ _ same).elim
  next => rfl

end Poised

end BoundedScript.Script.Grammar

namespace BoundedScript.Script

open Grammar Parse Lexer

def nameProgram (n : String) : Program :=
  ⟨[], [], [.expr (.constant (.string (Units.ofString "use strict"))), .expr (.paren (.name n))]⟩

def scriptAt (l : Lexeme) (last : Nat) : ParseState :=
  ⟨l, last, [⟨[], [], [], true⟩], .script, 0, 0, .none⟩

theorem scriptAt_poised (l : Lexeme) (last : Nat) : Poised (scriptAt l last) l :=
  ⟨rfl, rfl, rfl, rfl, rfl, rfl⟩

theorem withScope_eq {α : Type} {src : Source} {s t : ParseState} (isFunction : Bool) (params : List String) {x : Parse α}
    {a : α} (ran : x src { s with scopes := ⟨[], [], params, isFunction⟩ :: s.scopes } = some (a, t)) {top : OpenScope}
    {outer : List OpenScope} (scopes : t.scopes = top :: outer) :
    withScope isFunction params x src s = some ((a, top), { t with scopes := outer }) := by
  have opened : (modify fun s => { s with scopes := ⟨[], [], params, isFunction⟩ :: s.scopes } : Parse Unit) src s =
      some ((), { s with scopes := ⟨[], [], params, isFunction⟩ :: s.scopes }) := rfl
  have got : (get : Parse ParseState) src t = some (t, t) := rfl
  rw [withScope, bind_eq opened, bind_eq ran, bind_eq got, scopes]
  rfl

section Statements

variable {src : Source} {s t u : ParseState}

def statementStep (acc : List Stmt) : Parse (List Stmt ⊕ List Stmt) := do
  match ← token with
  | .endOfText => return .inr acc.reverse
  | _ => return .inl ((← fullGrammar.statement) :: acc)

theorem statementStep_more (more : s.ahead.token ≠ .endOfText) (acc : List Stmt) :
    statementStep acc src s = (do return .inl ((← fullGrammar.statement) :: acc) : Parse (List Stmt ⊕ List Stmt)) src s := by
  rw [statementStep, bind_eq token_apply]
  cases ahead : s.ahead.token with
  | endOfText => exact (more ahead).elim
  | _ => rfl

theorem statementStep_done (last : s.ahead.token = .endOfText) (acc : List Stmt) :
    statementStep acc src s = some (.inr acc.reverse, s) := by
  rw [statementStep, bind_eq token_apply, last]
  rfl

theorem statements_pair {a b : Stmt} (fuel : Nat) (here : s.ahead.token ≠ .endOfText)
    (first : fullGrammar.statement src s = some (a, t)) (there : t.ahead.token ≠ .endOfText)
    (second : fullGrammar.statement src t = some (b, u)) (ended : u.ahead.token = .endOfText) :
    loop statementStep [] (fuel + 3) src s = some ([a, b], u) :=
  (loop_again _ ((statementStep_more here _).trans (bind_eq first))).trans
    ((loop_again _ ((statementStep_more there _).trans (bind_eq second))).trans (loop_done _ (statementStep_done ended _)))

end Statements

structure ReadAs (text : String) (p : Program) (body : List Stmt) (u : ParseState) : Prop where
  reads : ∃ first, next text.toList.toArray 0 = some first ∧
    loop statementStep [] (text.toList.toArray.size + 2) text.toList.toArray (scriptAt first 0) = some (body, u)
  program : ∃ top outer, u.scopes = top :: outer ∧ p = ⟨top.vars, top.lexicals, body⟩
  settled : u.openDefaults = 0

theorem ReadAs.parse {text : String} {p : Program} {body : List Stmt} {u : ParseState} (script : ReadAs text p body u) :
    Script.parse text = some p := by
  obtain ⟨⟨first, follows, read⟩, ⟨top, outer, scopes, rfl⟩, settled⟩ := script
  let src : Source := text.toList.toArray
  have rounds : Parse.rounds src (scriptAt first 0) = some (src.size + 2, scriptAt first 0) := rfl
  have inner := withScope_eq (s := { scriptAt first 0 with scopes := [] }) true [] ((bind_eq rounds).trans read) scopes
  have got : ∀ t, (get : Parse ParseState) src t = some (t, t) := fun _ => rfl
  have ran : scriptReader src { scriptAt first 0 with scopes := [] } =
      some (⟨top.vars, top.lexicals, body⟩, { u with scopes := outer }) := by
    refine (bind_eq inner).trans ?_
    dsimp only
    rw [bind_eq (got _), settled]
    rfl
  exact Option.bind_eq_some_iff.mpr ⟨first, follows, Option.bind_eq_some_iff.mpr ⟨_, ran, rfl⟩⟩

theorem strictText_bracket (e : String) : Left (strictText e).toList.toArray 14 ('(' :: (e.toList ++ [')'])) :=
  (Left.pass ('"' :: Lexer.directive ++ ['"']) (strictText_left e)).tail.tail

theorem directive_read (e : String) :
    fullGrammar.statement (strictText e).toList.toArray
        (scriptAt ⟨.string (Units.ofString "use strict"), 0, 12, false⟩ 0) =
      some (.expr (.constant (.string (Units.ofString "use strict"))), scriptAt ⟨.punct "(", 14, 15, false⟩ 13) := by
  have whole : Left (strictText e).toList.toArray 12 (';' :: ' ' :: '(' :: (e.toList ++ [')'])) :=
    Left.pass ('"' :: Lexer.directive ++ ['"']) (strictText_left e)
  have mark : Lexer.next (strictText e).toList.toArray 12 = some ⟨.punct ";", 12, 13, false⟩ :=
    next_of_tokenAt whole (by decide) (tokenAt_single whole (by decide) (by decide))
  have bracket : Lexer.next (strictText e).toList.toArray 13 = some ⟨.punct "(", 14, 15, false⟩ :=
    next_of_blank whole.tail (by decide) (tokenAt_single whole.tail.tail (by decide) (by decide))
  have text := primary_string (G := ofDepth 1197)
    (s := scriptAt ⟨.string (Units.ofString "use strict"), 0, 12, false⟩ 0) mark rfl
  have stopped := semicolon_taken (s := scriptAt ⟨.punct ";", 12, 13, false⟩ 12) bracket rfl
  exact statementBody_ended (scriptAt_poised _ _) (by simp [openers]) (by simp) (by simp) ⟨.inr (.inl rfl)⟩ text stopped

theorem strictText_lexemes {n : String} (word : Expression.isIdentifier n) :
    Lexer.next (strictText n).toList.toArray 15 = some ⟨.word n false, 15, 15 + n.length, false⟩ ∧
    Lexer.next (strictText n).toList.toArray (15 + n.length) =
      some ⟨.punct ")", 15 + n.length, 15 + n.length + 1, false⟩ ∧
    Lexer.next (strictText n).toList.toArray (15 + n.length + 1) =
      some ⟨.endOfText, 15 + n.length + 1, 15 + n.length + 1, false⟩ := by
  have inside : Left (strictText n).toList.toArray 15 (n.toList ++ [')']) := (strictText_bracket n).tail
  have close : Left (strictText n).toList.toArray (15 + n.length) [')'] := by
    rw [← String.length_toList]
    exact inside.pass _
  refine ⟨next_word word inside (by decide), ?_, next_end close.tail⟩
  exact next_of_tokenAt close (by decide) (tokenAt_single close (by decide) (by decide))

theorem parse_name {n : String} (word : Expression.isIdentifier n) (free : n ∉ keywords) (direct : n ≠ "async" ∧ n ≠ "await") :
    parse (strictText n) = some (nameProgram n) := by
  let src : Source := (strictText n).toList.toArray
  obtain ⟨third, fourth, fifth⟩ := strictText_lexemes word
  let top := scriptAt ⟨.string (Units.ofString "use strict"), 0, 12, false⟩ 0
  have again : Poised (scriptAt ⟨.punct "(", 14, 15, false⟩ 13) ⟨.punct "(", 14, 15, false⟩ := scriptAt_poised _ _
  obtain ⟨s₃, named, last⟩ := primary_parenthesized (G := ofDepth 1196) (e := .name n) again rfl third
    ⟨n, rfl, free, direct.2⟩ (fun s here => primary_name here fourth rfl free direct.1) rfl fifth (by simp)
  have read : fullGrammar.statement src (scriptAt ⟨.punct "(", 14, 15, false⟩ 13) = some (.expr (.paren (.name n)), s₃) :=
    statementBody_ended again (by simp [openers]) (by simp) (by simp) (last.ended (.inr (.inr rfl))) named
      (semicolon_omitted (by rw [last.ahead]))
  obtain ⟨fuel, size⟩ : ∃ fuel, src.size + 2 = fuel + 3 := by
    have fits : 1 ≤ src.size := Left.fits ['"'] (strictText_left n) (by simp)
    exact ⟨src.size - 1, by omega⟩
  have body := statements_pair fuel (s := top) (by simp [top, scriptAt]) (directive_read n) (by simp [scriptAt]) read
    (by rw [last.ahead])
  rw [← size] at body
  exact ReadAs.parse ⟨⟨_, strictText_first n, body⟩, ⟨_, [], last.scopes, rfl⟩, last.defaults⟩

end BoundedScript.Script
