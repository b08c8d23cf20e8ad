import BoundedScript.Evaluator
import BoundedScript.Worker
import BoundedScript.Proofs.Script.Enclosed.Brackets

set_option autoImplicit false

namespace BoundedScript.Script

open Lexer Parse
open Grammar hiding next none

def operandGrammar : Grammar :=
  Grammar.ofDepth (maxNesting - 3)

def begun {α : Type} (reader : Parse α) (text : String) : Option (α × ParseState) :=
  (next text.toList.toArray 0).bind fun first => reader text.toList.toArray (scriptAt first 0)

def IsExpression (text : String) (e : Expr) : Prop :=
  ∃ t, begun (commaExpr operandGrammar true) text = some (e, t) ∧ t.ahead.token = .endOfText ∧ t.openDefaults = 0

/-- Whether the text closes a bracket that stands in front of it, behind an expression or behind the parameters of an
arrow. -/
def closesEarly (text : String) : Bool :=
  (begun (commaExpr operandGrammar true) text).any (ahead? ·.2 ")") || (begun (items operandGrammar) text).any (ahead? ·.2 "=>")

theorem closesEarly_expression {text : String} {e : Expr} {t : ParseState}
    (read : begun (commaExpr operandGrammar true) text = some (e, t)) (closing : ahead? t ")" = true) :
    closesEarly text = true := by
  rw [closesEarly, read, Option.any_some, closing, Bool.true_or]

theorem closesEarly_parameters {text : String} {r : List Expr × Bool} {t : ParseState}
    (read : begun (items operandGrammar) text = some (r, t)) (arrow : ahead? t "=>" = true) : closesEarly text = true := by
  rw [closesEarly, read, Option.any_some, arrow, Bool.or_true]

theorem IsExpression.closes_late {text : String} {e : Expr} (whole : IsExpression text e) : closesEarly text = false := by
  obtain ⟨t, read, ends, -⟩ := whole
  have apart : ahead? t ")" = false := by rw [ahead?, ends]
  have unlisted : begun (items operandGrammar) text = none := by
    refine Option.eq_none_iff_forall_ne_some.mpr fun r listed => ?_
    obtain ⟨l, follows, read⟩ := Option.bind_eq_some_iff.mp read
    obtain ⟨l', follows', listed⟩ := Option.bind_eq_some_iff.mp listed
    cases follows.symm.trans follows'
    cases apart.symm.trans (commaExpr_closes listed read)
  rw [closesEarly, read, unlisted, Option.any_some, apart, Option.any_none, Bool.or_false]

section Views

variable {src : Source} {k : Nat} {cs rest : List Char}

theorem Lexer.Left.at? (left : Left src k cs) (i : Nat) : Lexer.at? src (k + i) = cs[i]? := by
  rw [Lexer.at?, ← Array.getElem?_toList, ← left, List.getElem?_drop]

def Enclosed.ofLeft (left : Left src k (cs ++ ')' :: rest)) : Enclosed where
  outer := src
  inner := cs.toArray
  shift := k
  size := cs.length
  edge := k + cs.length
  closing := ⟨.endOfText, cs.length, cs.length, false⟩
  same i within := by
    rw [left.at?, List.getElem?_append_left within, Lexer.at?, List.getElem?_toArray]
  ending := by
    refine .text ?_ List.size_toArray
    rw [left.at?, List.getElem?_append_right (Nat.le_refl _), Nat.sub_self]
    rfl

end Views

namespace Enclosed

variable {v : Enclosed} {l : Lexeme} {i : Nat}

theorem closing_near (last : v.outer.size = v.edge + 1) {t : ParseState} (good : v.Good t) (closing : ahead? t ")" = true) :
    v.Near false t.ahead := by
  have real := good.real
  rw [ahead?_iff.mp closing] at real
  obtain ⟨stands, stop⟩ := tokenAt_punct real
  rw [show ")".toList = [')'] from String.toList_ofList, startsAt, Bool.and_eq_true, beq_iff_eq] at stands
  have inside := (Array.getElem?_eq_some_iff.mp stands.1).1
  have stop : t.ahead.stop = t.ahead.start + 1 := stop
  rcases good.settled_stop with within | past
  · exact .inl within
  · exact .inr ⟨rfl, by omega⟩

theorem arrow_near (last : v.outer.size = v.edge + 1) {t : ParseState} (good : v.Good t) (arrow : ahead? t "=>" = true) :
    v.Near true t.ahead := by
  have real := good.real
  rw [ahead?_iff.mp arrow] at real
  obtain ⟨stands, stop⟩ := tokenAt_punct real
  rw [show "=>".toList = ['=', '>'] from String.toList_ofList, startsAt, startsAt, Bool.and_eq_true, Bool.and_eq_true,
    beq_iff_eq, beq_iff_eq] at stands
  obtain ⟨-, head, -⟩ := stands
  have inside := (Array.getElem?_eq_some_iff.mp head).1
  have stop : t.ahead.stop = t.ahead.start + 2 := stop
  have apart : t.ahead.start + 1 ≠ v.edge := by
    intro ends
    rw [ends, v.ending.bracket] at head
    cases head
  rcases good.settled_stop with within | past
  · exact .inl within
  · omega

theorem scriptAt_good (follows : next v.outer i = some l) (low : v.shift ≤ i) (settled : v.Settled i) : v.Good (scriptAt l i) :=
  ⟨(next_passes follows).2, low, settled, (next_passes follows).1, nofun⟩

theorem Tracks.begins {α : Type} {x y : Parse α} {p r : α → Bool} {e : α} {u : ParseState}
    (tracks : v.Tracks p r x y (scriptAt l (v.shift + i))) (follows : next v.outer (v.shift + i) = some l)
    (within : i ≤ v.size) (ran : y v.outer (scriptAt l (v.shift + i)) = some (e, u)) (near : v.Near (r e) u.ahead) :
    next v.inner i = some (v.lexeme l) ∧ x v.inner (scriptAt (v.lexeme l) i) = some (e, v.state u) := by
  obtain ⟨good, onward, read⟩ := tracks e u ran
  have same : v.state (scriptAt l (v.shift + i)) = scriptAt (v.lexeme l) i := by
    rw [state, scriptAt, scriptAt, Nat.add_sub_cancel_left]
    rfl
  exact ⟨next_agrees within follows (onward.near good near).weaken, same ▸ read near⟩

end Enclosed

section Bracket

theorem left_size {src : Source} {k : Nat} {cs : List Char} (left : Left src k (cs ++ [')'])) :
    src.size = k + cs.length + 1 := by
  have length := congrArg List.length left
  rw [List.length_drop, List.length_append, Array.length_toList, List.length_singleton] at length
  omega

theorem bracket_first {src : Source} {k : Nat} {cs : List Char} (left : Left src k ('(' :: cs)) :
    next src k = some ⟨.punct "(", k, k + 1, false⟩ :=
  next_of_tokenAt left (by decide) (tokenAt_single left (by decide) (by decide))

structure Whole (src : Source) (s : ParseState) (e : Expr) (u : ParseState) : Prop where
  operand : primary operandGrammar src s = some (e, u)
  last : u.lastStop = src.size
  ends : u.ahead.token = .endOfText

theorem Whole.statement {src : Source} {j : Nat} {newline : Bool} {last : Nat} {x : Expr} {u : ParseState}
    (whole : Whole src (scriptAt ⟨.punct "(", j, j + 1, newline⟩ last) (.paren x) u) :
    fullGrammar.statement src (scriptAt ⟨.punct "(", j, j + 1, newline⟩ last) = some (.expr (.paren x), u) :=
  statementBody_ended (scriptAt_poised _ _) (by simp [openers]) (by simp) (by simp) ⟨.inr (.inr whole.ends)⟩ whole.operand
    (semicolon_omitted whole.ends)

variable {src : Source} {text : String} {j : Nat} (left : Left src j ('(' :: (text.toList ++ [')'])))
include left

theorem statement_bracketed {newline : Bool} {last : Nat} {b : Stmt} {u : ParseState}
    (ran : fullGrammar.statement src (scriptAt ⟨.punct "(", j, j + 1, newline⟩ last) = some (b, u)) :
    (∃ x t, begun (commaExpr operandGrammar true) text = some (x, t) ∧ t.ahead.token = .endOfText ∧
        t.openDefaults = u.openDefaults ∧ b = .expr (.paren x) ∧
        Whole src (scriptAt ⟨.punct "(", j, j + 1, newline⟩ last) (.paren x) u) ∨ closesEarly text = true := by
  let v := Enclosed.ofLeft left.tail
  obtain ⟨e, u', first⟩ := statementBody_starts (G := operandGrammar) rfl ran
  have opened := first
  rw [primary_bracket rfl] at opened
  obtain ⟨l, follows, opened⟩ := Option.bind_eq_some_iff.mp opened
  have good : v.Good (scriptAt l (j + 1)) := Enclosed.scriptAt_good follows (Nat.le_refl _) (.inl (Nat.le_add_right _ _))
  have tracking := Enclosed.ofDepth_tracking v (maxNesting - 3)
  obtain ⟨t, t', goodₜ, -, closing, closed, ⟨r, listed, arrow⟩ | ⟨x, read, rfl, rfl⟩⟩ := parenthesized_end tracking good opened
  · right
    have tracks := Enclosed.items_tracks tracking good
    obtain ⟨good', -⟩ := tracks r t' listed
    have near := Enclosed.arrow_near (left_size left.tail) good' arrow
    obtain ⟨follows', listed'⟩ := tracks.begins (i := 0) follows (Nat.zero_le _) listed near.weaken
    exact closesEarly_parameters (Option.bind_eq_some_iff.mpr ⟨v.lexeme l, follows', listed'⟩)
      ((Enclosed.ahead?_state good' (by decide)).trans arrow)
  · have near := Enclosed.closing_near (left_size left.tail) goodₜ closing
    obtain ⟨follows', read'⟩ := (Enclosed.commaExpr_tracks tracking good true).begins (i := 0) follows
      (Nat.zero_le _) read near
    have begins : begun (commaExpr operandGrammar true) text = some (x, v.state t) :=
      Option.bind_eq_some_iff.mpr ⟨v.lexeme l, follows', read'⟩
    by_cases ends : t.ahead.start = v.edge
    · left
      have stop : t.ahead.stop = src.size := (goodₜ.bracket ends).2.trans (left_size left.tail).symm
      have nothing : next src t.ahead.stop = some ⟨.endOfText, t.ahead.stop, t.ahead.stop, false⟩ := by
        rw [(goodₜ.bracket ends).2]
        exact next_end (left.tail.pass text.toList).tail
      cases closed.symm.trans (advance_eq nothing)
      have whole : Whole src (scriptAt ⟨.punct "(", j, j + 1, newline⟩ last) (.paren x) _ := ⟨first, stop, rfl⟩
      cases ran.symm.trans whole.statement
      exact ⟨x, v.state t, begins, Enclosed.token_ends ends, rfl, rfl, whole⟩
    · right
      exact closesEarly_expression begins ((Enclosed.ahead?_same ends).trans closing)

end Bracket

section Statements

variable {src : Source} {s u : ParseState} {acc body : List Stmt} {fuel : Nat}

theorem statements_more (more : s.ahead.token ≠ .endOfText)
    (ran : loop statementStep acc fuel src s = some (body, u)) :
    ∃ b t fuel', fullGrammar.statement src s = some (b, t) ∧ loop statementStep (b :: acc) fuel' src t = some (body, u) := by
  cases fuel with
  | zero => cases ran
  | succ fuel =>
    obtain ⟨c, t, once, rest⟩ := bind_first ran
    rw [statementStep_more more] at once
    obtain ⟨b, t', read, same⟩ := bind_first once
    cases same
    exact ⟨b, t, fuel, read, rest⟩

theorem statements_done (last : s.ahead.token = .endOfText)
    (ran : loop statementStep acc fuel src s = some (body, u)) : body = acc.reverse ∧ u = s := by
  cases fuel with
  | zero => cases ran
  | succ fuel =>
    rw [loop, bind_eq (statementStep_done last acc)] at ran
    cases ran
    exact ⟨rfl, rfl⟩

theorem exists_readAs {text : String} {p : Program} (parsed : parse text = some p) : ∃ body u, ReadAs text p body u := by
  obtain ⟨first, follows, rest⟩ := Option.bind_eq_some_iff.mp parsed
  obtain ⟨⟨q, u⟩, ran, same⟩ := Option.bind_eq_some_iff.mp rest
  cases same
  obtain ⟨⟨body, scope⟩, t, within, rest⟩ := bind_first ran
  obtain ⟨_, s, opened, within⟩ := bind_first within
  cases opened
  obtain ⟨_, s, read, within⟩ := bind_first within
  obtain ⟨_, _, got, within⟩ := bind_first within
  cases got
  cases scopes : s.scopes with
  | nil =>
    rw [scopes] at within
    cases within
  | cons top outer =>
    rw [scopes] at within
    cases within
    obtain ⟨_, _, got, rest⟩ := bind_first rest
    cases got
    by_cases settled : s.openDefaults = 0
    · rw [if_neg (by simpa using settled)] at rest
      cases rest
      exact ⟨body, s, ⟨first, follows, read⟩, ⟨_, outer, scopes, rfl⟩, settled⟩
    · rw [if_pos (by simpa using settled)] at rest
      cases rest

theorem statements_bracketed {text : String} {j : Nat} (left : Left src j ('(' :: (text.toList ++ [')']))) {newline : Bool}
    {last : Nat} (ran : loop statementStep acc fuel src (scriptAt ⟨.punct "(", j, j + 1, newline⟩ last) = some (body, u))
    (settled : u.openDefaults = 0) :
    (∃ x, IsExpression text x ∧ body = acc.reverse ++ [.expr (.paren x)] ∧
        Whole src (scriptAt ⟨.punct "(", j, j + 1, newline⟩ last) (.paren x) u) ∨ closesEarly text = true := by
  obtain ⟨b, t, fuel', read, rest⟩ := statements_more Token.noConfusion ran
  refine (statement_bracketed left read).imp_left ?_
  rintro ⟨x, t', begins, ends, same, rfl, whole⟩
  obtain ⟨rfl, rfl⟩ := statements_done whole.ends rest
  exact ⟨x, ⟨t', begins, ends, same.trans settled⟩, List.reverse_cons, whole⟩

end Statements

end BoundedScript.Script

namespace BoundedScript

open Script Lexer Parse
open Grammar hiding next none

namespace Worker

theorem source_toList (code : String) : (source code).toList = '(' :: '\n' :: code.toList ++ ['\n', ')'] := by
  rw [source, String.toList_append, String.toList_append, show "(\n".toList = ['(', '\n'] from String.toList_ofList,
    show "\n)".toList = ['\n', ')'] from String.toList_ofList, List.append_assoc]
  rfl

theorem source_bracketed (code : String) :
    Left (source code).toList.toArray 0 ('(' :: (("\n" ++ code ++ "\n").toList ++ [')'])) := by
  rw [source_toList, String.toList_append, String.toList_append, show "\n".toList = ['\n'] from String.toList_ofList]
  simp [Left]

end Worker

/-- A wrapped text that parses is read as one expression, and as nothing else, exactly when it does not close the bracket
that is put in front of it. -/
theorem wrapped_whole (expression code : String) :
    (∀ p, parse (Evaluator.source expression) = some p → (closesEarly expression = false ↔
      ∃ x, IsExpression expression x ∧
        p.body = [.expr (.constant (.string (Units.ofString "use strict"))), .expr (.paren x)])) ∧
    ∀ p, parse (Worker.source code) = some p → (closesEarly ("\n" ++ code ++ "\n") = false ↔
      ∃ x, IsExpression ("\n" ++ code ++ "\n") x ∧ p.body = [.expr (.paren x)]) := by
  constructor
  · intro p parsed
    constructor
    · intro late
      obtain ⟨body, u, script⟩ := exists_readAs parsed
      obtain ⟨⟨first, follows, read⟩, ⟨top, outer, -, rfl⟩, settled⟩ := script
      cases follows.symm.trans (strictText_first expression)
      obtain ⟨b, t, fuel, directive, rest⟩ := statements_more Token.noConfusion read
      cases directive.symm.trans (directive_read expression)
      obtain ⟨x, whole, same, -⟩ := (statements_bracketed (strictText_bracket expression) rest settled).resolve_right
        (Bool.eq_false_iff.mp late)
      exact ⟨x, whole, same⟩
    · rintro ⟨x, whole, -⟩
      exact whole.closes_late
  · intro p parsed
    constructor
    · intro late
      obtain ⟨body, u, script⟩ := exists_readAs parsed
      obtain ⟨⟨first, follows, read⟩, ⟨top, outer, -, rfl⟩, settled⟩ := script
      cases follows.symm.trans (bracket_first (Worker.source_bracketed code))
      obtain ⟨x, whole, same, -⟩ := (statements_bracketed (Worker.source_bracketed code) read settled).resolve_right
        (Bool.eq_false_iff.mp late)
      exact ⟨x, whole, same⟩
    · rintro ⟨x, whole, -⟩
      exact whole.closes_late

theorem wrapped_whole_arrow :
    (∃ p x, parse (Evaluator.source "(a, b) ? (a) : b") = some p ∧ IsExpression "(a, b) ? (a) : b" x ∧
      p.body = [.expr (.constant (.string (Units.ofString "use strict"))), .expr (.paren x)]) ∧
    ∃ p x, parse (Worker.source "(r) => r // )(") = some p ∧ IsExpression "\n(r) => r // )(\n" x ∧
      p.body = [.expr (.paren x)] := by
  constructor
  · obtain ⟨p, parsed⟩ : ∃ p, parse (Evaluator.source "(a, b) ? (a) : b") = some p :=
      Option.isSome_iff_exists.mp (by decide +kernel)
    obtain ⟨x, whole, same⟩ := ((wrapped_whole _ "").1 p parsed).mp (by decide +kernel)
    exact ⟨p, x, parsed, whole, same⟩
  · obtain ⟨p, parsed⟩ : ∃ p, parse (Worker.source "(r) => r // )(") = some p :=
      Option.isSome_iff_exists.mp (by decide +kernel)
    obtain ⟨x, whole, same⟩ := ((wrapped_whole "" _).2 p parsed).mp (by decide +kernel)
    exact ⟨p, x, parsed, whole, same⟩

example : closesEarly "1)+(2" = true := by decide

end BoundedScript
