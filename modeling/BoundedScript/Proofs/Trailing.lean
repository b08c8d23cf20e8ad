import BoundedScript.Proofs.Identity
import BoundedScript.Proofs.Wrapping

set_option autoImplicit false

namespace BoundedScript.Script

open Lexer Parse
open Grammar hiding next none

inductive Trails : List Char → Prop where
  | blanks {cs : List Char} (blank : ∀ c ∈ cs, (isBlank c || isLineEnd c) = true) : Trails cs
  | comment {cs : List Char} (line : ∀ c ∈ cs, isLineEnd c = false ∧ c ≠ '\x00') : Trails (' ' :: '/' :: '/' :: cs)

theorem Trails.whole {cs : List Char} (trails : Trails cs) : '\x00' ∉ cs := by
  intro inside
  cases trails with
  | blanks blank => exact absurd (blank _ inside) (by decide)
  | comment line =>
    simp only [List.mem_cons, Char.reduceEq, false_or] at inside
    exact (line _ inside).2 rfl

section Skipping

variable {src : Source} {i : Nat} {c : Char} {cs rest : List Char}

theorem Lexer.Left.bounds (left : Left src i (c :: rest)) : src.size = i + (c :: rest).length := by
  have length := congrArg List.length left
  have inside := (Array.getElem?_eq_some_iff.mp left.head).1
  rw [List.length_drop, Array.length_toList] at length
  omega

theorem skipBlanks_blank (left : Left src i (c :: rest)) (blank : (isBlank c || isLineEnd c) = true) (newline : Bool)
    (fuel : Nat) : skipBlanks src i newline (fuel + 1) = skipBlanks src (i + 1) (newline || isLineEnd c) fuel := by
  rw [skipBlanks, left.head]
  dsimp only
  cases line : isLineEnd c with
  | true => rw [if_pos rfl, Bool.or_true]
  | false =>
    rw [line, Bool.or_false] at blank
    rw [if_neg Bool.false_ne_true, if_pos blank, Bool.or_false]

theorem skipBlanks_blanks (left : Left src i (cs ++ ')' :: rest)) (blank : ∀ c ∈ cs, (isBlank c || isLineEnd c) = true)
    (newline : Bool) {fuel : Nat} (enough : cs.length ≤ fuel) :
    skipBlanks src i newline fuel = some (i + cs.length, newline || cs.any isLineEnd) := by
  induction cs generalizing i newline fuel with
  | nil =>
    rw [List.any_nil, Bool.or_false]
    exact Enclosed.skipBlanks_bracket left.head newline fuel
  | cons c cs ih =>
    obtain ⟨fuel, rfl⟩ := Nat.exists_eq_succ_of_ne_zero (Nat.ne_of_gt (Nat.zero_lt_of_lt enough))
    obtain ⟨here, later⟩ := List.forall_mem_cons.mp blank
    rw [skipBlanks_blank left here, ih left.tail later _ (Nat.le_of_succ_le_succ enough), List.any_cons, Bool.or_assoc,
      List.length_cons, Nat.add_right_comm, Nat.add_assoc]

theorem skipsTo_blanks (left : Left src i (cs ++ ')' :: rest)) (blank : ∀ c ∈ cs, (isBlank c || isLineEnd c) = true)
    (line : cs.any isLineEnd = true) : SkipsTo src i (i + cs.length) := by
  intro newline fuel enough
  have inside : cs.length ≤ fuel := by
    have length := congrArg List.length left
    rw [List.length_drop, List.length_append, Array.length_toList] at length
    omega
  rw [skipBlanks_blanks left blank newline inside, line, Bool.or_true]

theorem lineCommentEnd_left (left : Left src i (cs ++ c :: rest)) (inside : ∀ d ∈ cs, isLineEnd d = false)
    (ends : isLineEnd c = true) {fuel : Nat} (enough : src.size ≤ i + fuel) : lineCommentEnd src i fuel = i + cs.length := by
  induction cs generalizing i fuel with
  | nil =>
    cases fuel with
    | zero => rfl
    | succ fuel =>
      rw [lineCommentEnd, left.head]
      exact if_pos ends
  | cons d cs ih =>
    have passed : i < src.size := (Array.getElem?_eq_some_iff.mp (Left.head left)).1
    obtain ⟨fuel, rfl⟩ : ∃ n, fuel = n + 1 := ⟨fuel - 1, by omega⟩
    obtain ⟨here, later⟩ := List.forall_mem_cons.mp inside
    rw [lineCommentEnd, left.head]
    dsimp only
    rw [if_neg (Bool.eq_false_iff.mp here), ih left.tail later (by omega), List.length_cons,
      Nat.add_right_comm, Nat.add_assoc]

end Skipping

section Tails

variable {src : Source} {i : Nat} {cs rest : List Char}

theorem skipsTo_commented (left : Left src i (cs ++ ')' :: rest)) (blank : ∀ c ∈ cs, (isBlank c || isLineEnd c) = true)
    (line : cs.any isLineEnd = true) (fuel : Nat) : SkipsTo src (lineCommentEnd src i fuel) (i + cs.length) := by
  induction cs generalizing i fuel with
  | nil => cases line
  | cons c cs ih =>
    cases fuel with
    | zero => exact skipsTo_blanks left blank line
    | succ fuel =>
      rw [lineCommentEnd, left.head]
      dsimp only
      cases here : isLineEnd c with
      | true => exact skipsTo_blanks left blank line
      | false =>
        rw [List.any_cons, here, Bool.false_or] at line
        rw [if_neg Bool.false_ne_true, List.length_cons, Nat.add_comm cs.length 1, ← Nat.add_assoc]
        exact ih left.tail (List.forall_mem_cons.mp blank).2 line fuel

theorem skipsTo_comment (left : Left src i (' ' :: '/' :: '/' :: (cs ++ ['\n', ')']))) (line : ∀ c ∈ cs, isLineEnd c = false) :
    SkipsTo src i (i + cs.length + 4) := by
  intro newline fuel enough
  have size := left.bounds
  simp only [List.length_cons, List.length_append, List.length_nil] at size
  obtain ⟨fuel, rfl⟩ : ∃ n, fuel = n + 2 := ⟨fuel - 2, by omega⟩
  have slash : Left src (i + 1) ('/' :: '/' :: (cs ++ ['\n', ')'])) := left.tail
  have ends : lineCommentEnd src (i + 3) src.size = i + 3 + cs.length :=
    lineCommentEnd_left slash.tail.tail line (by decide) (Nat.le_add_left ..)
  have opened : skipBlanks src (i + 1) (newline || isLineEnd ' ') (fuel + 1) =
      skipBlanks src (lineCommentEnd src (i + 3) src.size) (newline || isLineEnd ' ') fuel := by
    rw [skipBlanks, slash.head, show i + 1 + 1 = i + 2 from rfl, slash.tail.head]
    rfl
  have skips : SkipsTo src (i + 3 + cs.length) (i + 3 + cs.length + 1) :=
    skipsTo_blanks (slash.tail.tail.pass cs) (List.forall_mem_singleton.mpr (Bool.or_true _)) rfl
  rw [skipBlanks_blank left (by decide), opened, ends, skips _ fuel (by omega), Nat.add_right_comm i 3]

theorem Trails.ending {outer inner : Source} {limit size : Nat} {cs : List Char} (trails : Trails cs) (filled : cs ≠ [])
    (line : Lexer.at? outer limit = some '\n') (bracket : Lexer.at? outer (limit + 1) = some ')')
    (left : Left inner size (cs ++ ['\n', ')'])) :
    Ending outer limit inner size (limit + 1) ⟨.punct ")", size + cs.length + 1, size + cs.length + 2, true⟩ := by
  have bracket' : Lexer.at? inner (size + cs.length + 1) = some ')' := (left.pass cs).tail.head
  have lineBlank : ∀ c ∈ ['\n'], (isBlank c || isLineEnd c) = true := List.forall_mem_singleton.mpr (Bool.or_true _)
  cases trails with
  | blanks blank =>
    have blank := List.forall_mem_append.mpr ⟨blank, lineBlank⟩
    have ends : (cs ++ ['\n']).any isLineEnd = true := by
      rw [List.any_append]
      exact Bool.or_true _
    obtain ⟨c, rest, rfl⟩ := List.exists_cons_of_ne_nil filled
    have gap : isGap c = true := by
      have here := blank c List.mem_cons_self
      rw [Bool.or_comm] at here
      rw [isGap, Bool.or_assoc, here, Bool.or_true]
    rw [List.append_cons _ '\n'] at left
    have long : size + (c :: rest).length + 1 = size + (c :: rest ++ ['\n']).length := by
      rw [List.length_append, Nat.add_assoc]
      rfl
    refine .line line bracket ⟨left.head, gap⟩ ?_ (fun fuel _ => ?_) bracket'
    · rw [long]
      exact skipsTo_blanks left blank ends
    · rw [long]
      exact skipsTo_commented left blank ends fuel
  | @comment cs line' =>
    have inside : ∀ c ∈ cs, isLineEnd c = false := fun c there => (line' c there).1
    have inside' : ∀ c ∈ ' ' :: '/' :: '/' :: cs, isLineEnd c = false := by
      simpa only [List.forall_mem_cons] using ⟨by decide, by decide, by decide, inside⟩
    refine .line line bracket ⟨left.head, by decide⟩ (skipsTo_comment left inside) (fun fuel enough => ?_) bracket'
    rw [lineCommentEnd_left left inside' (by decide) enough]
    exact skipsTo_blanks (left.pass _) lineBlank rfl

end Tails

section Codes

variable {outer inner : Source} {head tail : List Char}

def Enclosed.ofTail (left : Left outer 0 (head ++ ['\n', ')'])) (left' : Left inner 0 (head ++ (tail ++ ['\n', ')'])))
    (trails : Trails tail) (filled : tail ≠ []) : Enclosed where
  outer := outer
  inner := inner
  shift := 0
  size := head.length
  edge := 0 + head.length + 1
  closing := ⟨.punct ")", head.length + tail.length + 1, head.length + tail.length + 2, true⟩
  same i within := by
    rw [left.at?, ← Nat.zero_add i, left'.at?, Nat.zero_add, List.getElem?_append_left within, List.getElem?_append_left within]
  ending := by
    have line := left.pass head
    have there := left'.pass head
    rw [Nat.zero_add] at there
    exact trails.ending filled line.head line.tail.head there

theorem left_whole {src : Source} {cs : List Char} (left : Left src 0 cs) : src.size = cs.length := by
  rw [← left, List.drop_zero, Array.length_toList]

theorem Whole.again (left : Left outer 0 ('(' :: head ++ ['\n', ')']))
    (left' : Left inner 0 ('(' :: head ++ (tail ++ ['\n', ')']))) (trails : Trails tail) (filled : tail ≠ [])
    {x : Expr} {u : ParseState}
    (whole : Whole outer (scriptAt ⟨.punct "(", 0, 1, false⟩ 0) (.paren x) u) :
    ∃ u', Whole inner (scriptAt ⟨.punct "(", 0, 1, false⟩ 0) (.paren x) u' ∧ u'.scopes = u.scopes ∧
      u'.openDefaults = u.openDefaults := by
  let v := Enclosed.ofTail left left' trails filled
  have last : outer.size = v.edge + 1 := by
    rw [left_whole left, List.length_append]
    simp [v, Enclosed.ofTail]
  have size : inner.size = v.closing.stop := by
    rw [left_whole left', List.length_append, List.length_append]
    rfl
  have longer : outer.size ≤ inner.size := by
    rw [left_whole left, left_whole left']
    simp
  have operand := whole.operand
  rw [primary_bracket rfl] at operand
  obtain ⟨l, follows, operand⟩ := Option.bind_eq_some_iff.mp operand
  have good : v.Good (scriptAt l 1) := Enclosed.scriptAt_good follows (Nat.zero_le _) (.inl (Nat.le_add_left ..))
  have arrowless : ahead? u "=>" = false := by rw [ahead?, whole.ends]
  obtain ⟨t, goodₜ, onward, atEdge, passed, again⟩ :=
    parenthesized_again (Enclosed.ofDepth_tracking v _) rfl longer good operand
    arrowless (whole.last.trans last)
  obtain ⟨m, -, rfl⟩ := advance_cases passed
  have closed : (v.state t).ahead.stop = inner.size := by
    rw [Enclosed.state, Enclosed.lexeme, if_pos atEdge]
    exact size.symm
  have nothing : next inner (v.state t).ahead.stop = some ⟨.endOfText, inner.size, inner.size, false⟩ := by
    rw [closed]
    exact next_end (List.drop_length (l := inner.toList))
  have follows' : next inner 1 = some (v.lexeme l) :=
    Enclosed.next_agrees (v := v) (Nat.succ_pos _) follows (onward.near goodₜ (.inr ⟨rfl, atEdge⟩))
  have operand' := again _ (advance_eq nothing) rfl
  exact ⟨_, ⟨(primary_bracket rfl).trans (Option.bind_eq_some_iff.mpr ⟨v.lexeme l, follows', operand'⟩), closed, rfl⟩, rfl, rfl⟩

end Codes

end BoundedScript.Script

namespace BoundedScript.Worker

open Script Lexer Parse
open Grammar hiding next none

section Parsing

variable {code tail : String} {p : Program}

end Parsing

section Requests

variable {code tail : String} (trails : Trails tail.toList) (parses : (parse (source code)).isSome = true)
  (kept : closesEarly ("\n" ++ code ++ "\n") = false)
include trails parses kept

end Requests

def asked (code : String) : Input :=
  ⟨Text.bytesOf (Wire.Request.transform code .null).encode, none⟩

open Supervisor (identity)

end BoundedScript.Worker
