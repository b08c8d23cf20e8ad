import BoundedScript.Proofs.ExpressionRules
import BoundedScript.Script.Program

set_option autoImplicit false

namespace BoundedScript.Script.Lexer

def Left (src : Source) (i : Nat) (cs : List Char) : Prop :=
  src.toList.drop i = cs

section Left

variable {src : Source} {i : Nat} {c : Char} {cs rest : List Char}

theorem Left.head (left : Left src i (c :: rest)) : at? src i = some c := by
  rw [at?, ← Array.getElem?_toList, ← List.head?_drop, left]
  rfl

theorem Left.none (left : Left src i []) : at? src i = .none := by
  rw [at?, ← Array.getElem?_toList, ← List.head?_drop, left]
  rfl

theorem Left.pass (cs : List Char) (left : Left src i (cs ++ rest)) : Left src (i + cs.length) rest := by
  rw [Left, ← List.drop_drop, left, List.drop_left]

theorem Left.tail (left : Left src i (c :: rest)) : Left src (i + 1) rest :=
  Left.pass [c] left

theorem Left.fits (cs : List Char) (left : Left src i (cs ++ rest)) (filled : cs ≠ []) : cs.length ≤ src.size := by
  have length := congrArg List.length left
  rw [List.length_drop, List.length_append, Array.length_toList] at length
  have := List.length_pos_iff.mpr filled
  omega

theorem left_zero (cs : List Char) : Left cs.toArray 0 cs :=
  rfl

def isSkipped (c : Char) : Bool :=
  isLineEnd c || isBlank c || c == '/' || c == '<' || c == '-'

theorem skipBlanks_stays (left : Left src i (c :: rest)) (dark : isSkipped c = false) (newline : Bool) (fuel : Nat) :
    skipBlanks src i newline (fuel + 1) = some (i, newline) := by
  simp only [isSkipped, Bool.or_eq_false_iff] at dark
  obtain ⟨⟨⟨⟨line, blank⟩, slash⟩, less⟩, minus⟩ := dark
  rw [skipBlanks, left.head]
  simp only [line, blank, slash, less, minus, Bool.false_and, Bool.or_self, Bool.false_eq_true, if_false]

theorem next_of_tokenAt (left : Left src i (c :: rest)) (dark : isSkipped c = false) {t : Token} {j : Nat}
    (found : tokenAt src i = some (t, j)) : next src i = some ⟨t, i, j, false⟩ := by
  rw [next, skipBlanks_stays left dark]
  simp only [Option.bind_eq_bind, Option.bind_some, found]

theorem next_of_blank (left : Left src i (' ' :: c :: rest)) (dark : isSkipped c = false) {t : Token} {j : Nat}
    (found : tokenAt src (i + 1) = some (t, j)) : next src i = some ⟨t, i + 1, j, false⟩ := by
  have fits : 2 ≤ src.size := Left.fits [' ', c] left (by simp)
  have passed : skipBlanks src i false (src.size + 1) = some (i + 1, false) := by
    rw [skipBlanks, left.head]
    obtain ⟨n, size⟩ := Nat.exists_eq_add_of_le' fits
    simp only [show isLineEnd ' ' = false by decide, show isBlank ' ' = true by decide, Bool.false_eq_true, if_false,
      if_true, size]
    exact skipBlanks_stays left.tail dark false _
  rw [next, passed]
  simp only [Option.bind_eq_bind, Option.bind_some, found]

theorem next_end (left : Left src i []) : next src i = some ⟨.endOfText, i, i, false⟩ := by
  have stays : skipBlanks src i false (src.size + 1) = some (i, false) := by
    rw [skipBlanks, left.none]
  rw [next, stays]
  simp only [Option.bind_eq_bind, Option.bind_some, tokenAt, left.none]

theorem stringFrom_plain {quote : Char} (plain : ∀ c ∈ cs, c ≠ quote ∧ c ≠ '\\' ∧ c ≠ '\n' ∧ c ≠ '\r')
    (left : Left src i (cs ++ quote :: rest)) (acc : Units) {fuel : Nat} (room : cs.length < fuel) :
    stringFrom src quote i acc fuel = some (cs.foldl Units.pushChar acc, i + cs.length + 1) := by
  induction cs generalizing i acc fuel with
  | nil =>
    obtain ⟨fuel, rfl⟩ := Nat.exists_eq_succ_of_ne_zero (Nat.ne_of_gt room)
    rw [stringFrom, left.head]
    simp
  | cons c cs ih =>
    obtain ⟨fuel, rfl⟩ := Nat.exists_eq_succ_of_ne_zero (Nat.ne_of_gt (Nat.zero_lt_of_lt room))
    obtain ⟨⟨unquoted, straight, line, feed⟩, later⟩ := List.forall_mem_cons.mp plain
    rw [stringFrom, left.head]
    simp only [beq_eq_false_iff_ne.mpr unquoted, beq_eq_false_iff_ne.mpr straight, beq_eq_false_iff_ne.mpr line,
      beq_eq_false_iff_ne.mpr feed, Bool.or_self, Bool.false_eq_true, if_false]
    rw [ih later left.tail _ (Nat.lt_of_succ_lt_succ room), List.foldl_cons, List.length_cons, Nat.add_right_comm i,
      Nat.add_assoc i]

theorem tokenAt_string (plain : ∀ c ∈ cs, c ≠ '"' ∧ c ≠ '\\' ∧ c ≠ '\n' ∧ c ≠ '\r')
    (left : Left src i ('"' :: cs ++ '"' :: rest)) :
    tokenAt src i = some (.string (Units.ofChars cs), i + cs.length + 2) := by
  have fits := Left.fits ('"' :: cs) left (by simp)
  rw [List.length_cons] at fits
  have head : at? src i = some '"' := Left.head left
  have inside : Left src (i + 1) (cs ++ '"' :: rest) := Left.tail left
  rw [tokenAt, head]
  simp only [show (isNameStart '"' || '"' == '\\') = false by decide, Bool.false_eq_true, if_false,
    show Char.isDigit '"' = false by decide, show ('"' == '.') = false by decide, Bool.false_and, Bool.or_self,
    BEq.rfl, Bool.true_or, if_true]
  rw [stringFrom_plain plain inside _ (by omega)]
  rw [Option.map_some, Nat.add_right_comm i]
  rfl

theorem punct_single (left : Left src i (c :: rest))
    (only : puncts.filter (fun p => p.head? == some c) = [[c]]) : punct src i = some (.punct (String.ofList [c]), i + 1) := by
  have found : puncts.find? (startsAt src · i) = some [c] := by
    have starts : ∀ p ∈ puncts, startsAt src p i = true → p.head? = some c := by
      intro p listed starts
      cases p with
      | nil => exact absurd listed (by decide)
      | cons d p =>
        rw [startsAt, Bool.and_eq_true, beq_iff_eq, left.head] at starts
        exact starts.1.symm
    have kept : puncts.find? (startsAt src · i) =
        puncts.find? fun p => decide ((p.head? == some c) = true ∧ startsAt src p i = true) := by
      refine List.find?_congr fun p listed => ?_
      cases begun : startsAt src p i with
      | false => simp
      | true => simp [starts p listed begun]
    rw [kept, ← List.find?_filter, only, List.find?_singleton, startsAt, startsAt, left.head]
    simp
  have short : ([c] == ['?', '.']) = false := by simp
  rw [punct, found]
  simp only [short, Bool.false_and, Bool.false_eq_true, if_false, List.length_singleton]

theorem tokenAt_single (left : Left src i (c :: rest)) (only : puncts.filter (fun p => p.head? == some c) = [[c]])
    (mark : (isNameStart c || c == '\\' || c.isDigit || c == '.' || c == '"' || c == '\'' || c == '#') = false) :
    tokenAt src i = some (.punct (String.ofList [c]), i + 1) := by
  simp only [Bool.or_eq_false_iff] at mark
  obtain ⟨⟨⟨⟨⟨⟨name, straight⟩, digit⟩, point⟩, quote⟩, single⟩, hash⟩ := mark
  rw [tokenAt, left.head]
  simp only [name, straight, digit, point, quote, single, hash, Bool.false_and, Bool.or_self, Bool.false_eq_true, if_false]
  exact punct_single left only

open Expression (isIdentifierChar)

theorem isIdentifierChar_part {c : Char} (inside : isIdentifierChar c) : isNamePart c = true ∧ (c == '\\') = false := by
  have each := Expression.forall_ascii (fun c => !isIdentifierChar c || (isNamePart c && c != '\\')) (by decide) c
    (Expression.isIdentifierChar_ascii inside)
  simpa [inside] using each

theorem isNameStart_dark {c : Char} (start : Expression.isNameStart c) : isNameStart c = true ∧ isSkipped c = false := by
  have each := Expression.forall_ascii (fun c => !Expression.isNameStart c || (isNameStart c && !isSkipped c)) (by decide) c
    (Expression.isIdentifierChar_ascii (Expression.isIdentifierChar_of_isNameStart start))
  simpa [start] using each

theorem nameFrom_spelled (spelled : ∀ c ∈ cs, isIdentifierChar c) (left : Left src i (cs ++ c :: rest))
    (ends : isNamePart c = false ∧ (c == '\\') = false) (acc : String) {fuel : Nat} (room : cs.length < fuel) :
    nameFrom src i acc false fuel = some (acc ++ String.ofList cs, false, i + cs.length) := by
  induction cs generalizing i acc fuel with
  | nil =>
    obtain ⟨fuel, rfl⟩ := Nat.exists_eq_succ_of_ne_zero (Nat.ne_of_gt room)
    rw [nameFrom, Left.head left]
    simp only [ends.1, ends.2, Bool.false_eq_true, if_false]
    rw [String.ofList_nil, String.append_empty]
    rfl
  | cons d cs ih =>
    obtain ⟨fuel, rfl⟩ := Nat.exists_eq_succ_of_ne_zero (Nat.ne_of_gt (Nat.zero_lt_of_lt room))
    obtain ⟨here, later⟩ := List.forall_mem_cons.mp spelled
    obtain ⟨part, straight⟩ := isIdentifierChar_part here
    rw [nameFrom, Left.head left]
    simp only [part, straight, Bool.false_eq_true, if_false, if_true]
    rw [ih later (Left.tail left) _ (Nat.lt_of_succ_lt_succ room), String.push_eq_append, String.append_assoc,
      ← String.ofList_cons, List.length_cons, Nat.add_right_comm i, Nat.add_assoc i]

theorem tokenAt_word {n : String} (word : Expression.isIdentifier n) (left : Left src i (n.toList ++ c :: rest))
    (ends : isNamePart c = false ∧ (c == '\\') = false) : tokenAt src i = some (.word n false, i + n.length) := by
  have text : "" ++ String.ofList n.toList = n := by rw [String.ofList_toList, String.empty_append]
  obtain ⟨d, more, same, start, spelled⟩ := (Expression.isIdentifier_iff n).mp word
  rw [← String.length_toList]
  rw [same] at left text ⊢
  have fits := left.fits (d :: more) (List.cons_ne_nil d more)
  rw [tokenAt, Left.head left]
  simp only [(isNameStart_dark start).1, Bool.true_or, if_true]
  rw [nameFrom_spelled spelled left ends "" (by omega), text]
  rfl

theorem next_word {n : String} (word : Expression.isIdentifier n) (left : Left src i (n.toList ++ c :: rest))
    (ends : isNamePart c = false ∧ (c == '\\') = false) : next src i = some ⟨.word n false, i, i + n.length, false⟩ := by
  have found := tokenAt_word word left ends
  obtain ⟨d, more, same, start, -⟩ := (Expression.isIdentifier_iff n).mp word
  rw [same] at left
  exact next_of_tokenAt left (isNameStart_dark start).2 found

end Left

def strictText (e : String) : String :=
  "\"use strict\"; (" ++ e ++ ")"

def directive : List Char :=
  ['u', 's', 'e', ' ', 's', 't', 'r', 'i', 'c', 't']

theorem strictText_left (e : String) :
    Left (strictText e).toList.toArray 0 ('"' :: directive ++ '"' :: ';' :: ' ' :: '(' :: (e.toList ++ [')'])) := by
  have head : "\"use strict\"; (".toList = '"' :: directive ++ ['"', ';', ' ', '('] := String.toList_ofList
  have last : ")".toList = [')'] := String.toList_ofList
  rw [strictText, String.toList_append, String.toList_append, head, last]
  exact left_zero _

theorem strictText_first (e : String) :
    next (strictText e).toList.toArray 0 = some ⟨.string (Units.ofString "use strict"), 0, 12, false⟩ := by
  have text : Units.ofString "use strict" = Units.ofChars directive := by
    have spelled : "use strict".toList = directive := String.toList_ofList
    rw [Units.ofString, spelled]
  rw [text]
  exact next_of_tokenAt (strictText_left e) (by decide) (tokenAt_string (by simp [directive]) (strictText_left e))

end BoundedScript.Script.Lexer

namespace BoundedScript.Script.Parse

variable {src : Source} {s : ParseState}

def ahead? (s : ParseState) (p : String) : Bool :=
  match s.ahead.token with
  | .punct q => p == q
  | _ => false

theorem ahead?_iff {p : String} : ahead? s p = true ↔ s.ahead.token = .punct p := by
  rw [ahead?]
  split
  next q same =>
    rw [same, beq_iff_eq, Token.punct.injEq]
    exact eq_comm
  next other => exact iff_of_false Bool.false_ne_true (other p)

theorem isPunct_apply (p : String) : isPunct p src s = some (ahead? s p, s) := by
  have got : (get : Parse ParseState) src s = some (s, s) := rfl
  have whole : isPunct p src s = ((match s.ahead.token with
      | .punct q => pure (p == q)
      | _ => pure false : Parse Bool) src s) := rfl
  rw [whole, ahead?]
  cases s.ahead.token <;> rfl

def wordAhead? (s : ParseState) (w : String) : Bool :=
  match s.ahead.token with
  | .word n false => w == n
  | _ => false

theorem isWord_apply (w : String) : isWord w src s = some (wordAhead? s w, s) := by
  have whole : isWord w src s = ((match s.ahead.token with
      | .word n false => pure (w == n)
      | _ => pure false : Parse Bool) src s) := rfl
  rw [whole, wordAhead?]
  cases s.ahead.token with
  | word n escaped => cases escaped <;> rfl
  | _ => rfl

theorem token_apply : token src s = some (s.ahead.token, s) := rfl

theorem bind_eq {α β : Type} {x : Parse α} {f : α → Parse β} {a : α} {t : ParseState} (ran : x src s = some (a, t)) :
    (x >>= f) src s = f a src t := by
  have whole : (x >>= f) src s = (x src s).bind fun r => f r.1 src r.2 := rfl
  rw [whole, ran]
  rfl

section Loop

variable {α β : Type} {step : α → Parse (α ⊕ β)} {a : α} {t : ParseState} (fuel : Nat)

theorem loop_done {b : β} (done : step a src s = some (.inr b, t)) : loop step a (fuel + 1) src s = some (b, t) := by
  rw [loop, bind_eq done]
  rfl

theorem loop_again {b : α} (again : step a src s = some (.inl b, t)) :
    loop step a (fuel + 1) src s = loop step b fuel src t := by
  rw [loop, bind_eq again]

end Loop

theorem advance_apply : advance src s =
    (Lexer.next src s.ahead.stop).map fun l => ((), { s with ahead := l, lastStop := s.ahead.stop }) := by
  have got : (get : Parse ParseState) src s = some (s, s) := rfl
  have asked : (read : Parse Source) src s = some (src, s) := rfl
  rw [advance, bind_eq got, bind_eq asked]
  cases Lexer.next src s.ahead.stop <;> rfl

theorem resumeAt_apply (i : Nat) : resumeAt i src s =
    (Lexer.next src i).map fun l => ((), { s with ahead := l, lastStop := i }) := by
  have asked : (read : Parse Source) src s = some (src, s) := rfl
  rw [resumeAt, bind_eq asked]
  cases Lexer.next src i <;> rfl

theorem advance_eq {l : Lexeme} (read : Lexer.next src s.ahead.stop = some l) :
    advance src s = some ((), { s with ahead := l, lastStop := s.ahead.stop }) := by
  rw [advance_apply, read]
  rfl

theorem eat_missed {p : String} (other : ahead? s p = false) : eat p src s = some (false, s) := by
  rw [eat, bind_eq (isPunct_apply p), other]
  rfl

theorem eat_taken {p : String} (here : ahead? s p = true) {l : Lexeme} (read : Lexer.next src s.ahead.stop = some l) :
    eat p src s = some (true, { s with ahead := l, lastStop := s.ahead.stop }) := by
  rw [eat, bind_eq (isPunct_apply p), here]
  exact bind_eq (advance_eq read)

end BoundedScript.Script.Parse

namespace BoundedScript.Script

def strictStart : ParseState :=
  ⟨⟨.string (Units.ofString "use strict"), 0, 12, false⟩, 0, [], .script, 0, 0, none⟩

theorem parse_strictText (e : String) :
    parse (Lexer.strictText e) = (scriptReader (Lexer.strictText e).toList.toArray strictStart).map (·.1) := by
  have whole : parse (Lexer.strictText e) = (Lexer.next (Lexer.strictText e).toList.toArray 0).bind fun first =>
    (scriptReader (Lexer.strictText e).toList.toArray ⟨first, 0, [], .script, 0, 0, none⟩).bind fun r => some r.1 := rfl
  rw [whole, Lexer.strictText_first, Option.map_eq_bind]
  rfl

end BoundedScript.Script
