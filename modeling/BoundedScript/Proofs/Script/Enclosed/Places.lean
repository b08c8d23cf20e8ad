import BoundedScript.Proofs.Script.Marks
import BoundedScript.Proofs.Script.Tokens
import BoundedScript.Proofs.Text.Digits

set_option autoImplicit false

namespace BoundedScript.Script

namespace Lexer

section Places

variable {src : Source}

theorem of_ite {α : Type} {p : α → Prop} {c : Prop} [Decidable c] {x y : Option α} (first : ∀ a, x = some a → p a)
    (second : ∀ a, y = some a → p a) : ∀ a, (if c then x else y) = some a → p a := by
  split
  · exact first
  · exact second

theorem hexDigits_le {i n m j count : Nat} (read : hexDigits src i n count = some (m, j)) : i ≤ j := by
  fun_induction hexDigits src i n count with
  | case1 =>
    cases read
    exact Nat.le_refl _
  | case2 | case4 => cases read
  | case3 _ _ _ _ _ _ ih => exact Nat.le_of_succ_le (ih read)

theorem bracedHex_le {i n digits m j fuel : Nat} (read : bracedHex src i n digits fuel = some (m, j)) : i ≤ j := by
  fun_induction bracedHex src i n digits fuel with
  | case1 | case2 | case3 | case6 => cases read
  | case4 =>
    cases read
    exact Nat.le_succ _
  | case5 _ _ _ _ _ _ _ _ ih => exact Nat.le_of_succ_le (ih read)

theorem unicodeEscape_le {i m j : Nat} (read : unicodeEscape src i = some (m, j)) : i ≤ j := by
  rw [unicodeEscape] at read
  split at read
  · exact Nat.le_of_succ_le (bracedHex_le read)
  · exact hexDigits_le read

theorem named_le {i j fuel : Nat} {acc n : String} {escaped after : Bool}
    (read : nameFrom src i acc escaped fuel = some (n, after, j)) : i ≤ j := by
  fun_induction nameFrom src i acc escaped fuel with
  | case1 | case2 | case8 =>
    cases read
    exact Nat.le_refl _
  | case3 | case5 | case6 => cases read
  | case4 _ _ _ _ _ _ _ _ _ _ found _ _ ih =>
    have escape := unicodeEscape_le found
    have rest := ih read
    omega
  | case7 _ _ _ _ _ _ _ _ ih => exact Nat.le_of_succ_le (ih read)

theorem mapped_le {f : Nat → Units} {x : Option (Nat × Nat)} {k : Nat} (later : ∀ m j, x = some (m, j) → k ≤ j) :
    ∀ r, x.map (fun (n, j) => (f n, j)) = some r → k ≤ r.2 := by
  intro r read
  obtain ⟨⟨m, j⟩, found, rfl⟩ := Option.map_eq_some_iff.mp read
  exact later m j found

theorem stringEscape_le {i : Nat} : ∀ r, stringEscape src i = some r → i + 1 ≤ r.2 := by
  have short {u : Units} : ∀ r, some (u, i + 1) = some r → i + 1 ≤ r.2 := by
    rintro _ ⟨⟩
    exact Nat.le_refl _
  have missed (r : Units × Nat) (none : none = some r) : i + 1 ≤ r.2 := absurd none.symm (Option.some_ne_none r)
  rw [stringEscape]
  cases at? src i with
  | none => exact missed
  | some c =>
    refine of_ite short <| of_ite short <| of_ite short <| of_ite short <| of_ite short <| of_ite short <| of_ite ?_ <|
      of_ite short <| of_ite (mapped_le (f := fun n => #[n.toUInt16]) fun _ _ => hexDigits_le) <|
      of_ite (mapped_le (f := Units.ofCode) fun _ _ => unicodeEscape_le) <| of_ite short <| of_ite missed short
    rintro _ ⟨⟩
    dsimp only
    split <;> omega

theorem stringFrom_le {quote : Char} {i j fuel : Nat} {acc u : Units}
    (read : stringFrom src quote i acc fuel = some (u, j)) : i + 1 ≤ j := by
  fun_induction stringFrom src quote i acc fuel with
  | case1 | case2 | case4 | case6 => cases read
  | case3 =>
    cases read
    exact Nat.le_refl _
  | case5 _ _ _ _ _ _ _ _ _ found ih =>
    have escape := stringEscape_le _ found
    have rest := ih read
    dsimp only at escape
    omega
  | case7 _ _ _ _ _ _ _ _ ih => exact Nat.le_of_succ_le (ih read)

theorem templateFrom_le {i j fuel : Nat} {cooked text : Option Units} {raw written : Units} {more : Bool}
    (read : templateFrom src i cooked raw fuel = some (text, written, more, j)) : i + 1 ≤ j := by
  fun_induction templateFrom src i cooked raw fuel with
  | case1 | case2 => cases read
  | case3 =>
    cases read
    exact Nat.le_refl _
  | case4 =>
    cases read
    exact Nat.le_succ _
  | case5 _ _ _ _ _ _ _ _ _ _ _ found _ ih =>
    have escape := stringEscape_le _ found
    have rest := ih read
    dsimp only at escape
    omega
  | case6 => cases read
  | case7 =>
    rename_i ih
    have rest := ih read
    omega
  | case8 i _ _ _ _ _ _ _ _ _ j ih =>
    have passed : i + 1 ≤ j := by
      change i + 1 ≤ if _ then _ else _
      split
      · exact Nat.le_succ _
      · exact Nat.le_refl _
    have rest := ih read
    omega
  | case9 =>
    rename_i ih
    exact Nat.le_of_succ_le (ih read)

theorem isNamePart_of_start {c : Char} (start : isNameStart c = true) : isNamePart c = true := by
  have continued {n : Nat} (first : Text.isIdStart n = true) : Text.isIdContinue n = true := by
    rw [Text.isIdStart] at first
    rw [Text.isIdContinue]
    split at first
    next small => rw [if_pos small, Text.isIdStart, if_pos small, first]; rfl
    next large => rw [if_neg large, first]; rfl
  simp only [isNameStart, isNamePart, Bool.or_eq_true] at start ⊢
  obtain (dollar | low) | letter := start
  · exact .inl (.inl (.inl dollar))
  · rw [beq_iff_eq] at low
    subst low
    exact .inr (by decide)
  · exact .inr (continued letter)

theorem nameFrom_passes {c : Char} {i j fuel : Nat} {acc n : String} {escaped after : Bool} (there : at? src i = some c)
    (start : (isNameStart c || c == '\\') = true) (read : nameFrom src i acc escaped (fuel + 1) = some (n, after, j)) :
    i < j := by
  rw [nameFrom, there] at read
  dsimp only at read
  split at read
  · split at read
    · split at read
      · cases read
      next found =>
        have escape := unicodeEscape_le found
        have later := named_le (Option.ite_none_right_eq_some.mp read).2
        omega
    · cases read
  next other =>
    rw [if_pos (isNamePart_of_start (by simpa [other] using start))] at read
    exact named_le read

theorem digitsFrom_passes {c : Char} {base i n count fuel m more j : Nat} {afterDigit : Bool} (there : at? src i = some c)
    (digit : digitValue c < base ∧ c ≠ '_') (read : digitsFrom src base i n count afterDigit (fuel + 1) = some (m, more, j)) :
    i < j := by
  rw [digitsFrom, there] at read
  dsimp only at read
  rw [if_neg (by simpa using digit.2), if_pos digit.1] at read
  exact digitsFrom_le read

def baseOf : Option Char → Option Nat
  | some 'x' | some 'X' => some 16
  | some 'o' | some 'O' => some 8
  | some 'b' | some 'B' => some 2
  | _ => none

theorem baseOf_le {next : Option Char} {base : Nat} (marked : baseOf next = some base) : base ≤ 16 := by
  rw [baseOf.eq_def] at marked
  split at marked <;> cases marked <;> simp

theorem numberAt_eq (src : Source) (i : Nat) : numberAt src i =
    match (if at? src i == some '0' then baseOf (at? src (i + 1)) else none) with
    | some base => radixFrom src base (i + 2)
    | none =>
      if at? src i == some '0' && (at? src (i + 1)).any (fun c => c.isDigit || c == '_') then none
      else (do
        let (n, count, j) ← digitsFrom src 10 i 0 0 false src.size
        if at? src j == some 'n' then some (.bigint n, j + 1) else decimalFrom src n count j) := by
  rw [numberAt]
  generalize (at? src i == some '0') = isZero
  generalize at? src (i + 1) = next
  cases isZero with
  | false => rfl
  | true =>
    dsimp only
    rw [if_pos rfl]
    split <;> simp_all [baseOf]

theorem decimalFrom_passes {n count i j : Nat} {t : Token} (there : at? src i = some '.')
    (read : decimalFrom src n count i = some (t, j)) : i < j := by
  rw [decimalFrom, there] at read
  dsimp only at read
  split at read
  · split at read
    · cases read
    · obtain ⟨⟨m, more, k⟩, digits, rest⟩ := Option.bind_eq_some_iff.mp read
      have first := digitsFrom_le digits
      obtain ⟨_, same, rest⟩ := Option.bind_eq_some_iff.mp rest
      cases same
      obtain ⟨⟨e, l⟩, exponent, rest⟩ := Option.bind_eq_some_iff.mp rest
      have second := exponentFrom_le exponent
      dsimp only at rest second
      split at rest
      · cases rest
      · cases rest
        omega
  next plain => exact (plain rfl).elim

theorem number_passes {c : Char} {i j : Nat} {t : Token} (there : at? src i = some c) (start : c.isDigit ∨ c = '.')
    (read : number src i = some (t, j)) : i < j := by
  obtain ⟨⟨t, j'⟩, found, rest⟩ := Option.bind_eq_some_iff.mp read
  obtain ⟨-, same⟩ := Option.ite_none_left_eq_some.mp rest
  cases same
  rw [numberAt_eq] at found
  split at found
  · have := (radixFrom_le found).1
    omega
  obtain ⟨-, found⟩ := Option.ite_none_left_eq_some.mp found
  obtain ⟨⟨n, count, k⟩, digits, rest⟩ := Option.bind_eq_some_iff.mp found
  dsimp only at rest
  have first := digitsFrom_le digits
  have second : k ≤ j := by
    split at rest
    · cases rest
      exact Nat.le_succ _
    · exact (decimalFrom_le rest).1
  obtain ⟨fuel, size⟩ := Nat.exists_eq_add_of_lt (Array.getElem?_eq_some_iff.mp there).1
  rw [size] at digits
  rcases start with digit | rfl
  · obtain ⟨low, high⟩ := Text.digit_bounds digit
    refine Nat.lt_of_lt_of_le (digitsFrom_passes there ⟨?_, ?_⟩ digits) second
    · have small : (48 ≤ c.toNat && c.toNat ≤ 57) = true := by simp [low, high]
      rw [digitValue, if_pos small]
      omega
    · rintro rfl
      exact absurd high (by decide)
  · rw [digitsFrom, there] at digits
    cases digits
    rw [there] at rest
    exact decimalFrom_passes there rest

theorem punct_passes {i j : Nat} {t : Token} (read : punct src i = some (t, j)) : i < j := by
  rw [punct] at read
  cases found : puncts.find? (startsAt src · i) with
  | none =>
    rw [found] at read
    cases read
  | some p =>
    rw [found] at read
    dsimp only at read
    have filled : 0 < p.length := by
      have each : ∀ p ∈ puncts, 0 < p.length := by decide
      exact each p (List.mem_of_find?_eq_some found)
    split at read <;> cases read <;> omega

theorem tokenAt_passes {i j : Nat} {t : Token} (read : tokenAt src i = some (t, j)) :
    i < j ∨ (t = .endOfText ∧ j = i ∧ src.size ≤ i) := by
  rw [tokenAt] at read
  split at read
  next none =>
    cases read
    exact .inr ⟨rfl, rfl, Array.getElem?_eq_none_iff.mp none⟩
  next c there =>
    refine .inl ?_
    split at read
    next start =>
      obtain ⟨⟨n, escaped, k⟩, found, same⟩ := Option.map_eq_some_iff.mp read
      cases same
      exact nameFrom_passes there start found
    split at read
    next start =>
      refine number_passes there ?_ read
      rw [Bool.or_eq_true, Bool.and_eq_true, beq_iff_eq] at start
      exact start.imp_right And.left
    split at read
    next =>
      obtain ⟨⟨u, k⟩, found, same⟩ := Option.map_eq_some_iff.mp read
      cases same
      have := stringFrom_le found
      omega
    split at read
    next =>
      split at read
      next found =>
        have passed := named_le found
        obtain ⟨-, same⟩ := Option.ite_none_left_eq_some.mp read
        cases same
        exact passed
      next => cases read
    next => exact punct_passes read

theorem tokenAt_punct {i j : Nat} {mark : String} (read : tokenAt src i = some (.punct mark, j)) :
    startsAt src mark.toList i = true ∧ j = i + mark.length := by
  rw [tokenAt] at read
  split at read
  · cases read
  split at read
  · obtain ⟨_, -, same⟩ := Option.map_eq_some_iff.mp read
    cases same
  split at read
  · obtain ⟨-, ⟨_, same⟩ | ⟨_, same⟩⟩ := number_le read <;> cases same
  split at read
  · obtain ⟨_, -, same⟩ := Option.map_eq_some_iff.mp read
    cases same
  split at read
  · split at read
    · cases (Option.ite_none_left_eq_some.mp read).2
    · cases read
  rw [punct] at read
  split at read
  · cases read
  next p found =>
    have starts := List.find?_some found
    split at read
    next question =>
      rw [Bool.and_eq_true, beq_iff_eq] at question
      cases read
      rw [question.1, startsAt, Bool.and_eq_true] at starts
      exact ⟨Bool.and_eq_true_iff.mpr ⟨starts.1, rfl⟩, rfl⟩
    next =>
      cases read
      rw [String.toList_ofList, String.length_ofList]
      exact ⟨starts, rfl⟩

theorem tokenAt_bracket {src : Source} {i : Nat} (there : at? src i = some ')') :
    tokenAt src i = some (.punct ")", i + 1) := by
  have left : Left src i (')' :: src.toList.drop (i + 1)) := by
    rw [at?, ← Array.getElem?_toList] at there
    obtain ⟨inside, there⟩ := List.getElem?_eq_some_iff.mp there
    rw [Left, List.drop_eq_getElem_cons inside, there]
  exact tokenAt_single left (by decide) (by decide)

def isGap (c : Char) : Bool :=
  c == ')' || isLineEnd c || isBlank c

def gaps : List Char :=
  [')', '\t', '\n', '\x0b', '\x0c', '\r', ' ', '\u00a0', '\u1680', '\u2000', '\u2001', '\u2002', '\u2003', '\u2004', '\u2005',
   '\u2006', '\u2007', '\u2008', '\u2009', '\u200a', '\u2028', '\u2029', '\u202f', '\u205f', '\u3000', '\ufeff']

theorem mem_gaps {c : Char} (gap : isGap c = true) : c ∈ gaps := by
  have listed : c.toNat ∈ gaps.map Char.toNat → c ∈ gaps := by
    intro inside
    obtain ⟨d, there, same⟩ := List.mem_map.mp inside
    exact Char.toNat_inj.mp same ▸ there
  rw [isGap, Bool.or_eq_true, Bool.or_eq_true] at gap
  obtain (bracket | line) | blank := gap
  · rw [eq_of_beq bracket]
    decide
  · simp only [isLineEnd, Bool.or_eq_true, beq_iff_eq] at line
    rcases line with ((rfl | rfl) | rfl) | rfl <;> decide
  · apply listed
    rw [isBlank, Bool.and_eq_true, decide_eq_true_eq] at blank
    obtain ⟨short, space⟩ := blank
    have code : c.toNat.toUInt16.toNat = c.toNat := Nat.mod_eq_of_lt short
    have codes : gaps.map Char.toNat = [0x29, 9, 10, 11, 12, 13, 0x20, 0xa0, 0x1680, 0x2000, 0x2001, 0x2002, 0x2003, 0x2004,
        0x2005, 0x2006, 0x2007, 0x2008, 0x2009, 0x200a, 0x2028, 0x2029, 0x202f, 0x205f, 0x3000, 0xfeff] := by decide
    simp only [Units.isSpace, Bool.or_eq_true, Bool.and_eq_true, decide_eq_true_eq, beq_iff_eq, UInt16.le_iff_toNat_le,
      ← UInt16.toNat_inj, code, UInt16.reduceToNat] at space
    simp only [codes, List.mem_cons, List.not_mem_nil, or_false]
    omega

theorem dark {p : Char → Bool} (none : gaps.all (!p ·) = true) {c : Char} (gap : isGap c = true) : p c = false := by
  simpa using List.all_eq_true.mp none c (mem_gaps gap)

end Places

def SkipsTo (src : Source) (i j : Nat) : Prop :=
  ∀ newline fuel, src.size < i + fuel → skipBlanks src i newline fuel = some (j, true)

end Lexer

end BoundedScript.Script
