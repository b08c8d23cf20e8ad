import BoundedScript.Json.Writer
import BoundedScript.Proofs.Json.Steps
import BoundedScript.Proofs.Text.Digits

set_option autoImplicit false

namespace BoundedScript.Json

open Text (Bytes encoded digit_bounds le_ofDigitChars toDigits_head)

namespace Reading

variable {α β γ : Type}

def Ends (bytes : Bytes) : Prop :=
  ∀ b ∈ bytes.head?, isDigit b = false ∧ isExponentMark b = false ∧ b ≠ 0x2e

theorem Ends.nil : Ends [] := by
  intro b inside
  cases inside

theorem Ends.mark {b : UInt8} (mark : b = 0x2c ∨ b = 0x5d ∨ b = 0x7d) (tail : Bytes) :
    Ends (b :: tail) := by
  intro c inside
  obtain rfl : b = c := Option.some.inj inside
  rcases mark with rfl | rfl | rfl <;> decide

def Extends (r : Reading α) : Prop :=
  ∀ bs a rest, r bs = .ok (a, rest) →
    rest <:+ bs ∧ ∀ more, Ends more → r (bs ++ more) = .ok (a, rest ++ more)

def ScanExtends (taken : Bytes → γ) (left : Bytes → Bytes) : Prop :=
  ∀ bs, left bs <:+ bs ∧
    ∀ more, Ends more → taken (bs ++ more) = taken bs ∧ left (bs ++ more) = left bs ++ more

section Combinators

theorem Extends.pure (a : α) : Extends (Pure.pure a : Reading α) := by
  intro bs a' rest read
  obtain ⟨rfl, rfl⟩ := Prod.mk.inj (Except.ok.inj read)
  exact ⟨List.suffix_refl _, fun more ends => rfl⟩

theorem Extends.throw (e : ReadError) : Extends (MonadExcept.throw e : Reading α) := by
  intro bs a rest read
  cases read

theorem Extends.bind {r : Reading α} {f : α → Reading β} (first : Extends r)
    (second : ∀ a, Extends (f a)) : Extends (r >>= f) := by
  intro bs b rest read
  obtain ⟨a, between, readFirst, readSecond⟩ := bind_eq_ok.mp read
  obtain ⟨suffix, extended⟩ := first bs a between readFirst
  obtain ⟨suffix', extended'⟩ := second a between b rest readSecond
  refine ⟨suffix'.trans suffix, fun more ends => ?_⟩
  rw [bind_ok (extended more ends), extended' more ends]

theorem Extends.ite {c : Prop} [Decidable c] {r s : Reading α} (yes : Extends r) (no : Extends s) :
    Extends (if c then r else s) := by
  by_cases holds : c
  · rw [if_pos holds]
    exact yes
  · rw [if_neg holds]
    exact no

theorem Extends.scan {taken : Bytes → γ} {left : Bytes → Bytes} {f : γ → Reading α} {r : Reading α}
    (first : ScanExtends taken left) (second : ∀ c, Extends (f c))
    (same : ∀ bs, r bs = f (taken bs) (left bs)) : Extends r := by
  intro bs a rest read
  obtain ⟨suffix, extended⟩ := first bs
  rw [same] at read
  obtain ⟨suffix', extended'⟩ := second (taken bs) (left bs) a rest read
  refine ⟨suffix'.trans suffix, fun more ends => ?_⟩
  obtain ⟨taken', left'⟩ := extended more ends
  rw [same, taken', left', extended' more ends]

theorem Extends.next (e : ReadError) : Extends (next e) := by
  intro bs b rest read
  cases bs with
  | nil => cases read
  | cons c tail =>
    obtain ⟨rfl, rfl⟩ := Prod.mk.inj (Except.ok.inj read)
    exact ⟨List.suffix_cons _ _, fun more ends => rfl⟩

theorem Extends.look {r : Reading α}
    (last : (∀ a rest, r [] ≠ .ok (a, rest)) ∨ ∃ stop, Extends stop ∧ ∀ bs, Ends bs → r bs = stop bs)
    (inside : ∀ b, (∃ f, Extends f ∧ ∀ tail, r (b :: tail) = f tail) ∨
      ∃ f, Extends f ∧ ∀ tail, r (b :: tail) = f (b :: tail)) : Extends r := by
  intro bs a rest read
  cases bs with
  | nil =>
    rcases last with refused | ⟨stop, stops, same⟩
    · exact absurd read (refused a rest)
    · rw [same [] Ends.nil] at read
      obtain ⟨suffix, extended⟩ := stops [] a rest read
      refine ⟨suffix, fun more ends => ?_⟩
      have stopped := extended more ends
      rw [List.nil_append] at stopped ⊢
      rw [same more ends, stopped]
  | cons b tail =>
    rcases inside b with ⟨f, first, same⟩ | ⟨f, first, same⟩
    · rw [same] at read
      obtain ⟨suffix, extended⟩ := first tail a rest read
      refine ⟨suffix.trans (List.suffix_cons b tail), fun more ends => ?_⟩
      rw [List.cons_append, same, extended more ends]
    · rw [same] at read
      obtain ⟨suffix, extended⟩ := first (b :: tail) a rest read
      refine ⟨suffix, fun more ends => ?_⟩
      rw [List.cons_append, same, ← List.cons_append, extended more ends]

end Combinators

section Digits

theorem dropWhile_extends {bs more : Bytes} (ends : Ends more) :
    (bs ++ more).dropWhile isDigit = bs.dropWhile isDigit ++ more := by
  induction bs with
  | nil =>
    cases more with
    | nil => rfl
    | cons b tail => simp [(ends b rfl).1]
  | cons b tail ih =>
    by_cases digit : isDigit b
    · simp [digit, ih]
    · simp [digit]

theorem takeWhile_extends {bs more : Bytes} (ends : Ends more) :
    (bs ++ more).takeWhile isDigit = bs.takeWhile isDigit := by
  induction bs with
  | nil =>
    cases more with
    | nil => rfl
    | cons b tail => simp [(ends b rfl).1]
  | cons b tail ih =>
    by_cases digit : isDigit b
    · simp [digit, ih]
    · simp [digit]

theorem exponentDigits_extends (e : Nat) :
    ScanExtends (fun bs => (exponentDigits e bs).1) (fun bs => (exponentDigits e bs).2) := by
  intro bs
  induction bs generalizing e with
  | nil =>
    refine ⟨List.suffix_refl _, fun more ends => ?_⟩
    cases more with
    | nil => simp
    | cons b tail => simp [exponentDigits, (ends b rfl).1]
  | cons b tail ih =>
    by_cases digit : isDigit b
    · by_cases small : e * 10 + digitOf b ≤ maxExponent
      · simp only [exponentDigits, digit, small, if_true, List.cons_append]
        obtain ⟨suffix, extended⟩ := ih (e * 10 + digitOf b)
        exact ⟨suffix.trans (List.suffix_cons b tail), extended⟩
      · simp only [exponentDigits, digit, small, if_true, if_false, List.cons_append]
        refine ⟨(List.dropWhile_suffix _).trans (List.suffix_cons b tail), fun more ends => ?_⟩
        exact ⟨trivial, dropWhile_extends ends⟩
    · simp [exponentDigits, digit]

theorem fractionDigits_extends (significand places : Nat) :
    ScanExtends
      (fun bs => ((fractionDigits significand places bs).1, (fractionDigits significand places bs).2.1))
      (fun bs => (fractionDigits significand places bs).2.2) := by
  intro bs
  induction bs generalizing significand places with
  | nil =>
    refine ⟨List.suffix_refl _, fun more ends => ?_⟩
    cases more with
    | nil => simp
    | cons b tail => simp [fractionDigits, (ends b rfl).1]
  | cons b tail ih =>
    by_cases digit : isDigit b
    · by_cases small : significand * 10 + digitOf b < 0x1_0000_0000_0000_0000
      · simp only [fractionDigits, digit, small, if_true, List.cons_append]
        obtain ⟨suffix, extended⟩ := ih (significand * 10 + digitOf b) (places + 1)
        exact ⟨suffix.trans (List.suffix_cons b tail), extended⟩
      · simp only [fractionDigits, digit, small, if_true, if_false, List.cons_append]
        refine ⟨(List.dropWhile_suffix _).trans (List.suffix_cons b tail), fun more ends => ?_⟩
        exact ⟨trivial, dropWhile_extends ends⟩
    · simp [fractionDigits, digit]

theorem wholeDigits_extends (n : Nat) :
    ScanExtends (fun bs => (wholeDigits n bs).1) (fun bs => (wholeDigits n bs).2) := by
  intro bs
  induction bs generalizing n with
  | nil =>
    refine ⟨List.suffix_refl _, fun more ends => ?_⟩
    cases more with
    | nil => simp
    | cons b tail => simp [wholeDigits, (ends b rfl).1]
  | cons b tail ih =>
    by_cases goes : isDigit b && n * 10 + digitOf b < 0x1_0000_0000_0000_0000
    · simp only [wholeDigits, goes, if_true, List.cons_append]
      obtain ⟨suffix, extended⟩ := ih (n * 10 + digitOf b)
      exact ⟨suffix.trans (List.suffix_cons b tail), extended⟩
    · simp only [wholeDigits, if_neg goes, List.cons_append]
      exact ⟨List.suffix_refl _, fun more ends => ⟨trivial, trivial⟩⟩

theorem countedDigits_extends :
    ScanExtends (fun bs => (bs.takeWhile isDigit).length)
      (fun bs => bs.drop (bs.takeWhile isDigit).length) := by
  intro bs
  refine ⟨List.drop_suffix _ _, fun more ends => ?_⟩
  have inside : (bs.takeWhile isDigit).length ≤ bs.length := (List.takeWhile_prefix _).length_le
  simp only [takeWhile_extends ends, List.drop_append_of_le_length inside, and_self]

end Digits

section Numbers

theorem floatOf_extends (negative : Bool) (significand : Nat) (exponent : Int) :
    Extends (floatOf negative significand exponent) := by
  rw [floatOf]
  cases scaled (Double.ofWhole significand) exponent 8 with
  | ok x => exact .pure _
  | error e => exact .throw e

theorem exponentValue_extends (negative down : Bool) (significand : Nat) (exponent : Int) :
    Extends (exponentValue negative down significand exponent) := by
  apply Extends.bind (.next _)
  intro b
  by_cases digit : isDigit b
  · refine Extends.scan (exponentDigits_extends (digitOf b)) (f := fun e => e.elim
      (if significand != 0 && !down then throw .numberOutOfRange
      else return .float (signed negative 0.0))
      fun e => floatOf negative significand
        (clampExponent (if down then exponent - e else exponent + e))) ?_ fun bs => ?_
    · intro e
      cases e with
      | some e => exact floatOf_extends _ _ _
      | none => exact Extends.ite (.throw _) (.pure _)
    · rw [digit]
      rcases same : exponentDigits (digitOf b) bs with ⟨_ | e, rest⟩ <;>
        simp [bind_apply, same]
  · intro bs a rest read
    rw [Bool.not_eq_true] at digit
    rw [digit] at read
    cases read

theorem exponentPart_extends (negative : Bool) (significand : Nat) (exponent : Int) :
    Extends (exponentPart negative significand exponent) := by
  apply Extends.look
  · left
    intro a rest read
    cases read
  · intro b
    by_cases down : b = 0x2d
    · left
      refine ⟨_, exponentValue_extends negative true significand exponent, fun tail => ?_⟩
      subst down
      rfl
    by_cases up : b = 0x2b
    · left
      refine ⟨_, exponentValue_extends negative false significand exponent, fun tail => ?_⟩
      subst up
      rfl
    · right
      refine ⟨_, exponentValue_extends negative false significand exponent, fun tail => ?_⟩
      have plus : (b == 0x2d) = false := beq_false_of_ne down
      simp [exponentPart, down, up, plus, bind_apply]

theorem afterDigits_extends (negative : Bool) (significand : Nat) (exponent : Int) :
    Extends (afterDigits negative significand exponent) := by
  apply Extends.look
  · refine .inr ⟨floatOf negative significand exponent, floatOf_extends _ _ _, fun bs ends => ?_⟩
    cases bs with
    | nil => rfl
    | cons b tail => simp [afterDigits, (ends b rfl).2.1, bind_apply]
  · intro b
    by_cases mark : isExponentMark b
    · left
      refine ⟨_, exponentPart_extends negative significand exponent, fun tail => ?_⟩
      simp [afterDigits, mark, bind_apply]
    · right
      refine ⟨_, floatOf_extends negative significand exponent, fun tail => ?_⟩
      simp [afterDigits, mark, bind_apply]

theorem fractionValue_extends (negative : Bool) (significand : Nat) (exponent : Int) :
    Extends (fractionValue negative significand exponent) := by
  apply Extends.scan (fractionDigits_extends significand 0)
    (fun taken => afterDigits_extends negative taken.1 (exponent - taken.2))
  intro bs
  simp only [fractionValue, bind_apply, get_apply, set_apply]

theorem fractionPart_extends (negative : Bool) (significand : Nat) (exponent : Int) :
    Extends (fractionPart negative significand exponent) := by
  apply Extends.look
  · left
    intro a rest read
    cases read
  · intro b
    right
    by_cases digit : isDigit b
    · refine ⟨_, fractionValue_extends negative significand exponent, fun tail => ?_⟩
      simp [fractionPart, digit, bind_apply]
    · refine ⟨_, .throw .invalidNumber, fun tail => ?_⟩
      simp [fractionPart, digit, bind_apply]

theorem longWhole_extends (negative : Bool) (significand : Nat) :
    Extends (longWhole negative significand) := by
  refine Extends.scan countedDigits_extends (f := fun places : Nat => get >>= fun bytes =>
    if bytes.head? == some 0x2e then do drop; fractionPart negative significand places
    else afterDigits negative significand places) ?_ fun bs => rfl
  intro places
  apply Extends.look
  · refine .inr ⟨_, afterDigits_extends negative significand places, fun bs ends => ?_⟩
    cases bs with
    | nil => rfl
    | cons b tail => simp [(ends b rfl).2.2, bind_apply]
  · intro b
    by_cases point : b = 0x2e
    · left
      refine ⟨_, fractionPart_extends negative significand places, fun tail => ?_⟩
      simp [point, bind_apply]
    · right
      refine ⟨_, afterDigits_extends negative significand places, fun tail => ?_⟩
      simp [point, bind_apply]

theorem afterWhole_extends (negative : Bool) (n : Nat) : Extends (afterWhole negative n) := by
  apply Extends.look
  · refine .inr ⟨_, .pure (wholeNumber negative n), fun bs ends => ?_⟩
    cases bs with
    | nil => rfl
    | cons b tail =>
      obtain ⟨digit, mark, point⟩ := ends b rfl
      simp [afterWhole, digit, mark, point, bind_apply]
  · intro b
    by_cases point : b = 0x2e
    · left
      refine ⟨_, fractionPart_extends negative n 0, fun tail => ?_⟩
      simp [afterWhole, point, bind_apply]
    by_cases mark : isExponentMark b
    · left
      refine ⟨_, exponentPart_extends negative n 0, fun tail => ?_⟩
      simp [afterWhole, point, mark, bind_apply]
    by_cases digit : isDigit b
    · right
      refine ⟨_, longWhole_extends negative n, fun tail => ?_⟩
      simp [afterWhole, point, mark, digit, bind_apply]
    · right
      refine ⟨_, .pure (wholeNumber negative n), fun tail => ?_⟩
      simp [afterWhole, point, mark, digit, bind_apply]

theorem leadingZero_extends (negative : Bool) :
    Extends (get >>= fun bytes => match bytes.head? with
      | some c => if isDigit c then throw .invalidNumber else afterWhole negative 0
      | none => afterWhole negative 0) := by
  apply Extends.look
  · refine .inr ⟨_, afterWhole_extends negative 0, fun bs ends => ?_⟩
    cases bs with
    | nil => rfl
    | cons b tail => simp [(ends b rfl).1, bind_apply]
  · intro b
    right
    by_cases digit : isDigit b
    · refine ⟨_, .throw .invalidNumber, fun tail => ?_⟩
      simp [digit, bind_apply]
    · refine ⟨_, afterWhole_extends negative 0, fun tail => ?_⟩
      simp [digit, bind_apply]

theorem number_extends (negative : Bool) : Extends (number negative) := by
  apply Extends.bind (.next _)
  intro b
  apply Extends.ite
  · exact leadingZero_extends negative
  apply Extends.ite
  · exact Extends.scan (wholeDigits_extends (digitOf b)) (afterWhole_extends negative) fun bs => rfl
  · exact .throw _

theorem signedNumber_extends : Extends signedNumber := by
  apply Extends.look
  · left
    intro a rest read
    cases read
  · intro b
    by_cases minus : b = 0x2d
    · left
      refine ⟨_, number_extends true, fun tail => ?_⟩
      simp [signedNumber, minus, bind_apply]
    · right
      refine ⟨_, number_extends false, fun tail => ?_⟩
      simp [signedNumber, minus, bind_apply]

end Numbers

section Integers

theorem isDigit_ofNat {c : Char} (digit : c.isDigit) : isDigit (UInt8.ofNat c.toNat) = true := by
  obtain ⟨low, high⟩ := digit_bounds digit
  have byte : c.toNat % 256 = c.toNat := by omega
  simp only [isDigit, Bool.and_eq_true, decide_eq_true_eq, UInt8.le_iff_toNat_le, UInt8.toNat_ofNat', byte]
  exact ⟨low, high⟩

theorem digitOf_ofNat {c : Char} (digit : c.isDigit) : digitOf (UInt8.ofNat c.toNat) = c.toNat - 48 := by
  obtain ⟨low, high⟩ := digit_bounds digit
  rw [digitOf, UInt8.toNat_ofNat']
  omega

theorem encoded_digit {c : Char} (digit : c.isDigit) (cs : List Char) :
    encoded (c :: cs) = UInt8.ofNat c.toNat :: encoded cs := by
  obtain ⟨low, high⟩ := digit_bounds digit
  exact Text.encoded_ascii (by omega) cs

theorem wholeDigits_written {cs : List Char} (digits : ∀ c ∈ cs, c.isDigit) (n : Nat)
    (small : Nat.ofDigitChars 10 cs n < 0x1_0000_0000_0000_0000) :
    wholeDigits n (encoded cs) = (Nat.ofDigitChars 10 cs n, []) := by
  induction cs generalizing n with
  | nil => simp [wholeDigits]
  | cons c rest ih =>
    have digit : c.isDigit := digits c List.mem_cons_self
    have onward := le_ofDigitChars rest (10 * n + (c.toNat - '0'.toNat))
    rw [Nat.ofDigitChars_cons] at small ⊢
    have value : n * 10 + digitOf (UInt8.ofNat c.toNat) = 10 * n + (c.toNat - '0'.toNat) := by
      rw [digitOf_ofNat digit, Nat.mul_comm]
      rfl
    have fits : 10 * n + (c.toNat - '0'.toNat) < 0x1_0000_0000_0000_0000 := Nat.lt_of_le_of_lt onward small
    rw [encoded_digit digit, wholeDigits, value, isDigit_ofNat digit, decide_eq_true fits]
    exact ih (fun d inside => digits d (List.mem_cons_of_mem c inside)) _ small

theorem number_written (negative : Bool) {n : Nat} (small : n < 0x1_0000_0000_0000_0000) :
    number negative (encoded (Nat.toDigits 10 n)) = .ok (wholeNumber negative n, []) := by
  by_cases positive : 0 < n
  · obtain ⟨c, rest, digits, lead⟩ := toDigits_head positive
    have value : Nat.ofDigitChars 10 (c :: rest) 0 = n := by rw [← digits, Nat.ofDigitChars_ten_toDigits]
    have each : ∀ d ∈ c :: rest, d.isDigit := by
      intro d inside
      rw [← digits] at inside
      exact Nat.isDigit_of_mem_toDigits (by decide) (by decide) inside
    have digit : c.isDigit := each c List.mem_cons_self
    -- A zero at the front would stand for the whole number.
    have nonzero : (UInt8.ofNat c.toNat == 0x30) = false := by
      apply beq_false_of_ne
      intro zero
      have same := digitOf_ofNat digit
      rw [zero] at same
      obtain ⟨low, high⟩ := digit_bounds digit
      apply lead
      apply Char.toNat_inj.mp
      show c.toNat = 48
      have none : digitOf 0x30 = 0 := rfl
      omega
    rw [Nat.ofDigitChars_cons, Nat.mul_zero, Nat.zero_add] at value
    have whole := wholeDigits_written (fun d inside => each d (List.mem_cons_of_mem c inside))
      (c.toNat - '0'.toNat) (by rw [value]; exact small)
    rw [value] at whole
    have first : digitOf (UInt8.ofNat c.toNat) = c.toNat - '0'.toNat := digitOf_ofNat digit
    rw [digits, encoded_digit digit, number, bind_ok (next_cons _ _ _)]
    simp only [nonzero, Bool.false_eq_true, if_false, isDigit_ofNat digit, if_true, first, bind_apply,
      get_apply, set_apply, whole]
    rfl
  · obtain rfl : n = 0 := by omega
    rfl

theorem signedNumber_of_number {bs rest : Bytes} {n : Number} (read : number false bs = .ok (n, rest)) :
    signedNumber bs = .ok (n, rest) := by
  cases bs with
  | nil => cases read
  | cons b tail =>
    by_cases minus : b = 0x2d
    · subst minus
      cases read
    · simp [signedNumber, minus, bind_apply, read]

theorem intText_ofNat (n : Nat) : intText (Int.ofNat n) = Nat.toDigits 10 n :=
  Nat.toList_repr

theorem intText_negSucc (n : Nat) : intText (Int.negSucc n) = '-' :: Nat.toDigits 10 (n + 1) := by
  show ("-" ++ Nat.repr (n + 1)).toList = _
  rw [String.toList_append, Nat.toList_repr]
  rfl

theorem signedNumber_written {n : Int} (low : -0x8000_0000_0000_0000 ≤ n) (high : n < 0x1_0000_0000_0000_0000) :
    signedNumber (encoded (intText n)) = .ok (.int n, []) := by
  cases n with
  | ofNat n =>
    have small : n < 0x1_0000_0000_0000_0000 := by
      rw [Int.ofNat_eq_natCast] at high
      omega
    rw [intText_ofNat]
    exact signedNumber_of_number (number_written false small)
  | negSucc n =>
    have small : n + 1 ≤ 0x8000_0000_0000_0000 := by omega
    have whole : wholeNumber true (n + 1) = .int (Int.negSucc n) := by
      have kept : ¬ (n + 1 == 0 || decide (0x8000_0000_0000_0000 < n + 1)) = true := by
        simp
        omega
      rw [wholeNumber, if_neg (by decide), if_neg kept]
      rfl
    rw [intText_negSucc, Text.encoded_ascii (by decide), ← whole]
    exact number_written true (by omega)

end Integers

end Reading
end BoundedScript.Json
