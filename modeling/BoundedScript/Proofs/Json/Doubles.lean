import Mathlib.Tactic.ByContra
import Mathlib.Tactic.SplitIfs
import BoundedScript.Proofs.Json.Accepted

set_option autoImplicit false

namespace BoundedScript

open Text (Bytes encoded digit_bounds)

namespace Decimal

def isNumeral (c : Char) : Bool :=
  c.isDigit || c == '.' || c == 'e' || c == '-' || c == '+'

theorem digits_numeral (n : Nat) : ∀ c ∈ Nat.toDigits 10 n, isNumeral c := by
  intro c inside
  have digit : c.isDigit := Text.isDigit_toDigits n c inside
  simp [isNumeral, digit]

theorem exponentText_numeral (e : Int) : ∀ c ∈ exponentText e, isNumeral c := by
  have sign : isNumeral (if e < 0 then '-' else '+') := by
    split <;> decide
  simp only [exponentText, List.forall_mem_cons]
  exact ⟨by decide, sign, digits_numeral _⟩

theorem zeros_numeral (n : Nat) : ∀ c ∈ List.replicate n '0', isNumeral c := by
  intro c inside
  rw [List.eq_of_mem_replicate inside]
  decide

theorem pointZero_numeral (pointZero : Bool) :
    ∀ c ∈ (if pointZero then ['.', '0'] else []), isNumeral c := by
  cases pointZero with
  | true => exact List.forall_mem_cons.mpr ⟨by decide, List.forall_mem_singleton.mpr (by decide)⟩
  | false => exact List.forall_mem_nil _

theorem positionalText_numeral (d : Decimal) (pointZero : Bool) :
    ∀ c ∈ d.positionalText pointZero, isNumeral c := by
  have digits := digits_numeral d.coefficient
  rw [positionalText]
  split
  · simp only [List.cons_append, List.forall_mem_cons, List.forall_mem_append]
    exact ⟨by decide, by decide, zeros_numeral _, digits⟩
  split
  · simp only [List.forall_mem_cons, List.forall_mem_append]
    exact ⟨fun c inside => digits c (List.mem_of_mem_take inside), by decide,
      fun c inside => digits c (List.mem_of_mem_drop inside)⟩
  · simp only [List.forall_mem_append]
    exact ⟨⟨digits, zeros_numeral _⟩, pointZero_numeral pointZero⟩

theorem exponentialText_numeral (d : Decimal) : ∀ c ∈ d.exponentialText, isNumeral c := by
  have digits := digits_numeral d.coefficient
  have mark := exponentText_numeral d.leadExponent
  rw [exponentialText]
  split
  next => exact List.forall_mem_nil _
  next c same =>
    rw [Decimal.digits] at same
    rw [same] at digits
    exact List.forall_mem_cons.mpr ⟨digits c List.mem_cons_self, mark⟩
  next c rest several same =>
    rw [Decimal.digits] at same
    rw [same] at digits
    simp only [List.cons_append, List.forall_mem_cons, List.forall_mem_append] at digits ⊢
    exact ⟨digits.1, by decide, digits.2, mark⟩

theorem render_numeral (d : Decimal) (l : Layout) : ∀ c ∈ d.render l, isNumeral c := by
  rw [render]
  split
  · exact List.forall_mem_cons.mpr ⟨by decide, pointZero_numeral _⟩
  split
  · exact positionalText_numeral d _
  · exact exponentialText_numeral d

end Decimal

namespace Json

open Reading

theorem floatText_numeral {x : Float} (finite : x.isFinite) : ∀ c ∈ floatText x, Decimal.isNumeral c := by
  have body := Decimal.render_numeral (Decimal.shortest (Binary.ofFloat x)) .json
  rw [floatText, if_pos finite, Double.render, String.toList_ofList]
  split
  · exact List.forall_mem_cons.mpr ⟨by decide, body⟩
  · exact body

theorem isBlank_of_lt {b : UInt8} (high : 0x20 < b) : isBlank b = false := by
  by_contra blank
  simp only [isBlank, Bool.not_eq_false, Bool.or_eq_true, beq_iff_eq] at blank
  rcases blank with ((rfl | rfl) | rfl) | rfl <;> exact absurd high (by decide)

theorem numeral_bounds {c : Char} (numeral : Decimal.isNumeral c) : 0x20 < c.toNat ∧ c.toNat < 128 := by
  simp only [Decimal.isNumeral, Bool.or_eq_true, beq_iff_eq] at numeral
  rcases numeral with (((digit | rfl) | rfl) | rfl) | rfl
  · obtain ⟨low, high⟩ := digit_bounds digit
    omega
  all_goals decide

theorem isBlank_encoded_numeral {cs : List Char} (numeral : ∀ c ∈ cs, Decimal.isNumeral c) :
    ∀ b ∈ encoded cs, isBlank b = false := by
  intro b inside
  obtain ⟨c, member, byte⟩ := List.mem_flatMap.mp inside
  have bounds := numeral_bounds (numeral c member)
  rw [Text.encodeChar_ascii bounds.2, List.mem_singleton] at byte
  subst byte
  apply isBlank_of_lt
  rw [UInt8.lt_iff_toNat_lt, UInt8.toNat_ofNat']
  show 0x20 < c.toNat % 256
  omega

theorem peek_visible {b : UInt8} (visible : isBlank b = false) (tail : Bytes) :
    peek (b :: tail) = .ok (some b, b :: tail) := by
  rw [peek_apply, List.dropWhile_cons_of_neg (by simp [visible])]
  rfl

theorem signedNumber_head {bs rest : Bytes} {n : Reading.Number} (read : signedNumber bs = .ok (n, rest)) :
    ∃ b tail, bs = b :: tail ∧ (b == 0x2d || isDigit b) = true := by
  cases bs with
  | nil => cases read
  | cons b tail =>
    refine ⟨b, tail, rfl, ?_⟩
    by_contra other
    simp only [Bool.or_eq_true, beq_iff_eq, not_or] at other
    obtain ⟨minus, digit⟩ := other
    have zero : ¬ b = 0x30 := by
      rintro rfl
      exact digit rfl
    simp [signedNumber, number, bind_apply, minus, digit, zero] at read

theorem valueWith_cons {container : UInt8 → Reading Json} {b : UInt8} (visible : isBlank b = false)
    (tail : Bytes) :
    valueWith container (b :: tail) =
      (if b == 0x22 then do drop; return .string (← stringBody)
      else if b == 0x5b || b == 0x7b then container b
      else if b == 0x2d || isDigit b then return ofNumber (← signedNumber)
      else if b == 0x6e then do drop; word ull; return .null
      else if b == 0x74 then do drop; word rue; return .bool true
      else if b == 0x66 then do drop; word alse; return .bool false
      else throw .expectedValue : Reading Json) (b :: tail) := by
  rw [valueWith, bind_ok (peek_visible visible tail)]

theorem isBlank_of_lead {b : UInt8} (lead : (b == 0x2d || isDigit b) = true) : isBlank b = false := by
  apply isBlank_of_lt
  simp only [Bool.or_eq_true, beq_iff_eq] at lead
  rcases lead with rfl | digit
  · decide
  · simp only [isDigit, Bool.and_eq_true, decide_eq_true_eq] at digit
    exact UInt8.lt_of_lt_of_le (by decide) digit.1

theorem valueWith_number {container : UInt8 → Reading Json} {bs rest : Bytes} {n : Reading.Number}
    (read : signedNumber bs = .ok (n, rest)) : valueWith container bs = .ok (ofNumber n, rest) := by
  obtain ⟨b, tail, rfl, lead⟩ := signedNumber_head read
  have apart : ∀ c : UInt8, (c == 0x2d || isDigit c) = false → (b == c) = false := by
    intro c other
    apply beq_false_of_ne
    rintro rfl
    rw [lead] at other
    cases other
  rw [valueWith_cons (isBlank_of_lead lead), apart 0x22 rfl, apart 0x5b rfl, apart 0x7b rfl, lead]
  exact bind_ok read _

theorem eq_of_constant {α β γ : Type} {r : Reading α} {s : Reading β} {v w : γ} {bs rest : Bytes}
    (read : (r >>= fun _ => s >>= fun _ => pure w) bs = .ok (v, rest)) : v = w := by
  obtain ⟨a, between, first, read⟩ := bind_eq_ok.mp read
  obtain ⟨b, between', second, read⟩ := bind_eq_ok.mp read
  cases read
  rfl

-- Nothing but the number at the front is read as a double.
theorem signedNumber_of_valueWith {x : Float} {container : UInt8 → Reading Json}
    (containers : ∀ b, Yields (fun v => v ≠ Json.float x) (container b)) {b : UInt8} {tail rest : Bytes}
    (visible : isBlank b = false) (read : valueWith container (b :: tail) = .ok (Json.float x, rest)) :
    signedNumber (b :: tail) = .ok (.float x, rest) := by
  rw [valueWith_cons visible] at read
  split_ifs at read
  · obtain ⟨u, between, first, read⟩ := bind_eq_ok.mp read
    obtain ⟨s, between', second, read⟩ := bind_eq_ok.mp read
    cases read
  · exact absurd rfl (containers b _ _ _ read)
  · obtain ⟨n, between, number, same⟩ := bind_eq_ok.mp read
    cases n with
    | int n => cases same
    | float y =>
      cases same
      exact number
  · cases eq_of_constant read
  · cases eq_of_constant read
  · cases eq_of_constant read
  · cases read

theorem signedNumber_of_value {x : Float} (depth : Nat) {b : UInt8} {tail rest : Bytes}
    (visible : isBlank b = false) (read : value depth (b :: tail) = .ok (Json.float x, rest)) :
    signedNumber (b :: tail) = .ok (.float x, rest) := by
  cases depth with
  | zero => exact signedNumber_of_valueWith (fun b => .throw _) visible read
  | succ depth =>
    refine signedNumber_of_valueWith (fun b => ?_) visible read
    apply Yields.behind
    intro u
    apply Yields.ite
    · exact .behind fun fuel => .behind fun items => .behind fun u => .pure Json.noConfusion
    · exact .behind fun fuel => .behind fun fields => .behind fun u => .pure Json.noConfusion

theorem signedNumber_float {x : Float} (readBack : ReadsBack x) :
    signedNumber (encoded (floatText x)) = .ok (.float x, []) := by
  have finite : x.isFinite := by
    by_contra infinite
    rw [ReadsBack, floatText, if_neg infinite] at readBack
    have null : readText (String.ofList "null".toList) = .ok .null := by
      rw [readText, Json.read, Text.bytesOf_ofList]
      exact run_eq_ok.mpr ⟨[], rfl, rfl⟩
    rw [null] at readBack
    cases readBack
  have visible := isBlank_encoded_numeral (floatText_numeral finite)
  rw [ReadsBack, readText, Json.read, Text.bytesOf_ofList] at readBack
  obtain ⟨rest, read, ended⟩ := run_eq_ok.mp readBack
  cases bytes : encoded (floatText x) with
  | nil =>
    rw [bytes] at read
    cases read
  | cons b tail =>
    rw [bytes] at read visible
    have number := signedNumber_of_value maxDepth (visible b List.mem_cons_self) read
    obtain ⟨suffix, extended⟩ := signedNumber_extends _ _ _ number
    -- Only blanks may be left, and the text has none.
    cases rest with
    | nil => exact number
    | cons c rest =>
      have blank := visible c (suffix.subset List.mem_cons_self)
      simp [blank] at ended

end Json
end BoundedScript
