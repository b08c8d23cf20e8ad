import Mathlib.Algebra.Order.BigOperators.Group.List
import BoundedScript.Proofs.Decimal.Digits
import BoundedScript.Proofs.Json.RoundTrip

set_option autoImplicit false

namespace BoundedScript

open Text (Bytes encoded)

namespace Json

mutual

def doubles : Json → Nat
  | .float _ => 1
  | .array items => doublesItems items
  | .object fields => doublesFields fields
  | _ => 0

def doublesItems : List Json → Nat
  | [] => 0
  | v :: rest => doubles v + doublesItems rest

def doublesFields : List (String × Json) → Nat
  | [] => 0
  | (_, v) :: rest => doubles v + doublesFields rest

end

mutual

def least : Json → Nat
  | .null => 4
  | .bool true => 4
  | .bool false => 5
  | .int n => (encoded (intText n)).length
  | .float _ => 2
  | .string s => (encoded (stringText s)).length
  | .array items => max 2 (leastItems items + 1)
  | .object fields => max 2 (leastFields fields + 1)

def leastItems : List Json → Nat
  | [] => 0
  | v :: rest => 1 + least v + leastItems rest

def leastFields : List (String × Json) → Nat
  | [] => 0
  | (k, v) :: rest => 1 + (encoded (stringText k)).length + 1 + least v + leastFields rest

end

section Written

theorem encoded_length_numeral {cs : List Char} (numeral : ∀ c ∈ cs, Decimal.isNumeral c) :
    (encoded cs).length = cs.length := by
  induction cs with
  | nil => rfl
  | cons c rest ih =>
    obtain ⟨here, later⟩ := List.forall_mem_cons.mp numeral
    rw [Text.encoded_ascii (numeral_bounds here).2, List.length_cons, ih later, List.length_cons]

theorem floatText_length (x : Float) : (encoded (floatText x)).length ≤ 24 := by
  by_cases finite : x.isFinite
  · have body := Decimal.render_length (Decimal.shortest_short (Binary.ofBits_ofDouble x.toBits))
    rw [encoded_length_numeral (floatText_numeral finite), floatText, if_pos finite, Double.render,
      String.toList_ofList]
    split
    · exact Nat.succ_le_succ body
    · exact Nat.le_succ_of_le body
  · rw [floatText, if_neg finite]
    decide

theorem separated_length (parts : List (List Char)) :
    (encoded (separated [','] parts)).length = (parts.map fun t => 1 + (encoded t).length).sum - 1 := by
  induction parts with
  | nil => rfl
  | cons t rest ih =>
    cases rest with
    | nil => simp [separated]
    | cons u rest =>
      have comma : (encoded [',']).length = 1 := rfl
      have text : separated [','] (t :: u :: rest) = t ++ [','] ++ separated [','] (u :: rest) := rfl
      simp only [text, Text.encoded_append, List.length_append, ih, comma, List.map_cons, List.sum_cons]
      omega

theorem encoded_between {opening closing : Char} (ascii : opening.toNat < 128 ∧ closing.toNat < 128)
    (cs : List Char) : (encoded (opening :: cs ++ [closing])).length = (encoded cs).length + 2 := by
  rw [List.cons_append, Text.encoded_ascii ascii.1, Text.encoded_append, Text.encoded_ascii ascii.2]
  simp

theorem encoded_field (k : String) (v : Json) :
    (encoded (stringText k ++ ':' :: compact v)).length =
      (encoded (stringText k)).length + 1 + (encoded (compact v)).length := by
  rw [Text.encoded_append, encoded_colon, List.length_append, List.length_cons]
  omega

-- Only the doubles are written at a greater length than the least.
mutual

theorem compact_length : ∀ v, (encoded (compact v)).length ≤ least v + 22 * doubles v
  | .null => Nat.le_refl _
  | .bool true => Nat.le_refl _
  | .bool false => Nat.le_refl _
  | .int n => Nat.le_refl _
  | .float x => floatText_length x
  | .string s => Nat.le_refl _
  | .array items => by
    have parts := compactItems_length items
    rw [compact, encoded_between (by decide), separated_length, least, doubles]
    omega
  | .object fields => by
    have parts := compactFields_length fields
    rw [compact, encoded_between (by decide), separated_length, least, doubles]
    omega

theorem compactItems_length : ∀ items, ((compactItems items).map fun t => 1 + (encoded t).length).sum ≤
    leastItems items + 22 * doublesItems items
  | [] => Nat.le_refl _
  | v :: rest => by
    have here := compact_length v
    have later := compactItems_length rest
    rw [compactItems, List.map_cons, List.sum_cons, leastItems, doublesItems]
    omega

theorem compactFields_length : ∀ fields, ((compactFields fields).map fun t => 1 + (encoded t).length).sum ≤
    leastFields fields + 22 * doublesFields fields
  | [] => Nat.le_refl _
  | (k, v) :: rest => by
    have here := compact_length v
    have later := compactFields_length rest
    rw [compactFields, List.map_cons, List.sum_cons, encoded_field, leastFields, doublesFields]
    omega

end

end Written

namespace Reading

variable {α : Type}

/-- What is read costs no more bytes than were taken for it. -/
def Pays (cost : α → Nat) (r : Reading α) : Prop :=
  ∀ bs a rest, r bs = .ok (a, rest) → cost a + rest.length ≤ bs.length

theorem word_pays (ws : List UInt8) : Pays (fun _ => ws.length) (word ws) := by
  induction ws with
  | nil =>
    intro bs a rest read
    cases read
    exact Nat.le_of_eq (Nat.zero_add _)
  | cons w ws ih =>
    intro bs a rest read
    cases bs with
    | nil => cases read
    | cons b tail =>
      rw [word, bind_ok (next_cons _ b tail)] at read
      split at read
      · have later : ws.length + rest.length ≤ tail.length := ih tail a rest read
        simp only [List.length_cons]
        omega
      · cases read

section Numbers

theorem encoded_toDigits (n : Nat) : (encoded (Nat.toDigits 10 n)).length = (Nat.toDigits 10 n).length :=
  encoded_length_numeral (Decimal.digits_numeral n)

theorem toDigits_push (n : Nat) {d : Nat} (digit : d < 10) :
    (Nat.toDigits 10 (n * 10 + d)).length ≤ (Nat.toDigits 10 n).length + 1 := by
  have small : n < 10 ^ (Nat.toDigits 10 n).length :=
    (Nat.length_toDigits_le_iff (by decide) Nat.length_toDigits_pos).mp (Nat.le_refl _)
  rw [Nat.length_toDigits_le_iff (by decide) (Nat.succ_pos _), Nat.pow_succ]
  omega

theorem digitOf_lt {b : UInt8} (digit : isDigit b) : digitOf b < 10 := by
  simp only [isDigit, Bool.and_eq_true, decide_eq_true_eq, UInt8.le_iff_toNat_le] at digit
  have high : b.toNat ≤ 0x39 := digit.2
  rw [digitOf]
  omega

theorem wholeDigits_length (n : Nat) (bs : Bytes) :
    (Nat.toDigits 10 (wholeDigits n bs).1).length + (wholeDigits n bs).2.length ≤
      (Nat.toDigits 10 n).length + bs.length := by
  induction bs generalizing n with
  | nil => exact Nat.le_refl _
  | cons b tail ih =>
    rw [wholeDigits]
    split
    next goes =>
      simp only [Bool.and_eq_true] at goes
      have later := ih (n * 10 + digitOf b)
      have push := toDigits_push n (digitOf_lt goes.1)
      rw [List.length_cons]
      omega
    next => exact Nat.le_refl _

theorem longWhole_length {negative : Bool} {significand : Nat} {b : UInt8} {tail rest : Bytes} {a : Number}
    (digit : isDigit b) (read : longWhole negative significand (b :: tail) = .ok (a, rest)) :
    rest.length ≤ tail.length := by
  have dropped : (b :: tail).drop ((b :: tail).takeWhile isDigit).length <:+ tail := by
    rw [List.takeWhile_cons_of_pos digit]
    exact List.drop_suffix _ tail
  simp only [longWhole, bind_apply, get_apply, set_apply] at read
  split at read
  · have suffix := (fractionPart_extends negative significand _ _ _ _ read).1
    exact ((suffix.trans (List.tail_suffix _)).trans dropped).length_le
  · have suffix := (afterDigits_extends negative significand _ _ _ _ read).1
    exact (suffix.trans dropped).length_le

def Number.IsFloat (n : Number) : Prop :=
  ∃ x, n = .float x

-- A mark behind the digits, or one digit more, makes a double of them.
theorem afterWhole_cases {negative : Bool} {n : Nat} {bs rest : Bytes} {a : Number}
    (small : n < 0x1_0000_0000_0000_0000) (read : afterWhole negative n bs = .ok (a, rest)) :
    (a = wholeNumber negative n ∧ rest = bs) ∨ (a.IsFloat ∧ rest.length < bs.length) := by
  have floats : ∀ x : Float, x.isFinite → Number.IsFloat (.float x) := fun x finite => ⟨x, rfl⟩
  cases bs with
  | nil =>
    cases read
    exact .inl ⟨rfl, rfl⟩
  | cons b tail =>
    by_cases point : b = 0x2e
    · have part : fractionPart negative n 0 tail = .ok (a, rest) := by
        simpa [afterWhole, point, bind_apply] using read
      have suffix := (fractionPart_extends negative n 0 _ _ _ part).1
      exact .inr ⟨fractionPart_yields floats negative small 0 _ _ _ part, Nat.lt_succ_of_le suffix.length_le⟩
    by_cases mark : isExponentMark b
    · have part : exponentPart negative n 0 tail = .ok (a, rest) := by
        simpa [afterWhole, point, mark, bind_apply] using read
      have suffix := (exponentPart_extends negative n 0 _ _ _ part).1
      exact .inr ⟨exponentPart_yields floats negative small 0 _ _ _ part, Nat.lt_succ_of_le suffix.length_le⟩
    by_cases digit : isDigit b
    · have long : longWhole negative n (b :: tail) = .ok (a, rest) := by
        simpa [afterWhole, point, mark, digit, bind_apply] using read
      exact .inr ⟨longWhole_yields floats negative small _ _ _ long, Nat.lt_succ_of_le (longWhole_length digit long)⟩
    · obtain ⟨rfl, rfl⟩ : wholeNumber negative n = a ∧ b :: tail = rest := by
        simpa [afterWhole, point, mark, digit, bind_apply] using read
      exact .inl ⟨rfl, rfl⟩

theorem number_cases {negative : Bool} {bs rest : Bytes} {a : Number}
    (read : number negative bs = .ok (a, rest)) :
    (∃ n, a = wholeNumber negative n ∧ (Nat.toDigits 10 n).length + rest.length ≤ bs.length) ∨
      (a.IsFloat ∧ 2 + rest.length ≤ bs.length) := by
  have whole : ∃ n between, n < 0x1_0000_0000_0000_0000 ∧ afterWhole negative n between = .ok (a, rest) ∧
      (Nat.toDigits 10 n).length + between.length ≤ bs.length := by
    cases bs with
    | nil => cases read
    | cons b tail =>
      rw [number, bind_ok (next_cons _ b tail)] at read
      split at read
      · refine ⟨0, tail, by decide, ?_, Nat.le_of_eq (Nat.add_comm _ _)⟩
        cases tail with
        | nil => exact read
        | cons c tail =>
          by_cases digit : isDigit c
          · simp [bind_apply, digit] at read
          · simpa [bind_apply, digit] using read
      split at read
      next digit =>
        have first := Nat.lt_trans (digitOf_lt digit) (by decide : 10 < 0x1_0000_0000_0000_0000)
        refine ⟨_, _, wholeDigits_lt tail first, read, ?_⟩
        have taken := wholeDigits_length (digitOf b) tail
        rw [Nat.toDigits_of_lt_base (digitOf_lt digit)] at taken
        exact Nat.le_trans taken (Nat.le_of_eq (Nat.add_comm _ _))
      · cases read
  obtain ⟨n, between, small, after, taken⟩ := whole
  have some : 0 < (Nat.toDigits 10 n).length := Nat.length_toDigits_pos
  rcases afterWhole_cases small after with ⟨same, rfl⟩ | ⟨float, shorter⟩
  · exact .inl ⟨n, same, taken⟩
  · exact .inr ⟨float, by omega⟩

theorem wholeNumber_least (negative : Bool) (n : Nat) :
    least (ofNumber (wholeNumber negative n)) ≤ negative.toNat + (Nat.toDigits 10 n).length := by
  have some : 0 < (Nat.toDigits 10 n).length := Nat.length_toDigits_pos
  cases negative with
  | false =>
    show (encoded (intText (Int.ofNat n))).length ≤ _
    rw [intText_ofNat, encoded_toDigits]
    exact Nat.le_add_left _ _
  | true =>
    cases n with
    | zero => decide
    | succ n =>
      rw [wholeNumber, if_neg (by decide)]
      split
      · show 2 ≤ 1 + _
        omega
      · show (encoded (intText (Int.negSucc n))).length ≤ 1 + _
        rw [intText_negSucc, Text.encoded_ascii (by decide), List.length_cons, encoded_toDigits]
        omega

theorem signedNumber_pays : Pays (fun n => least (ofNumber n)) signedNumber := by
  intro bs a rest read
  have taken : ∃ negative left, number negative left = .ok (a, rest) ∧
      negative.toNat + left.length = bs.length := by
    cases bs with
    | nil => cases read
    | cons b tail =>
      by_cases minus : b = 0x2d
      · refine ⟨true, tail, ?_, Nat.add_comm 1 _⟩
        simpa [signedNumber, minus, bind_apply] using read
      · refine ⟨false, b :: tail, ?_, Nat.zero_add _⟩
        simpa [signedNumber, minus, bind_apply] using read
  obtain ⟨negative, left, number, length⟩ := taken
  show least (ofNumber a) + rest.length ≤ bs.length
  rcases number_cases number with ⟨n, rfl, digits⟩ | ⟨⟨x, rfl⟩, shorter⟩
  · have cost := wholeNumber_least negative n
    omega
  · have two : least (ofNumber (.float x)) = 2 := rfl
    omega

end Numbers

section Strings

def byteWidth (b : UInt8) : Nat :=
  if b == 0x22 || b == 0x5c || b == 0x08 || b == 0x09 || b == 0x0a || b == 0x0c || b == 0x0d then 2
  else if b < 0x20 then 6
  else 1

def width (bytes : Bytes) : Nat :=
  (bytes.map byteWidth).sum

theorem width_append (bytes more : Bytes) : width (bytes ++ more) = width bytes + width more := by
  rw [width, List.map_append, List.sum_append]
  rfl

theorem byteWidth_bounds (b : UInt8) : 0 < byteWidth b ∧ byteWidth b ≤ 6 := by
  rw [byteWidth]
  split
  · decide
  · split <;> decide

theorem width_bounds (bytes : Bytes) : bytes.length ≤ width bytes ∧ width bytes ≤ 6 * bytes.length := by
  induction bytes with
  | nil => exact ⟨Nat.le_refl _, Nat.le_refl _⟩
  | cons b rest ih =>
    have here := byteWidth_bounds b
    have cons : width (b :: rest) = byteWidth b + width rest := rfl
    rw [cons, List.length_cons]
    omega

theorem byteWidth_plain {b : UInt8} (mark : ¬ (b == 0x22) = true) (escape : ¬ (b == 0x5c) = true)
    (visible : ¬ b < 0x20) : byteWidth b = 1 := by
  rw [byteWidth, if_neg, if_neg visible]
  simp only [Bool.or_eq_true, mark, escape, Bool.false_eq_true, false_or, beq_iff_eq]
  rintro ((((rfl | rfl) | rfl) | rfl) | rfl) <;> exact visible (by decide)

theorem byteWidth_foreign {b : UInt8} (high : 0x80 ≤ b) : byteWidth b = 1 := by
  apply byteWidth_plain
  · exact fun mark => absurd (eq_of_beq mark ▸ high) (by decide)
  · exact fun escape => absurd (eq_of_beq escape ▸ high) (by decide)
  · exact UInt8.not_lt.mpr (UInt8.le_trans (by decide) high)

theorem width_foreign {bytes : Bytes} (high : ∀ b ∈ bytes, 0x80 ≤ b) : width bytes = bytes.length := by
  induction bytes with
  | nil => rfl
  | cons b rest ih =>
    obtain ⟨here, later⟩ := List.forall_mem_cons.mp high
    rw [width, List.map_cons, List.sum_cons, byteWidth_foreign here, ← width, ih later, List.length_cons, Nat.add_comm]

theorem escapeChar_foreign {c : Char} (foreign : ¬ c.toNat < 128) : escapeChar c = [c] := by
  have visible : ¬ c.val < 0x20 := by
    intro control
    have := UInt32.lt_iff_toNat_lt.mp control
    exact foreign (Nat.lt_trans this (by decide))
  have apart : ∀ d : Char, d.toNat < 128 → (c == d) = false := by
    intro d ascii
    apply beq_false_of_ne
    rintro rfl
    exact foreign ascii
  rw [escapeChar, apart '"' (by decide), apart '\\' (by decide), apart '\n' (by decide),
    apart '\r' (by decide), apart '\t' (by decide), apart '\x08' (by decide), apart '\x0c' (by decide)]
  simp [visible]

theorem escapeChar_length (c : Char) :
    (encoded (escapeChar c)).length = width (String.utf8EncodeChar c) := by
  by_cases ascii : c.toNat < 128
  · have each : ∀ n, n < 128 →
        (encoded (escapeChar (Char.ofNat n))).length = width (String.utf8EncodeChar (Char.ofNat n)) := by
      decide +kernel
    simpa using each c.toNat ascii
  · rw [width_foreign (Text.le_encodeChar (Nat.le_of_not_lt ascii)), escapeChar_foreign ascii,
      Text.encoded_cons, Text.encoded_nil, List.append_nil]

theorem escaped_length (cs : List Char) :
    (encoded (cs.flatMap escapeChar)).length = width (encoded cs) := by
  induction cs with
  | nil => rfl
  | cons c rest ih =>
    rw [List.flatMap_cons, Text.encoded_append, List.length_append, escapeChar_length, ih, Text.encoded_cons,
      width_append]

theorem width_encodeChar_le (c : Char) : width (String.utf8EncodeChar c) ≤ 6 := by
  by_cases ascii : c.toNat < 128
  · rw [Text.encodeChar_ascii ascii]
    exact (width_bounds _).2
  · rw [width_foreign (Text.le_encodeChar (Nat.le_of_not_lt ascii)), String.length_utf8EncodeChar]
    exact Nat.le_trans c.utf8Size_le_four (by decide)

theorem hexEscape_length {bs rest : Bytes} {n : Nat} (read : hexEscape bs = .ok (n, rest)) :
    4 + rest.length = bs.length := by
  unfold hexEscape at read
  split at read
  · split at read
    · cases read
      simp only [List.length_cons]
      omega
    · cases read
  · cases read

theorem unicodeEscape_length {bs rest : Bytes} {c : Char} (read : unicodeEscape bs = .ok (c, rest)) :
    4 + rest.length ≤ bs.length := by
  rw [unicodeEscape] at read
  cases first : hexEscape bs with
  | error e =>
    rw [first] at read
    cases read
  | ok pair =>
    obtain ⟨n, between⟩ := pair
    have taken := hexEscape_length first
    simp only [first, bind, Except.bind] at read
    split at read
    · cases read
    split at read
    · cases read
      exact Nat.le_of_eq taken
    -- A surrogate: the other half of the pair has to follow.
    split at read
    · cases read
    · cases read
    next pair =>
      cases second : hexEscape pair with
      | error e =>
        rw [second] at read
        cases read
      | ok other =>
        have taken' := hexEscape_length second
        simp only [second] at read
        split at read
        · cases read
        · obtain ⟨-, rfl⟩ := Prod.mk.inj (Except.ok.inj read)
          simp only [List.length_cons] at taken
          omega
    · cases read

theorem simpleEscape_width {e b : UInt8} (escape : simpleEscape e = some b) : byteWidth b ≤ 2 := by
  unfold simpleEscape at escape
  split_ifs at escape with mark <;> cases escape
  · simp only [Bool.or_eq_true, beq_iff_eq] at mark
    rcases mark with (rfl | rfl) | rfl <;> decide
  all_goals decide

theorem width_push (acc : ByteArray) (b : UInt8) :
    width (acc.push b).data.toList = width acc.data.toList + byteWidth b := by
  rw [ByteArray.data_push, Array.toList_push, width_append]
  rfl

theorem width_pushChar (acc : ByteArray) (c : Char) :
    width (pushChar acc c).data.toList = width acc.data.toList + width (String.utf8EncodeChar c) := by
  have bytes : (String.singleton c).toUTF8.data.toList = String.utf8EncodeChar c := by
    rw [String.toUTF8_eq_toByteArray, String.toByteArray_singleton, List.utf8Encode_singleton,
      List.toList_data_toByteArray]
  rw [pushChar, ByteArray.data_append, Array.toList_append, width_append, bytes]

-- No escape gathers what takes more than the escape did, so the bytes never outgrow the text behind them.
theorem stringBytes_length {acc all : ByteArray} {fuel : Nat} {bs rest : Bytes}
    (read : stringBytes acc fuel bs = .ok (all, rest)) :
    width all.data.toList + 1 + rest.length ≤ width acc.data.toList + bs.length := by
  induction fuel generalizing acc bs with
  | zero => cases read
  | succ fuel ih =>
    cases bs with
    | nil => cases read
    | cons b tail =>
      simp only [stringBytes] at read
      split at read
      · cases read
        simp only [List.length_cons]
        omega
      split at read
      · split at read
        · cases read
        next e tail =>
          simp only [List.length_cons]
          split at read
          · split at read
            next c between escape =>
              have later := ih read
              have taken := unicodeEscape_length escape
              have cost := width_encodeChar_le c
              rw [width_pushChar] at later
              omega
            · cases read
          · split at read
            next c escape =>
              have later := ih read
              have cost := simpleEscape_width escape
              rw [width_push] at later
              omega
            · cases read
      split at read
      · cases read
      next mark escape control =>
        have later := ih read
        have cost : byteWidth b = 1 := byteWidth_plain mark escape control
        rw [width_push] at later
        rw [List.length_cons]
        omega

theorem stringBody_length {bs rest : Bytes} {s : String} (read : stringBody bs = .ok (s, rest)) :
    (encoded (stringText s)).length + rest.length ≤ 1 + bs.length := by
  rw [stringBody, bind_ok (get_apply bs)] at read
  cases gathered : stringBytes .empty (bs.length + 1) bs with
  | error e =>
    rw [gathered] at read
    cases read
  | ok pair =>
    obtain ⟨all, left⟩ := pair
    have cost := stringBytes_length gathered
    simp only [gathered, bind_ok (set_apply left bs)] at read
    cases valid : String.fromUTF8? all with
    | none =>
      rw [valid] at read
      cases read
    | some t =>
      rw [valid] at read
      obtain ⟨rfl, rfl⟩ := Prod.mk.inj (Except.ok.inj read)
      have bytes : all.data.toList = encoded t.toList := by
        rw [String.fromUTF8?] at valid
        split at valid
        next utf8 =>
          rw [← Text.bytesOf_eq, Text.bytesOf, Text.toList_eq, ← Option.some.inj valid]
          rfl
        · cases valid
      have none : width ByteArray.empty.data.toList = 0 := rfl
      rw [bytes, ← escaped_length, none] at cost
      rw [stringText, encoded_between (by decide)]
      omega

theorem stringText_length (s : String) :
    s.utf8ByteSize + 2 ≤ (encoded (stringText s)).length ∧
      (encoded (stringText s)).length ≤ 6 * s.utf8ByteSize + 2 := by
  obtain ⟨low, high⟩ := width_bounds (encoded s.toList)
  rw [stringText, encoded_between (by decide), escaped_length]
  rw [← Text.bytesOf_eq, Text.bytesOf_length] at low high
  rw [← Text.bytesOf_eq]
  omega

end Strings

section Containers

variable {bs rest : Bytes}

theorem of_peek {f : Option UInt8 → Reading α} {a : α} (stops : ∀ left, f none left ≠ .ok (a, rest))
    (read : (peek >>= f) bs = .ok (a, rest)) :
    ∃ b tail, tail.length < bs.length ∧ f (some b) (b :: tail) = .ok (a, rest) := by
  rw [bind_ok (peek_apply bs)] at read
  have passed := (List.dropWhile_suffix (l := bs) isBlank).length_le
  cases left : bs.dropWhile isBlank with
  | nil =>
    rw [left] at read
    exact absurd read (stops [])
  | cons b tail =>
    rw [left] at read passed
    exact ⟨b, tail, Nat.lt_of_succ_le passed, read⟩

theorem hasItem_length {first goes : Bool} (read : hasItem first bs = .ok (goes, rest)) :
    0 < rest.length ∧ rest.length + (goes && !first).toNat ≤ bs.length := by
  obtain ⟨b, tail, shorter, read⟩ := of_peek (fun left refused => by cases refused) read
  simp only at read
  split at read
  · cases read
    exact ⟨Nat.succ_pos _, shorter⟩
  split at read
  next begun =>
    cases read
    subst begun
    exact ⟨Nat.succ_pos _, shorter⟩
  split at read
  · rw [bind_ok (drop_apply _)] at read
    obtain ⟨c, tail', shorter', read⟩ := of_peek (fun left refused => by cases refused) read
    simp only at read
    split at read
    · cases read
    · cases read
      rw [List.tail_cons] at shorter'
      have comma := Bool.toNat_le (true && !first)
      refine ⟨Nat.succ_pos _, ?_⟩
      rw [List.length_cons]
      omega
  · cases read

theorem hasKey_length {first goes : Bool} (read : hasKey first bs = .ok (goes, rest)) :
    0 < rest.length ∧ rest.length + (goes && !first).toNat ≤ bs.length := by
  obtain ⟨b, tail, shorter, read⟩ := of_peek (fun left refused => by cases refused) read
  simp only at read
  split at read
  · cases read
    exact ⟨Nat.succ_pos _, shorter⟩
  split at read
  next begun =>
    split at read
    · cases read
      subst begun
      exact ⟨Nat.succ_pos _, shorter⟩
    · cases read
  split at read
  · rw [bind_ok (drop_apply _)] at read
    obtain ⟨c, tail', shorter', read⟩ := of_peek (fun left refused => by cases refused) read
    simp only at read
    split at read
    · cases read
      rw [List.tail_cons] at shorter'
      have comma := Bool.toNat_le (true && !first)
      refine ⟨Nat.succ_pos _, ?_⟩
      rw [List.length_cons]
      omega
    split at read
    · cases read
    · cases read
  · cases read

theorem colon_pays : Pays (fun _ => 1) colon := by
  intro bs a rest read
  obtain ⟨b, tail, shorter, read⟩ := of_peek (fun left refused => by cases refused) read
  simp only at read
  split at read
  · cases read
    show 1 + tail.length ≤ bs.length
    omega
  · cases read

-- Behind what has been gathered, every item is paid for together with the mark in front of it; the first one
-- has the opening bracket for that.
theorem itemsFrom_length {item : Reading Json} (each : Pays least item) {first : Bool} {acc items : List Json}
    {fuel : Nat} (read : itemsFrom item first acc fuel bs = .ok (items, rest)) :
    ∃ more, items = acc.reverse ++ more ∧ 0 < rest.length ∧ rest.length ≤ bs.length ∧
      leastItems more + rest.length ≤ bs.length + first.toNat := by
  induction fuel generalizing first acc bs with
  | zero => cases read
  | succ fuel ih =>
    rw [itemsFrom] at read
    obtain ⟨goes, between, marked, read⟩ := bind_eq_ok.mp read
    obtain ⟨nonempty, passed⟩ := hasItem_length marked
    cases goes with
    | false =>
      cases read
      refine ⟨[], (List.append_nil _).symm, nonempty, passed, ?_⟩
      rw [leastItems, Nat.zero_add]
      exact Nat.le_trans passed (Nat.le_add_right _ _)
    | true =>
      obtain ⟨v, left, one, read⟩ := bind_eq_ok.mp read
      obtain ⟨more, rfl, ended, shorter, later⟩ := ih read
      have here := each between v left one
      refine ⟨v :: more, by simp, ended, by omega, ?_⟩
      rw [leastItems]
      cases first <;> simp at passed later ⊢ <;> omega

theorem fieldsFrom_length {item : Reading Json} (each : Pays least item) {first : Bool}
    {acc fields : List (String × Json)} {fuel : Nat}
    (read : fieldsFrom item first acc fuel bs = .ok (fields, rest)) :
    ∃ more, fields = acc.reverse ++ more ∧ 0 < rest.length ∧ rest.length ≤ bs.length ∧
      leastFields more + rest.length ≤ bs.length + first.toNat := by
  induction fuel generalizing first acc bs with
  | zero => cases read
  | succ fuel ih =>
    rw [fieldsFrom] at read
    obtain ⟨goes, between, marked, read⟩ := bind_eq_ok.mp read
    obtain ⟨nonempty, passed⟩ := hasKey_length marked
    cases goes with
    | false =>
      cases read
      refine ⟨[], (List.append_nil _).symm, nonempty, passed, ?_⟩
      rw [leastFields, Nat.zero_add]
      exact Nat.le_trans passed (Nat.le_add_right _ _)
    | true =>
      rw [if_pos rfl, bind_ok (drop_apply between)] at read
      obtain ⟨key, behind, name, read⟩ := bind_eq_ok.mp read
      obtain ⟨u, left, mark, read⟩ := bind_eq_ok.mp read
      obtain ⟨v, left', one, read⟩ := bind_eq_ok.mp read
      obtain ⟨more, rfl, ended, shorter, later⟩ := ih read
      have quote := List.length_tail (l := between)
      have costKey := stringBody_length name
      have costColon : 1 + left.length ≤ behind.length := colon_pays behind u left mark
      have here := each left v left' one
      refine ⟨(key, v) :: more, by simp, ended, by omega, ?_⟩
      rw [leastFields]
      cases first <;> simp at passed later ⊢ <;> omega

end Containers

end Reading

section Sorted

theorem leastFields_eq_sum (fields : List (String × Json)) :
    leastFields fields = (fields.map fun f => leastFields [f]).sum := by
  induction fields with
  | nil => rfl
  | cons field rest ih =>
    obtain ⟨k, v⟩ := field
    rw [leastFields, ih]
    rfl

theorem dedup_sublist {α : Type} (fields : List (String × α)) : (sortFields.dedup fields).Sublist fields := by
  fun_induction sortFields.dedup fields with
  | case1 k v k' v' rest same ih => exact ih.cons _
  | case2 k v k' v' rest other ih => exact ih.cons_cons _
  | case3 short => exact .refl _

theorem leastFields_sorted (fields : List (String × Json)) :
    leastFields (sortFields fields) ≤ leastFields fields := by
  rw [leastFields_eq_sum, leastFields_eq_sum fields, sortFields,
    ← ((List.mergeSort_perm fields fun a b => decide (a.1 ≤ b.1)).map _).sum_eq]
  exact ((dedup_sublist _).map _).sum_le_sum fun _ _ => Nat.zero_le _

end Sorted

section Read

open Reading

theorem constant_length (ws : List UInt8) {b : UInt8} {v w : Json} {tail rest : Bytes}
    (read : (do drop; word ws; return w : Reading Json) (b :: tail) = .ok (v, rest)) :
    v = w ∧ rest.length + (ws.length + 1) ≤ tail.length + 1 := by
  rw [bind_ok (drop_apply _)] at read
  obtain ⟨u, left, rest', same⟩ := bind_eq_ok.mp read
  cases same
  have cost : ws.length + rest.length ≤ tail.length := word_pays ws _ u _ rest'
  exact ⟨rfl, by omega⟩

theorem valueWith_pays {container : UInt8 → Reading Json}
    (containers : ∀ b tail v rest, container b (b :: tail) = .ok (v, rest) →
      least v + rest.length ≤ tail.length + 1) : Pays least (valueWith container) := by
  intro bs v rest read
  obtain ⟨b, tail, shorter, read⟩ := of_peek (fun left refused => by cases refused) read
  simp only at read
  split at read
  · rw [bind_ok (drop_apply _)] at read
    obtain ⟨s, left, body, same⟩ := bind_eq_ok.mp read
    cases same
    have cost : _ ≤ 1 + tail.length := stringBody_length body
    rw [least]
    omega
  split at read
  · have cost := containers b tail v rest read
    omega
  split at read
  · obtain ⟨n, left, number, same⟩ := bind_eq_ok.mp read
    cases same
    have cost : least (ofNumber n) + rest.length ≤ tail.length + 1 := signedNumber_pays _ n rest number
    omega
  split at read
  · obtain ⟨rfl, cost⟩ := constant_length ull read
    exact Nat.le_trans (Nat.add_comm 4 _ ▸ cost) shorter
  split at read
  · obtain ⟨rfl, cost⟩ := constant_length rue read
    exact Nat.le_trans (Nat.add_comm 4 _ ▸ cost) shorter
  split at read
  · obtain ⟨rfl, cost⟩ := constant_length alse read
    exact Nat.le_trans (Nat.add_comm 5 _ ▸ cost) shorter
  · cases read

theorem value_pays (depth : Nat) : Pays least (value depth) := by
  induction depth with
  | zero => exact valueWith_pays fun b tail v rest refused => by cases refused
  | succ depth ih =>
    refine valueWith_pays fun b tail v rest read => ?_
    rw [bind_ok (drop_apply _), List.tail_cons] at read
    split at read
    · rw [bind_ok (fuel_apply _)] at read
      obtain ⟨items, left, inside, read⟩ := bind_eq_ok.mp read
      cases read
      obtain ⟨more, rfl, ended, shorter, cost⟩ := itemsFrom_length ih inside
      have bracket := List.length_tail (l := left)
      rw [least]
      simp only [Bool.toNat_true] at cost
      omega
    · rw [bind_ok (fuel_apply _)] at read
      obtain ⟨fields, left, inside, read⟩ := bind_eq_ok.mp read
      cases read
      obtain ⟨more, rfl, ended, shorter, cost⟩ := fieldsFrom_length ih inside
      have brace := List.length_tail (l := left)
      have sorted := leastFields_sorted fields
      rw [ofFields, least]
      simp only [Bool.toNat_true] at cost
      omega

theorem read_least {bytes : Bytes} {v : Json} (read : Json.read bytes = .ok v) :
    least v ≤ bytes.length := by
  obtain ⟨rest, first, ended⟩ := run_eq_ok.mp read
  exact Nat.le_trans (Nat.le_add_right _ _) (value_pays maxDepth _ _ _ first)

theorem read_written_length {bytes : Bytes} {v : Json} (read : Json.read bytes = .ok v) :
    (Text.bytesOf v.render).length ≤ bytes.length + 22 * doubles v := by
  rw [render, Text.bytesOf_ofList]
  exact Nat.le_trans (compact_length v) (Nat.add_le_add_right (read_least read) _)

theorem readText_written_length {text : String} {v : Json} (read : readText text = .ok v) :
    (Text.bytesOf v.render).length ≤ text.utf8ByteSize + 22 * doubles v := by
  rw [← Text.bytesOf_length text]
  exact read_written_length read

end Read

end Json
end BoundedScript
