import Mathlib.Tactic.SplitIfs
import BoundedScript.Json.Writer
import BoundedScript.Proofs.Json.Steps

set_option autoImplicit false

namespace BoundedScript.Json

open Text (Bytes encoded)

theorem escapeChar_ne_nil (c : Char) : escapeChar c ≠ [] := by
  unfold escapeChar
  split_ifs <;> exact List.cons_ne_nil _ _

namespace Reading

def Gathers (written bytes : Bytes) : Prop :=
  ∀ (acc : ByteArray) (fuel : Nat) (more : Bytes), (written ++ more).length < fuel →
    ∃ left, more.length < left ∧
      stringBytes acc fuel (written ++ more) = stringBytes (acc ++ bytes.toByteArray) left more

theorem Gathers.nil : Gathers [] [] := by
  intro acc fuel more enough
  exact ⟨fuel, enough, by simp⟩

theorem Gathers.append {written written' bytes bytes' : Bytes} (first : Gathers written bytes)
    (second : Gathers written' bytes') : Gathers (written ++ written') (bytes ++ bytes') := by
  intro acc fuel more enough
  rw [List.append_assoc] at enough ⊢
  obtain ⟨between, enough', passed⟩ := first acc fuel (written' ++ more) enough
  obtain ⟨left, spare, passed'⟩ := second (acc ++ bytes.toByteArray) between more enough'
  refine ⟨left, spare, ?_⟩
  rw [passed, passed', ByteArray.append_assoc, List.toByteArray_append]

theorem Gathers.plain {b : UInt8} (visible : 0x20 ≤ b) (mark : b ≠ 0x22) (escape : b ≠ 0x5c) :
    Gathers [b] [b] := by
  intro acc fuel more enough
  rcases fuel with - | left
  · cases enough
  · refine ⟨left, Nat.lt_of_succ_lt_succ enough, ?_⟩
    have noControl : ¬ b < 0x20 := UInt8.not_lt.mpr visible
    simp [stringBytes, mark, escape, noControl]

theorem Gathers.foreign {bytes : Bytes} (high : ∀ b ∈ bytes, 0x80 ≤ b) : Gathers bytes bytes := by
  induction bytes with
  | nil => exact .nil
  | cons b rest ih =>
    have here : 0x80 ≤ b := high b List.mem_cons_self
    have visible : 0x20 ≤ b := UInt8.le_trans (by decide) here
    have first : Gathers [b] [b] :=
      .plain visible (by rintro rfl; exact absurd here (by decide))
        (by rintro rfl; exact absurd here (by decide))
    exact first.append (ih fun c inside => high c (List.mem_cons_of_mem b inside))

theorem Gathers.simple {e c : UInt8} (escape : simpleEscape e = some c) (short : e ≠ 0x75) :
    Gathers [0x5c, e] [c] := by
  intro acc fuel more enough
  rcases fuel with - | left
  · cases enough
  · refine ⟨left, ?_, ?_⟩
    · simp at enough
      omega
    · simp [stringBytes, escape, short]

theorem hexValue_hexDigit {n : Nat} (small : n < 16) :
    hexValue (UInt8.ofNat (Text.hexDigit n).toNat) = some n := by
  have each : ∀ n, n < 16 → hexValue (UInt8.ofNat (Text.hexDigit n).toNat) = some n := by decide
  exact each n small

theorem hexDigit_ascii {n : Nat} (small : n < 16) : (Text.hexDigit n).toNat < 128 := by
  have each : ∀ n, n < 16 → (Text.hexDigit n).toNat < 128 := by decide
  exact each n small

theorem unicodeEscape_control {n : Nat} (control : n < 0x20) (more : Bytes) :
    unicodeEscape (0x30 :: 0x30 :: UInt8.ofNat (Text.hexDigit (n / 16)).toNat ::
      UInt8.ofNat (Text.hexDigit (n % 16)).toNat :: more) = .ok (Char.ofNat n, more) := by
  have high : hexValue (UInt8.ofNat (Text.hexDigit (n / 16)).toNat) = some (n / 16) :=
    hexValue_hexDigit (by omega)
  have low : hexValue (UInt8.ofNat (Text.hexDigit (n % 16)).toNat) = some (n % 16) :=
    hexValue_hexDigit (by omega)
  have zero : hexValue 0x30 = some 0 := rfl
  have value : n / 16 * 16 + n % 16 = n := by omega
  have low' : ¬ (0xdc00 ≤ n ∧ n ≤ 0xdfff) := by omega
  have below : n < 0xd800 := by omega
  simp [unicodeEscape, hexEscape, high, low, zero, value, low', below, bind, Except.bind]

theorem Gathers.control {c : Char} (control : c.toNat < 0x20) :
    Gathers (encoded ['\\', 'u', '0', '0', Text.hexDigit (c.toNat / 16), Text.hexDigit (c.toNat % 16)])
      (String.utf8EncodeChar c) := by
  intro acc fuel more enough
  have high := hexDigit_ascii (n := c.toNat / 16) (by omega)
  have low := hexDigit_ascii (n := c.toNat % 16) (by omega)
  have marks : encoded ['\\', 'u', '0', '0', Text.hexDigit (c.toNat / 16), Text.hexDigit (c.toNat % 16)] =
      [0x5c, 0x75, 0x30, 0x30, UInt8.ofNat (Text.hexDigit (c.toNat / 16)).toNat,
        UInt8.ofNat (Text.hexDigit (c.toNat % 16)).toNat] := by
    simp [high, low, Text.encoded_ascii]
  rw [marks] at enough ⊢
  rcases fuel with - | left
  · cases enough
  · refine ⟨left, ?_, ?_⟩
    · simp at enough
      omega
    · simp [stringBytes, unicodeEscape_control control, pushChar, String.toByteArray_singleton,
        List.utf8Encode_singleton]

theorem ofNat_toNat_inj {c d : Char} (ascii : c.toNat < 128) (ascii' : d.toNat < 128)
    (same : UInt8.ofNat c.toNat = UInt8.ofNat d.toNat) : c = d := by
  have bytes := congrArg UInt8.toNat same
  simp only [UInt8.toNat_ofNat'] at bytes
  apply Char.toNat_inj.mp
  omega

theorem Gathers.visible {c : Char} (visible : ¬ c.val < 0x20) (mark : c ≠ '"') (escape : c ≠ '\\') :
    Gathers (encoded [c]) (String.utf8EncodeChar c) := by
  by_cases ascii : c.toNat < 128
  · have high : 0x20 ≤ c.toNat := UInt32.not_lt.mp visible
    rw [Text.encoded_ascii ascii, Text.encodeChar_ascii ascii]
    apply Gathers.plain
    · rw [UInt8.le_iff_toNat_le, UInt8.toNat_ofNat']
      show 0x20 ≤ c.toNat % 256
      omega
    · exact fun same => mark (ofNat_toNat_inj (d := '"') ascii (by decide) same)
    · exact fun same => escape (ofNat_toNat_inj (d := '\\') ascii (by decide) same)
  · rw [Text.encoded_cons, Text.encoded_nil, List.append_nil]
    exact .foreign (Text.le_encodeChar (Nat.le_of_not_lt ascii))

theorem Gathers.escaped (c : Char) : Gathers (encoded (escapeChar c)) (String.utf8EncodeChar c) := by
  rw [escapeChar]
  split_ifs with mark escape line carriage tab back feed control
  · obtain rfl := eq_of_beq mark
    exact .simple (by decide) (by decide)
  · obtain rfl := eq_of_beq escape
    exact .simple (by decide) (by decide)
  · obtain rfl := eq_of_beq line
    exact .simple (by decide) (by decide)
  · obtain rfl := eq_of_beq carriage
    exact .simple (by decide) (by decide)
  · obtain rfl := eq_of_beq tab
    exact .simple (by decide) (by decide)
  · obtain rfl := eq_of_beq back
    exact .simple (by decide) (by decide)
  · obtain rfl := eq_of_beq feed
    exact .simple (by decide) (by decide)
  · exact .control control
  · exact .visible control (fun same => mark (beq_iff_eq.mpr same))
      fun same => escape (beq_iff_eq.mpr same)

theorem Gathers.text (cs : List Char) : Gathers (encoded (cs.flatMap escapeChar)) (encoded cs) := by
  induction cs with
  | nil => exact .nil
  | cons c rest ih =>
    rw [List.flatMap_cons, Text.encoded_append, Text.encoded_cons]
    exact (Gathers.escaped c).append ih

theorem stringBody_written (s : String) (rest : Bytes) :
    stringBody (encoded (s.toList.flatMap escapeChar) ++ 0x22 :: rest) = .ok (s, rest) := by
  obtain ⟨left, spare, passed⟩ := Gathers.text s.toList .empty _ (0x22 :: rest) (Nat.lt_succ_self _)
  rcases left with - | left
  · cases spare
  · have ended : ∀ acc, stringBytes acc (left + 1) (0x22 :: rest) = .ok (acc, rest) := fun acc => rfl
    rw [ended, ByteArray.empty_append] at passed
    rw [stringBody, bind_ok (get_apply _)]
    simp only [Nat.succ_eq_add_one] at passed
    simp only [passed]
    rw [bind_ok (set_apply _ _), Text.fromUTF8?_encoded]
    rfl

end Reading

theorem encoded_stringText (s : String) (rest : Bytes) :
    encoded (stringText s) ++ rest = 0x22 :: (encoded (s.toList.flatMap escapeChar) ++ 0x22 :: rest) := by
  simp [stringText]

end BoundedScript.Json
