import BoundedScript.Proofs.Decimal.Digits
import BoundedScript.Proofs.Decimal.Floats
import BoundedScript.Proofs.Json.Numbers
import BoundedScript.Script.Number

set_option autoImplicit false

namespace BoundedScript

open Float.Model Float.Model.UnpackedFloat

namespace Double

section

variable {x : Float} {s : Sign} {m : Nat} {e : Int} {positive : 0 < m}

theorem toNat_parts (b : BitVec 64) :
    (@unpackMantissa Format.binary64 b).toNat = b.toNat % 0x10_0000_0000_0000 ∧
      (@unpackExponent Format.binary64 b).toNat = b.toNat / 0x10_0000_0000_0000 % 2048 ∧
      (@unpackSign Format.binary64 b).toNat = b.toNat / 0x8000_0000_0000_0000 := by
  have small := b.isLt
  refine ⟨?_, ?_, ?_⟩
  · simp [unpackMantissa]
  · simp [unpackExponent, Nat.shiftRight_eq_div_pow]
  · simp [unpackSign, Nat.shiftRight_eq_div_pow]
    omega

theorem sign_eq (b : BitVec 64) :
    (b.toNat / 0x8000_0000_0000_0000 == 1) = (Sign.ofBitVec (@unpackSign Format.binary64 b) == .negative) := by
  have part : (@unpackSign Format.binary64 b).toNat = b.toNat / 0x8000_0000_0000_0000 := (toNat_parts b).2.2
  have small := (@unpackSign Format.binary64 b).isLt
  rw [← part, Sign.ofBitVec]
  split
  next zero =>
    rw [zero]
    rfl
  next set =>
    have apart : (@unpackSign Format.binary64 b).toNat ≠ 0 := fun zero => set (BitVec.eq_of_toNat_eq zero)
    have one : (@unpackSign Format.binary64 b).toNat = 1 := by omega
    rw [one]
    rfl

theorem ofFloat_of_unpack (same : x.toModel.unpack = .finite s m e positive) :
    Binary.ofFloat x = ⟨m, e⟩ ∧ isNegative x = (s == .negative) := by
  have bits : x.toBits.toNat = x.toBits.toBitVec.toNat := rfl
  obtain ⟨mantissa, exponent, -⟩ := toNat_parts x.toBits.toBitVec
  have signs := sign_eq x.toBits.toBitVec
  change UnpackedFloat.unpack Format.binary64 x.toBits.toBitVec = _ at same
  generalize x.toBits.toBitVec = b at bits mantissa exponent signs same
  rw [isNegative, Binary.ofFloat, Binary.ofBits, bits, signs]
  simp only [UnpackedFloat.unpack, exponentBias_eq] at same
  split at same
  · split at same <;> cases same
  split at same
  next zero =>
    split at same
    · cases same
    obtain ⟨sign, parts, place⟩ := UnpackedFloat.finite.inj same
    have biased : b.toNat / 0x10_0000_0000_0000 % 2048 = 0 := by
      rw [← exponent, zero]
      rfl
    refine ⟨?_, by rw [sign]⟩
    rw [biased, ← parts, ← place, mantissa, zero]
    rfl
  next normal =>
    obtain ⟨sign, parts, place⟩ := UnpackedFloat.finite.inj same
    have nonzero : ¬ b.toNat / 0x10_0000_0000_0000 % 2048 = 0 := by
      rw [← exponent]
      exact fun zero => normal (BitVec.eq_of_toNat_eq zero)
    have whole : (1#1 ++ @unpackMantissa Format.binary64 b).toNat =
        0x10_0000_0000_0000 + b.toNat % 0x10_0000_0000_0000 := by
      rw [← mantissa, BitVec.toNat_append, ← Nat.shiftLeft_add_eq_or_of_lt (BitVec.isLt _)]
      rfl
    refine ⟨?_, by rw [sign]⟩
    rw [← parts, whole, ← place, exponent, beq_false_of_ne nonzero]
    rfl

theorem isNaN_of_finite (same : x.toModel.unpack = .finite s m e positive) : x.isNaN = false := by
  change x.toModel.unpack.isNaN = false
  rw [same]
  rfl

theorem beq_of_finite (same : x.toModel.unpack = .finite s m e positive) {y : Float}
    (other : ∀ t n d some, y.toModel.unpack ≠ .finite t n d some) : (x == y) = false := by
  change x.toModel.unpack.beq y.toModel.unpack = false
  rw [same]
  cases second : y.toModel.unpack with
  | finite t n d some => exact absurd second (other t n d some)
  | zero t => cases s <;> rfl
  | infinity t => cases t <;> rfl
  | notANumber => rfl

theorem beq_zero_of_finite (same : x.toModel.unpack = .finite s m e positive) : (x == 0.0) = false := by
  have zero : (0.0 : Float).toModel.unpack = .zero .positive := rfl
  exact beq_of_finite same (by rw [zero]; rintro _ _ _ _ ⟨⟩)

theorem text_of_finite (same : x.toModel.unpack = .finite s m e positive) :
    Script.Number.text x = render .script x := by
  have infinite : Script.Number.infinity.toModel.unpack = .infinity .positive := rfl
  have lowest : (-Script.Number.infinity).toModel.unpack = .infinity .negative := rfl
  rw [Script.Number.text, isNaN_of_finite same, beq_of_finite same (by rw [infinite]; rintro _ _ _ _ ⟨⟩),
    beq_of_finite same (by rw [lowest]; rintro _ _ _ _ ⟨⟩), beq_zero_of_finite same]
  rfl

end
end Double

def Layout.IsWhole (l : Layout) : Prop :=
  l.pointZero = false ∧ ∀ lead, 0 ≤ lead → lead ≤ 20 → l.isPlain lead = true

theorem Layout.script_isWhole : Layout.script.IsWhole :=
  ⟨rfl, fun lead low high => by simp [isPlain, script, high, Int.le_trans (by decide : (-6 : Int) ≤ 0) low]⟩

theorem Layout.positional_isWhole : Layout.positional.IsWhole :=
  ⟨rfl, fun _ _ _ => rfl⟩

namespace Decimal

-- The zeros that are stripped stand behind the digits that stay.
theorem strip_digits {c : Nat} (positive : 0 < c) (e : Int) (fuel : Nat) :
    ∃ j : Nat, (strip ⟨c, e⟩ fuel).exponent = e + j ∧ 0 < (strip ⟨c, e⟩ fuel).coefficient ∧
      Nat.toDigits 10 c = (strip ⟨c, e⟩ fuel).digits ++ List.replicate j '0' := by
  induction fuel generalizing c e with
  | zero => exact ⟨0, by simp [strip, digits, positive]⟩
  | succ fuel ih =>
    rw [strip]
    split
    next more =>
      obtain ⟨-, last⟩ : c ≠ 0 ∧ c % 10 = 0 := by simpa using more
      obtain ⟨j, exponent, kept, shorter⟩ := ih (c := c / 10) (by omega) (e + 1)
      have digits := Nat.toDigits_of_base_le (b := 10) (n := c) (by decide) (by omega)
      refine ⟨j + 1, by rw [exponent]; omega, kept, ?_⟩
      rw [digits, shorter, last, List.replicate_succ', List.append_assoc]
      rfl
    next => exact ⟨0, by simp [digits, positive]⟩

theorem toDigits_mul_pow {c : Nat} (positive : 0 < c) (g : Nat) :
    Nat.toDigits 10 (c * 10 ^ g) = Nat.toDigits 10 c ++ List.replicate g '0' := by
  induction g with
  | zero => simp
  | succ g ih =>
    have unit : 0 < c * 10 ^ g := Nat.mul_pos positive (Nat.pow_pos (by decide))
    rw [Nat.pow_succ, ← Nat.mul_assoc, Nat.toDigits_of_base_le (by decide) (by omega), Nat.mul_mod_left,
      Nat.mul_div_cancel _ (by decide), ih, List.replicate_succ', List.append_assoc]
    rfl

theorem render_whole {l : Layout} (layout : l.IsWhole) {c g : Nat} (positive : 0 < c) (small : c * 10 ^ g < 10 ^ 21)
    (fuel : Nat) : (strip ⟨c, g⟩ fuel).render l = Nat.toDigits 10 (c * 10 ^ g) := by
  obtain ⟨j, exponent, kept, all⟩ := strip_digits positive g fuel
  have whole := toDigits_mul_pow positive g
  rw [all, List.append_assoc, List.replicate_append_replicate] at whole
  have some : 0 < (strip ⟨c, g⟩ fuel).digits.length := Nat.length_toDigits_pos
  have count := congrArg List.length whole
  rw [List.length_append, List.length_replicate] at count
  have short : (Nat.toDigits 10 (c * 10 ^ g)).length ≤ 21 := Nat.toDigits_length 10 _ 21 (by decide) small
  have plain : l.isPlain (strip ⟨c, g⟩ fuel).leadExponent = true := by
    apply layout.2 <;> rw [leadExponent, pointPosition, exponent] <;> omega
  have ahead : ¬ (strip ⟨c, g⟩ fuel).pointPosition ≤ 0 := by
    rw [pointPosition, exponent]
    omega
  have unbroken : ¬ (strip ⟨c, g⟩ fuel).exponent < 0 := by
    rw [exponent]
    omega
  have zeros : (strip ⟨c, g⟩ fuel).exponent.toNat = j + g := by
    rw [exponent]
    omega
  rw [render, beq_false_of_ne (Nat.ne_of_gt kept), plain, positionalText]
  simp only [Bool.false_eq_true, if_false, if_true, if_neg ahead, if_neg unbroken]
  rw [whole, zeros, layout.1]
  simp

end Decimal

namespace Double

section

variable {n : Nat}

theorem toNat?_filled (n : Nat) :
    Binary.toNat? ⟨n <<< (52 - n.log2), -(52 - n.log2 : Nat)⟩ = some n := by
  have numerator : Binary.numerator ⟨n <<< (52 - n.log2), -(52 - n.log2 : Nat)⟩ = n * 2 ^ (52 - n.log2) := by
    have none : (-((52 - n.log2 : Nat) : Int)).toNat = 0 := by omega
    rw [Binary.numerator, none, Nat.shiftLeft_eq]
    exact Nat.mul_one _
  have denominator : Binary.denominator ⟨n <<< (52 - n.log2), -(52 - n.log2 : Nat)⟩ = 2 ^ (52 - n.log2) := by
    rw [Binary.denominator, Int.neg_neg, Int.toNat_natCast]
    rfl
  rw [Binary.toNat?, numerator, denominator, Nat.mul_mod_left, Nat.mul_div_cancel _ (Nat.two_pow_pos _)]
  rfl

theorem shortest_filled (positive : 0 < n) (small : n < 2 ^ 53) :
    Decimal.shortest ⟨n <<< (52 - n.log2), -(52 - n.log2 : Nat)⟩ = Decimal.strip ⟨n, 0⟩ 16 := by
  have nonzero : n <<< (52 - n.log2) ≠ 0 := Nat.ne_of_gt (filled_pos positive)
  rw [Decimal.shortest, beq_false_of_ne nonzero, toNat?_filled]
  simp only [Bool.false_eq_true, if_false]
  exact if_pos small

theorem unpack_neg_ofWhole (positive : 0 < n) (small : n < 2 ^ 53) :
    (-(ofWhole n)).toModel.unpack =
      .finite .negative (n <<< (52 - n.log2)) (-(52 - n.log2 : Nat)) (filled_pos positive) := by
  change UnpackedFloat.unpack Format.binary64 (UnpackedFloat.pack Format.binary64
    (ofWhole n).toModel.unpack.neg) = _
  rw [unpack_ofWhole positive small]
  exact unpack_pack_of_full _ _ (log2_filled positive small) (by omega) (by omega)

theorem render_ofWhole_nat {l : Layout} (layout : l.IsWhole) (positive : 0 < n) (small : n < 2 ^ 53) :
    render l (ofWhole n) = String.ofList (Nat.toDigits 10 n) ∧
      render l (-(ofWhole n)) = String.ofList ('-' :: Nat.toDigits 10 n) := by
  have digits : (Decimal.shortest ⟨n <<< (52 - n.log2), -(52 - n.log2 : Nat)⟩).render l = Nat.toDigits 10 n := by
    rw [shortest_filled positive small]
    simpa using Decimal.render_whole layout (g := 0) positive (by omega) 16
  have plus := unpack_ofWhole positive small
  have minus := unpack_neg_ofWhole positive small
  constructor
  · rw [render, (ofFloat_of_unpack plus).1, (ofFloat_of_unpack plus).2, digits]
    rfl
  · rw [render, (ofFloat_of_unpack minus).1, (ofFloat_of_unpack minus).2, digits]
    rfl

theorem text_ofWhole_nat (positive : 0 < n) (small : n < 2 ^ 53) :
    Script.Number.text (ofWhole n) = String.ofList (Nat.toDigits 10 n) ∧
      Script.Number.text (-(ofWhole n)) = String.ofList ('-' :: Nat.toDigits 10 n) := by
  rw [text_of_finite (unpack_ofWhole positive small), text_of_finite (unpack_neg_ofWhole positive small)]
  exact render_ofWhole_nat Layout.script_isWhole positive small

end

theorem ofWhole_negSucc (n : Nat) : ofWhole (Int.negSucc n) = -(ofWhole (n + 1 : Nat)) := by
  rw [ofWhole_eq, ofWhole, if_pos (Int.negSucc_lt_zero n)]
  rfl

theorem text_ofWhole {n : Int} (small : n.natAbs ≤ 2 ^ 53) :
    Script.Number.text (ofWhole n) = String.ofList (Json.intText n) := by
  rcases Nat.eq_or_lt_of_le small with top | small
  · rcases Int.natAbs_eq n with same | same
    · rw [same, top]
      decide +kernel
    · rw [same, top]
      decide +kernel
  cases n with
  | ofNat n =>
    rw [Json.Reading.intText_ofNat]
    rcases Nat.eq_zero_or_pos n with rfl | positive
    · decide +kernel
    · exact (text_ofWhole_nat positive small).1
  | negSucc n =>
    rw [Json.Reading.intText_negSucc, ofWhole_negSucc]
    exact (text_ofWhole_nat n.succ_pos small).2

theorem isFinite_ofWhole {n : Int} (small : n.natAbs ≤ 2 ^ 53) : (ofWhole n).isFinite := by
  have word : n.natAbs < 2 ^ 64 := Nat.lt_of_le_of_lt small (by decide)
  cases n with
  | ofNat n => exact (within_ofWhole word).isFinite
  | negSucc n =>
    rw [ofWhole_negSucc]
    exact isFinite_neg (within_ofWhole word).isFinite

theorem toInt?_of_unpack {x : Float} {s : Sign} {m : Nat} {e : Int} {positive : 0 < m} (finite : x.isFinite)
    (same : x.toModel.unpack = .finite s m e positive) {n : Nat} (whole : Binary.toNat? ⟨m, e⟩ = some n) :
    toInt? x = some (if s == .negative then -(n : Int) else n) := by
  obtain ⟨parts, sign⟩ := ofFloat_of_unpack same
  rw [toInt?, if_pos finite, parts, whole, sign]
  rfl

theorem toInt?_ofWhole {n : Int} (small : n.natAbs ≤ 2 ^ 53) : toInt? (ofWhole n) = some n := by
  have finite := isFinite_ofWhole small
  rcases Nat.eq_or_lt_of_le small with top | small
  · rcases Int.natAbs_eq n with same | same
    · rw [same, top]
      decide +kernel
    · rw [same, top]
      decide +kernel
  cases n with
  | ofNat n =>
    rcases Nat.eq_zero_or_pos n with rfl | positive
    · decide +kernel
    · exact toInt?_of_unpack finite (unpack_ofWhole positive small) (toNat?_filled n)
  | negSucc n =>
    rw [ofWhole_negSucc] at finite ⊢
    exact toInt?_of_unpack finite (unpack_neg_ofWhole n.succ_pos small) (toNat?_filled (n + 1))

end Double
end BoundedScript
