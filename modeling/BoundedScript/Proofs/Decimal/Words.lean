import BoundedScript.Proofs.Decimal.Whole

set_option autoImplicit false

namespace BoundedScript.Double
open Float.Model Float.Model.UnpackedFloat

section

variable {x : Float} {n m : Nat} {e : Int} {positive : 0 < m}

theorem toNat_toUInt64 (same : x.toModel.unpack = .finite .positive m e positive) :
    x.toUInt64.toNat = min (m * 2 ^ e.toNat / 2 ^ (-e).toNat) (2 ^ 64 - 1) := by
  have started (k : Nat) : (ExtendedMantissa.ofMantissaAndAccuracy k .exact).mantissa = k := rfl
  have left : (0 - (e - e.toNat)).toNat = (-e).toNat := by omega
  have size : UInt64.size = 2 ^ 64 := rfl
  have whole : roundToInt .positive m e = (m * 2 ^ e.toNat / 2 ^ (-e).toNat : Nat) := by
    simp only [roundToInt, decreaseExponent, shiftToExponent, mantissa_shifted, started, left, Nat.shiftLeft_eq,
      Int.sub_zero]
    rfl
  change (UInt64.ofNatClamp (x.toModel.unpack.toInt 0 (UInt64.size - 1)).toNat).toNat = _
  rw [same, UnpackedFloat.toInt, whole, Int.toNat_natCast, UInt64.ofNatClamp]
  split
  next small =>
    rw [UInt64.toNat_ofNatLT]
    omega
  next large =>
    rw [UInt64.toNat_ofNatLT, Nat.min_eq_right (by omega)]
    rfl

theorem toNat_ofWhole_short (positive : 0 < n) (small : n < 2 ^ 53) : (ofWhole n).toUInt64.toNat = n := by
  have none : (-((52 - n.log2 : Nat) : Int)).toNat = 0 := by omega
  have whole := toNat_toUInt64 (unpack_ofWhole positive small)
  rw [none, Int.neg_neg, Int.toNat_natCast, Nat.pow_zero, Nat.mul_one, Nat.shiftLeft_eq,
    Nat.mul_div_cancel _ (Nat.two_pow_pos _)] at whole
  omega

theorem unpack_ofWhole_multiple {k : Nat} (positive : 0 < m) (full : m.log2 = 52) (some : 0 < k) (low : k ≤ 971) :
    (ofWhole (m * 2 ^ k : Nat)).toModel.unpack = .finite .positive m k positive := by
  have long : 2 ^ 53 ≤ m * 2 ^ k := by
    have least := Nat.log2_self_le (Nat.ne_of_gt positive)
    have twice : 2 ^ 1 ≤ 2 ^ k := Nat.pow_le_pow_right (by decide) some
    rw [full] at least
    calc 2 ^ 53 = 2 ^ 52 * 2 ^ 1 := by norm_num
      _ ≤ m * 2 ^ k := Nat.mul_le_mul least twice
  have digits : (m * 2 ^ k) <<< 53 = m * 2 ^ (k + 53) := by
    rw [Nat.shiftLeft_eq, Nat.mul_assoc, ← Nat.pow_add]
  have place : (-53 : Int) = (k : Int) - (k + 53 : Nat) := by omega
  rw [unpack_ofWhole_rounded long, digits, place, exact_rounded .positive positive full (by omega)]
  exact unpack_pack_of_full _ positive full (by omega) (by omega)

def IsShort (n : Nat) : Prop :=
  ∃ m k, m < 2 ^ 53 ∧ n = m * 2 ^ k

theorem IsShort.filled (short : IsShort n) (long : 2 ^ 53 ≤ n) :
    ∃ m k, m.log2 = 52 ∧ 0 < k ∧ n = m * 2 ^ k := by
  obtain ⟨m, k, small, rfl⟩ := short
  have positive : 0 < m := by
    rcases Nat.eq_zero_or_pos m with rfl | positive
    · omega
    · exact positive
  have digits := log2_le_of_lt small
  have all : 53 ≤ m.log2 + k := by
    rw [← log2_mul_two_pow positive, Nat.le_log2 (by omega)]
    exact long
  refine ⟨m * 2 ^ (52 - m.log2), k - (52 - m.log2), ?_, by omega, ?_⟩
  · rw [log2_mul_two_pow positive]
    omega
  · rw [Nat.mul_assoc, ← Nat.pow_add]
    congr 2
    omega

theorem toNat_ofWhole_long (word : n < 2 ^ 64) (long : 2 ^ 53 ≤ n) :
    (ofWhole n).toUInt64.toNat = n ↔ IsShort n ∨ n = 2 ^ 64 - 1 := by
  have digits : n.log2 ≤ 63 := log2_le_of_lt word
  have least : 53 ≤ n.log2 := (Nat.le_log2 (by omega)).mpr long
  constructor
  · obtain ⟨m, e, positive, same, full, low, -⟩ := unpack_ofWhole_long long (by omega)
    have none : (-e).toNat = 0 := by omega
    rw [toNat_toUInt64 same, none, Nat.pow_zero, Nat.div_one]
    intro kept
    by_cases reached : m * 2 ^ e.toNat ≤ 2 ^ 64 - 1
    · rw [Nat.min_eq_left reached] at kept
      exact .inl ⟨m, e.toNat, ((Nat.log2_eq_iff (Nat.ne_of_gt positive)).mp full).2, kept.symm⟩
    · exact .inr (by omega)
  · rintro (short | rfl)
    · obtain ⟨m, k, full, some, rfl⟩ := short.filled long
      have positive : 0 < m := by
        rcases Nat.eq_zero_or_pos m with rfl | positive
        · cases full
        · exact positive
      have length : (m * 2 ^ k).log2 = m.log2 + k := log2_mul_two_pow positive k
      rw [toNat_toUInt64 (unpack_ofWhole_multiple positive full some (by omega)), Int.toNat_natCast]
      have none : (-(k : Int)).toNat = 0 := by omega
      rw [none, Nat.pow_zero, Nat.div_one]
      omega
    · decide +kernel

theorem toNat_ofWhole (word : n < 2 ^ 64) :
    (ofWhole n).toUInt64.toNat = n ↔ IsShort n ∨ n = 2 ^ 64 - 1 := by
  rcases Nat.lt_or_ge n (2 ^ 53) with small | long
  · have kept : (ofWhole n).toUInt64.toNat = n := by
      rcases Nat.eq_zero_or_pos n with rfl | positive
      · decide +kernel
      · exact toNat_ofWhole_short positive small
    exact ⟨fun _ => .inl ⟨n, 0, small, by omega⟩, fun _ => kept⟩
  · exact toNat_ofWhole_long word long

theorem ofDecimal_zero (n : Nat) : ofDecimal n 0 = ofWhole n := by
  rcases Nat.eq_zero_or_pos n with rfl | positive
  · rfl
  · have nonzero : (n == 0) = false := beq_false_of_ne (Nat.ne_of_gt positive)
    rw [ofWhole_eq, ofDecimal, nonzero, if_neg (by decide), if_neg (by decide), if_neg (by omega)]
    rfl

def nearest (n : UInt64) : UInt64 :=
  (ofWhole n.toNat).toUInt64

theorem nearest_eq_self (n : UInt64) : nearest n = n ↔ IsShort n.toNat ∨ n.toNat = 2 ^ 64 - 1 := by
  rw [← UInt64.toNat_inj, nearest]
  exact toNat_ofWhole n.toNat_lt

end
end BoundedScript.Double
