import Mathlib
import BoundedScript.Decimal.Binary

set_option autoImplicit false

namespace BoundedScript.Double
open Float.Model Float.Model.UnpackedFloat

section Packing

variable {s : Sign} {m : Nat} {e : Int} {positive : 0 < m}

theorem exponentBias_eq : Format.binary64.exponentBias = 1023 := by decide

theorem exponent_lt {b : BitVec 11} (ordinary : b ≠ -1) : b.toNat < 2047 := by
  have small := b.isLt
  have apart : b.toNat ≠ 2047 := fun same => ordinary (BitVec.eq_of_toNat_eq same)
  omega

theorem bounds_of_unpack {b : BitVec 64}
    (same : UnpackedFloat.unpack Format.binary64 b = .finite s m e positive) :
    m < 2 ^ 53 ∧ -1074 ≤ e ∧ e ≤ 971 := by
  have mantissa : (@unpackMantissa Format.binary64 b).toNat < 2 ^ 52 := BitVec.isLt _
  simp only [UnpackedFloat.unpack, exponentBias_eq] at same
  split at same
  · split at same <;> cases same
  next ordinary =>
    have exponent := exponent_lt ordinary
    split at same
    · split at same
      · cases same
      next zero _ =>
        obtain ⟨-, rfl, rfl⟩ := UnpackedFloat.finite.inj same
        rw [zero]
        exact ⟨by omega, by decide, by decide⟩
    next normal =>
      obtain ⟨-, rfl, rfl⟩ := UnpackedFloat.finite.inj same
      have nonzero : (@unpackExponent Format.binary64 b).toNat ≠ 0 :=
        fun zero => normal (BitVec.eq_of_toNat_eq zero)
      have implicit := (1#1 ++ @unpackMantissa Format.binary64 b).isLt
      exact ⟨implicit, by omega, by omega⟩

def Below (bound : Int) : UnpackedFloat → Prop
  | .zero _ => True
  | .finite _ _ e _ => e ≤ bound
  | _ => False

theorem isFinite_of_below {bound : Int} {u : UnpackedFloat} (below : Below bound u) : u.isFinite := by
  cases u with
  | zero s => rfl
  | finite s m e positive => rfl
  | infinity s => exact below.elim
  | notANumber => exact below.elim

theorem Below.mono {bound other : Int} {u : UnpackedFloat} (below : Below bound u) (farther : bound ≤ other) :
    Below other u := by
  cases u with
  | zero s => trivial
  | finite s m e positive => exact Int.le_trans below farther
  | infinity s => exact below.elim
  | notANumber => exact below.elim

theorem Below.neg {bound : Int} {u : UnpackedFloat} (below : Below bound u) : Below bound u.neg := by
  cases u with
  | zero s => trivial
  | finite s m e positive => exact below
  | infinity s => exact below.elim
  | notANumber => exact below.elim

theorem below_unpack {b : BitVec 64} (finite : (UnpackedFloat.unpack Format.binary64 b).isFinite) :
    Below 971 (UnpackedFloat.unpack Format.binary64 b) := by
  cases same : UnpackedFloat.unpack Format.binary64 b with
  | zero s => trivial
  | finite s m e positive => exact (bounds_of_unpack same).2.2
  | infinity s => simp [same, UnpackedFloat.isFinite] at finite
  | notANumber => simp [same, UnpackedFloat.isFinite] at finite

theorem below_components {bound : Int} (s : Sign) (exponent : BitVec 11) (mantissa : BitVec 52)
    (low : -1074 ≤ bound) (ordinary : exponent.toNat ≠ 2047) (high : exponent.toNat - 1075 ≤ bound) :
    Below bound (UnpackedFloat.unpack Format.binary64 (packComponents Format.binary64 s exponent mantissa)) := by
  have finite : exponent ≠ -1#11 := by
    rintro rfl
    exact ordinary rfl
  simp only [UnpackedFloat.unpack, exponentBias_eq, unpackExponent_packComponents, unpackMantissa_packComponents]
  rw [if_neg finite]
  split
  next zero =>
    split
    · trivial
    next =>
      subst zero
      exact low
  next => exact high

theorem Below.pack {bound : Int} {u : UnpackedFloat} (below : Below bound u) (low : -1074 ≤ bound)
    (high : bound ≤ 971) :
    Below bound (UnpackedFloat.unpack Format.binary64 (UnpackedFloat.pack Format.binary64 u)) := by
  cases u with
  | zero s => exact below_components s 0 0 low (by decide) (by simp; omega)
  | infinity s => exact below.elim
  | notANumber => exact below.elim
  | finite s m e positive =>
    change e ≤ bound at below
    simp only [UnpackedFloat.pack, exponentBias_eq]
    have shifted : e + 1023 + 52 ≤ 2046 := by omega
    rw [if_neg (by simp; omega)]
    split
    · apply below_components _ _ _ low
      · simp; omega
      · simp; omega
    · exact below_components _ _ _ low (by decide) (by simp; omega)

theorem sign_components (s : Sign) (exponent : BitVec 11) (mantissa : BitVec 52) :
    Sign.ofBitVec (unpackSign (packComponents Format.binary64 s exponent mantissa)) = s := by
  simp only [unpackSign, packComponents, BitVec.extractLsb]
  rw [BitVec.extractLsb'_append_eq_of_le (by decide), BitVec.extractLsb'_append_eq_of_le (by decide)]
  cases s <;> rfl

theorem unpack_pack_of_full (s : Sign) (positive : 0 < m) (full : m.log2 = 52) (low : -1074 ≤ e) (high : e ≤ 971) :
    UnpackedFloat.unpack Format.binary64 (UnpackedFloat.pack Format.binary64 (.finite s m e positive)) =
      .finite s m e positive := by
  obtain ⟨least, most⟩ := (Nat.log2_eq_iff (Nat.ne_of_gt positive)).mp full
  have biased : (e + 1023 + 52).toNat < 2047 := by omega
  have exponent : (BitVec.ofNat 11 (e + 1023 + 52).toNat).toNat = (e + 1023 + 52).toNat :=
    Nat.mod_eq_of_lt (Nat.lt_trans biased (by decide))
  have infinite : BitVec.ofNat 11 (e + 1023 + 52).toNat ≠ -1#11 := by
    intro same
    have := congrArg BitVec.toNat same
    rw [exponent] at this
    change _ = 2047 at this
    omega
  have small : BitVec.ofNat 11 (e + 1023 + 52).toNat ≠ 0#11 := by
    intro same
    have := congrArg BitVec.toNat same
    rw [exponent] at this
    change _ = 0 at this
    omega
  have implicit : (1#1 ++ BitVec.ofNat 52 m).toNat = m := by
    rw [BitVec.toNat_append, ← Nat.shiftLeft_add_eq_or_of_lt (BitVec.isLt _), BitVec.toNat_ofNat]
    change 1 <<< 52 + m % 2 ^ 52 = m
    rw [Nat.shiftLeft_eq]
    omega
  have packed : UnpackedFloat.pack Format.binary64 (.finite s m e positive) =
      packComponents Format.binary64 s (BitVec.ofNat 11 (e + 1023 + 52).toNat) (BitVec.ofNat 52 m) := by
    simp only [UnpackedFloat.pack, exponentBias_eq, full]
    rw [if_neg (by simp; omega), if_pos (by rfl)]
    rfl
  rw [packed]
  simp only [UnpackedFloat.unpack, exponentBias_eq, unpackExponent_packComponents, unpackMantissa_packComponents]
  rw [if_neg infinite, if_neg small]
  congr 1
  · exact sign_components s _ _
  · rw [exponent]
    omega

theorem infinity_components (s : Sign) :
    (UnpackedFloat.unpack Format.binary64 (packedInfinity Format.binary64 s)).isInf := by
  simp only [UnpackedFloat.unpack, packedInfinity, unpackExponent_packComponents, unpackMantissa_packComponents]
  rfl

theorem Below.pack_finite {bound : Int} {u : UnpackedFloat} (below : Below bound u)
    (reached : (UnpackedFloat.unpack Format.binary64 (UnpackedFloat.pack Format.binary64 u)).isInf = false) :
    Below 971 (UnpackedFloat.unpack Format.binary64 (UnpackedFloat.pack Format.binary64 u)) := by
  cases u with
  | zero s => exact Below.pack (u := .zero s) trivial (by decide) (by decide)
  | infinity s => exact below.elim
  | notANumber => exact below.elim
  | finite s m e positive =>
    by_cases high : e ≤ 971
    · exact Below.pack (u := .finite s m e positive) high (by decide) (by decide)
    · have past : UnpackedFloat.pack Format.binary64 (.finite s m e positive) = packedInfinity Format.binary64 s := by
        simp only [UnpackedFloat.pack, exponentBias_eq]
        rw [if_pos (by simp; omega)]
      rw [past, infinity_components] at reached
      cases reached

end Packing

section Rounding

def placed (m : Nat) (e : Int) : Int :=
  max e (max (m.log2 + e - 52) (-1074))

theorem targetExponent_eq (m : Nat) (e : Int) :
    Format.binary64.targetExponent (totalExponent m e) = max (m.log2 + e - 52) (-1074) := by
  simp only [Format.targetExponent, totalExponent, Format.mantissaBits, Format.minExponent]
  omega

theorem mantissa_shifted (em : ExtendedMantissa) (k : Nat) : (em >>> k).mantissa = em.mantissa / 2 ^ k := by
  induction k with
  | zero => simp [HShiftRight.hShiftRight, Nat.repeat]
  | succ k ih =>
    change (em >>> k).mantissa / 2 = _
    rw [ih, Nat.div_div_eq_div_mul, Nat.pow_succ]

theorem roundedMantissa_bounds (em : ExtendedMantissa) :
    em.mantissa ≤ em.roundedMantissa ∧ em.roundedMantissa ≤ em.mantissa + 1 := by
  obtain ⟨m, r, s⟩ := em
  cases r <;> cases s <;>
    simp [ExtendedMantissa.roundedMantissa, ExtendedMantissa.accuracy, Accuracy.roundToNearestEven]
  omega

theorem shift_exponent (m : Nat) (e : Int) (a : Accuracy) :
    (shiftToTargetExponent Format.binary64 m e a).2 = placed m e := by
  simp only [shiftToTargetExponent, shiftToExponent, targetExponent_eq, placed]
  omega

theorem shift_mantissa (m : Nat) (e : Int) (a : Accuracy) :
    (shiftToTargetExponent Format.binary64 m e a).1.mantissa = m / 2 ^ (placed m e - e).toNat := by
  have started : (ExtendedMantissa.ofMantissaAndAccuracy m a).mantissa = m := by
    cases a with
    | exact => rfl
    | inexact o => cases o <;> rfl
  have amount : (max (m.log2 + e - 52) (-1074) - e).toNat = (placed m e - e).toNat := by
    rw [placed]
    omega
  simp only [shiftToTargetExponent, shiftToExponent, targetExponent_eq, mantissa_shifted, started, amount]

theorem shifted_lt (m : Nat) (e : Int) : m / 2 ^ (placed m e - e).toNat < 2 ^ 53 := by
  have shift : m.log2 + 1 ≤ 53 + (placed m e - e).toNat := by
    rw [placed]
    omega
  rw [Nat.div_lt_iff_lt_mul (Nat.two_pow_pos _), ← Nat.pow_add]
  exact Nat.lt_of_lt_of_le Nat.lt_log2_self (Nat.pow_le_pow_right (by decide) shift)

theorem log2_le_of_lt {m k : Nat} (small : m < 2 ^ (k + 1)) : m.log2 ≤ k := by
  by_cases zero : m = 0
  · simp [zero]
  · exact Nat.le_of_lt_succ ((Nat.log2_lt zero).mpr small)

theorem log2_shifted_div_le (m n k : Nat) : (m <<< k / n).log2 ≤ m.log2 + k := by
  apply log2_le_of_lt
  calc m <<< k / n
      ≤ m <<< k := Nat.div_le_self _ _
    _ = m * 2 ^ k := Nat.shiftLeft_eq m k
    _ < 2 ^ (m.log2 + 1) * 2 ^ k := Nat.mul_lt_mul_of_pos_right Nat.lt_log2_self (Nat.two_pow_pos k)
    _ = 2 ^ (m.log2 + k + 1) := by rw [← Nat.pow_add]; congr 1; omega

theorem placed_divCore_le {m : Nat} (small : m < 2 ^ 53) (e : Int) (n : Nat) (d : Int) :
    placed (divCore Format.binary64 m e n d).1 (divCore Format.binary64 m e n d).2.1 ≤ max (e - d) (-1074) := by
  have digits := log2_le_of_lt small
  simp only [divCore, placed]
  generalize Format.binary64.targetExponent (totalExponent m e - totalExponent n d) = target
  have quotient := log2_shifted_div_le m n (e - d - min (e - d) target).toNat
  omega

theorem shifted_small {m : Nat} {e : Int} (small : m < 2 ^ 53) (low : -1074 ≤ e) :
    shiftToTargetExponent Format.binary64 m e .exact = (⟨m, false, false⟩, e) := by
  have digits := log2_le_of_lt small
  have still : (max ((m.log2 : Int) + e - 52) (-1074) - e).toNat = 0 := by omega
  simp only [shiftToTargetExponent, shiftToExponent, targetExponent_eq, still]
  simp [HShiftRight.hShiftRight, Nat.repeat, ExtendedMantissa.ofMantissaAndAccuracy]

theorem shifted_over {e : Int} (low : -1074 ≤ e) :
    shiftToTargetExponent Format.binary64 (2 ^ 53) e .exact = (⟨2 ^ 52, false, false⟩, e + 1) := by
  have once : (max (((2 ^ 53 : Nat).log2 : Int) + e - 52) (-1074) - e).toNat = 1 := by
    rw [Nat.log2_two_pow]
    omega
  simp only [shiftToTargetExponent, shiftToExponent, targetExponent_eq, once]
  rfl

theorem rounded_eq (s : Sign) (m : Nat) (e : Int) (a : Accuracy) :
    roundWithAccuracy Format.binary64 s m e a =
      let r := (shiftToTargetExponent Format.binary64 m e a).1.roundedMantissa
      if zero : r = 0 then .zero s
      else if r < 2 ^ 53 then .finite s r (placed m e) (Nat.pos_of_ne_zero zero)
      else .finite s (2 ^ 52) (placed m e + 1) (by decide) := by
  have low : -1074 ≤ placed m e := by
    rw [placed]
    omega
  have most := (roundedMantissa_bounds (shiftToTargetExponent Format.binary64 m e a).1).2
  have cut := shifted_lt m e
  have place := shift_exponent m e a
  rw [shift_mantissa] at most
  rw [roundWithAccuracy]
  cases shifted : shiftToTargetExponent Format.binary64 m e a with
  | mk em d =>
    rw [shifted] at place most
    obtain rfl : d = placed m e := place
    dsimp only at most ⊢
    generalize em.roundedMantissa = r at most
    by_cases small : r < 2 ^ 53
    · rw [shifted_small small low]
      by_cases zero : r = 0
      · simp [zero]
      · rw [dif_neg zero, dif_neg zero, if_pos small]
    · obtain rfl : r = 2 ^ 53 := by omega
      rw [shifted_over low]
      rfl

theorem below_rounded (s : Sign) (m : Nat) (e : Int) (a : Accuracy) :
    Below (placed m e + 1) (roundWithAccuracy Format.binary64 s m e a) := by
  rw [rounded_eq]
  dsimp only
  split
  · trivial
  · split
    · exact Int.le_add_one (Int.le_refl _)
    · exact Int.le_refl _

theorem full_rounded (s : Sign) {m : Nat} {e : Int} (a : Accuracy) (long : 52 ≤ m.log2)
    (low : -1074 ≤ m.log2 + e - 52) :
    ∃ r d positive, roundWithAccuracy Format.binary64 s m e a = .finite s r d positive ∧ r.log2 = 52 ∧
      m.log2 + e - 52 ≤ d ∧ d ≤ m.log2 + e - 51 := by
  have place : placed m e = m.log2 + e - 52 := by
    rw [placed]
    omega
  have nonzero : m ≠ 0 := by
    rintro rfl
    cases long
  have kept : 2 ^ 52 ≤ m / 2 ^ (placed m e - e).toNat := by
    have shift : 52 + (placed m e - e).toNat = m.log2 := by omega
    rw [Nat.le_div_iff_mul_le (Nat.two_pow_pos _), ← Nat.pow_add, shift]
    exact Nat.log2_self_le nonzero
  have least := (roundedMantissa_bounds (shiftToTargetExponent Format.binary64 m e a).1).1
  rw [shift_mantissa] at least
  rw [rounded_eq, ← place]
  dsimp only
  generalize (shiftToTargetExponent Format.binary64 m e a).1.roundedMantissa = r at least
  rw [dif_neg (by omega)]
  by_cases small : r < 2 ^ 53
  · rw [if_pos small]
    exact ⟨r, _, _, rfl, (Nat.log2_eq_iff (by omega)).mpr ⟨by omega, small⟩, Int.le_refl _, by omega⟩
  · rw [if_neg small]
    exact ⟨2 ^ 52, _, _, rfl, Nat.log2_two_pow, by omega, by omega⟩

theorem log2_mul_two_pow {m : Nat} (positive : 0 < m) (k : Nat) : (m * 2 ^ k).log2 = m.log2 + k := by
  have least := Nat.log2_self_le (Nat.ne_of_gt positive)
  have most := Nat.lt_log2_self (n := m)
  rw [Nat.log2_eq_iff (Nat.ne_of_gt (Nat.mul_pos positive (Nat.two_pow_pos k)))]
  rw [Nat.pow_add, Nat.add_right_comm, Nat.pow_add]
  exact ⟨Nat.mul_le_mul_right _ least, Nat.mul_lt_mul_of_pos_right most (Nat.two_pow_pos k)⟩

theorem shifted_multiple (m k : Nat) :
    (⟨m * 2 ^ k, false, false⟩ : ExtendedMantissa) >>> k = ⟨m, false, false⟩ := by
  induction k generalizing m with
  | zero => simp [HShiftRight.hShiftRight, Nat.repeat]
  | succ k ih =>
    have first := ih (m * 2)
    rw [Nat.mul_assoc, ← Nat.pow_succ'] at first
    change ExtendedMantissa.shiftRightOne ((⟨m * 2 ^ (k + 1), false, false⟩ : ExtendedMantissa) >>> k) = _
    rw [first]
    simp [ExtendedMantissa.shiftRightOne]

theorem exact_rounded (s : Sign) {m : Nat} (positive : 0 < m) (full : m.log2 = 52) {e : Int} (low : -1074 ≤ e)
    (k : Nat) : roundWithAccuracy Format.binary64 s (m * 2 ^ k) (e - k) .exact = .finite s m e positive := by
  have digits : (m * 2 ^ k).log2 = 52 + k := by
    rw [log2_mul_two_pow positive, full]
  have place : placed (m * 2 ^ k) (e - k) = e := by
    rw [placed, digits]
    omega
  have amount : (max (((m * 2 ^ k).log2 : Int) + (e - k) - 52) (-1074) - (e - k)).toNat = k := by
    rw [digits]
    omega
  have shifted : (shiftToTargetExponent Format.binary64 (m * 2 ^ k) (e - k) .exact).1 = ⟨m, false, false⟩ := by
    simp only [shiftToTargetExponent, shiftToExponent, targetExponent_eq, amount]
    exact shifted_multiple m k
  have small : m < 2 ^ 53 := ((Nat.log2_eq_iff (Nat.ne_of_gt positive)).mp full).2
  have whole : (⟨m, false, false⟩ : ExtendedMantissa).roundedMantissa = m := by
    simp [ExtendedMantissa.roundedMantissa, ExtendedMantissa.accuracy, Accuracy.roundToNearestEven]
  rw [rounded_eq, shifted, place]
  simp only [whole]
  rw [dif_neg (Nat.ne_of_gt positive), if_pos small]

end Rounding

section Arithmetic

variable {x y : Float}

theorem isFinite_iff : x.isFinite ↔ Below 971 x.toModel.unpack :=
  ⟨below_unpack, isFinite_of_below⟩

theorem isFinite_neg (finite : x.isFinite) : (-x).isFinite := by
  have below := isFinite_iff.mp finite
  exact isFinite_of_below (below.neg.pack (by decide) (by decide))

theorem isFinite_mul (left : x.isFinite) (right : y.isFinite) (reached : (x * y).isInf = false) :
    (x * y).isFinite := by
  have left := isFinite_iff.mp left
  have right := isFinite_iff.mp right
  have product : ∃ bound, Below bound (UnpackedFloat.mul Format.binary64 x.toModel.unpack y.toModel.unpack) := by
    cases first : x.toModel.unpack with
    | zero s =>
      cases second : y.toModel.unpack with
      | zero t => exact ⟨0, trivial⟩
      | finite t m e positive => exact ⟨0, trivial⟩
      | infinity t => simp [second, Below] at right
      | notANumber => simp [second, Below] at right
    | finite s m e positive =>
      cases second : y.toModel.unpack with
      | zero t => exact ⟨0, trivial⟩
      | finite t n d _ => exact ⟨_, below_rounded _ _ _ _⟩
      | infinity t => simp [second, Below] at right
      | notANumber => simp [second, Below] at right
    | infinity s => simp [first, Below] at left
    | notANumber => simp [first, Below] at left
  obtain ⟨bound, product⟩ := product
  exact isFinite_of_below (product.pack_finite reached)

def Within (bound : Int) (x : Float) : Prop :=
  Below bound x.toModel.unpack

theorem Within.isFinite {bound : Int} (within : Within bound x) : x.isFinite :=
  isFinite_of_below within

def isWide (x : Float) : Bool :=
  match x.toModel.unpack with
  | .finite _ _ e _ => -52 ≤ e
  | _ => false

theorem isFinite_of_wide (wide : isWide x) : x.isFinite := by
  rw [isWide] at wide
  change x.toModel.unpack.isFinite
  split at wide
  next same =>
    rw [same]
    rfl
  next => cases wide

-- Nothing is said of how much smaller the quotient is.
theorem within_div {bound : Int} (within : Within bound x) (wide : isWide y) (low : -1074 ≤ bound)
    (high : bound + 53 ≤ 971) : Within (bound + 53) (x / y) := by
  have quotient : Below (bound + 53) (UnpackedFloat.div Format.binary64 x.toModel.unpack y.toModel.unpack) := by
    rw [isWide] at wide
    split at wide
    next t n d nonzero divisor =>
      rw [Within] at within
      rw [divisor]
      cases dividend : x.toModel.unpack with
      | zero s => trivial
      | infinity s => simp [dividend, Below] at within
      | notANumber => simp [dividend, Below] at within
      | finite s m e positive =>
        rw [dividend] at within
        have small := (bounds_of_unpack dividend).1
        simp only [decide_eq_true_eq] at wide
        change e ≤ bound at within
        have rounded := below_rounded (s / t) (divCore Format.binary64 m e n d).1
          (divCore Format.binary64 m e n d).2.1 (divCore Format.binary64 m e n d).2.2
        refine rounded.mono ?_
        have reach := placed_divCore_le small e n d
        omega
    next => cases wide
  exact quotient.pack (by omega) high

end Arithmetic

section Whole

variable {n : Nat}

theorem ofNat_rounded (positive : 0 < n) :
    UnpackedFloat.ofNat Format.binary64 n =
      roundWithAccuracy Format.binary64 .positive (n <<< (52 - n.log2)) (-(52 - n.log2 : Nat)) .exact := by
  have greater : compare (n : Int) 0 = .gt := by
    rw [Int.compare_eq_gt]
    omega
  have amount : (0 - max ((n.log2 : Int) + 0 - 52) (-1074)).toNat = 52 - n.log2 := by omega
  rw [UnpackedFloat.ofNat, UnpackedFloat.ofInt, Float.Model.UnpackedFloat.normalize, greater]
  simp only [UnpackedFloat.round, decreaseExponent, Int.toNat_natCast, targetExponent_eq, amount]
  simp

theorem log2_filled (positive : 0 < n) (small : n < 2 ^ 53) : (n <<< (52 - n.log2)).log2 = 52 := by
  have digits := log2_le_of_lt small
  rw [Nat.shiftLeft_eq, log2_mul_two_pow positive]
  omega

theorem filled_pos (positive : 0 < n) : 0 < n <<< (52 - n.log2) := by
  rw [Nat.shiftLeft_eq]
  exact Nat.mul_pos positive (Nat.two_pow_pos _)

theorem ofWhole_eq (n : Nat) : ofWhole n = Float.ofScientific n false 0 := by
  have natural : ¬ (n : Int) < 0 := by omega
  rw [ofWhole, if_neg natural, Int.toNat_natCast]

theorem unpack_one : (Float.exactlyRepresentablePowersOfTen[0]).toModel.unpack =
    .finite .positive (2 ^ 52) (-52) (by decide) :=
  rfl

theorem unpack_ofWhole (positive : 0 < n) (small : n < 2 ^ 53) :
    (ofWhole n).toModel.unpack =
      .finite .positive (n <<< (52 - n.log2)) (-(52 - n.log2 : Nat)) (filled_pos positive) := by
  have full := log2_filled positive small
  have low : (-1074 : Int) ≤ -(52 - n.log2 : Nat) := by omega
  have high : (-(52 - n.log2 : Nat) : Int) ≤ 971 := by omega
  have word : n.toUInt64.toNat = n := UInt64.toNat_ofNat_of_lt' (Nat.lt_trans small (by decide))
  have factor : (n.toUInt64.toFloat).toModel.unpack =
      .finite .positive (n <<< (52 - n.log2)) (-(52 - n.log2 : Nat)) (filled_pos positive) := by
    have alone := exact_rounded .positive (filled_pos positive) full low 0
    rw [Nat.pow_zero, Nat.mul_one, Int.natCast_zero, Int.sub_zero] at alone
    change UnpackedFloat.unpack Format.binary64 (UnpackedFloat.pack Format.binary64
      (UnpackedFloat.ofNat Format.binary64 n.toUInt64.toNat)) = _
    rw [word, ofNat_rounded positive, alone]
    exact unpack_pack_of_full _ _ full low high
  have product := exact_rounded .positive (filled_pos positive) full low 52
  rw [ofWhole_eq, Float.ofScientific, dif_pos ⟨small, by decide⟩]
  change UnpackedFloat.unpack Format.binary64 (UnpackedFloat.pack Format.binary64
    (UnpackedFloat.mul Format.binary64 n.toUInt64.toFloat.toModel.unpack
      (Float.exactlyRepresentablePowersOfTen[0]).toModel.unpack)) = _
  rw [factor, unpack_one]
  change UnpackedFloat.unpack Format.binary64 (UnpackedFloat.pack Format.binary64
    (roundWithAccuracy Format.binary64 .positive (n <<< (52 - n.log2) * 2 ^ 52) (-(52 - n.log2 : Nat) - (52 : Nat))
      .exact)) = _
  rw [product]
  exact unpack_pack_of_full _ _ full low high

theorem unpack_ofWhole_rounded (long : 2 ^ 53 ≤ n) :
    (ofWhole n).toModel.unpack = UnpackedFloat.unpack Format.binary64 (UnpackedFloat.pack Format.binary64
      (roundWithAccuracy Format.binary64 .positive (n <<< 53) (-53) .exact)) := by
  have positive : 0 < n := Nat.lt_of_lt_of_le (by decide) long
  have bits : (2 : Int) ^ Format.binary64.exponentBits = 2048 := by decide
  have scientific : UnpackedFloat.ofScientific Format.binary64 n 0 =
      roundWithAccuracy Format.binary64 .positive (n <<< 53 * 10 ^ 0) (-53 + 0) .exact := by
    rw [UnpackedFloat.ofScientific, dif_neg (Nat.ne_of_gt positive), bits, if_neg (by decide), if_neg (by omega),
      if_pos (by decide)]
    rfl
  rw [Nat.pow_zero, Nat.mul_one, Int.add_zero] at scientific
  rw [ofWhole_eq, Float.ofScientific, dif_neg (by omega), ← scientific]
  rfl

theorem unpack_ofWhole_long (long : 2 ^ 53 ≤ n) (high : n.log2 ≤ 1022) :
    ∃ m e positive, (ofWhole n).toModel.unpack = .finite .positive m e positive ∧ m.log2 = 52 ∧
      n.log2 - 52 ≤ e ∧ e ≤ n.log2 - 51 := by
  have positive : 0 < n := Nat.lt_of_lt_of_le (by decide) long
  have digits : (n <<< 53).log2 = n.log2 + 53 := by
    rw [Nat.shiftLeft_eq, log2_mul_two_pow positive]
  have least : 53 ≤ n.log2 := by
    rw [Nat.le_log2 (Nat.ne_of_gt positive)]
    exact long
  obtain ⟨m, e, some, rounded, full, low, top⟩ :=
    full_rounded .positive (m := n <<< 53) (e := -53) .exact (by omega) (by omega)
  refine ⟨m, e, some, ?_, full, by omega, by omega⟩
  rw [unpack_ofWhole_rounded long, rounded]
  exact unpack_pack_of_full _ _ full (by omega) (by omega)

theorem unpack_ofWhole_zero : (ofWhole 0).toModel.unpack = .zero .positive :=
  rfl

theorem within_ofWhole (word : n < 2 ^ 64) : Within 12 (ofWhole n) := by
  have digits : n.log2 ≤ 63 := log2_le_of_lt word
  rw [Within]
  rcases Nat.eq_zero_or_pos n with rfl | positive
  · exact unpack_ofWhole_zero ▸ trivial
  by_cases small : n < 2 ^ 53
  · rw [unpack_ofWhole positive small]
    change -((52 - n.log2 : Nat) : Int) ≤ 12
    omega
  · obtain ⟨m, e, _, same, -, -, high⟩ := unpack_ofWhole_long (Nat.le_of_not_lt small) (by omega)
    rw [same]
    change e ≤ 12
    omega

theorem isWide_ofWhole (positive : 0 < n) (high : n.log2 ≤ 1022) : isWide (ofWhole n) := by
  by_cases small : n < 2 ^ 53
  · simp only [isWide, unpack_ofWhole positive small, decide_eq_true_eq]
    omega
  · have long := Nat.le_of_not_lt small
    have least : 53 ≤ n.log2 := (Nat.le_log2 (Nat.ne_of_gt positive)).mpr long
    obtain ⟨m, e, _, same, -, low, -⟩ := unpack_ofWhole_long long high
    simp only [isWide, same, decide_eq_true_eq]
    omega

end Whole
end BoundedScript.Double
