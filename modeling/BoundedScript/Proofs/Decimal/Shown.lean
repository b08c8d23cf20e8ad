import BoundedScript.Proofs.BoundNames
import BoundedScript.Proofs.Decimal.Nearest

set_option autoImplicit false

namespace BoundedScript

open Float.Model Float.Model.UnpackedFloat

namespace Double

section Values

variable {x : Float} {s : Sign} {m n : Nat} {d : Int} {positive : 0 < m}

def value (x : Float) : ℚ :=
  match x.toModel.unpack with
  | .finite .positive m d _ => m * 2 ^ d
  | .finite .negative m d _ => -(m * 2 ^ d)
  | _ => 0

theorem ofFloat_of_zero (same : x.toModel.unpack = .zero s) : Binary.ofFloat x = ⟨0, -1074⟩ := by
  have bits : x.toBits.toNat = x.toBits.toBitVec.toNat := rfl
  obtain ⟨mantissa, exponent, -⟩ := toNat_parts x.toBits.toBitVec
  change UnpackedFloat.unpack Format.binary64 x.toBits.toBitVec = _ at same
  generalize x.toBits.toBitVec = b at bits mantissa exponent same
  rw [Binary.ofFloat, Binary.ofBits, bits, ← mantissa, ← exponent]
  simp only [UnpackedFloat.unpack] at same
  split at same
  · split at same <;> cases same
  split at same
  next least =>
    split at same
    next zero =>
      rw [least, zero]
      rfl
    next => cases same
  next => cases same

theorem full_or_least (same : x.toModel.unpack = .finite s m d positive) : m.log2 = 52 ∨ d = -1074 := by
  change UnpackedFloat.unpack Format.binary64 x.toBits.toBitVec = _ at same
  generalize x.toBits.toBitVec = b at same
  simp only [UnpackedFloat.unpack, exponentBias_eq] at same
  split at same
  · split at same <;> cases same
  split at same
  next zero =>
    split at same
    · cases same
    · obtain ⟨-, -, rfl⟩ := UnpackedFloat.finite.inj same
      right
      rw [zero]
      rfl
  next normal =>
    obtain ⟨-, rfl, -⟩ := UnpackedFloat.finite.inj same
    left
    have whole : (1#1 ++ @unpackMantissa Format.binary64 b).toNat = 2 ^ 52 + (@unpackMantissa Format.binary64 b).toNat := by
      rw [BitVec.toNat_append, ← Nat.shiftLeft_add_eq_or_of_lt (BitVec.isLt _)]
      rfl
    have small : (@unpackMantissa Format.binary64 b).toNat < 2 ^ 52 := BitVec.isLt _
    rw [whole]
    exact (Nat.log2_eq_iff (by omega)).mpr ⟨by omega, by omega⟩

theorem toNat?_iff : Binary.toNat? ⟨m, d⟩ = some n ↔ (m : ℚ) * 2 ^ d = n := by
  have power := Decimal.zpow_eq_div (a := 2) (by decide) d
  have denominator : (0 : ℚ) < 2 ^ (-d).toNat := by positivity
  rw [Nat.cast_ofNat] at power
  rw [power, ← mul_div_assoc, div_eq_iff denominator.ne', Binary.toNat?, Binary.numerator, Binary.denominator, Nat.pow_eq,
    Nat.pow_eq]
  have unit : 0 < 2 ^ (-d).toNat := Nat.two_pow_pos _
  have casts : (m : ℚ) * 2 ^ d.toNat = n * 2 ^ (-d).toNat ↔ m * 2 ^ d.toNat = n * 2 ^ (-d).toNat := by
    exact_mod_cast Iff.rfl
  rw [casts]
  generalize m * 2 ^ d.toNat = numerator
  generalize 2 ^ (-d).toNat = denominator at *
  split
  next whole =>
    rw [Option.some.injEq]
    exact Nat.div_eq_iff_eq_mul_left unit (Nat.dvd_of_mod_eq_zero (beq_iff_eq.mp whole))
  next broken =>
    refine iff_of_false (Option.some_ne_none n).symm fun same => broken ?_
    rw [same, Nat.mul_mod_left]
    rfl

theorem toInt?_iff (finite : x.isFinite) (n : Int) : toInt? x = some n ↔ value x = n := by
  have read : toInt? x =
      (Binary.ofFloat x).toNat?.map fun n : Nat => if isNegative x then -(n : Int) else (n : Int) := by
    rw [toInt?, if_pos finite]
    cases (Binary.ofFloat x).toNat? <;> rfl
  rw [read, Option.map_eq_some_iff]
  change x.toModel.unpack.isFinite = true at finite
  cases same : x.toModel.unpack with
  | notANumber => rw [same] at finite; cases finite
  | infinity s => rw [same] at finite; cases finite
  | zero s =>
    have zero : Binary.toNat? ⟨0, -1074⟩ = some 0 := toNat?_iff.mpr (by simp)
    have shown : value x = 0 := by rw [value, same]
    rw [ofFloat_of_zero same, zero, shown]
    constructor
    · rintro ⟨_, ⟨⟩, rfl⟩
      split <;> simp
    · intro whole
      obtain rfl : n = 0 := by exact_mod_cast whole.symm
      exact ⟨0, rfl, by split <;> rfl⟩
  | finite s m d positive =>
    obtain ⟨parts, sign⟩ := ofFloat_of_unpack same
    have nonneg : (0 : ℚ) ≤ m * 2 ^ d := by positivity
    simp only [parts, sign, toNat?_iff]
    cases s with
    | positive =>
      have shown : value x = m * 2 ^ d := by rw [value, same]
      rw [shown]
      constructor
      · rintro ⟨a, whole, rfl⟩
        exact whole
      · intro whole
        obtain ⟨a, rfl⟩ := Int.eq_ofNat_of_zero_le (a := n) (by rw [whole] at nonneg; exact_mod_cast nonneg)
        exact ⟨a, whole, rfl⟩
    | negative =>
      have shown : value x = -(m * 2 ^ d) := by rw [value, same]
      rw [shown, neg_eq_iff_eq_neg]
      constructor
      · rintro ⟨a, whole, rfl⟩
        rw [whole]
        simp
      · intro whole
        obtain ⟨a, above⟩ := Int.eq_ofNat_of_zero_le (a := -n) (by rw [whole] at nonneg; exact_mod_cast nonneg)
        exact ⟨a, by rw [whole]; exact_mod_cast above, by rw [← above]; simp⟩

section Parts

variable (same : x.toModel.unpack = .finite s m d positive) (whole : (m : ℚ) * 2 ^ d = n)
include same whole

theorem full_of_whole : m.log2 = 52 := by
  refine (full_or_least same).resolve_right fun least => ?_
  have small := (bounds_of_unpack same).1
  obtain ⟨j, far, rfl⟩ : ∃ j : Nat, 53 ≤ j ∧ d = -j := ⟨1074, by decide, least⟩
  have scaled : m = n * 2 ^ j := by
    rw [zpow_neg, zpow_natCast, ← div_eq_mul_inv, div_eq_iff (by positivity)] at whole
    exact_mod_cast whole
  have some : 0 < n := by
    refine Nat.pos_of_ne_zero fun zero => positive.ne' ?_
    rw [scaled, zero, Nat.zero_mul]
  have large : 2 ^ 53 ≤ m := calc
    2 ^ 53 ≤ 2 ^ j := Nat.pow_le_pow_right (by decide) far
    _ ≤ n * 2 ^ j := Nat.le_mul_of_pos_left _ some
    _ = m := scaled.symm
  exact absurd small (Nat.not_lt.mpr large)

theorem parts_of_short (short : n < 2 ^ 53) : m = n <<< (52 - n.log2) ∧ d = -(52 - n.log2 : Nat) := by
  have full := full_of_whole same whole
  have least : 2 ^ 52 ≤ m := ((Nat.log2_eq_iff positive.ne').mp full).1
  obtain ⟨e, rfl | rfl⟩ := d.eq_nat_or_neg
  · have product : m * 2 ^ e = n := by exact_mod_cast whole
    obtain rfl : e = 0 := by
      by_contra some
      have : 2 ^ 52 * 2 ^ 1 ≤ m * 2 ^ e := Nat.mul_le_mul least (Nat.pow_le_pow_right (by decide) (Nat.pos_of_ne_zero some))
      omega
    rw [Nat.pow_zero, Nat.mul_one] at product
    rw [← product, full]
    exact ⟨rfl, rfl⟩
  · have scaled : m = n * 2 ^ e := by
      rw [zpow_neg, zpow_natCast, ← div_eq_mul_inv, div_eq_iff (by positivity)] at whole
      exact_mod_cast whole
    have some : 0 < n := Nat.pos_of_ne_zero (by rintro rfl; omega)
    have digits : n.log2 + e = 52 := by rw [← log2_mul_two_pow some, ← scaled, full]
    have place : 52 - n.log2 = e := by omega
    rw [place, Nat.shiftLeft_eq]
    exact ⟨scaled, rfl⟩

theorem parts_of_long (long : 2 ^ 53 ≤ n) : ∃ e : Nat, d = e ∧ Full m e ∧ n = m * 2 ^ e := by
  have full := full_of_whole same whole
  obtain ⟨least, most⟩ := (Nat.log2_eq_iff positive.ne').mp full
  obtain ⟨e, rfl | rfl⟩ := d.eq_nat_or_neg
  · have product : m * 2 ^ e = n := by exact_mod_cast whole
    refine ⟨e, rfl, ⟨least, most, Nat.pos_of_ne_zero ?_⟩, product.symm⟩
    rintro rfl
    omega
  · have scaled : m = n * 2 ^ e := by
      rw [zpow_neg, zpow_natCast, ← div_eq_mul_inv, div_eq_iff (by positivity)] at whole
      exact_mod_cast whole
    have : n ≤ m := scaled ▸ Nat.le_mul_of_pos_right n (Nat.two_pow_pos e)
    omega

end Parts

end Values

end Double

namespace Decimal

open Double (Inside Full)

section Grids

variable {m e g c k k' : Nat}

def isInside (m e k : Nat) : Bool :=
  let below := if m == 2 ^ 52 then 2 ^ e else 2 * 2 ^ e
  if m % 2 == 0 then 4 * (m * 2 ^ e) ≤ 4 * k + below && 4 * k ≤ 4 * (m * 2 ^ e) + 2 * 2 ^ e
  else 4 * (m * 2 ^ e) < 4 * k + below && 4 * k < 4 * (m * 2 ^ e) + 2 * 2 ^ e

theorem isInside_iff : isInside m e k = true ↔ Inside m e k := by
  have below : (if m == 2 ^ 52 then 2 ^ e else 2 * 2 ^ e) = if m = 2 ^ 52 then 2 ^ e else 2 * 2 ^ e := by
    simp only [beq_iff_eq]
  rw [isInside, below]
  split
  next even =>
    rw [beq_iff_eq] at even
    rw [Bool.and_eq_true, decide_eq_true_eq, decide_eq_true_eq]
    exact ⟨fun ⟨low, high⟩ => ⟨low, high, fun _ => even⟩, fun ⟨low, high, _⟩ => ⟨low, high⟩⟩
  next odd =>
    rw [beq_iff_eq] at odd
    rw [Bool.and_eq_true, decide_eq_true_eq, decide_eq_true_eq]
    refine ⟨fun ⟨low, high⟩ => ⟨low.le, high.le, fun tie => ?_⟩, fun ⟨low, high, even⟩ => ⟨?_, ?_⟩⟩
    · omega
    · exact lt_of_le_of_ne low fun tie => odd (even (.inl tie))
    · exact lt_of_le_of_ne high fun tie => odd (even (.inr tie))

theorem denominator_whole (m e : Nat) : Binary.denominator ⟨m, e⟩ = 1 := by
  have none : (-(e : Int)).toNat = 0 := by omega
  rw [Binary.denominator, none]

theorem onGrid_eq (m e g : Nat) : onGrid ⟨m, e⟩ g =
    let low := m * 2 ^ e / 10 ^ g
    let lowGap := 4 * (m * 2 ^ e) - 4 * (low * 10 ^ g)
    let highGap := 4 * ((low + 1) * 10 ^ g) - 4 * (m * 2 ^ e)
    if low != 0 && isInside m e (low * 10 ^ g) then
      if isInside m e ((low + 1) * 10 ^ g) && (highGap < lowGap || (highGap == lowGap && low % 2 == 1)) then some (low + 1)
      else some low
    else if isInside m e ((low + 1) * 10 ^ g) then some (low + 1)
    else none := by
  have power : Binary.isPowerStep ⟨m, e⟩ = (m == 2 ^ 52) := by
    have other : ((e : Int) != -1074) = true := bne_iff_ne.mpr (by omega)
    rw [Binary.isPowerStep, other, Bool.and_true]
    rfl
  have numerator : Binary.numerator ⟨m, e⟩ = m * 2 ^ e := rfl
  have none : (-(g : Int)).toNat = 0 := by omega
  have low : 4 * (m * 2 ^ e) / (4 * 10 ^ g) = m * 2 ^ e / 10 ^ g := Nat.mul_div_mul_left _ _ (by decide)
  simp only [onGrid, isInside, numerator, denominator_whole, none, power, Int.toNat_natCast, Nat.pow_eq, Nat.pow_zero,
    Nat.mul_one, low, Nat.mul_assoc]
  rfl

theorem onGrid_inside (found : onGrid ⟨m, e⟩ g = some c) : Inside m e (c * 10 ^ g) := by
  rw [onGrid_eq] at found
  dsimp only at found
  split at found
  next near =>
    split at found
    next far =>
      cases found
      exact isInside_iff.mp (Bool.and_eq_true_iff.mp far).1
    next =>
      cases found
      exact isInside_iff.mp (Bool.and_eq_true_iff.mp near).2
  next =>
    split at found
    next far =>
      cases found
      exact isInside_iff.mp far
    next => cases found

theorem onGrid_none (full : Full m e) (missed : onGrid ⟨m, e⟩ g = none) (c : Nat) : ¬ Inside m e (c * 10 ^ g) := by
  intro inside
  have reached : m * 2 ^ e / 10 ^ g * 10 ^ g ≤ m * 2 ^ e := Nat.div_mul_le_self ..
  have passed : m * 2 ^ e ≤ (m * 2 ^ e / 10 ^ g + 1) * 10 ^ g := by
    have unit : 0 < 10 ^ g := Nat.pow_pos (by decide)
    rw [Nat.mul_comm (_ + 1)]
    exact (Nat.lt_mul_div_succ _ unit).le
  rw [onGrid_eq] at missed
  dsimp only at missed
  generalize m * 2 ^ e / 10 ^ g = low at *
  obtain ⟨lowMissed, highMissed⟩ := choice_eq_none missed
  rcases Nat.lt_or_ge low c with beyond | within
  · have later : (low + 1) * 10 ^ g ≤ c * 10 ^ g := Nat.mul_le_mul_right _ beyond
    rw [isInside_iff.mpr (inside.nearer (.inr ⟨passed, later⟩))] at highMissed
    cases highMissed
  · have earlier : c * 10 ^ g ≤ low * 10 ^ g := Nat.mul_le_mul_right _ within
    rw [isInside_iff.mpr (inside.nearer (.inl ⟨earlier, reached⟩)), Bool.and_true, bne_eq_false_iff_eq] at lowMissed
    obtain rfl : c = 0 := by omega
    have long := inside.long full
    rw [Nat.zero_mul] at long
    cases long

theorem onGrid_multiple (multiple : m * 2 ^ e = c * 10 ^ g) (positive : 0 < c) : onGrid ⟨m, e⟩ g = some c := by
  have unit : 0 < 10 ^ g := Nat.pow_pos (by decide)
  have low : c * 10 ^ g / 10 ^ g = c := Nat.mul_div_cancel _ unit
  have next : (c + 1) * 10 ^ g = c * 10 ^ g + 10 ^ g := Nat.succ_mul ..
  have inside : isInside m e (c * 10 ^ g) = true := by
    rw [isInside_iff, ← multiple]
    exact Inside.refl m e
  have some : (c != 0) = true := bne_iff_ne.mpr positive.ne'
  have far : 4 * ((c + 1) * 10 ^ g) - 4 * (c * 10 ^ g) ≠ 0 := by omega
  rw [onGrid_eq]
  simp only [multiple, low, inside, some, Nat.sub_self, Nat.not_lt_zero, decide_false, beq_false_of_ne far, Bool.false_and,
    Bool.or_false, Bool.and_false, Bool.and_true, if_true, Bool.false_eq_true, if_false]

end Grids

section Digits

variable {b : Binary} {lead : Int} {m e : Nat}

theorem shortestFrom_first {j k fuel : Nat} (found : onGrid b (lead - j) ≠ none) (start : k ≤ j) (room : j < k + fuel) :
    ∃ i c : Nat, i ≤ j ∧ shortestFrom b lead k fuel = ⟨c, lead - i⟩ ∧ onGrid b (lead - i) = some c ∧
      ∀ h : Nat, k ≤ h → h < i → onGrid b (lead - h) = none := by
  induction fuel generalizing k with
  | zero => omega
  | succ fuel ih =>
    rw [shortestFrom]
    cases here : onGrid b (lead - k) with
    | some c => exact ⟨k, c, start, rfl, here, by omega⟩
    | none =>
      have later : k ≠ j := by
        rintro rfl
        exact found here
      obtain ⟨i, c, most, digits, hit, missed⟩ := ih (k := k + 1) (by omega) (by omega)
      refine ⟨i, c, most, digits, hit, fun h least less => ?_⟩
      rcases Nat.eq_or_lt_of_le least with rfl | beyond
      · exact here
      · exact missed h beyond less

theorem floorLog10_whole {n : Nat} (some : 0 < n) (small : n < 2 ^ 63) :
    ∃ lead : Nat, floorLog10 n 1 = lead ∧ 10 ^ lead ≤ n ∧ n < 10 ^ (lead + 1) := by
  have digits : n.log2 < 63 := (Nat.log2_lt some.ne').mpr small
  have range : -1074 ≤ bits n 1 ∧ bits n 1 ≤ 1024 := by
    have one : Nat.log2 1 = 0 := rfl
    rw [bits, one]
    omega
  obtain ⟨low, high⟩ := floorLog10_bounds some Nat.one_pos range.1 range.2
  rw [Nat.cast_one, div_one] at low high
  have least : (1 : ℚ) ≤ n := by exact_mod_cast some
  have whole : 0 ≤ floorLog10 n 1 := by
    by_contra below
    have : (10 : ℚ) ^ (floorLog10 n 1 + 1) ≤ 1 := zpow_le_one_of_nonpos₀ (by norm_num) (by omega)
    linarith
  obtain ⟨lead, same⟩ := Int.eq_ofNat_of_zero_le whole
  rw [same] at low high
  exact ⟨lead, same, by exact_mod_cast low, by exact_mod_cast high⟩

theorem exponent_of_word (full : Full m e) (small : m * 2 ^ e < 2 ^ 63) : e < 11 := by
  have floor : 2 ^ 52 * 2 ^ e ≤ m * 2 ^ e := Nat.mul_le_mul_right _ full.least
  exact (Nat.pow_lt_pow_iff_right (a := 2) (by decide)).mp (by omega)

theorem exists_onGrid (full : Full m e) (small : e < 11) {lead : Nat} (least : 10 ^ lead ≤ m * 2 ^ e) :
    ∃ j : Nat, j ≤ 16 ∧ j ≤ lead ∧ onGrid ⟨m, e⟩ (lead - j) ≠ none := by
  obtain ⟨low, high, -⟩ := full
  have positive : 0 < m := by omega
  by_cases short : lead ≤ 16
  · have place : (lead : Int) - lead = (0 : Nat) := by omega
    have found := onGrid_multiple (g := 0) (Nat.mul_one (m * 2 ^ e)).symm (Nat.mul_pos positive (Nat.two_pow_pos e))
    rw [← place] at found
    exact ⟨lead, short, le_refl _, Option.ne_none_iff_exists'.mpr ⟨_, found⟩⟩
  · obtain ⟨g, rfl⟩ : ∃ g, lead = 16 + g := ⟨lead - 16, by omega⟩
    have place : ((16 + g : Nat) : Int) - (16 : Nat) = g := by omega
    refine ⟨16, le_refl _, by omega, ?_⟩
    rw [place]
    have range : -1074 ≤ (e : Int) ∧ (e : Int) ≤ 972 := by omega
    refine onGrid_ne_none ⟨high, range.1, range.2⟩ positive ?_
    rw [Nat.pow_add] at least
    have none : (-(g : Int)).toNat = 0 := by omega
    rw [none, denominator_whole, Nat.pow_zero, Nat.mul_one, Nat.mul_one]
    exact least

theorem eq_of_inside {lead c c' : Nat} (full : Full m e) (most : m * 2 ^ e < 10 ^ (lead + 1))
    (first : Inside m e (c * 10 ^ lead)) (second : Inside m e (c' * 10 ^ lead)) : c = c' := by
  have step : 2 ^ e < 10 ^ lead := by
    have floor : 2 ^ 52 * 2 ^ e ≤ m * 2 ^ e := Nat.mul_le_mul_right _ full.least
    rw [Nat.pow_succ] at most
    omega
  have unit : 0 < 10 ^ lead := Nat.pow_pos (by decide)
  have le {a b : Nat} (first : Inside m e (a * 10 ^ lead)) (second : Inside m e (b * 10 ^ lead)) : b ≤ a := by
    have apart := first.apart second
    by_contra more
    have : (a + 1) * 10 ^ lead ≤ b * 10 ^ lead := Nat.mul_le_mul_right _ (by omega)
    rw [Nat.succ_mul] at this
    omega
  exact Nat.le_antisymm (le second first) (le first second)

/-- Of the whole numbers that read back as a double, its digits are those of one that ends in the most zeros; it is the
double itself where that ends in as many. -/
theorem shortest_whole (full : Full m e) (small : m * 2 ^ e < 2 ^ 63) :
    ∃ c g : Nat, shortest ⟨m, e⟩ = strip ⟨c, g⟩ 20 ∧ Inside m e (c * 10 ^ g) ∧
      (∀ k j, Inside m e k → 10 ^ j ∣ k → 10 ^ j ∣ c * 10 ^ g) ∧
      (10 ^ g ∣ m * 2 ^ e → c * 10 ^ g = m * 2 ^ e) := by
  have long := (Inside.refl m e).long full
  have filled : 0 < m * 2 ^ e := by omega
  obtain ⟨lead, place, least, most⟩ := floorLog10_whole filled small
  obtain ⟨j, few, within, found⟩ := exists_onGrid full (exponent_of_word full small) least
  obtain ⟨i, c, early, digits, hit, missed⟩ :=
    shortestFrom_first found (Nat.zero_le j) (by omega : j < 0 + 17)
  obtain ⟨g, rfl⟩ : ∃ g, lead = i + g := ⟨lead - i, by omega⟩
  have grid : ((i + g : Nat) : Int) - i = g := by omega
  rw [grid] at digits hit
  have inside := onGrid_inside hit
  refine ⟨c, g, ?_, inside, fun k j reads multiple => ?_, fun multiple => ?_⟩
  · have numerator : Binary.numerator ⟨m, e⟩ = m * 2 ^ e := rfl
    have whole : Binary.toNat? ⟨m, e⟩ = some (m * 2 ^ e) := by
      rw [Binary.toNat?, numerator, denominator_whole, Nat.mod_one, Nat.div_one]
      rfl
    have positive : m ≠ 0 := by
      rintro rfl
      omega
    rw [shortest, whole, numerator, denominator_whole, place, ← digits, beq_false_of_ne positive]
    exact if_neg (Nat.not_lt.mpr long)
  · rcases Nat.lt_or_ge g j with fine | coarse
    · rcases Nat.eq_zero_or_pos i with rfl | later
      · obtain ⟨c', rfl⟩ := (pow_dvd_pow 10 fine.le).trans multiple
        rw [Nat.mul_comm] at reads multiple
        obtain rfl := eq_of_inside full (by rwa [Nat.zero_add] at most) inside reads
        exact multiple
      · have earlier : ∃ h : Nat, h < i ∧ i + g - h ≤ j := ⟨i + g - min j (i + g), by omega, by omega⟩
        obtain ⟨h, before, finer⟩ := earlier
        obtain ⟨c', rfl⟩ := (pow_dvd_pow 10 finer).trans multiple
        rw [Nat.mul_comm] at reads
        have coarse : ((i + g : Nat) : Int) - h = (i + g - h : Nat) := by omega
        have empty := missed h (Nat.zero_le h) before
        rw [coarse] at empty
        exact absurd reads (onGrid_none full empty c')
    · exact (pow_dvd_pow 10 coarse).trans (Nat.dvd_mul_left _ _)
  · obtain ⟨c', whole⟩ := multiple
    rw [Nat.mul_comm (10 ^ g)] at whole
    have positive : 0 < c' := by
      refine Nat.pos_of_ne_zero fun zero => ?_
      rw [whole, zero, Nat.zero_mul] at filled
      exact filled.false
    have same := hit.symm.trans (onGrid_multiple whole positive)
    rw [whole, Option.some.inj same]

end Digits

end Decimal

namespace Double

section Roundest

variable {x y : Float} {s : Sign} {m e n : Nat} {d : Int} {positive : 0 < m}

structure Roundest (x : Float) (k : Int) : Prop where
  reads : (ofWhole k == x) = true
  zeros : ∀ (k' : Int) (j : Nat), (ofWhole k' == x) = true → 10 ^ j ∣ k' → 10 ^ j ∣ k

def signed : Sign → Nat → Int
  | .positive, n => n
  | .negative, n => -(n : Int)

theorem natAbs_signed (s : Sign) (n : Nat) : (signed s n).natAbs = n := by
  cases s <;> simp [signed]

theorem signed_signOf (k : Int) : signed (signOf k) k.natAbs = k := by
  rw [signOf]
  split <;> simp only [signed] <;> omega

theorem signOf_signed (s : Sign) (some : 0 < n) : signOf (signed s n) = s := by
  cases s with
  | positive => exact if_neg (Int.not_lt.mpr (Int.natCast_nonneg n))
  | negative => exact if_pos (by simp only [signed]; omega)

theorem value_iff (same : x.toModel.unpack = .finite s m d positive) (k : Int) :
    value x = k ↔ (m : ℚ) * 2 ^ d = k.natAbs ∧ k = signed s k.natAbs := by
  have nonneg : (0 : ℚ) ≤ m * 2 ^ d := by positivity
  have size : ((k.natAbs : Nat) : ℚ) = |(k : ℚ)| := by rw [Nat.cast_natAbs, Int.cast_abs]
  rw [size]
  cases s with
  | positive =>
    have shown : value x = m * 2 ^ d := by rw [value, same]
    rw [shown, signed, Int.natCast_natAbs]
    constructor
    · intro whole
      rw [whole] at nonneg ⊢
      have above : 0 ≤ k := by exact_mod_cast nonneg
      exact ⟨(abs_of_nonneg nonneg).symm, (abs_of_nonneg above).symm⟩
    · rintro ⟨whole, above⟩
      rw [whole, ← Int.cast_abs, ← above]
  | negative =>
    have shown : value x = -(m * 2 ^ d) := by rw [value, same]
    rw [shown, signed, Int.natCast_natAbs, neg_eq_iff_eq_neg]
    constructor
    · intro whole
      rw [whole] at nonneg ⊢
      have below : k ≤ 0 := by
        have : (k : ℚ) ≤ 0 := by linarith
        exact_mod_cast this
      rw [abs_of_nonpos below, neg_neg]
      exact ⟨(abs_of_nonpos (by linarith)).symm, rfl⟩
    · rintro ⟨whole, below⟩
      rw [whole, ← Int.cast_abs, ← Int.cast_neg]
      congr 1
      omega

theorem render_signed {l : Layout} {body : Nat} (same : x.toModel.unpack = .finite s m d positive)
    (digits : (Decimal.shortest ⟨m, d⟩).render l = Nat.toDigits 10 body) (some : 0 < body) :
    render l x = toString (signed s body) := by
  obtain ⟨parts, sign⟩ := ofFloat_of_unpack same
  have told : toString (signed s body) = String.ofList (Json.intText (signed s body)) := by
    rw [Json.intText, String.ofList_toList]
  rw [told, render, parts, sign, digits]
  cases s with
  | positive =>
    have whole : signed .positive body = Int.ofNat body := rfl
    rw [whole, Json.Reading.intText_ofNat]
    rfl
  | negative =>
    obtain ⟨body, rfl⟩ := Nat.exists_eq_add_one_of_ne_zero some.ne'
    have whole : signed .negative (body + 1) = Int.negSucc body := rfl
    rw [whole, Json.Reading.intText_negSucc]
    rfl

theorem some_of_whole (positive : 0 < m) (whole : (m : ℚ) * 2 ^ d = n) : 0 < n := by
  have filled : (0 : ℚ) < m * 2 ^ d := by positivity
  rw [whole] at filled
  exact_mod_cast filled

theorem reads_short (same : x.toModel.unpack = .finite s m d positive) (whole : (m : ℚ) * 2 ^ d = n) (small : n < 2 ^ 53)
    (k : Int) : (ofWhole k == x) = true ↔ k = signed s n := by
  have some := some_of_whole positive whole
  have itself := unpack_ofWhole some small
  obtain ⟨rfl, rfl⟩ := parts_of_short same whole small
  rw [beq_iff_unpack same, unpack_ofWhole_iff]
  constructor
  · rintro ⟨rfl, reads⟩
    have short : k.natAbs < 2 ^ 53 := by
      by_contra long
      obtain ⟨e, place, full, -⟩ := inside_of_long (by omega) reads
      have := full.some
      omega
    have filled : 0 < k.natAbs := by
      refine Nat.pos_of_ne_zero fun zero => ?_
      rw [zero] at reads
      cases unpack_ofWhole_zero.symm.trans reads
    have again := toNat?_filled k.natAbs
    rw [unpack_ofWhole filled short] at reads
    obtain ⟨-, parts, place⟩ := UnpackedFloat.finite.inj reads
    rw [parts, place, toNat?_filled] at again
    rw [Option.some.inj again, signed_signOf]
  · rintro rfl
    rw [natAbs_signed]
    exact ⟨signOf_signed s some, itself⟩

end Roundest

end Double

namespace Primitive

open Double

section Numbers

variable {x : Float} {s : Sign} {m n : Nat} {d k : Int} {positive : 0 < m}

theorem numberText_of_reads (same : x.toModel.unpack = .finite s m d positive) (reads : (ofWhole k == x) = true)
    (small : k.natAbs ≤ 2 ^ 53) : numberText x = toString k := by
  have other := (beq_iff_unpack same).mp reads
  rw [← numberText_ofWhole small, numberText_of_finite same, numberText_of_finite other, render, render,
    (ofFloat_of_unpack same).1, (ofFloat_of_unpack other).1, (ofFloat_of_unpack same).2, (ofFloat_of_unpack other).2]

section Whole

variable (same : x.toModel.unpack = .finite s m d positive) (whole : (m : ℚ) * 2 ^ d = n)
include same whole

theorem numberText_short (small : n < 2 ^ 53) : numberText x = toString (signed s n) ∧ Roundest x (signed s n) := by
  have reads := reads_short same whole small
  refine ⟨numberText_of_reads same ((reads _).mpr rfl) ?_, (reads _).mpr rfl, fun k j reading multiple => ?_⟩
  · rw [natAbs_signed]
    exact small.le
  · rwa [(reads k).mp reading] at multiple

theorem numberText_long (long : 2 ^ 53 ≤ n) (small : n < 2 ^ 63) : ∃ k : Int,
    numberText x = toString k ∧ Roundest x k ∧ (Roundest x (signed s n) → k = signed s n) ∧
      (ofWhole (signed s n) == x) = true := by
  obtain ⟨e, rfl, full, rfl⟩ := parts_of_long same whole long
  obtain ⟨c, g, digits, inside, zeros, itself⟩ := Decimal.shortest_whole full small
  have some : 0 < c * 10 ^ g := by
    have := inside.long full
    omega
  have short : c * 10 ^ g < 10 ^ 21 := by
    have := (Inside.refl m e).apart inside
    have : 2 ^ e ≤ m * 2 ^ e := Nat.le_mul_of_pos_left _ positive
    omega
  have text : (Decimal.shortest ⟨m, e⟩).render .positional = Nat.toDigits 10 (c * 10 ^ g) := by
    rw [digits]
    exact Decimal.render_whole Layout.positional_isWhole (Nat.pos_of_mul_pos_right some) short 20
  have reads := reads_iff same full (by have := Decimal.exponent_of_word full small; omega)
  have reading {n : Nat} (some : 0 < n) (inside : Inside m e n) : (ofWhole (signed s n) == x) = true := by
    rw [reads, natAbs_signed]
    exact ⟨signOf_signed s some, inside⟩
  have divides (j : Nat) (k : Int) : 10 ^ j ∣ k ↔ 10 ^ j ∣ k.natAbs := by
    rw [← Int.natAbs_dvd_natAbs, Int.natAbs_pow]
    rfl
  refine ⟨signed s (c * 10 ^ g), (numberText_of_finite same).trans (render_signed same text some),
    ⟨reading some inside, fun k j again multiple => ?_⟩, fun round => ?_, reading (by omega) (.refl m e)⟩
  · rw [divides] at multiple
    rw [divides, natAbs_signed]
    exact zeros k.natAbs j ((reads k).mp again).2 multiple
  · have multiple : (10 : Int) ^ g ∣ signed s (c * 10 ^ g) := by
      rw [divides, natAbs_signed]
      exact Nat.dvd_mul_left ..
    have ends := round.zeros _ g (reading some inside) multiple
    rw [divides, natAbs_signed] at ends
    rw [itself ends]

end Whole

theorem numberText_whole (finite : x.isFinite) (whole : value x = k) (small : k.natAbs < 2 ^ 63) : ∃ shown : Int,
    numberText x = toString shown ∧ Roundest x shown ∧ (Roundest x k → shown = k) ∧ (k.natAbs ≤ 2 ^ 53 → shown = k) := by
  change x.toModel.unpack.isFinite = true at finite
  cases same : x.toModel.unpack with
  | notANumber =>
    rw [same] at finite
    cases finite
  | infinity s =>
    rw [same] at finite
    cases finite
  | zero s =>
    have zero : value x = (0 : Int) := by
      rw [value, same]
      rfl
    obtain rfl : k = 0 := by
      rw [zero] at whole
      exact_mod_cast whole.symm
    have number : x.isNaN = false := by
      change x.toModel.unpack.isNaN = false
      rw [same]
      rfl
    have bounded : x.isInf = false := by
      change x.toModel.unpack.isInf = false
      rw [same]
      rfl
    have nothing : (x == 0.0) = true := by
      change x.toModel.unpack.beq (0.0 : Float).toModel.unpack = true
      rw [same]
      cases s <;> rfl
    have reads : (ofWhole 0 == x) = true := by
      change (ofWhole 0).toModel.unpack.beq x.toModel.unpack = true
      rw [same]
      cases s <;> rfl
    have text : numberText x = toString (0 : Int) := by
      rw [numberText, number, bounded, nothing]
      rfl
    exact ⟨0, text, ⟨reads, fun _ _ _ _ => Int.dvd_zero _⟩, fun _ => rfl, fun _ => rfl⟩
  | finite s m d positive =>
    obtain ⟨size, sign⟩ := (value_iff same k).mp whole
    rcases Nat.lt_or_ge k.natAbs (2 ^ 53) with short | long
    · obtain ⟨text, round⟩ := numberText_short same size short
      rw [← sign] at text round
      exact ⟨k, text, round, fun _ => rfl, fun _ => rfl⟩
    · obtain ⟨shown, text, round, itself, reads⟩ := numberText_long same size long small
      rw [← sign] at itself reads
      refine ⟨shown, text, round, itself, fun few => ?_⟩
      exact Int.repr_injective (text.symm.trans (numberText_of_reads same reads few))

end Numbers

/-- A whole number below `2 ^ 63` is that integer in a document, what else is finite itself, and what is not is null. The
text of the integer is the text that is shown unless some other whole number reads back as the double and ends in more
zeros, which none does up to `2 ^ 53`. -/
theorem number_outputs (x : Float) :
    (x.isFinite = false → numberJson x = .null) ∧
      (∀ n : Int, x.isFinite → value x = n → n.natAbs < 2 ^ 63 →
        numberJson x = .int n ∧ Json.render (numberJson x) = toString n ∧
          (∃ shown : Int, numberText x = toString shown ∧ Roundest x shown) ∧
          (numberText x = Json.render (numberJson x) ↔ Roundest x n) ∧
          (n.natAbs ≤ 2 ^ 53 → numberText x = Json.render (numberJson x))) ∧
      (x.isFinite → (∀ n : Int, value x = n → 2 ^ 63 ≤ n.natAbs) → numberJson x = .float x) := by
  refine ⟨fun infinite => ?_, fun n finite whole small => ?_, fun finite other => ?_⟩
  · rw [numberJson, toInt?, infinite]
    rfl
  · have json : numberJson x = .int n := by
      rw [numberJson, (toInt?_iff finite n).mpr whole]
      exact if_pos small
    have rendered : Json.render (numberJson x) = toString n := by
      rw [json, Json.render, Json.compact, Json.intText, String.ofList_toList]
    obtain ⟨shown, text, round, itself, exact⟩ := numberText_whole finite whole small
    rw [rendered, text]
    refine ⟨json, rfl, ⟨shown, rfl, round⟩, ⟨fun same => ?_, fun round => by rw [itself round]⟩, fun few => by rw [exact few]⟩
    obtain rfl := Int.repr_injective same
    exact round
  · cases read : toInt? x with
    | none =>
      rw [numberJson, read]
      exact if_pos finite
    | some n =>
      rw [numberJson, read]
      exact if_neg (Nat.not_lt.mpr (other n ((toInt?_iff finite n).mp read)))

def lastWord : Float :=
  ofWhole 9223372036854774784

def pastWords : Float :=
  ofWhole 9223372036854775808

theorem value_lastWord : value lastWord = (9223372036854774784 : Int) :=
  (toInt?_iff (by decide) _).mp (by decide)

theorem number_outputs_edge : numberJson Script.Number.nan = .null ∧ numberJson lastWord = .int 9223372036854774784 ∧
    numberJson pastWords = .float pastWords := by
  refine ⟨(number_outputs _).1 (by decide),
    ((number_outputs lastWord).2.1 _ (by decide) value_lastWord (by decide)).1,
    (number_outputs pastWords).2.2 (by decide) fun n whole => ?_⟩
  have read := (toInt?_iff (by decide) n).mpr whole
  have same : toInt? pastWords = some 9223372036854775808 := by decide
  obtain rfl := Option.some.inj (same.symm.trans read)
  decide

theorem numberText_lastWord : ∃ n : Int, lastWord.isFinite ∧ value lastWord = n ∧ n.natAbs < 2 ^ 63 ∧
    Json.render (numberJson lastWord) = "9223372036854774784" ∧ numberText lastWord = "9223372036854775000" :=
  ⟨_, by decide, value_lastWord, by decide, by decide, by decide⟩

end Primitive
end BoundedScript
