import Mathlib.Algebra.Order.Field.Power
import Mathlib.Data.Nat.Digits.Defs
import Mathlib.Data.Nat.Log
import Mathlib.Data.Rat.Cast.Order
import Mathlib.Tactic.FieldSimp
import Mathlib.Tactic.Linarith
import Mathlib.Tactic.NormNum
import Mathlib.Tactic.SplitIfs
import BoundedScript.Decimal.Layout

set_option autoImplicit false

namespace BoundedScript

namespace Binary

structure OfDouble (b : Binary) : Prop where
  short : b.significand < 0x20_0000_0000_0000
  low : -1074 ≤ b.exponent
  high : b.exponent ≤ 972

theorem ofBits_ofDouble (bits : UInt64) : (ofBits bits).OfDouble := by
  have fraction : bits.toNat % 0x10_0000_0000_0000 < 0x10_0000_0000_0000 := Nat.mod_lt _ (by decide)
  have biased : bits.toNat / 0x10_0000_0000_0000 % 2048 < 2048 := Nat.mod_lt _ (by decide)
  simp only [ofBits]
  split
  · exact ⟨by simp only; omega, Int.le_refl _, by simp only; omega⟩
  next nonzero =>
    simp only [beq_iff_eq] at nonzero
    exact ⟨by simp only; omega, by simp only; omega, by simp only; omega⟩

theorem denominator_pos (b : Binary) : 0 < b.denominator :=
  Nat.pow_pos (by decide)

theorem numerator_pos {b : Binary} (positive : 0 < b.significand) : 0 < b.numerator :=
  Nat.mul_pos positive (Nat.pow_pos (by decide))

end Binary

namespace Decimal

section Powers

def PowerLe (a : Nat) (m : Int) (b : Nat) (n : Int) : Prop :=
  a ^ m.toNat * b ^ (-n).toNat ≤ b ^ n.toNat * a ^ (-m).toNat

instance (a : Nat) (m : Int) (b : Nat) (n : Int) : Decidable (PowerLe a m b n) :=
  Nat.decLe _ _

theorem zpow_eq_div {a : Nat} (positive : 0 < a) (m : Int) :
    (a : ℚ) ^ m = (a : ℚ) ^ m.toNat / (a : ℚ) ^ (-m).toNat := by
  have nonzero : (a : ℚ) ≠ 0 := by exact_mod_cast positive.ne'
  cases m with
  | ofNat n => simp
  | negSucc n => simp [zpow_negSucc]

theorem PowerLe.zpow_le {a b : Nat} {m n : Int} (le : PowerLe a m b n) (posA : 0 < a) (posB : 0 < b) :
    (a : ℚ) ^ m ≤ (b : ℚ) ^ n := by
  have posA' : (0 : ℚ) < (a : ℚ) ^ (-m).toNat := by positivity
  have posB' : (0 : ℚ) < (b : ℚ) ^ (-n).toNat := by positivity
  rw [zpow_eq_div posA, zpow_eq_div posB, div_le_div_iff₀ posA' posB']
  exact_mod_cast le

/-- The grid of multiples of `10 ^ e` in whole numbers: how `10 ^ (e + k)` and a quotient compare. -/
theorem grid_le_iff (numerator : Nat) {denominator : Nat} (positive : 0 < denominator) (e : Int) (k : Nat) :
    (10 : ℚ) ^ (e + k) ≤ numerator / denominator ↔
      10 ^ k * (10 ^ e.toNat * denominator) ≤ numerator * 10 ^ (-e).toNat := by
  have split : (10 : ℚ) ^ (e + k) = 10 ^ k * 10 ^ e.toNat / 10 ^ (-e).toNat := by
    have power := zpow_eq_div (a := 10) (by decide) e
    push_cast at power
    rw [zpow_add₀ (by norm_num), zpow_natCast, power]
    ring
  have posScale : (0 : ℚ) < 10 ^ (-e).toNat := by positivity
  have posDenominator : (0 : ℚ) < denominator := by exact_mod_cast positive
  rw [split, div_le_div_iff₀ posScale posDenominator, mul_assoc]
  norm_cast

end Powers

section Lead

variable {numerator denominator : Nat}

def bits (numerator denominator : Nat) : Int :=
  (Nat.log2 numerator : Int) - Nat.log2 denominator

def estimate (bits : Int) : Int :=
  bits * 30103 / 100000

-- Over all bits that a double can have the estimate is off by two at most, a bit to either side included.
theorem estimate_sweep : ∀ k : Nat, k < 2100 →
    PowerLe 10 (estimate (k - 1075) - 2) 2 (k - 1075 - 1) ∧
      PowerLe 2 (k - 1075 + 1) 10 (estimate (k - 1075) + 3) := by
  -- The kernel alone works the powers out fast.
  decide +kernel

theorem estimate_bounds {n : Int} (low : -1074 ≤ n) (high : n ≤ 1024) :
    (10 : ℚ) ^ (estimate n - 2) ≤ 2 ^ (n - 1) ∧ (2 : ℚ) ^ (n + 1) ≤ 10 ^ (estimate n + 3) := by
  have index : ((n + 1075).toNat : Int) - 1075 = n := by omega
  have sweep := estimate_sweep (n + 1075).toNat (by omega)
  rw [index] at sweep
  exact ⟨by exact_mod_cast sweep.1.zpow_le (by decide) (by decide),
    by exact_mod_cast sweep.2.zpow_le (by decide) (by decide)⟩

theorem bits_bounds (posN : 0 < numerator) (posD : 0 < denominator) :
    (2 : ℚ) ^ (bits numerator denominator - 1) ≤ numerator / denominator ∧
      (numerator : ℚ) / denominator < 2 ^ (bits numerator denominator + 1) := by
  have lowN : ((2 : ℚ) ^ numerator.log2) ≤ numerator := by exact_mod_cast Nat.log2_self_le posN.ne'
  have highN : (numerator : ℚ) < 2 ^ (numerator.log2 + 1) := by exact_mod_cast Nat.lt_log2_self
  have lowD : ((2 : ℚ) ^ denominator.log2) ≤ denominator := by exact_mod_cast Nat.log2_self_le posD.ne'
  have highD : (denominator : ℚ) < 2 ^ (denominator.log2 + 1) := by exact_mod_cast Nat.lt_log2_self
  have posD' : (0 : ℚ) < denominator := by exact_mod_cast posD
  have below : bits numerator denominator - 1 =
      (numerator.log2 : Int) - ((denominator.log2 + 1 : Nat) : Int) := by
    rw [bits]
    omega
  have above : bits numerator denominator + 1 =
      ((numerator.log2 + 1 : Nat) : Int) - (denominator.log2 : Int) := by
    rw [bits]
    omega
  have two : (2 : ℚ) ≠ 0 := by norm_num
  constructor
  · rw [below, zpow_sub₀ two, zpow_natCast, zpow_natCast]
    exact div_le_div₀ (by positivity) lowN posD' highD.le
  · rw [above, zpow_sub₀ two, zpow_natCast, zpow_natCast]
    exact div_lt_div₀ highN lowD (by positivity) (by positivity)

theorem floorLog10_bounds (posN : 0 < numerator) (posD : 0 < denominator)
    (low : -1074 ≤ bits numerator denominator) (high : bits numerator denominator ≤ 1024) :
    (10 : ℚ) ^ floorLog10 numerator denominator ≤ numerator / denominator ∧
      (numerator : ℚ) / denominator < 10 ^ (floorLog10 numerator denominator + 1) := by
  obtain ⟨powerLow, powerHigh⟩ := estimate_bounds low high
  obtain ⟨bitsLow, bitsHigh⟩ := bits_bounds posN posD
  have reaches : ∀ e : Int, denominator * Nat.pow 10 e.toNat ≤ numerator * Nat.pow 10 (-e).toNat ↔
      (10 : ℚ) ^ e ≤ numerator / denominator := by
    intro e
    have grid := grid_le_iff numerator posD e 0
    rw [Nat.cast_zero, add_zero, pow_zero, one_mul, Nat.mul_comm _ denominator] at grid
    exact grid.symm
  have least : (10 : ℚ) ^ (estimate (bits numerator denominator) - 2) ≤ numerator / denominator :=
    powerLow.trans bitsLow
  have most : (numerator : ℚ) / denominator < 10 ^ (estimate (bits numerator denominator) + 3) :=
    bitsHigh.trans_le powerHigh
  have expected : ((numerator.log2 : Int) - denominator.log2) * 30103 / 100000 =
      estimate (bits numerator denominator) := rfl
  simp only [floorLog10, decide_eq_true_eq, reaches, expected]
  split_ifs with second first here before
  · exact ⟨second, by rwa [add_assoc]⟩
  · exact ⟨first, by rw [add_assoc]; exact not_le.mp second⟩
  · exact ⟨here, not_le.mp first⟩
  · exact ⟨before, by rw [sub_add_cancel]; exact not_le.mp here⟩
  · have next : estimate (bits numerator denominator) - 2 + 1 = estimate (bits numerator denominator) - 1 := by
      omega
    exact ⟨least, by rw [next]; exact not_le.mp before⟩

theorem floorLog10_range (low : -1074 ≤ bits numerator denominator)
    (high : bits numerator denominator ≤ 1024) :
    -326 ≤ floorLog10 numerator denominator ∧ floorLog10 numerator denominator ≤ 310 := by
  rw [bits] at low high
  simp only [floorLog10]
  split_ifs <;> omega

end Lead

section Grid

variable {b : Binary}

theorem bits_range (double : b.OfDouble) (positive : 0 < b.significand) :
    -1074 ≤ bits b.numerator b.denominator ∧ bits b.numerator b.denominator ≤ 1024 := by
  obtain ⟨short, low, high⟩ := double
  have nonzero : b.numerator ≠ 0 := (Binary.numerator_pos positive).ne'
  have least : b.exponent.toNat ≤ b.numerator.log2 := by
    rw [Nat.le_log2 nonzero]
    exact Nat.le_mul_of_pos_left _ positive
  have most : b.numerator.log2 < 53 + b.exponent.toNat := by
    rw [Nat.log2_lt nonzero, pow_add]
    exact Nat.mul_lt_mul_of_pos_right short (Nat.pow_pos (by decide))
  have exact : b.denominator.log2 = (-b.exponent).toNat := Nat.log2_two_pow
  rw [bits, exact]
  omega

theorem onGrid_le {e : Int} {n k : Nat} (found : onGrid b e = some n)
    (below : b.numerator * 10 ^ (-e).toNat < 10 ^ k * (10 ^ e.toNat * b.denominator)) : n ≤ 10 ^ k := by
  have unit : 0 < 4 * (10 ^ e.toNat * b.denominator) := by
    have := b.denominator_pos
    positivity
  have low : 4 * b.numerator * 10 ^ (-e).toNat / (4 * (10 ^ e.toNat * b.denominator)) < 10 ^ k := by
    rw [Nat.div_lt_iff_lt_mul unit]
    linarith
  simp only [onGrid, Nat.pow_eq] at found
  split_ifs at found <;> cases found <;> omega

theorem choice_eq_none {α : Type} {near far beyond : Bool} {x y z : α}
    (missed : (if near then (if far then some x else some y) else if beyond then some z else none) = none) :
    near = false ∧ beyond = false := by
  cases near <;> cases far <;> cases beyond <;> simp at missed ⊢

theorem onGrid_ne_none {e : Int} (double : b.OfDouble) (positive : 0 < b.significand)
    (fine : 10 ^ 16 * (10 ^ e.toNat * b.denominator) ≤ b.numerator * 10 ^ (-e).toNat) :
    onGrid b e ≠ none := by
  intro missed
  have posUnit : 0 < 10 ^ e.toNat * b.denominator :=
    Nat.mul_pos (Nat.pow_pos (by decide)) b.denominator_pos
  have posStep : 0 < 2 ^ b.exponent.toNat * 10 ^ (-e).toNat := by positivity
  have short := double.short
  have value : 4 * b.numerator * 10 ^ (-e).toNat =
      4 * (b.significand * (2 ^ b.exponent.toNat * 10 ^ (-e).toNat)) := by
    rw [Binary.numerator, Nat.pow_eq]
    ring
  rw [Binary.numerator, Nat.pow_eq, Nat.mul_assoc] at fine
  obtain ⟨lowMissed, highMissed⟩ := choice_eq_none missed
  simp only [Nat.pow_eq, Bool.eq_false_iff, ne_eq, Bool.and_eq_true, bne_iff_ne, Bool.ite_eq_true_distrib,
    decide_eq_true_eq, value] at lowMissed highMissed
  -- From here on `step` is the distance to the next double and `unit` that of the grid.
  generalize 2 ^ b.exponent.toNat * 10 ^ (-e).toNat = step at *
  generalize 10 ^ e.toNat * b.denominator = unit at *
  have bound : b.significand * step ≤ 9007199254740991 * step := Nat.mul_le_mul_right _ (by omega)
  have power : b.isPowerStep = true → b.significand * step = 4503599627370496 * step := by
    intro power
    simp only [Binary.isPowerStep, Bool.and_eq_true, beq_iff_eq] at power
    rw [power.1]
  have reached : 4 * unit * (4 * (b.significand * step) / (4 * unit)) ≤ 4 * (b.significand * step) :=
    Nat.mul_div_le _ _
  have passed : 4 * (b.significand * step) < 4 * unit * (4 * (b.significand * step) / (4 * unit) + 1) :=
    Nat.lt_mul_div_succ _ (by omega)
  generalize 4 * (b.significand * step) / (4 * unit) = low at *
  generalize b.significand * step = whole at *
  have lowEdge : 4 * low * unit = 4 * unit * low := by ring
  have highEdge : 4 * (low + 1) * unit = 4 * unit * low + 4 * unit := by ring
  have positiveLow : ¬ low = 0 := by
    rintro rfl
    omega
  rw [Nat.mul_add_one] at passed
  rw [lowEdge] at lowMissed
  rw [highEdge] at highMissed
  generalize 4 * unit * low = edge at *
  -- Below a power of two only the upper neighbour is sure to be near enough.
  by_cases narrow : b.isPowerStep
  · have same := power narrow
    by_cases even : (b.significand % 2 == 0) = true <;>
      simp only [even, narrow, if_true, if_false, Bool.false_eq_true] at highMissed <;> omega
  · by_cases even : (b.significand % 2 == 0) = true <;>
      simp only [even, narrow, positiveLow, if_true, if_false, Bool.false_eq_true, not_false_eq_true,
        true_and] at lowMissed highMissed <;>
      omega

end Grid

structure Short (d : Decimal) : Prop where
  coefficient : d.coefficient < 10 ^ 17
  low : -400 ≤ d.exponent
  high : d.exponent ≤ 400

section Shortest

variable {b : Binary}

theorem strip_bounds (d : Decimal) (fuel : Nat) :
    (strip d fuel).coefficient ≤ d.coefficient ∧ d.exponent ≤ (strip d fuel).exponent ∧
      (strip d fuel).exponent ≤ d.exponent + fuel := by
  induction fuel generalizing d with
  | zero => simp [strip]
  | succ fuel ih =>
    rw [strip]
    split
    · obtain ⟨coefficient, low, high⟩ := ih ⟨d.coefficient / 10, d.exponent + 1⟩
      have less := Nat.div_le_self d.coefficient 10
      simp only at coefficient low high
      omega
    · omega

theorem strip_power (k fuel : Nat) (e : Int) (enough : k ≤ fuel) :
    (strip ⟨10 ^ k, e⟩ fuel).coefficient = 1 := by
  induction k generalizing e fuel with
  | zero => cases fuel <;> simp [strip]
  | succ k ih =>
    obtain ⟨fuel, rfl⟩ := Nat.exists_eq_add_one_of_ne_zero (Nat.ne_of_gt (Nat.lt_of_lt_of_le k.succ_pos enough))
    have tenth : (10 : Nat) ^ (k + 1) / 10 = 10 ^ k := by rw [Nat.pow_succ, Nat.mul_div_cancel _ (by decide)]
    rw [strip, if_pos, tenth]
    · exact ih fuel (e + 1) (by omega)
    · simp [Nat.pow_succ]

theorem shortestFrom_found (double : b.OfDouble) (positive : 0 < b.significand) {lead : Int}
    (least : (10 : ℚ) ^ lead ≤ b.numerator / b.denominator)
    (most : (b.numerator : ℚ) / b.denominator < 10 ^ (lead + 1)) {k fuel : Nat} (room : k + fuel = 16) :
    ∃ n j : Nat, j ≤ 16 ∧ n ≤ 10 ^ (j + 1) ∧ shortestFrom b lead k (fuel + 1) = ⟨n, lead - j⟩ := by
  have below : ∀ j : Nat, b.numerator * 10 ^ (-(lead - j)).toNat <
      10 ^ (j + 1) * (10 ^ (lead - j).toNat * b.denominator) := by
    intro j
    have exponent : lead - j + ((j + 1 : Nat) : Int) = lead + 1 := by omega
    rw [← not_le, ← grid_le_iff b.numerator b.denominator_pos, exponent]
    exact not_le.mpr most
  induction fuel generalizing k with
  | zero =>
    obtain rfl : k = 16 := room
    have exponent : lead - (16 : Nat) + (16 : Nat) = lead := by omega
    have fine := (grid_le_iff b.numerator b.denominator_pos (lead - (16 : Nat)) 16).mp
      (by rwa [exponent])
    obtain ⟨n, found⟩ := Option.ne_none_iff_exists'.mp (onGrid_ne_none double positive fine)
    exact ⟨n, 16, le_refl _, onGrid_le found (below 16), by rw [shortestFrom, found]⟩
  | succ fuel ih =>
    rw [shortestFrom]
    cases found : onGrid b (lead - k) with
    | some n => exact ⟨n, k, by omega, onGrid_le found (below k), rfl⟩
    | none => exact ih (by omega)

-- Seventeen nines may be rounded up; what is left of the power of ten is its one.
theorem strip_short {n : Nat} {e : Int} (digits : n ≤ 10 ^ 17) (low : -400 ≤ e) (high : e ≤ 380) :
    Short (strip ⟨n, e⟩ 20) := by
  obtain ⟨coefficient, least, most⟩ := strip_bounds ⟨n, e⟩ 20
  simp only at coefficient least most
  refine ⟨?_, by omega, by omega⟩
  rcases Nat.eq_or_lt_of_le digits with rfl | fewer
  · rw [strip_power 17 20 e (by decide)]
    decide
  · exact Nat.lt_of_le_of_lt coefficient fewer

theorem shortest_short (double : b.OfDouble) : Short (shortest b) := by
  have general (positive : 0 < b.significand) :
      Short (strip (shortestFrom b (floorLog10 b.numerator b.denominator) 0 17) 20) := by
    obtain ⟨low, high⟩ := bits_range double positive
    obtain ⟨least, most⟩ := floorLog10_bounds (Binary.numerator_pos positive) b.denominator_pos low high
    obtain ⟨leadLow, leadHigh⟩ := floorLog10_range low high
    obtain ⟨n, j, few, digits, found⟩ := shortestFrom_found double positive least most (Nat.zero_add 16)
    have power : (10 : Nat) ^ (j + 1) ≤ 10 ^ 17 := Nat.pow_le_pow_right (by decide) (by omega)
    rw [found]
    exact strip_short (digits.trans power) (by omega) (by omega)
  rw [shortest]
  split
  · exact ⟨by decide, by decide, by decide⟩
  next nonzero =>
    have positive : 0 < b.significand := Nat.pos_of_ne_zero fun zero => nonzero (beq_iff_eq.mpr zero)
    split
    next n whole =>
      split
      next small =>
        obtain ⟨coefficient, low, high⟩ := strip_bounds ⟨n, 0⟩ 16
        simp only at coefficient low high
        exact ⟨by omega, by omega, by omega⟩
      next => exact general positive
    next => exact general positive

end Shortest

section Text

variable {d : Decimal}

theorem Short.digits_length (short : Short d) : 0 < d.digits.length ∧ d.digits.length ≤ 17 :=
  ⟨Nat.length_toDigits_pos, Nat.toDigits_length 10 _ 17 (by decide) short.coefficient⟩

theorem exponentText_length {e : Int} (small : e.natAbs < 1000) : (exponentText e).length ≤ 5 := by
  have digits := Nat.toDigits_length 10 e.natAbs 3 (by decide) small
  simp only [exponentText, List.length_cons]
  omega

theorem positionalText_length (short : Short d) (low : -5 ≤ d.leadExponent) (high : d.leadExponent ≤ 15)
    (pointZero : Bool) : (d.positionalText pointZero).length ≤ 23 := by
  obtain ⟨some, few⟩ := short.digits_length
  have zero : (if pointZero then ['.', '0'] else []).length ≤ 2 := by
    cases pointZero <;> decide
  simp only [leadExponent, pointPosition] at low high
  simp only [positionalText, pointPosition]
  by_cases before : (d.digits.length : Int) + d.exponent ≤ 0
  · simp only [before, if_true, List.length_append, List.length_cons, List.length_replicate]
    omega
  by_cases inside : d.exponent < 0
  · simp only [before, inside, if_true, if_false, List.length_append, List.length_cons, List.length_take,
      List.length_drop]
    omega
  · simp only [before, inside, if_false, List.length_append, List.length_replicate]
    omega

theorem exponentialText_length (short : Short d) : d.exponentialText.length ≤ 23 := by
  obtain ⟨some, few⟩ := short.digits_length
  have low := short.low
  have high := short.high
  have mark : (exponentText d.leadExponent).length ≤ 5 := by
    apply exponentText_length
    rw [leadExponent, pointPosition]
    omega
  rw [exponentialText]
  split
  next => exact Nat.zero_le _
  next c same =>
    rw [List.length_cons]
    omega
  next c rest several same =>
    rw [same] at few
    simp only [List.length_cons] at few
    simp only [List.cons_append, List.length_cons, List.length_append]
    omega

theorem render_length (short : Short d) : (d.render .json).length ≤ 23 := by
  rw [render]
  split
  · exact (by decide : 3 ≤ 23)
  split
  next plain =>
    simp only [Layout.isPlain, Layout.json, Option.all_some, Bool.and_eq_true, decide_eq_true_eq] at plain
    exact positionalText_length short plain.1 plain.2 _
  · exact exponentialText_length short

end Text

end Decimal
end BoundedScript
