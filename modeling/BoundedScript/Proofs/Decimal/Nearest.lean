import BoundedScript.Proofs.Decimal.Words

set_option autoImplicit false

namespace BoundedScript.Double
open Float.Model Float.Model.UnpackedFloat

section Rounding

variable {m n k d : Nat} {e : Int}

theorem shifted_cut (k t : Nat) : (⟨k, false, false⟩ : ExtendedMantissa) >>> (t + 1) =
    ⟨k / 2 ^ (t + 1), k / 2 ^ t % 2 != 0, k % 2 ^ t != 0⟩ := by
  induction t with
  | zero => simp [HShiftRight.hShiftRight, Nat.repeat, ExtendedMantissa.shiftRightOne, Nat.mod_one]
  | succ t ih =>
    change ExtendedMantissa.shiftRightOne ((⟨k, false, false⟩ : ExtendedMantissa) >>> (t + 1)) = _
    rw [ih, ExtendedMantissa.shiftRightOne, Nat.div_div_eq_div_mul, ← Nat.pow_succ]
    congr 1
    have parts : k % 2 ^ (t + 1) = k % 2 ^ t + 2 ^ t * (k / 2 ^ t % 2) := Nat.mod_pow_succ
    have unit : 0 < 2 ^ t := Nat.two_pow_pos t
    rw [parts]
    rcases Nat.mod_two_eq_zero_or_one (k / 2 ^ t) with even | odd
    · simp [even]
    · simp [odd]

/-- `r` is a whole number next to `k / d`, of two that are equally near the even one. -/
structure IsNearest (r k d : Nat) : Prop where
  low : 2 * (r * d) ≤ 2 * k + d
  high : 2 * k ≤ 2 * (r * d) + d
  even : 2 * (r * d) = 2 * k + d ∨ 2 * k = 2 * (r * d) + d → r % 2 = 0

theorem IsNearest.le {r r' : Nat} (positive : 0 < d) (first : IsNearest r k d) (second : IsNearest r' k d) :
    r' ≤ r := by
  by_contra greater
  obtain ⟨gap, rfl⟩ : ∃ gap, r' = r + 1 + gap := ⟨r' - r - 1, by omega⟩
  have apart : (r + 1 + gap) * d = r * d + d + gap * d := by ring
  have low := second.low
  have high := first.high
  rw [apart] at low
  -- The two are next to each other, with the quotient halfway, and only one is even.
  obtain rfl : gap = 0 := by
    by_contra wide
    have : d ≤ gap * d := Nat.le_mul_of_pos_left d (Nat.pos_of_ne_zero wide)
    omega
  rw [Nat.zero_mul] at apart low
  have even := first.even (by omega)
  have even' := second.even (by omega)
  omega

theorem IsNearest.unique {r r' : Nat} (positive : 0 < d) (first : IsNearest r k d) (second : IsNearest r' k d) :
    r = r' :=
  Nat.le_antisymm (second.le positive first) (first.le positive second)

theorem isNearest_rounded (k t : Nat) :
    IsNearest ((⟨k, false, false⟩ : ExtendedMantissa) >>> (t + 1)).roundedMantissa k (2 ^ (t + 1)) := by
  have parts : k % 2 ^ (t + 1) = k % 2 ^ t + 2 ^ t * (k / 2 ^ t % 2) := Nat.mod_pow_succ
  have whole : k / 2 ^ (t + 1) * 2 ^ (t + 1) + k % 2 ^ (t + 1) = k := Nat.div_add_mod' ..
  have small : k % 2 ^ t < 2 ^ t := Nat.mod_lt _ (Nat.two_pow_pos t)
  have double : 2 ^ (t + 1) = 2 * 2 ^ t := Nat.pow_succ'
  have bit : k / 2 ^ t % 2 < 2 := Nat.mod_lt _ (by decide)
  rw [shifted_cut]
  generalize k / 2 ^ (t + 1) = q at *
  generalize k / 2 ^ t % 2 = digit at *
  generalize k % 2 ^ t = rest at *
  rw [parts] at whole
  generalize 2 ^ (t + 1) = d at *
  generalize 2 ^ t = half at *
  have next : (q + 1) * d = q * d + d := Nat.succ_mul q d
  obtain rfl | rfl : digit = 0 ∨ digit = 1 := by omega
  · have down : (ExtendedMantissa.mk q (0 != 0) (rest != 0)).roundedMantissa = q := by
      cases rest <;> rfl
    rw [down]
    exact ⟨by omega, by omega, by omega⟩
  · rcases Nat.eq_zero_or_pos rest with rfl | some
    · -- halfway
      have tie : (ExtendedMantissa.mk q (1 != 0) (0 != 0)).roundedMantissa = q + q % 2 := rfl
      rw [tie]
      obtain even | odd := Nat.mod_two_eq_zero_or_one q
      · rw [even, Nat.add_zero]
        exact ⟨by omega, by omega, fun _ => even⟩
      · rw [odd]
        exact ⟨by omega, by omega, by omega⟩
    · have up : (ExtendedMantissa.mk q (1 != 0) (rest != 0)).roundedMantissa = q + 1 := by
        rw [(bne_iff_ne.mpr some.ne' : (rest != 0) = true)]
        rfl
      rw [up]
      exact ⟨by omega, by omega, by omega⟩

theorem IsNearest.cancel {r c : Nat} (positive : 0 < c) (nearest : IsNearest r (k * c) (d * c)) : IsNearest r k d := by
  obtain ⟨low, high, even⟩ := nearest
  have left : 2 * (r * (d * c)) = 2 * (r * d) * c := by ring
  have right : 2 * (k * c) + d * c = (2 * k + d) * c := by ring
  have right' : 2 * (r * d) * c + d * c = (2 * (r * d) + d) * c := by ring
  have left' : 2 * (k * c) = 2 * k * c := by ring
  rw [left, right] at low
  rw [left', left, right'] at high
  rw [left, right, left', right'] at even
  refine ⟨Nat.le_of_mul_le_mul_right low positive, Nat.le_of_mul_le_mul_right high positive, fun tie => even ?_⟩
  rcases tie with tie | tie
  · exact .inl (by rw [tie])
  · exact .inr (by rw [tie])

theorem rounded_of_nearest {e r : Nat} (some : 0 < e) (low : 2 ^ 52 * 2 ^ e ≤ k) (high : k < 2 ^ 53 * 2 ^ e)
    (nearest : IsNearest r k (2 ^ e)) :
    roundWithAccuracy Format.binary64 .positive (k <<< 53) (-53) .exact =
      if zero : r = 0 then .zero .positive
      else if r < 2 ^ 53 then .finite .positive r e (Nat.pos_of_ne_zero zero)
      else .finite .positive (2 ^ 52) (e + 1) (by decide) := by
  have digits : k.log2 = 52 + e := by
    rw [← Nat.pow_add] at low
    rw [← Nat.pow_add, show 53 + e = 52 + e + 1 by omega] at high
    exact (Nat.log2_eq_iff (by have := Nat.two_pow_pos (52 + e); omega)).mpr ⟨low, high⟩
  have positive : 0 < k := Nat.pos_of_ne_zero (by rintro rfl; simp at digits; omega)
  have filled : (k <<< 53).log2 = 52 + e + 53 := by
    rw [Nat.shiftLeft_eq, log2_mul_two_pow positive, digits]
  have place : placed (k <<< 53) (-53) = e := by
    rw [placed, filled]
    omega
  have amount : (max (((k <<< 53).log2 : Int) + -53 - 52) (-1074) - -53).toNat = e + 52 + 1 := by
    rw [filled]
    omega
  have rounded : (shiftToTargetExponent Format.binary64 (k <<< 53) (-53) .exact).1.roundedMantissa = r := by
    have cut := isNearest_rounded (k <<< 53) (e + 52)
    have unit : 2 ^ (e + 52 + 1) = 2 ^ e * 2 ^ 53 := Nat.pow_add 2 e 53
    have shifted : k <<< 53 = k * 2 ^ 53 := Nat.shiftLeft_eq k 53
    simp only [shiftToTargetExponent, shiftToExponent, targetExponent_eq, amount, ExtendedMantissa.ofMantissaAndAccuracy]
    generalize ((⟨k <<< 53, false, false⟩ : ExtendedMantissa) >>> (e + 52 + 1)).roundedMantissa = r' at cut ⊢
    rw [unit, shifted] at cut
    exact (cut.cancel (Nat.two_pow_pos 53)).unique (Nat.two_pow_pos e) nearest
  rw [rounded_eq, place]
  simp only [rounded]

end Rounding

section Intervals

variable {m k e : Nat}

/-- The whole numbers that read back as the double `m * 2 ^ e`: up to half a step away from it, below a power of two a
quarter, with the ends where `m` is even. -/
structure Inside (m e k : Nat) : Prop where
  low : 4 * (m * 2 ^ e) ≤ 4 * k + (if m = 2 ^ 52 then 2 ^ e else 2 * 2 ^ e)
  high : 4 * k ≤ 4 * (m * 2 ^ e) + 2 * 2 ^ e
  even : 4 * (m * 2 ^ e) = 4 * k + (if m = 2 ^ 52 then 2 ^ e else 2 * 2 ^ e) ∨
    4 * k = 4 * (m * 2 ^ e) + 2 * 2 ^ e → m % 2 = 0

structure Full (m e : Nat) : Prop where
  least : 2 ^ 52 ≤ m
  most : m < 2 ^ 53
  some : 0 < e

theorem Inside.nearer {k' : Nat} (inside : Inside m e k)
    (between : k ≤ k' ∧ k' ≤ m * 2 ^ e ∨ m * 2 ^ e ≤ k' ∧ k' ≤ k) : Inside m e k' := by
  obtain ⟨low, high, even⟩ := inside
  have unit := Nat.two_pow_pos e
  have below : 0 < if m = 2 ^ 52 then 2 ^ e else 2 * 2 ^ e := by
    split <;> omega
  obtain ⟨reach, same⟩ : ∃ reach, (if m = 2 ^ 52 then 2 ^ e else 2 * 2 ^ e) = reach := ⟨_, rfl⟩
  rw [same] at low even below
  rcases between with ⟨after, before⟩ | ⟨after, before⟩
  · exact ⟨by rw [same]; omega, by omega, fun tie => even (by rw [same] at tie; omega)⟩
  · exact ⟨by rw [same]; omega, by omega, fun tie => even (by rw [same] at tie; omega)⟩

theorem Inside.apart {k' : Nat} (first : Inside m e k) (second : Inside m e k') : k' ≤ k + 2 ^ e := by
  have low := first.low
  have high := second.high
  split at low <;> omega

theorem Inside.refl (m e : Nat) : Inside m e (m * 2 ^ e) := by
  have unit := Nat.two_pow_pos e
  have below : 0 < if m = 2 ^ 52 then 2 ^ e else 2 * 2 ^ e := by
    split <;> omega
  exact ⟨by omega, by omega, by omega⟩

theorem Full.log2 (full : Full m e) : m.log2 = 52 :=
  (Nat.log2_eq_iff (by have := full.least; omega)).mpr ⟨full.least, full.most⟩

theorem Inside.rounded (inside : Inside m e k) (full : Full m e) (positive : 0 < m) :
    roundWithAccuracy Format.binary64 .positive (k <<< 53) (-53) .exact = .finite .positive m e positive := by
  obtain ⟨low, high, even⟩ := inside
  obtain ⟨least, most, some⟩ := full
  have unit := Nat.two_pow_pos e
  have floor : 2 ^ 52 * 2 ^ e ≤ m * 2 ^ e := Nat.mul_le_mul_right _ least
  have ceiling : m * 2 ^ e + 2 ^ e ≤ 2 ^ 53 * 2 ^ e := by
    rw [← Nat.succ_mul]
    exact Nat.mul_le_mul_right _ most
  by_cases step : m * 2 ^ e ≤ k ∨ m ≠ 2 ^ 52
  · have below : 2 ^ 52 * 2 ^ e ≤ k := by
      rcases step with above | apart
      · omega
      · have floor' : 2 ^ 52 * 2 ^ e + 2 ^ e ≤ m * 2 ^ e := by
          rw [← Nat.succ_mul]
          exact Nat.mul_le_mul_right _ (by omega)
        rw [if_neg apart] at low
        omega
    have nearest : IsNearest m k (2 ^ e) := by
      by_cases power : m = 2 ^ 52
      · rw [if_pos power] at low even
        exact ⟨by omega, by omega, by omega⟩
      · rw [if_neg power] at low even
        exact ⟨by omega, by omega, by omega⟩
    rw [rounded_of_nearest some below (by omega) nearest, dif_neg (by omega), if_pos most]
  · obtain ⟨beyond, rfl⟩ : k < m * 2 ^ e ∧ m = 2 ^ 52 := by omega
    rw [if_pos rfl] at low even
    -- The step below is half as long.
    obtain ⟨f, rfl⟩ : ∃ f, e = f + 1 := ⟨e - 1, by omega⟩
    have double : 2 ^ (f + 1) = 2 * 2 ^ f := Nat.pow_succ'
    have half := Nat.two_pow_pos f
    have some' : 0 < f := by
      rcases Nat.eq_zero_or_pos f with rfl | some'
      · omega
      · exact some'
    have nearest : IsNearest (2 ^ 53) k (2 ^ f) := ⟨by omega, by omega, fun _ => by decide⟩
    rw [rounded_of_nearest some' (by omega) (by omega) nearest, dif_neg (by decide), if_neg (by decide)]
    rfl

theorem exists_inside (long : 2 ^ 53 ≤ k) : ∃ m e positive, Full m e ∧ Inside m e k ∧
    roundWithAccuracy Format.binary64 .positive (k <<< 53) (-53) .exact = .finite .positive m (e : Nat) positive := by
  have least : 53 ≤ k.log2 := (Nat.le_log2 (by omega)).mpr long
  obtain ⟨f, digits⟩ : ∃ f, k.log2 = 52 + (f + 1) := ⟨k.log2 - 53, by omega⟩
  have nearest := isNearest_rounded k f
  generalize ((⟨k, false, false⟩ : ExtendedMantissa) >>> (f + 1)).roundedMantissa = r at nearest
  have some : 0 < f + 1 := f.succ_pos
  generalize f + 1 = e at *
  obtain ⟨below, above⟩ := (Nat.log2_eq_iff (by omega)).mp digits
  rw [Nat.pow_add] at below
  rw [show 52 + e + 1 = 53 + e by omega, Nat.pow_add] at above
  have unit := Nat.two_pow_pos e
  have rounded := rounded_of_nearest some below above nearest
  obtain ⟨low, high, even⟩ := nearest
  have floor : 2 ^ 52 ≤ r := by
    by_contra less
    have : (r + 1) * 2 ^ e ≤ 2 ^ 52 * 2 ^ e := Nat.mul_le_mul_right _ (by omega)
    rw [Nat.succ_mul] at this
    omega
  by_cases small : r < 2 ^ 53
  · refine ⟨r, e, by omega, ⟨floor, small, by omega⟩, ?_, ?_⟩
    · by_cases power : r = 2 ^ 52
      · subst power
        exact ⟨by rw [if_pos rfl]; omega, by omega, fun _ => by decide⟩
      · exact ⟨by rw [if_neg power]; omega, by omega, by rw [if_neg power]; omega⟩
    · rw [rounded, dif_neg (by omega), if_pos small]
  · have top : r = 2 ^ 53 := by
      by_contra more
      have : 2 ^ 53 * 2 ^ e + 2 ^ e ≤ r * 2 ^ e := by
        rw [← Nat.succ_mul]
        exact Nat.mul_le_mul_right _ (by omega)
      omega
    subst top
    have double : 2 ^ (e + 1) = 2 * 2 ^ e := Nat.pow_succ'
    refine ⟨2 ^ 52, e + 1, by decide, ⟨by decide, by decide, by omega⟩, ?_, ?_⟩
    · exact ⟨by rw [if_pos rfl]; omega, by omega, fun _ => by decide⟩
    · rw [rounded, dif_neg (by decide), if_neg small]
      rfl

end Intervals

section Reading

variable {x y : Float} {s : Sign} {m n e : Nat} {d : Int} {positive : 0 < m}

theorem beq_iff_unpack (same : x.toModel.unpack = .finite s m d positive) :
    (y == x) = true ↔ y.toModel.unpack = .finite s m d positive := by
  change y.toModel.unpack.beq x.toModel.unpack = true ↔ _
  rw [same, UnpackedFloat.beq]
  cases y.toModel.unpack with
  | zero t => cases s <;> simp [UnpackedFloat.compare]
  | infinity t => cases t <;> simp [UnpackedFloat.compare]
  | notANumber => simp [UnpackedFloat.compare]
  | finite t m' d' positive' =>
    cases s <;> cases t <;>
      simp [UnpackedFloat.compare, Ordering.then_eq_eq, Ordering.swap_eq_eq, and_comm]

theorem unpack_infinity (s : Sign) :
    UnpackedFloat.unpack Format.binary64 (packedInfinity Format.binary64 s) = .infinity s := by
  cases s <;> rfl

theorem Inside.long (inside : Inside m e n) (full : Full m e) : 2 ^ 53 ≤ n := by
  obtain ⟨least, -, some⟩ := full
  have low := inside.low
  have unit : 2 ≤ 2 ^ e := Nat.pow_le_pow_right (n := 2) (by decide) some
  by_cases power : m = 2 ^ 52
  · rw [if_pos power, power] at low
    omega
  · rw [if_neg power] at low
    have floor : (2 ^ 52 + 1) * 2 ^ e ≤ m * 2 ^ e := Nat.mul_le_mul_right _ (by omega)
    omega

theorem unpack_ofWhole_inside (inside : Inside m e n) (full : Full m e) (small : e ≤ 971) (positive : 0 < m) :
    (ofWhole n).toModel.unpack = .finite .positive m (e : Nat) positive := by
  rw [unpack_ofWhole_rounded (inside.long full), inside.rounded full positive]
  exact unpack_pack_of_full _ positive full.log2 (by omega) (by omega)

theorem pack_past (s : Sign) (positive : 0 < m) (past : 971 < d) :
    UnpackedFloat.pack Format.binary64 (.finite s m d positive) = packedInfinity Format.binary64 s := by
  simp only [UnpackedFloat.pack, exponentBias_eq]
  rw [if_pos (by simp; omega)]

theorem shape_ofWhole (n : Nat) : (ofWhole n).toModel.unpack = .zero .positive ∨
    (∃ m d positive, (ofWhole n).toModel.unpack = .finite .positive m d positive ∧ m.log2 = 52 ∧ -1074 ≤ d ∧ d ≤ 971) ∨
    (ofWhole n).toModel.unpack = .infinity .positive := by
  rcases Nat.eq_zero_or_pos n with rfl | some
  · exact .inl rfl
  rcases Nat.lt_or_ge n (2 ^ 53) with small | long
  · exact .inr (.inl ⟨_, _, _, unpack_ofWhole some small, log2_filled some small, by omega, by omega⟩)
  · obtain ⟨m, e, positive, full, -, rounded⟩ := exists_inside long
    rw [unpack_ofWhole_rounded long, rounded]
    by_cases reached : e ≤ 971
    · exact .inr (.inl ⟨m, e, positive, unpack_pack_of_full _ positive full.log2 (by omega) (by omega), full.log2, by omega,
        by omega⟩)
    · rw [pack_past _ positive (by omega)]
      exact .inr (.inr (unpack_infinity _))

theorem unpack_neg (n : Nat) : (-(ofWhole n)).toModel.unpack = (ofWhole n).toModel.unpack.neg := by
  change UnpackedFloat.unpack Format.binary64 (UnpackedFloat.pack Format.binary64 (ofWhole n).toModel.unpack.neg) = _
  obtain zero | ⟨m, d, positive, finite, full, low, high⟩ | infinite := shape_ofWhole n
  · rw [zero]
    rfl
  · rw [finite]
    exact unpack_pack_of_full _ positive full low high
  · rw [infinite]
    exact unpack_infinity _

theorem inside_of_long (long : 2 ^ 53 ≤ n) (reads : (ofWhole n).toModel.unpack = .finite s m d positive) :
    ∃ e : Nat, d = e ∧ Full m e ∧ Inside m e n := by
  obtain ⟨m', e, positive', full, inside, rounded⟩ := exists_inside long
  rw [unpack_ofWhole_rounded long, rounded] at reads
  by_cases reached : e ≤ 971
  · rw [unpack_pack_of_full _ positive' full.log2 (by omega) (by omega)] at reads
    obtain ⟨-, rfl, rfl⟩ := UnpackedFloat.finite.inj reads
    exact ⟨e, rfl, full, inside⟩
  · rw [pack_past _ positive' (by omega), unpack_infinity] at reads
    cases reads

theorem inside_of_unpack (reads : (ofWhole n).toModel.unpack = .finite s m (e : Nat) positive) (some : 0 < e) :
    Inside m e n := by
  rcases Nat.lt_or_ge n (2 ^ 53) with small | long
  · rcases Nat.eq_zero_or_pos n with rfl | filled
    · cases unpack_ofWhole_zero.symm.trans reads
    · rw [unpack_ofWhole filled small] at reads
      obtain ⟨-, -, place⟩ := UnpackedFloat.finite.inj reads
      omega
  · obtain ⟨e', place, -, inside⟩ := inside_of_long long reads
    obtain rfl : e = e' := by omega
    exact inside

def signOf (k : Int) : Sign :=
  if k < 0 then .negative else .positive

theorem unpack_ofWhole_iff (k : Int) : (ofWhole k).toModel.unpack = .finite s m d positive ↔
    signOf k = s ∧ (ofWhole k.natAbs).toModel.unpack = .finite .positive m d positive := by
  cases k with
  | ofNat n =>
    have sign : signOf (Int.ofNat n) = .positive := if_neg (Int.not_lt.mpr (Int.natCast_nonneg n))
    rw [sign]
    change (ofWhole n).toModel.unpack = _ ↔ _ ∧ (ofWhole n).toModel.unpack = _
    obtain zero | ⟨m', d', positive', finite, -⟩ | infinite := shape_ofWhole n
    · simp [zero]
    · simp [finite]
    · simp [infinite]
  | negSucc n =>
    have sign : signOf (Int.negSucc n) = .negative := if_pos (Int.negSucc_lt_zero n)
    rw [sign, ofWhole_negSucc, unpack_neg, Int.natAbs_negSucc]
    obtain zero | ⟨m', d', positive', finite, -⟩ | infinite := shape_ofWhole (n + 1)
    · rw [zero]
      simp [UnpackedFloat.neg]
    · have minus : -Sign.positive = .negative := rfl
      rw [finite]
      simp [UnpackedFloat.neg, minus]
    · rw [infinite]
      simp [UnpackedFloat.neg]

theorem reads_iff (same : x.toModel.unpack = .finite s m (e : Nat) positive) (full : Full m e) (small : e ≤ 971)
    (k : Int) : (ofWhole k == x) = true ↔ signOf k = s ∧ Inside m e k.natAbs := by
  rw [beq_iff_unpack same, unpack_ofWhole_iff]
  exact and_congr_right fun _ =>
    ⟨fun reads => inside_of_unpack reads full.some, fun inside => unpack_ofWhole_inside inside full small positive⟩

end Reading
end BoundedScript.Double
