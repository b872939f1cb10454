import HtmlTemplate.Proofs.Decimal.Written
import Mathlib

/-!
Rounding. A fraction is rounded to the mantissa of the scale it falls into; every fraction in the
interval of a floating-point number is rounded to this number. It falls into the scale of the number,
but for those just below the least mantissa of a scale: these fall into the scale below and are
rounded up to its end, which is the same number.

Fractions are compared as rational numbers, so that it does not matter how they are written.
-/

namespace HtmlTemplate.Decimal

/-! Bits -/

section Bits

open Float.Model Float.Model.UnpackedFloat

/-- The bits of a finite number are kept by the number. -/
theorem toBits_ofBits {bits : UInt64} (finite : bits.toNat / 2 ^ 52 % 2 ^ 11 ≠ 2047) :
    (Float.ofBits bits).toBits = bits := by
  have exponent : (unpackExponent bits.toBitVec : BitVec Format.binary64.exponentBits) ≠ -1#_ := by
    intro greatest
    apply finite
    have equal := congrArg BitVec.toNat greatest
    simpa [unpackExponent, BitVec.extractLsb, Nat.shiftRight_eq_div_pow] using equal
  have number : @isNaNBits Format.binary64 bits.toBitVec = false :=
    decide_eq_false fun both => exponent both.1
  have packed := @pack_unpack Format.binary64 bits.toBitVec (by decide)
  rw [number, if_neg Bool.false_ne_true] at packed
  exact congrArg UInt64.ofBitVec packed

end Bits

/-! Whole numbers -/

/-- A fraction is rounded to a whole number that is at most a half away from it. Both sides are
doubled, so that they stay whole. -/
theorem roundHalfEven_of_near {num den m : Nat} (positive : 0 < den)
    (low : 2 * (m * den) ≤ 2 * num + den) (high : 2 * num ≤ 2 * (m * den) + den)
    (strict : m % 2 = 1 → 2 * (m * den) < 2 * num + den ∧ 2 * num < 2 * (m * den) + den) :
    roundHalfEven num den = m := by
  have whole := Nat.div_add_mod num den
  have part := Nat.mod_lt num positive
  rw [Nat.mul_comm] at whole
  simp only [roundHalfEven]
  generalize num / den = below at *
  generalize num % den = rest at *
  -- The number is the one below the fraction or the one above it.
  have upper : below < m + 1 := by
    apply Nat.lt_of_mul_lt_mul_right (a := den)
    rw [Nat.add_mul]
    omega
  have lower : m < below + 2 := by
    apply Nat.lt_of_mul_lt_mul_right (a := den)
    rw [Nat.add_mul]
    omega
  rcases (by omega : m = below ∨ m = below + 1) with rfl | rfl
  · rw [if_pos]
    omega
  · rw [Nat.add_mul] at low high strict
    rw [if_neg]
    omega

/-- A fraction within a half of a whole number is rounded to it, and one a half away from it if it is
even. -/
theorem roundHalfEven_eq {num den m : Nat} (positive : 0 < den)
    (low : (m : ℚ) - 1 / 2 ≤ num / den) (high : (num : ℚ) / den ≤ m + 1 / 2)
    (strict : m % 2 = 1 → (m : ℚ) - 1 / 2 < num / den ∧ (num : ℚ) / den < m + 1 / 2) :
    roundHalfEven num den = m := by
  have positive' : (0 : ℚ) < den := by exact_mod_cast positive
  rw [le_div_iff₀ positive'] at low
  rw [div_le_iff₀ positive'] at high
  rw [lt_div_iff₀ positive', div_lt_iff₀ positive'] at strict
  apply roundHalfEven_of_near positive
  · have : (2 * (m * den) : ℚ) ≤ 2 * num + den := by linarith
    exact_mod_cast this
  · have : (2 * num : ℚ) ≤ 2 * (m * den) + den := by linarith
    exact_mod_cast this
  · intro odd
    obtain ⟨above, under⟩ := strict odd
    constructor
    · have : (2 * (m * den) : ℚ) < 2 * num + den := by linarith
      exact_mod_cast this
    · have : (2 * num : ℚ) < 2 * (m * den) + den := by linarith
      exact_mod_cast this

/-! Scales -/

theorem scaled_eq (num den : Nat) (shift : Int) :
    ((scaled num den shift).1 : ℚ) / (scaled num den shift).2 = num / den / 2 ^ shift := by
  cases shift with
  | ofNat s =>
    simp [scaled, div_div]
  | negSucc s =>
    simp [scaled, zpow_negSucc]
    ring

theorem scaled_pos {den : Nat} (positive : 0 < den) (num : Nat) (shift : Int) :
    0 < (scaled num den shift).2 := by
  cases shift with
  | ofNat s => exact Nat.mul_pos positive (Nat.pow_pos (by decide))
  | negSucc s => exact positive

/-- The scale that a fraction falls into. -/
def scaleOf (num den : Nat) : Int :=
  let size : Int := (num.log2 : Int) - den.log2
  let low := scaled num den (size - 53)
  if low.1 / low.2 < 2 * Binary.leastNormal then size - 53 else size - 52

theorem nearest_eq {num den : Nat} (positive : num ≠ 0) :
    nearest num den =
      let shift := max (scaleOf num den) (-1074)
      Float.ofBits (UInt64.ofNat (min
        ((shift + 1074).toNat * Binary.leastNormal +
          roundHalfEven (scaled num den shift).1 (scaled num den shift).2)
        (2047 * Binary.leastNormal))) := by
  rw [nearest, if_neg positive]
  rfl

theorem log2_bounds {n : Nat} (positive : n ≠ 0) :
    (2 : ℚ) ^ n.log2 ≤ n ∧ (n : ℚ) < 2 ^ (n.log2 + 1) := by
  constructor
  · exact_mod_cast Nat.log2_self_le positive
  · exact_mod_cast Nat.lt_log2_self

/-- What the sizes of two numbers say about their quotient. -/
theorem quotient_bounds {num den : Nat} (some : num ≠ 0) (positive : den ≠ 0) :
    (2 : ℚ) ^ ((num.log2 : Int) - den.log2 - 1) ≤ num / den ∧
      (num : ℚ) / den < 2 ^ ((num.log2 : Int) - den.log2 + 1) := by
  obtain ⟨numLow, numHigh⟩ := log2_bounds some
  obtain ⟨denLow, denHigh⟩ := log2_bounds positive
  have denPos : (0 : ℚ) < den := by exact_mod_cast Nat.pos_of_ne_zero positive
  have two : (2 : ℚ) ≠ 0 := two_ne_zero
  constructor
  · rw [le_div_iff₀ denPos, sub_sub, zpow_sub₀ two, zpow_add₀ two, div_mul_eq_mul_div,
      div_le_iff₀ (by positivity)]
    simp only [zpow_natCast, zpow_one]
    rw [pow_succ] at denHigh
    nlinarith
  · rw [div_lt_iff₀ denPos, sub_add_eq_add_sub, zpow_sub₀ two, zpow_add₀ two, div_mul_eq_mul_div,
      lt_div_iff₀ (by positivity)]
    simp only [zpow_natCast, zpow_one]
    rw [pow_succ] at numHigh
    nlinarith

/-- The sizes of two numbers leave two scales for their quotient, one for the smaller ones. -/
theorem scaleOf_eq {den : Nat} (positive : den ≠ 0) (num : Nat) :
    scaleOf num den =
      if (num : ℚ) / den < 2 ^ ((num.log2 : Int) - den.log2) then (num.log2 : Int) - den.log2 - 53
      else (num.log2 : Int) - den.log2 - 52 := by
  have inside := scaled_pos (Nat.pos_of_ne_zero positive) num ((num.log2 : Int) - den.log2 - 53)
  have same := scaled_eq num den ((num.log2 : Int) - den.log2 - 53)
  have small : ((scaled num den ((num.log2 : Int) - den.log2 - 53)).1 /
        (scaled num den ((num.log2 : Int) - den.log2 - 53)).2 < 2 * Binary.leastNormal) ↔
      (num : ℚ) / den < 2 ^ ((num.log2 : Int) - den.log2) := by
    have full : ((2 * Binary.leastNormal : Nat) : ℚ) = 2 ^ (53 : Int) := by
      norm_num [Binary.leastNormal]
    rw [Nat.div_lt_iff_lt_mul inside, ← Nat.cast_lt (α := ℚ), Nat.cast_mul,
      ← div_lt_iff₀ (by exact_mod_cast inside), same, full, div_lt_iff₀ (by positivity),
      ← zpow_add₀ two_ne_zero]
    norm_num
  simp only [scaleOf, small]

/-- In its scale, a fraction has a mantissa with all its digits. -/
theorem scaleOf_bounds {num den : Nat} (some : num ≠ 0) (positive : den ≠ 0) :
    (2 : ℚ) ^ (52 + scaleOf num den) ≤ num / den ∧
      (num : ℚ) / den < 2 ^ (53 + scaleOf num den) := by
  obtain ⟨least, most⟩ := quotient_bounds some positive
  rw [scaleOf_eq positive]
  generalize (num.log2 : Int) - den.log2 = size at least most ⊢
  split
  next less =>
    rw [show 52 + (size - 53) = size - 1 by ring, show 53 + (size - 53) = size by ring]
    exact ⟨least, less⟩
  next more =>
    rw [show 52 + (size - 52) = size by ring, show 53 + (size - 52) = size + 1 by ring]
    exact ⟨not_lt.mp more, most⟩

/-! Intervals -/

/-- How far below a number those lie that are rounded to it, in units of its scale. -/
def gapBelow (m : Nat) (q : Int) : ℚ := if m = Binary.leastNormal ∧ q > -1074 then 1 / 4 else 1 / 2

theorem gapBelow_le (m : Nat) (q : Int) : gapBelow m q ≤ 1 / 2 := by
  rw [gapBelow]
  split <;> norm_num

/-- The rational numbers that are rounded to `m * 2 ^ q`. -/
structure RoundsTo (m : Nat) (q : Int) (v : ℚ) : Prop where
  low : (m - gapBelow m q) * 2 ^ q ≤ v
  high : v ≤ (m + 1 / 2) * 2 ^ q
  strict : m % 2 = 1 → (m - gapBelow m q) * 2 ^ q < v ∧ v < (m + 1 / 2) * 2 ^ q

/-- The mantissa and the scale of a positive floating-point number. -/
structure IsScaled (m : Nat) (q : Int) : Prop where
  positive : 0 < m
  bound : m < 2 ^ 53
  least : -1074 ≤ q
  most : q ≤ 971
  full : q = -1074 ∨ 2 ^ 52 ≤ m

section Intervals

variable {m : Nat} {q : Int} {v : ℚ}

theorem IsScaled.lt_two_pow (scaled : IsScaled m q) (rounds : RoundsTo m q v) :
    v < 2 ^ (53 + q) := by
  have power : (0 : ℚ) < 2 ^ q := by positivity
  have bound : (m : ℚ) + 1 ≤ 2 ^ 53 := by exact_mod_cast scaled.bound
  rw [zpow_add₀ two_ne_zero]
  have high := rounds.high
  have full : (2 : ℚ) ^ (53 : Int) = 2 ^ 53 := by norm_num
  rw [full]
  nlinarith

theorem RoundsTo.pos (scaled : IsScaled m q) (rounds : RoundsTo m q v) : 0 < v := by
  have power : (0 : ℚ) < 2 ^ q := by positivity
  have least : (1 : ℚ) ≤ m := by exact_mod_cast scaled.positive
  have gap := gapBelow_le m q
  have low := rounds.low
  nlinarith

/-- Where a number that is rounded to another falls into its scale, it is rounded to its mantissa. -/
theorem round_of_roundsTo {num den : Nat} (positive : 0 < den)
    (rounds : RoundsTo m q (num / den)) :
    roundHalfEven (scaled num den q).1 (scaled num den q).2 = m := by
  have power : (0 : ℚ) < 2 ^ q := by positivity
  have gap := gapBelow_le m q
  apply roundHalfEven_eq (scaled_pos positive num q)
  · rw [scaled_eq, le_div_iff₀ power]
    have low := rounds.low
    nlinarith
  · rw [scaled_eq, div_le_iff₀ power]
    exact rounds.high
  · intro odd
    obtain ⟨low, high⟩ := rounds.strict odd
    rw [scaled_eq, lt_div_iff₀ power, div_lt_iff₀ power]
    constructor
    · nlinarith
    · exact high

/-- Just below the least mantissa, numbers fall into the scale below and are rounded to its end. -/
theorem round_of_below {num den : Nat} (positive : 0 < den)
    (low : (2 ^ 52 - 1 / 4) * 2 ^ q ≤ (num : ℚ) / den) (high : (num : ℚ) / den < 2 ^ 52 * 2 ^ q) :
    roundHalfEven (scaled num den (q - 1)).1 (scaled num den (q - 1)).2 = 2 ^ 53 := by
  have power : (0 : ℚ) < 2 ^ q := by positivity
  have half : (2 : ℚ) ^ (q - 1) = 2 ^ q / 2 := by
    rw [zpow_sub₀ two_ne_zero, zpow_one]
  apply roundHalfEven_eq (scaled_pos positive num (q - 1))
  · rw [scaled_eq, half, le_div_iff₀ (by positivity)]
    push_cast
    linarith
  · rw [scaled_eq, half, div_le_iff₀ (by positivity)]
    push_cast
    linarith
  · intro odd
    norm_num at odd

/-- Only to the least mantissa of a scale are numbers rounded that fall into the scale below. -/
theorem RoundsTo.eq_least (rounds : RoundsTo m q v) (full : 2 ^ 52 ≤ m) {scale : Int}
    (smaller : scale < q) (most : v < 2 ^ (53 + scale)) : m = 2 ^ 52 ∧ v < 2 ^ 52 * 2 ^ q := by
  have power : (0 : ℚ) < 2 ^ q := by positivity
  have high : v < 2 ^ 52 * 2 ^ q := by
    calc
      v < 2 ^ (53 + scale) := most
      _ ≤ 2 ^ (52 + q) := zpow_le_zpow_right₀ (by norm_num) (by omega)
      _ = 2 ^ 52 * 2 ^ q := by rw [zpow_add₀ two_ne_zero]; norm_num
  have gap := gapBelow_le m q
  have near : (m : ℚ) - 1 / 2 < 2 ^ 52 := by
    have low := rounds.low
    nlinarith
  have bound : m < 2 ^ 52 + 1 := by
    have : (m : ℚ) < 2 ^ 52 + 1 := by linarith
    exact_mod_cast this
  exact ⟨by omega, high⟩

/-- A number just below the least mantissa is more than half of it, so its scale is the next one. -/
theorem scale_of_below {scale : Int} (smaller : scale < q) (low : (2 ^ 52 - 1 / 4) * 2 ^ q ≤ v)
    (most : v < 2 ^ (53 + scale)) : scale = q - 1 := by
  have half : (2 : ℚ) ^ (51 + q) < 2 ^ (53 + scale) := by
    calc
      (2 : ℚ) ^ (51 + q) = 2 ^ (51 : Int) * 2 ^ q := zpow_add₀ two_ne_zero _ _
      _ ≤ (2 ^ 52 - 1 / 4) * 2 ^ q := by
        gcongr
        norm_num
      _ ≤ v := low
      _ < 2 ^ (53 + scale) := most
  have next := (zpow_lt_zpow_iff_right₀ (by norm_num : (1 : ℚ) < 2)).mp half
  omega

/-- A fraction that is rounded to a floating-point number has this number nearest to it. -/
theorem nearest_of_roundsTo {num den : Nat} (scaled : IsScaled m q) (positive : 0 < den)
    (rounds : RoundsTo m q (num / den)) :
    nearest num den = Float.ofBits (UInt64.ofNat ((q + 1074).toNat * 2 ^ 52 + m)) := by
  have some : num ≠ 0 := by
    rintro rfl
    have := rounds.pos scaled
    simp at this
  obtain ⟨least, most⟩ := scaleOf_bounds some positive.ne'
  have below : scaleOf num den ≤ q := by
    have := (zpow_lt_zpow_iff_right₀ (by norm_num : (1 : ℚ) < 2)).mp
      (least.trans_lt (scaled.lt_two_pow rounds))
    omega
  have unit : Binary.leastNormal = 2 ^ 52 := rfl
  rw [nearest_eq some, unit]
  have scaleBound := scaled.most
  have bound := scaled.bound
  by_cases within : max (scaleOf num den) (-1074) = q
  · simp only [within]
    rw [round_of_roundsTo positive rounds, Nat.min_eq_left (by omega)]
  · have scaleLeast := scaled.least
    have smaller : scaleOf num den < q := by omega
    have inner : q > -1074 := by omega
    have full := scaled.full.resolve_left (by omega)
    obtain ⟨rfl, high⟩ := rounds.eq_least full smaller most
    have low := rounds.low
    rw [gapBelow, if_pos ⟨rfl, inner⟩] at low
    push_cast at low
    have next := scale_of_below smaller low most
    have scale : max (scaleOf num den) (-1074) = q - 1 := by omega
    have bits : (q - 1 + 1074).toNat * 2 ^ 52 + 2 ^ 53 = (q + 1074).toNat * 2 ^ 52 + 2 ^ 52 := by
      omega
    simp only [scale]
    rw [round_of_below positive low high, bits, Nat.min_eq_left (by omega)]

/-- The interval of a number, over a fraction that is a fourth of the unit of its scale. -/
theorem exists_intervalOf (m : Nat) (q : Int) :
    ∃ unit den : Nat, 0 < den ∧ (unit : ℚ) / den = 2 ^ q / 4 ∧
      intervalOf m q =
        { value := 4 * m * unit
          low := (4 * m - if m = Binary.leastNormal ∧ q > -1074 then 1 else 2) * unit
          high := (4 * m + 2) * unit
          den := den
          closed := m % 2 = 0 } := by
  have fourth : (2 : ℚ) ^ q / 4 = 2 ^ (q - 2) := by
    rw [zpow_sub₀ two_ne_zero]
    norm_num
  rw [fourth]
  simp only [intervalOf]
  cases q - 2 with
  | ofNat e => exact ⟨2 ^ e, 1, Nat.one_pos, by simp, rfl⟩
  | negSucc e =>
    refine ⟨1, 2 ^ (e + 1), Nat.pow_pos (by decide), ?_, rfl⟩
    rw [zpow_negSucc]
    simp

theorem cast_low (positive : 0 < m) :
    ((4 * m - if m = Binary.leastNormal ∧ q > -1074 then 1 else 2 : Nat) : ℚ) =
      4 * (m - gapBelow m q) := by
  rw [gapBelow]
  split
  · rw [Nat.cast_sub (by omega)]
    push_cast
    ring
  · rw [Nat.cast_sub (by omega)]
    push_cast
    ring

/-- The numbers in the interval of a number are those that are rounded to it. -/
theorem holds_iff (positive : 0 < m) {num grid : Nat} (inside : 0 < grid) :
    (intervalOf m q).holds num grid = true ↔ RoundsTo m q (num / grid) := by
  obtain ⟨unit, den, denPos, fourth, interval⟩ := exists_intervalOf m q
  have gridPos : (0 : ℚ) < grid := by exact_mod_cast inside
  have denPos' : (0 : ℚ) < den := by exact_mod_cast denPos
  have compare (a b : Nat) : (a : ℚ) / den ≤ (b : ℚ) / grid ↔ a * grid ≤ b * den := by
    rw [div_le_div_iff₀ denPos' gridPos]
    exact_mod_cast Iff.rfl
  have compare' (a b : Nat) : (b : ℚ) / grid ≤ (a : ℚ) / den ↔ b * den ≤ a * grid := by
    rw [div_le_div_iff₀ gridPos denPos']
    exact_mod_cast Iff.rfl
  have low : (((4 * m - if m = Binary.leastNormal ∧ q > -1074 then 1 else 2) * unit : Nat) : ℚ) /
      den = (m - gapBelow m q) * 2 ^ q := by
    rw [Nat.cast_mul, cast_low positive, mul_div_assoc, fourth]
    ring
  have high : (((4 * m + 2) * unit : Nat) : ℚ) / den = (m + 1 / 2) * 2 ^ q := by
    rw [Nat.cast_mul, mul_div_assoc, fourth]
    push_cast
    ring
  rw [interval, Interval.holds]
  by_cases even : m % 2 = 0
  · simp only [even, decide_true, if_true, Bool.and_eq_true, decide_eq_true_eq]
    rw [← compare, ← compare', low, high]
    constructor
    · rintro ⟨above, below⟩
      exact ⟨above, below, by omega⟩
    · intro rounds
      exact ⟨rounds.low, rounds.high⟩
  · simp only [even, decide_false, Bool.false_eq_true, if_false, Bool.and_eq_true,
      decide_eq_true_eq]
    rw [← not_le, ← not_le, ← compare, ← compare', low, high, not_le, not_le]
    constructor
    · rintro ⟨above, below⟩
      exact ⟨above.le, below.le, fun _ => ⟨above, below⟩⟩
    · intro rounds
      exact rounds.strict (by omega)

end Intervals

end HtmlTemplate.Decimal
