import HtmlTemplate.Proofs.Decimal.Numeral
import HtmlTemplate.Proofs.Decimal.Rounding

/-!
The text of a finite number is read back as the same number. The shortest digits stand for a decimal
in the interval of the number, since a grid of seventeen digits is finer than the interval is wide.
The text shows these digits, whether with an exponent or without, and a decimal in the interval of a
number is rounded to it.
-/

namespace HtmlTemplate.Decimal

/-! Digits -/

theorem foldl_digits (digits : List Char) (start : Nat) :
    digits.foldl (fun n c => 10 * n + digitValue c) start =
      start * 10 ^ digits.length + ofDigits digits := by
  induction digits generalizing start with
  | nil => simp [ofDigits]
  | cons c rest ih =>
    simp only [ofDigits, List.foldl_cons, List.length_cons] at ih ⊢
    rw [ih, ih (10 * 0 + digitValue c)]
    ring

theorem ofDigits_append (front back : List Char) :
    ofDigits (front ++ back) = ofDigits front * 10 ^ back.length + ofDigits back := by
  rw [ofDigits, List.foldl_append, foldl_digits]
  rfl

theorem ofDigits_toDigits (n : Nat) : ofDigits (Nat.toDigits 10 n) = n := by
  have same : ofDigits (Nat.toDigits 10 n) = Nat.ofDigitChars 10 (Nat.toDigits 10 n) 0 := rfl
  rw [same, Nat.ofDigitChars_ten_toDigits]

theorem ofDigits_zeros (n : Nat) : ofDigits (zeros n) = 0 := by
  induction n with
  | zero => rfl
  | succ n ih =>
    rw [zeros, List.replicate_succ', ofDigits_append, ← zeros, ih]
    rfl

theorem eq_dropZeros_append (digits : List Char) :
    ∃ n, digits = dropZeros digits ++ zeros n := by
  refine ⟨(digits.reverse.takeWhile (· == '0')).length, ?_⟩
  have ending : (digits.reverse.takeWhile (· == '0')).reverse =
      zeros (digits.reverse.takeWhile (· == '0')).length := by
    apply List.eq_replicate_iff.mpr
    refine ⟨List.length_reverse, ?_⟩
    intro c member
    simpa using List.mem_takeWhile_imp (List.mem_reverse.mp member)
  rw [← ending, dropZeros, ← List.reverse_append, List.takeWhile_append_dropWhile,
    List.reverse_reverse]

/-- The number that digits with a point stand for. -/
def Digits.value (d : Digits) : ℚ := ofDigits d.digits * 10 ^ (d.point - d.digits.length)

/-- Digits of a grid stand for its number. -/
theorem value_digitsAt (i : Interval) (n k : Nat) :
    (i.digitsAt n k).value = k * 10 ^ (i.point - n) := by
  obtain ⟨dropped, same⟩ := eq_dropZeros_append (Nat.toDigits 10 k)
  have number : k = ofDigits (dropZeros (Nat.toDigits 10 k)) * 10 ^ dropped := by
    conv_lhs => rw [← ofDigits_toDigits k, same, ofDigits_append, ofDigits_zeros]
    simp [zeros]
  have length : (Nat.toDigits 10 k).length = (dropZeros (Nat.toDigits 10 k)).length + dropped := by
    conv_lhs => rw [same]
    simp [zeros]
  have power : i.point + ((Nat.toDigits 10 k).length - n) - (dropZeros (Nat.toDigits 10 k)).length =
      dropped + (i.point - n) := by
    rw [length]
    push_cast
    ring
  simp only [Digits.value, Interval.digitsAt]
  rw [power, zpow_add₀ (by norm_num), zpow_natCast, ← mul_assoc]
  conv_rhs => rw [number]
  push_cast
  rfl

/-! Grids -/

theorem gridStep_eq (step : Int) : ((gridStep step).1 : ℚ) / (gridStep step).2 = 10 ^ step := by
  cases step with
  | ofNat s => simp [gridStep]
  | negSucc s => simp [gridStep, zpow_negSucc]

/-- The number of a grid just below a number. -/
def Interval.below (i : Interval) (step : Int) : Nat :=
  i.value * (gridStep step).2 / (i.den * (gridStep step).1)

theorem none_of_choice {first second closer : Bool} {below above : Nat}
    (chosen : (if first && second then if closer then some below else some above
      else if first then some below else if second then some above else none) = none) :
    first = false ∧ second = false := by
  grind

/-- Where no grid number is hit, both neighbours of the number miss the interval. -/
theorem missed_of_hit? {i : Interval} {step : Int} (none : i.hit? step = none) :
    i.holds (i.below step * (gridStep step).1) (gridStep step).2 = false ∧
      i.holds ((i.below step + 1) * (gridStep step).1) (gridStep step).2 = false := by
  cases step with
  | ofNat s => exact none_of_choice none
  | negSucc s => exact none_of_choice none

/-- The number lies between its neighbours on a grid. -/
theorem below_bounds {i : Interval} (positive : 0 < i.den) (step : Int) :
    (i.below step : ℚ) * 10 ^ step ≤ i.value / i.den ∧
      (i.value : ℚ) / i.den < (i.below step + 1) * 10 ^ step := by
  obtain ⟨up, down⟩ := gridStep_pos step
  have upPos : (0 : ℚ) < (gridStep step).1 := by exact_mod_cast up
  have downPos : (0 : ℚ) < (gridStep step).2 := by exact_mod_cast down
  have denPos : (0 : ℚ) < i.den := by exact_mod_cast positive
  have low : i.below step * (i.den * (gridStep step).1) ≤ i.value * (gridStep step).2 :=
    Nat.div_mul_le_self _ _
  have high : i.value * (gridStep step).2 < (i.below step + 1) * (i.den * (gridStep step).1) :=
    Nat.lt_mul_of_div_lt (Nat.lt_succ_self _) (Nat.mul_pos positive up)
  have low' : (i.below step * (i.den * (gridStep step).1) : ℚ) ≤ i.value * (gridStep step).2 := by
    exact_mod_cast low
  have high' : (i.value * (gridStep step).2 : ℚ) <
      (i.below step + 1) * (i.den * (gridStep step).1) := by
    exact_mod_cast high
  rw [← gridStep_eq, ← mul_div_assoc, ← mul_div_assoc, div_le_div_iff₀ downPos denPos,
    div_lt_div_iff₀ denPos downPos]
  constructor
  · linarith
  · linarith

/-! Seventeen digits -/

variable {m : Nat} {q : Int}

theorem value_intervalOf (m : Nat) (q : Int) :
    ((intervalOf m q).value : ℚ) / (intervalOf m q).den = m * 2 ^ q ∧ 0 < (intervalOf m q).den := by
  obtain ⟨unit, den, positive, fourth, interval⟩ := exists_intervalOf m q
  rw [interval]
  refine ⟨?_, positive⟩
  push_cast
  rw [mul_div_assoc, fourth]
  ring

/-- The powers of two that are met are far from the four hundredth power of ten, and from its
inverse. -/
theorem two_zpow_le {n : Int} (bound : n ≤ 1200) : (2 : ℚ) ^ n ≤ 10 ^ (400 : Int) := by
  calc
    (2 : ℚ) ^ n ≤ 2 ^ ((3 : Int) * 400) := zpow_le_zpow_right₀ (by norm_num) bound
    _ = (2 ^ (3 : Int)) ^ (400 : Int) := zpow_mul ..
    _ ≤ 10 ^ (400 : Int) := zpow_le_zpow_left₀ (by norm_num) (by norm_num) (by norm_num)

theorem ten_zpow_le {n : Int} (bound : -1200 ≤ n) : (10 : ℚ) ^ (-400 : Int) ≤ 2 ^ n := by
  have large : (2 : ℚ) ^ (-n) ≤ 10 ^ (400 : Int) := two_zpow_le (by omega)
  rw [zpow_neg] at large ⊢
  exact (inv_le_comm₀ (by positivity) (by positivity)).mp large

/-- Every number has a digit among the first four hundred after the point. -/
theorem ten_zpow_le_scaled (scaled : IsScaled m q) : (10 : ℚ) ^ (-400 : Int) ≤ m * 2 ^ q := by
  have least : (1 : ℚ) ≤ m := by exact_mod_cast scaled.positive
  have bound := scaled.least
  have power : (10 : ℚ) ^ (-400 : Int) ≤ 2 ^ q := ten_zpow_le (by omega)
  have positive : (0 : ℚ) < 2 ^ q := by positivity
  nlinarith

/-- The leading digit of a fraction, found among its digits after the point has been moved. -/
theorem pow_le_of_length {num den places : Nat} {shift : Int} {v : ℚ} (positive : 0 < den)
    (value : (num : ℚ) / den = v) (least : (10 : ℚ) ^ (-shift) ≤ v) (same : shift = places) :
    (10 : ℚ) ^ (((Nat.toDigits 10 (num * Nat.pow 10 places / den)).length : Int) - shift - 1) ≤
      v := by
  subst same
  rw [zpow_neg, zpow_natCast, inv_le_iff_one_le_mul₀ (by positivity)] at least
  have denPos : (0 : ℚ) < den := by exact_mod_cast positive
  have floor : ((num * 10 ^ places / den : Nat) : ℚ) ≤ v * 10 ^ places := by
    rw [← value, div_mul_eq_mul_div, le_div_iff₀ denPos]
    exact_mod_cast Nat.div_mul_le_self (num * 10 ^ places) den
  have some : 1 ≤ num * 10 ^ places / den := by
    apply (Nat.one_le_div_iff positive).mpr
    rw [← value, div_mul_eq_mul_div, le_div_iff₀ denPos, one_mul] at least
    exact_mod_cast least
  show (10 : ℚ) ^ (((Nat.toDigits 10 (num * 10 ^ places / den)).length : Int) - places - 1) ≤ v
  generalize num * 10 ^ places / den = n at *
  have leading : 10 ^ ((Nat.toDigits 10 n).length - 1) ≤ n := by
    by_contra less
    by_cases single : (Nat.toDigits 10 n).length - 1 = 0
    · rw [single] at less
      omega
    · have short := (Nat.length_toDigits_le_iff (b := 10) (by decide) (by omega)).mpr (not_le.mp less)
      omega
  have length : 0 < (Nat.toDigits 10 n).length := Nat.length_toDigits_pos
  have exponent : ((Nat.toDigits 10 n).length : Int) - places - 1 =
      (((Nat.toDigits 10 n).length - 1 : Nat) : Int) - places := by
    omega
  rw [exponent, zpow_sub₀ (by norm_num), zpow_natCast, zpow_natCast, div_le_iff₀ (by positivity)]
  calc
    (10 : ℚ) ^ ((Nat.toDigits 10 n).length - 1) ≤ n := by exact_mod_cast leading
    _ ≤ v * 10 ^ places := floor

theorem point_intervalOf (scaled : IsScaled m q) :
    (10 : ℚ) ^ ((intervalOf m q).point - 1) ≤ m * 2 ^ q := by
  obtain ⟨value, positive⟩ := value_intervalOf m q
  rw [Interval.point]
  apply pow_le_of_length positive value
  · exact ten_zpow_le_scaled scaled
  · rfl

/-- Two numbers around a given one that are both not rounded to it are as far apart as the interval
is wide. -/
theorem le_of_missed {below above : ℚ} (low : below ≤ m * 2 ^ q) (high : m * 2 ^ q ≤ above)
    (under : ¬ RoundsTo m q below) (beyond : ¬ RoundsTo m q above) :
    (1 / 2 + gapBelow m q) * 2 ^ q ≤ above - below := by
  have power : (0 : ℚ) < 2 ^ q := by positivity
  have gap : 0 < gapBelow m q := by
    rw [gapBelow]
    split <;> norm_num
  have left : below ≤ (m - gapBelow m q) * 2 ^ q := by
    by_contra inside
    have upper : below < (m + 1 / 2) * 2 ^ q := by nlinarith
    exact under ⟨(not_le.mp inside).le, upper.le, fun _ => ⟨not_le.mp inside, upper⟩⟩
  have right : (m + 1 / 2) * 2 ^ q ≤ above := by
    by_contra inside
    have lower : (m - gapBelow m q) * 2 ^ q < above := by nlinarith
    exact beyond ⟨lower.le, (not_le.mp inside).le, fun _ => ⟨lower, not_le.mp inside⟩⟩
  linarith

/-- A grid of seventeen digits has a number that is rounded to the given one. -/
theorem exists_hit? (scaled : IsScaled m q) :
    ∃ k, (intervalOf m q).hit? ((intervalOf m q).point - (17 : Nat)) = some k := by
  obtain ⟨value, positive⟩ := value_intervalOf m q
  have leading := point_intervalOf scaled
  by_contra nowhere
  obtain ⟨first, second⟩ := missed_of_hit? (Option.eq_none_iff_forall_ne_some.mpr
    (not_exists.mp nowhere))
  obtain ⟨below, above⟩ := below_bounds positive ((intervalOf m q).point - (17 : Nat))
  rw [value] at below above
  have power : (0 : ℚ) < 2 ^ q := by positivity
  have fine : (10 : ℚ) ^ ((intervalOf m q).point - (17 : Nat)) * 10 ^ 16 ≤ m * 2 ^ q := by
    calc
      _ = (10 : ℚ) ^ ((intervalOf m q).point - 1) := by
        rw [← zpow_natCast (10 : ℚ) 16, ← zpow_add₀ (by norm_num)]
        congr 1
        push_cast
        ring
      _ ≤ m * 2 ^ q := leading
  generalize (intervalOf m q).point - (17 : Nat) = step at *
  have under : ¬ RoundsTo m q ((intervalOf m q).below step * 10 ^ step) := by
    rw [← gridStep_eq, ← mul_div_assoc]
    have missed := (holds_iff scaled.positive (gridStep_pos step).2).not.mp (by simpa using first)
    simpa using missed
  have beyond : ¬ RoundsTo m q (((intervalOf m q).below step + 1) * 10 ^ step) := by
    rw [← gridStep_eq, ← mul_div_assoc]
    have missed := (holds_iff scaled.positive (gridStep_pos step).2).not.mp (by simpa using second)
    simpa using missed
  have wide := le_of_missed below above.le under beyond
  -- Sixteen places further up the step would reach the number, which has a mantissa of 53 bits.
  have bound : (m : ℚ) < 2 ^ 53 := by exact_mod_cast scaled.bound
  rw [gapBelow] at wide
  split at wide
  next narrow =>
    have least : (m : ℚ) = 2 ^ 52 := by
      rw [narrow.1]
      norm_num [Binary.leastNormal]
    rw [least] at fine
    nlinarith
  next => nlinarith

/-- The digits that are found stand on the first grid that is hit. -/
theorem shortestFrom_eq {i : Interval} {n fuel last : Nat}
    (hit : ∃ k, i.hit? (i.point - last) = some k) (first : n ≤ last) (enough : last < n + fuel) :
    ∃ n' k : Nat, i.hit? (i.point - n') = some k ∧ i.shortestFrom n fuel = i.digitsAt n' k := by
  induction fuel generalizing n with
  | zero => omega
  | succ fuel ih =>
    rw [Interval.shortestFrom]
    cases here : i.hit? (i.point - n) with
    | some k => exact ⟨n, k, here, rfl⟩
    | none =>
      have later : n ≠ last := by
        rintro rfl
        obtain ⟨k, found⟩ := hit
        rw [here] at found
        cases found
      exact ih (by omega) (by omega)

/-- The shortest digits of a number stand for one that is rounded to it. -/
theorem roundsTo_shortest (scaled : IsScaled m q) : RoundsTo m q (shortest m q).value := by
  obtain ⟨n, k, hit, same⟩ :=
    shortestFrom_eq (exists_hit? scaled) (by decide : 1 ≤ 17) (by decide : 17 < 1 + 17)
  have inside := (holds_iff scaled.positive (gridStep_pos _).2).mp (holds_of_hit? hit)
  rw [shortest, same, value_digitsAt, ← gridStep_eq, ← mul_div_assoc]
  exact_mod_cast inside

/-! Reading -/

/-- The number that a decimal stands for. -/
def Parts.value (p : Parts) : ℚ := ofDigits (p.whole ++ p.part) * 10 ^ (p.exponent - p.part.length)

theorem digitValue_le {c : Char} (digit : c.isDigit = true) : digitValue c ≤ 9 := by
  simp only [Char.isDigit, Bool.and_eq_true, decide_eq_true_eq, ge_iff_le] at digit
  have most : c.toNat ≤ 57 := digit.2
  rw [digitValue]
  omega

theorem digitValue_pos {c : Char} (digit : c.isDigit = true) (some : c ≠ '0') :
    0 < digitValue c := by
  simp only [Char.isDigit, Bool.and_eq_true, decide_eq_true_eq, ge_iff_le] at digit
  have least : 48 ≤ c.toNat := digit.1
  have other : c.toNat ≠ 48 := fun same => some (Char.toNat_inj.mp same)
  rw [digitValue]
  omega

theorem ofDigits_cons (c : Char) (digits : List Char) :
    ofDigits (c :: digits) = digitValue c * 10 ^ digits.length + ofDigits digits := by
  have split := ofDigits_append [c] digits
  simpa [ofDigits] using split

theorem ofDigits_lt {digits : List Char} (all : AllDigits digits) :
    ofDigits digits < 10 ^ digits.length := by
  induction digits with
  | nil => decide
  | cons c rest ih =>
    have least := digitValue_le (all c List.mem_cons_self)
    have later := ih fun d member => all d (List.mem_cons_of_mem c member)
    rw [ofDigits_cons, List.length_cons, pow_succ]
    nlinarith

theorem le_ofDigits {c : Char} {digits : List Char} (digit : c.isDigit = true) (some : c ≠ '0') :
    10 ^ digits.length ≤ ofDigits (c :: digits) := by
  have positive := digitValue_pos digit some
  rw [ofDigits_cons]
  nlinarith [Nat.pow_pos (n := digits.length) (by decide : 0 < 10)]

theorem ofDigits_dropWhile (digits : List Char) :
    ofDigits (digits.dropWhile (· == '0')) = ofDigits digits := by
  induction digits with
  | nil => rfl
  | cons c rest ih =>
    by_cases zero : c = '0'
    · subst zero
      rw [List.dropWhile_cons_of_pos rfl, ih, ofDigits_cons]
      simp [digitValue]
    · rw [List.dropWhile_cons_of_neg (by simpa using zero)]

/-- A number that is rounded to another is not far outside the range of floating-point numbers. -/
theorem RoundsTo.bounds {v : ℚ} (scaled : IsScaled m q) (rounds : RoundsTo m q v) :
    (10 : ℚ) ^ (-400 : Int) ≤ v ∧ v < 10 ^ (400 : Int) := by
  constructor
  · have gap := gapBelow_le m q
    have least : (1 : ℚ) ≤ m := by exact_mod_cast scaled.positive
    have power : (2 : ℚ) ^ (-1074 : Int) ≤ 2 ^ q := zpow_le_zpow_right₀ (by norm_num) scaled.least
    have low := rounds.low
    have small : (10 : ℚ) ^ (-400 : Int) ≤ 2 ^ (-1075 : Int) := ten_zpow_le (by norm_num)
    have half : (2 : ℚ) ^ (-1075 : Int) = 1 / 2 * 2 ^ (-1074 : Int) := by
      rw [show (-1075 : Int) = -1 + -1074 by norm_num, zpow_add₀ two_ne_zero]
      norm_num
    have positive : (0 : ℚ) < 2 ^ q := by positivity
    calc
      (10 : ℚ) ^ (-400 : Int) ≤ 1 / 2 * 2 ^ (-1074 : Int) := half ▸ small
      _ ≤ (m - gapBelow m q) * 2 ^ q := by nlinarith
      _ ≤ v := low
  · calc
      v < 2 ^ (53 + q) := scaled.lt_two_pow rounds
      _ ≤ 10 ^ (400 : Int) := two_zpow_le (by have := scaled.most; omega)

/-- The digits of a decimal that is neither too small nor too large begin near the point. -/
theorem places_of_bounds {c : Char} {rest : List Char} {exponent : Int}
    (digits : AllDigits (c :: rest)) (leading : c ≠ '0')
    (low : (10 : ℚ) ^ (-400 : Int) ≤ ofDigits (c :: rest) * 10 ^ exponent)
    (high : ofDigits (c :: rest) * 10 ^ exponent < (10 : ℚ) ^ (400 : Int)) :
    -400 ≤ exponent + ((c :: rest).length : Nat) ∧
      exponent + ((c :: rest).length : Nat) ≤ 400 := by
  have least : (10 : ℚ) ^ rest.length ≤ ofDigits (c :: rest) := by
    exact_mod_cast le_ofDigits (digits c List.mem_cons_self) leading
  have most : (ofDigits (c :: rest) : ℚ) < 10 ^ (rest.length + 1) := by
    exact_mod_cast ofDigits_lt digits
  have power : (0 : ℚ) < 10 ^ exponent := by positivity
  rw [List.length_cons]
  constructor
  · have : (10 : ℚ) ^ (-400 : Int) < 10 ^ (exponent + (rest.length + 1 : Nat)) := by
      calc
        (10 : ℚ) ^ (-400 : Int) ≤ ofDigits (c :: rest) * 10 ^ exponent := low
        _ < 10 ^ (rest.length + 1) * 10 ^ exponent := by gcongr
        _ = 10 ^ (exponent + (rest.length + 1 : Nat)) := by
          rw [zpow_add₀ (by norm_num), zpow_natCast, mul_comm]
    exact ((zpow_lt_zpow_iff_right₀ (by norm_num)).mp this).le
  · have : (10 : ℚ) ^ (exponent + rest.length) < 10 ^ (400 : Int) := by
      calc
        (10 : ℚ) ^ (exponent + rest.length) = 10 ^ rest.length * 10 ^ exponent := by
          rw [zpow_add₀ (by norm_num), zpow_natCast, mul_comm]
        _ ≤ ofDigits (c :: rest) * 10 ^ exponent := by gcongr
        _ < 10 ^ (400 : Int) := high
    have := (zpow_lt_zpow_iff_right₀ (by norm_num : (1 : ℚ) < 10)).mp this
    push_cast
    omega

/-- A decimal that is rounded to a number is read as this number. -/
theorem Parts.toFloat_eq {p : Parts} (digits : AllDigits (p.whole ++ p.part))
    (scaled : IsScaled m q) (rounds : RoundsTo m q p.value) :
    p.toFloat = Float.ofBits (UInt64.ofNat ((q + 1074).toNat * 2 ^ 52 + m)) := by
  have number := ofDigits_dropWhile (p.whole ++ p.part)
  have kept : ∀ c ∈ (p.whole ++ p.part).dropWhile (· == '0'), c.isDigit = true := fun c member =>
    digits c ((List.dropWhile_sublist _).subset member)
  obtain ⟨low, high⟩ := rounds.bounds scaled
  have positive := rounds.pos scaled
  rw [Parts.value, ← number] at rounds low high positive
  rw [Parts.toFloat]
  cases found : (p.whole ++ p.part).dropWhile (· == '0') with
  | nil =>
    rw [found] at positive
    simp [ofDigits] at positive
  | cons c rest =>
    have leading : c ≠ '0' := by
      have first := List.head?_dropWhile_not (· == '0') (p.whole ++ p.part)
      rw [found] at first
      simpa using first
    rw [found] at rounds low high kept
    generalize p.exponent - p.part.length = exponent at *
    obtain ⟨short, long⟩ := places_of_bounds kept leading low high
    have first : ¬ ((c :: rest).isEmpty = true ∨
        exponent + ((c :: rest).length : Nat) < -400) := by
      rintro (empty | shorter)
      · cases empty
      · exact absurd shorter (not_lt.mpr short)
    have second : ¬ exponent + ((c :: rest).length : Nat) > 400 := not_lt.mpr long
    rw [if_neg first, if_neg second]
    cases exponent with
    | ofNat e =>
      apply nearest_of_roundsTo scaled Nat.one_pos
      simpa using rounds
    | negSucc e =>
      apply nearest_of_roundsTo scaled (Nat.pow_pos (by decide))
      rw [zpow_negSucc, ← div_eq_mul_inv] at rounds
      simpa using rounds

/-! Texts -/

/-- A numeral with a point or an exponent that stands for the same number as some digits. -/
def Digits.ShownBy (d : Digits) (text : List Char) : Prop :=
  ∃ whole fraction exponent power, text = whole ++ (fraction ++ exponent) ∧
    NumeralParts whole fraction exponent ∧ (fraction ≠ [] ∨ exponent ≠ []) ∧
    readExponent? exponent = some power ∧ Parts.value ⟨whole, fraction.tail, power⟩ = d.value

theorem ofDigits_zeros_append (n : Nat) (digits : List Char) :
    ofDigits (zeros n ++ digits) = ofDigits digits := by
  rw [ofDigits_append, ofDigits_zeros, Nat.zero_mul, Nat.zero_add]

theorem value_fraction {d : Digits} {whole part : List Char} {n : Nat}
    (digits : ofDigits (whole ++ part) = ofDigits d.digits * 10 ^ n)
    (places : (part.length : Int) = n + d.digits.length - d.point) :
    Parts.value ⟨whole, part, 0⟩ = d.value := by
  have power : (0 : Int) - part.length + n = d.point - d.digits.length := by omega
  rw [Parts.value, Digits.value, digits, ← power, zpow_add₀ (by norm_num), zpow_natCast]
  push_cast
  ring

/-- Without an exponent, what counts is the digits and the number of places after the point. -/
theorem shownBy_point {d : Digits} {whole part : List Char} {n : Nat} (some : whole ≠ [])
    (front : AllDigits whole) (back : AllDigits part)
    (number : ofDigits (whole ++ part) = ofDigits d.digits * 10 ^ n)
    (places : (part.length : Int) = n + d.digits.length - d.point) :
    d.ShownBy (whole ++ '.' :: part) :=
  ⟨whole, '.' :: part, [], 0, by simp, ⟨some, front, .inr ⟨_, rfl, back⟩, .inl rfl⟩, by simp, rfl,
    value_fraction number places⟩

theorem allDigits_zero : AllDigits ['0'] := allDigits_zeros 1

/-- Digits with the point among them, or behind them with zeros for the places in between. -/
theorem shownBy_split {d : Digits} (digits : AllDigits d.digits) {p : Nat} (positive : p ≠ 0)
    (point : d.point = p) :
    d.ShownBy ((d.digits.take p ++ zeros (p - d.digits.length)) ++
      '.' :: (if (d.digits.drop p).isEmpty then ['0'] else d.digits.drop p)) := by
  have front : AllDigits (d.digits.take p ++ zeros (p - d.digits.length)) :=
    allDigits_append.mpr ⟨fun c member => digits c (List.mem_of_mem_take member),
      allDigits_zeros _⟩
  have some : d.digits.take p ++ zeros (p - d.digits.length) ≠ [] := by
    intro empty
    have length := congrArg List.length empty
    simp only [List.length_append, List.length_take, zeros, List.length_replicate,
      List.length_nil] at length
    omega
  by_cases long : d.digits.length ≤ p
  · rw [if_pos (by simpa using long)]
    apply shownBy_point (n := p - d.digits.length + 1) some front allDigits_zero
    · rw [List.take_of_length_le long, List.append_assoc, ofDigits_append, ofDigits_zeros_append]
      simp [zeros, ofDigits, digitValue]
    · rw [point, List.length_singleton]
      omega
  · rw [if_neg (by simpa using long)]
    apply shownBy_point (n := 0) some front
    · exact fun c member => digits c (List.mem_of_mem_drop member)
    · have none : p - d.digits.length = 0 := by omega
      simp [none, zeros]
    · rw [point, List.length_drop]
      omega

theorem shownBy_positional {d : Digits} (digits : AllDigits d.digits) :
    d.ShownBy (positional d) := by
  unfold positional
  split
  next p point =>
    split
    next none =>
      apply shownBy_point (n := 0) (List.cons_ne_nil _ _) allDigits_zero digits
      · rw [ofDigits_append]
        simp [ofDigits, digitValue]
      · rw [point, none]
        simp
    next positive => exact shownBy_split digits positive point
  next p point =>
    show d.ShownBy (['0'] ++ '.' :: (zeros (p + 1) ++ d.digits))
    apply shownBy_point (n := 0) (List.cons_ne_nil _ _) allDigits_zero
    · exact allDigits_append.mpr ⟨allDigits_zeros _, digits⟩
    · rw [ofDigits_append, ofDigits_zeros_append]
      simp [ofDigits, digitValue]
    · rw [point, List.length_append, zeros, List.length_replicate]
      push_cast
      omega

theorem readExponent?_exponentText (width : Nat) (e : Int) :
    readExponent? ('e' :: exponentText width e) = some e := by
  have digits : AllDigits (zeros (width - (Nat.toDigits 10 e.natAbs).length) ++
      Nat.toDigits 10 e.natAbs) := allDigits_append.mpr ⟨allDigits_zeros _, allDigits_toDigits _⟩
  have number : ofDigits (zeros (width - (Nat.toDigits 10 e.natAbs).length) ++
      Nat.toDigits 10 e.natAbs) = e.natAbs := by
    rw [ofDigits_zeros_append, ofDigits_toDigits]
  have all := List.all_eq_true.mpr digits
  have some : zeros (width - (Nat.toDigits 10 e.natAbs).length) ++ Nat.toDigits 10 e.natAbs ≠ [] := by
    simp [Nat.toDigits_ne_nil]
  by_cases negative : e < 0
  · simp [exponentText, readExponent?, readSign, negative, all, some, number, abs_of_neg]
  · simp [exponentText, readExponent?, readSign, negative, all, some, number]
    omega

theorem shownBy_scientific (f : Format) {d : Digits} (digits : AllDigits d.digits)
    (some : d.digits ≠ []) : d.ShownBy (scientific f d) := by
  have exponent := isExponent_exponentText f.exponentDigits (d.point - 1)
  have power := readExponent?_exponentText f.exponentDigits (d.point - 1)
  rw [scientific]
  split
  next first second rest same =>
    have all := digits
    rw [same] at all
    obtain ⟨one, others⟩ := List.forall_mem_cons.mp all
    refine ⟨[first], '.' :: second :: rest, _, _, rfl,
      ⟨by simp, by simpa [AllDigits] using one, .inr ⟨_, rfl, others⟩, exponent⟩, by simp, power, ?_⟩
    have places : d.point - 1 - ((second :: rest).length : Nat) =
        d.point - ((first :: second :: rest).length : Nat) := by
      simp only [List.length_cons]
      omega
    simp only [Parts.value, Digits.value, List.tail_cons, same, places, List.singleton_append]
  next short =>
    refine ⟨d.digits, [], _, _, rfl, ⟨some, digits, .inl rfl, exponent⟩, by simp, power, ?_⟩
    -- There is one digit only, and it stands just before the point.
    obtain ⟨c, rest, same⟩ := List.exists_cons_of_ne_nil some
    cases rest with
    | nil => simp [Parts.value, Digits.value, same]
    | cons next rest => exact absurd same (short c next rest)

/-- The text of a number is a numeral for its shortest digits. -/
theorem shownBy_write {d : Digits} (digits : AllDigits d.digits) (some : d.digits ≠ []) (f : Format) :
    d.ShownBy (f.write d) := by
  simp only [Format.write]
  split
  · exact shownBy_positional digits
  · exact shownBy_scientific f digits some

theorem readParts?_of_parts {whole fraction exponent : List Char} {power : Int}
    (parts : NumeralParts whole fraction exponent) (read : readExponent? exponent = some power) :
    readParts? (whole ++ (fraction ++ exponent)) = some ⟨whole, fraction.tail, power⟩ := by
  simp [readParts?, readMantissa?_parts parts, read]

theorem IsFraction.tail {fraction : List Char} (isFraction : IsFraction fraction) :
    AllDigits fraction.tail := by
  rcases isFraction with rfl | ⟨part, rfl, digits⟩
  · exact fun c member => absurd member (List.not_mem_nil)
  · exact digits

/-- A numeral for digits that are rounded to a number is read as this number. -/
theorem readPlain?_of_shownBy {d : Digits} {text : List Char} (shown : d.ShownBy text)
    (scaled : IsScaled m q) (rounds : RoundsTo m q d.value) :
    readPlain? text = some (Float.ofBits (UInt64.ofNat ((q + 1074).toNat * 2 ^ 52 + m))) := by
  obtain ⟨whole, fraction, exponent, power, rfl, parts, -, read, value⟩ := shown
  rw [readPlain?, readParts?_of_parts parts read, Option.map_some, Parts.toFloat_eq _ scaled]
  · rw [value]
    exact rounds
  · exact allDigits_append.mpr ⟨parts.whole, parts.fraction.tail⟩

/-- A numeral with a point or an exponent is not made of digits only. -/
theorem Digits.ShownBy.marked {d : Digits} {text : List Char} (shown : d.ShownBy text) :
    text.all Char.isDigit = false := by
  obtain ⟨whole, fraction, exponent, power, rfl, parts, marked, -⟩ := shown
  apply List.all_eq_false.mpr
  rcases marked with point | mark
  · obtain ⟨part, rfl, -⟩ := parts.fraction.resolve_left point
    exact ⟨'.', by simp, by decide⟩
  · obtain ⟨sign, digits, rfl, -⟩ := parts.exponent.resolve_left mark
    exact ⟨'e', by simp, by decide⟩

/-! Signs -/

theorem xor_two_pow {bits : Nat} (small : bits < 2 ^ 63) : bits ^^^ 2 ^ 63 = 2 ^ 63 + bits := by
  apply Nat.eq_of_testBit_eq
  intro i
  rw [Nat.testBit_xor, Nat.testBit_two_pow]
  rcases Nat.lt_trichotomy i 63 with lower | rfl | higher
  · rw [Nat.testBit_two_pow_add_gt lower]
    simp [(Nat.ne_of_lt lower).symm]
  · rw [Nat.testBit_two_pow_add_eq]
    simp
  · have size : (2 : Nat) ^ 64 ≤ 2 ^ i := Nat.pow_le_pow_right (by decide) higher
    rw [Nat.testBit_lt_two_pow (by omega), Nat.testBit_lt_two_pow (by omega)]
    simp [Nat.ne_of_lt higher]

theorem toBits_of_lt {bits : Nat} (finite : bits < 2047 * 2 ^ 52) :
    (Float.ofBits (UInt64.ofNat bits)).toBits.toNat = bits := by
  have size : (UInt64.ofNat bits).toNat = bits := by
    rw [UInt64.toNat_ofNat']
    omega
  rw [toBits_ofBits (by rw [size]; omega), size]

/-- The bits of a finite number, with the sign bit set. -/
theorem toBits_negate {x : Float} (finite : x.toBits.toNat < 2047 * 2 ^ 52) :
    (negate x).toBits.toNat = 2 ^ 63 + x.toBits.toNat := by
  have sign : ((1 : UInt64) <<< 63).toNat = 2 ^ 63 := by decide
  have bits : (x.toBits ^^^ ((1 : UInt64) <<< 63)).toNat = 2 ^ 63 + x.toBits.toNat := by
    rw [UInt64.toNat_xor, sign, xor_two_pow (by omega)]
  rw [negate, toBits_ofBits (by rw [bits]; omega), bits]

/-- The bits of a finite number are its sign, its scale and its mantissa. -/
theorem toBits_of_finite {x : Float} {negative : Bool} {m : Nat} {q : Int}
    (finite : Binary.ofFloat x = .finite negative m q) :
    x.toBits.toNat = (if negative then 2 ^ 63 else 0) + ((q + 1074).toNat * 2 ^ 52 + m) ∧
      (q + 1074).toNat * 2 ^ 52 + m < 2047 * 2 ^ 52 ∧ ((m = 0 ∧ q = -1074) ∨ IsScaled m q) := by
  have size := x.toBits.toNat_lt
  rw [ofFloat_eq] at finite
  generalize x.toBits.toNat = bits at *
  split at finite
  · split at finite <;> cases finite
  next other =>
    split at finite
    next zero =>
      cases finite
      refine ⟨?_, by omega, ?_⟩
      rotate_left
      · rcases Nat.eq_zero_or_pos (bits % 2 ^ 52) with none | some
        · exact .inl ⟨none, rfl⟩
        · exact .inr ⟨some, by omega, by omega, by omega, .inl rfl⟩
      by_cases sign : bits / 2 ^ 63 = 1
      · simp only [sign, decide_true, if_true]
        omega
      · simp only [sign, decide_false, Bool.false_eq_true, if_false]
        omega
    next some =>
      cases finite
      refine ⟨?_, by omega, .inr ⟨by omega, by omega, by omega, by omega, .inr (by omega)⟩⟩
      by_cases sign : bits / 2 ^ 63 = 1
      · simp only [sign, decide_true, if_true]
        omega
      · simp only [sign, decide_false, Bool.false_eq_true, if_false]
        omega

theorem Digits.ShownBy.isNumeral {d : Digits} {text : List Char} (shown : d.ShownBy text) :
    IsNumeral text := by
  obtain ⟨whole, fraction, exponent, power, same, parts, -⟩ := shown
  exact ⟨whole, fraction, exponent, same, parts⟩

/-- The text of a number without its sign. -/
theorem readPlain?_magnitude {m : Nat} {q : Int} (scaled : (m = 0 ∧ q = -1074) ∨ IsScaled m q) :
    let text := if m = 0 then "0.0".toList else Format.plain.write (shortest m q)
    IsNumeral text ∧ text.all Char.isDigit = false ∧
      readPlain? text = some (Float.ofBits (UInt64.ofNat ((q + 1074).toNat * 2 ^ 52 + m))) := by
  rcases scaled with ⟨rfl, rfl⟩ | scaled
  · refine ⟨⟨['0'], ['.', '0'], [], rfl, ?_⟩, rfl, rfl⟩
    exact ⟨by simp, by simp [AllDigits], .inr ⟨_, rfl, by simp [AllDigits]⟩, .inl rfl⟩
  · have digits : AllDigits (shortest m q).digits := by
      rw [shortest]
      exact fun _ => isDigit_shortestFrom
    have some : (shortest m q).digits ≠ [] := by
      rw [shortest]
      exact digits_shortestFrom_ne_nil (low_intervalOf scaled.positive.ne' q) 1 17
    have rounds := roundsTo_shortest scaled
    -- From here on the digits must not be computed.
    generalize shortest m q = d at digits some rounds
    have shown := shownBy_write digits some .plain
    rw [if_neg scaled.positive.ne']
    exact ⟨shown.isNumeral, shown.marked, readPlain?_of_shownBy shown scaled rounds⟩

end HtmlTemplate.Decimal

namespace HtmlTemplate.Code.Literal

open Decimal

/-- The text of a finite number is read back as this number. -/
theorem read_writeFloat {x : Float} (finite : IsFinite x) :
    read (writeFloat x).toList = .ok (.float x) := by
  obtain ⟨negative, m, q, same⟩ := finite
  obtain ⟨bits, size, scaled⟩ := toBits_of_finite same
  obtain ⟨numeral, marked, plain⟩ := readPlain?_magnitude scaled
  obtain ⟨unsigned, signed⟩ := read_of_numeral numeral marked plain
  rw [writeFloat, String.toList_ofList, same, Binary.write]
  generalize (q + 1074).toNat * 2 ^ 52 + m = magnitude at bits size unsigned signed
  have kept := toBits_of_lt size
  cases negative with
  | false =>
    have same : x = Float.ofBits (UInt64.ofNat magnitude) := by
      apply eq_of_toBits
      rw [bits, kept, if_neg Bool.false_ne_true, Nat.zero_add]
    rw [if_neg Bool.false_ne_true, unsigned, same]
  | true =>
    have same : x = negate (Float.ofBits (UInt64.ofNat magnitude)) := by
      apply eq_of_toBits
      rw [bits, toBits_negate (by rw [kept]; exact size), kept, if_pos rfl]
    rw [if_pos rfl, signed, same]

end HtmlTemplate.Code.Literal
