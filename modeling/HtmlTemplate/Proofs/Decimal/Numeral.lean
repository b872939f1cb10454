import HtmlTemplate.Code.Literal
import HtmlTemplate.Proofs.Decimal.Written
import HtmlTemplate.Proofs.Text.Scan

/-!
Numerals: digits, perhaps a point and more digits, perhaps an exponent. A numeral with a point or an
exponent is a literal, with a sign or without, and its parts are read off from it. The shortest
digits of a number are never none at all.
-/

namespace HtmlTemplate.Decimal

def AllDigits (text : List Char) : Prop := ∀ c ∈ text, c.isDigit = true

theorem allDigits_append {front back : List Char} :
    AllDigits (front ++ back) ↔ AllDigits front ∧ AllDigits back :=
  List.forall_mem_append

theorem allDigits_zeros (n : Nat) : AllDigits (zeros n) := by
  intro c member
  rw [(List.mem_replicate.mp member).2]
  rfl

theorem allDigits_toDigits (n : Nat) : AllDigits (Nat.toDigits 10 n) := fun _ =>
  Nat.isDigit_of_mem_toDigits (by decide) (by decide)

/-- Nothing, or a point and digits. -/
def IsFraction (text : List Char) : Prop := text = [] ∨ ∃ part, text = '.' :: part ∧ AllDigits part

/-- Nothing, or a mark, a sign and digits. -/
def IsExponent (text : List Char) : Prop :=
  text = [] ∨ ∃ sign digits, text = 'e' :: sign :: digits ∧ (sign = '+' ∨ sign = '-') ∧
    digits ≠ [] ∧ AllDigits digits

/-- The parts of a numeral. -/
structure NumeralParts (whole fraction exponent : List Char) : Prop where
  someDigit : whole ≠ []
  whole : AllDigits whole
  fraction : IsFraction fraction
  exponent : IsExponent exponent

def IsNumeral (text : List Char) : Prop :=
  ∃ whole fraction exponent, text = whole ++ (fraction ++ exponent) ∧
    NumeralParts whole fraction exponent

theorem IsExponent.head_not_digit {text : List Char} (exponent : IsExponent text) :
    ∀ c ∈ text.head?, c.isDigit = false := by
  rcases exponent with rfl | ⟨sign, digits, rfl, -⟩
  · simp
  · intro c member
    cases member
    rfl

theorem readMantissa?_parts {whole fraction exponent : List Char}
    (parts : NumeralParts whole fraction exponent) :
    readMantissa? (whole ++ (fraction ++ exponent)) = some (whole, fraction.tail, exponent) := by
  have stops := parts.exponent.head_not_digit
  rcases parts.fraction with rfl | ⟨part, rfl, digits⟩
  · simp only [readMantissa?, List.nil_append, Text.takeWhile_run parts.whole stops,
      Text.dropWhile_run parts.whole stops]
    rcases parts.exponent with rfl | ⟨sign, digits, rfl, -⟩ <;> simp [parts.someDigit]
  · have point : ∀ c ∈ ('.' :: (part ++ exponent)).head?, c.isDigit = false := by
      intro c member
      cases member
      rfl
    rw [List.cons_append]
    simp only [readMantissa?, Text.takeWhile_run parts.whole point,
      Text.dropWhile_run parts.whole point, Text.takeWhile_run digits stops,
      Text.dropWhile_run digits stops]
    simp [parts.someDigit]

theorem IsNumeral.eq_cons {text : List Char} (numeral : IsNumeral text) :
    ∃ c rest, text = c :: rest ∧ c.isDigit = true := by
  obtain ⟨whole, fraction, exponent, rfl, parts⟩ := numeral
  obtain ⟨c, rest, rfl⟩ := List.exists_cons_of_ne_nil parts.someDigit
  exact ⟨c, rest ++ (fraction ++ exponent), rfl, parts.whole c List.mem_cons_self⟩

/-- A positive number has a digit that is not zero. -/
theorem exists_mem_toDigits_ne_zero {n : Nat} (positive : n ≠ 0) :
    ∃ c ∈ Nat.toDigits 10 n, c ≠ '0' := by
  induction n using Nat.strongRecOn with
  | _ n ih =>
    by_cases small : n < 10
    · rw [Nat.toDigits_of_lt_base small]
      exact ⟨_, List.mem_singleton_self _, by simpa using positive⟩
    · obtain ⟨c, member, nonzero⟩ := ih (n / 10) (by omega) (by omega)
      rw [Nat.toDigits_of_base_le (by decide) (by omega)]
      exact ⟨c, List.mem_append_left _ member, nonzero⟩

theorem dropZeros_ne_nil {digits : List Char} {c : Char} (member : c ∈ digits)
    (nonzero : c ≠ '0') : dropZeros digits ≠ [] := by
  intro empty
  have all := List.dropWhile_eq_nil_iff.mp (List.reverse_eq_nil_iff.mp empty)
  exact nonzero (by simpa using all c (List.mem_reverse.mpr member))

theorem not_holds_zero {interval : Interval} (above : 0 < interval.low) {grid : Nat}
    (positive : 0 < grid) : interval.holds 0 grid = false := by
  have product := Nat.mul_pos above positive
  simp only [Interval.holds, Nat.zero_mul]
  split
  · simp [product.ne']
  · simp

theorem eq_or_eq_of_choice {first second closer : Bool} {below above k : Nat}
    (chosen : (if first && second then if closer then some below else some above
      else if first then some below else if second then some above else none) = some k) :
    (first = true ∧ k = below) ∨ (second = true ∧ k = above) := by
  grind

/-- The step of a decimal grid as a fraction. -/
def gridStep : Int → Nat × Nat
  | .ofNat s => (Nat.pow 10 s, 1)
  | .negSucc s => (1, Nat.pow 10 (s + 1))

theorem gridStep_pos (step : Int) : 0 < (gridStep step).1 ∧ 0 < (gridStep step).2 := by
  cases step with
  | ofNat s => exact ⟨Nat.pow_pos (by decide), Nat.one_pos⟩
  | negSucc s => exact ⟨Nat.one_pos, Nat.pow_pos (by decide)⟩

/-- A grid number that is hit lies in the interval. -/
theorem holds_of_hit? {interval : Interval} {step : Int} {k : Nat}
    (hit : interval.hit? step = some k) :
    interval.holds (k * (gridStep step).1) (gridStep step).2 = true := by
  cases step with
  | ofNat s =>
    rcases eq_or_eq_of_choice hit with ⟨holds, rfl⟩ | ⟨holds, rfl⟩
    · exact holds
    · exact holds
  | negSucc s =>
    rcases eq_or_eq_of_choice hit with ⟨holds, rfl⟩ | ⟨holds, rfl⟩
    · exact holds
    · exact holds

/-- Zero is outside the interval of a positive number, so it is not hit. -/
theorem ne_zero_of_hit? {interval : Interval} (above : 0 < interval.low) {step : Int} {k : Nat}
    (hit : interval.hit? step = some k) : k ≠ 0 := by
  rintro rfl
  have holds := holds_of_hit? hit
  rw [Nat.zero_mul, not_holds_zero above (gridStep_pos step).2] at holds
  cases holds

theorem low_intervalOf {m : Nat} (positive : m ≠ 0) (q : Int) : 0 < (intervalOf m q).low := by
  have part : 0 < 4 * m - if m = Binary.leastNormal ∧ q > -1074 then 1 else 2 := by
    split <;> omega
  simp only [intervalOf]
  refine Nat.mul_pos part ?_
  split
  · exact Nat.pow_pos (by decide)
  · exact Nat.one_pos

theorem digits_shortestFrom_ne_nil {interval : Interval} (above : 0 < interval.low)
    (n fuel : Nat) : (interval.shortestFrom n fuel).digits ≠ [] := by
  induction fuel generalizing n with
  | zero => simp [Interval.shortestFrom]
  | succ fuel ih =>
    rw [Interval.shortestFrom]
    cases hit : interval.hit? (interval.point - n) with
    | none => exact ih (n + 1)
    | some k =>
      obtain ⟨c, member, nonzero⟩ := exists_mem_toDigits_ne_zero (ne_zero_of_hit? above hit)
      exact dropZeros_ne_nil member nonzero

theorem isExponent_exponentText (width : Nat) (e : Int) :
    IsExponent ('e' :: exponentText width e) := by
  refine .inr ⟨_, _, rfl, ?_, ?_, allDigits_append.mpr ⟨allDigits_zeros _, allDigits_toDigits _⟩⟩
  · split
    · exact .inr rfl
    · exact .inl rfl
  · simp [Nat.toDigits_ne_nil]

end HtmlTemplate.Decimal

namespace HtmlTemplate.Code.Literal

open Decimal

theorem isNumberPart_of_numeral {text : List Char} (numeral : IsNumeral text) :
    ∀ c ∈ text, isNumberPart c = true := by
  have digit {digits : List Char} (all : AllDigits digits) : ∀ c ∈ digits, isNumberPart c = true :=
    fun c member => by simp [isNumberPart, all c member]
  obtain ⟨whole, fraction, exponent, rfl, parts⟩ := numeral
  refine List.forall_mem_append.mpr ⟨digit parts.whole, List.forall_mem_append.mpr ⟨?_, ?_⟩⟩
  · rcases parts.fraction with rfl | ⟨part, rfl, all⟩
    · exact List.forall_mem_nil _
    · exact List.forall_mem_cons.mpr ⟨rfl, digit all⟩
  · rcases parts.exponent with rfl | ⟨sign, digits, rfl, rfl | rfl, -, all⟩
    · exact List.forall_mem_nil _
    · exact List.forall_mem_cons.mpr ⟨rfl, List.forall_mem_cons.mpr ⟨rfl, digit all⟩⟩
    · exact List.forall_mem_cons.mpr ⟨rfl, List.forall_mem_cons.mpr ⟨rfl, digit all⟩⟩

/-- A numeral with a point or an exponent is read as a floating-point number. -/
theorem readNumber_of_numeral {text : List Char} {x : Float} (numeral : IsNumeral text)
    (marked : text.all Char.isDigit = false) (plain : readPlain? text = some x) :
    readNumber text = .ok (.float x, []) := by
  have all := isNumberPart_of_numeral numeral
  have kept : text.takeWhile isNumberPart = text := List.takeWhile_eq_self_iff.mpr all
  have left : text.dropWhile isNumberPart = [] := List.dropWhile_eq_nil_iff.mpr all
  rw [readNumber, kept, left, number?, if_neg (by simp [marked]), plain]
  rfl

theorem read_of_scalar {text : List Char} {c : Char} {rest : List Char} {value : Value}
    (starts : text = c :: rest) (number : c.isDigit = true ∨ c = '-')
    (scalar : readScalar text = .ok (value, [])) : read text = .ok value := by
  have plain : c ∉ ['[', '(', '\x7b'] := by
    intro member
    simp only [List.mem_cons, List.not_mem_nil, or_false] at member
    rcases member with rfl | rfl | rfl <;> simp at number
  have step : readValue text (text.length + 1) = .ok (value, []) := by
    rw [starts] at scalar ⊢
    rw [readValue]
    · exact scalar
    all_goals
      intro rest same
      exact plain (by simp [(List.cons.inj same).1])
  rw [read, step]
  rfl

theorem ne_quote_of_isDigit {c : Char} (digit : c.isDigit = true) : ¬ (c = '\'' ∨ c = '"') := by
  rintro (rfl | rfl) <;> cases digit

/-- A numeral is a literal, and so is one with a sign in front. -/
theorem read_of_numeral {text : List Char} {x : Float} (numeral : IsNumeral text)
    (marked : text.all Char.isDigit = false) (plain : readPlain? text = some x) :
    read text = .ok (.float x) ∧ read ('-' :: text) = .ok (.float (negate x)) := by
  have number := readNumber_of_numeral numeral marked plain
  obtain ⟨c, rest, starts, digit⟩ := numeral.eq_cons
  constructor
  · apply read_of_scalar starts (.inl digit)
    rw [starts] at number ⊢
    simp only [readScalar, if_neg (ne_quote_of_isDigit digit), if_pos digit, number]
  · apply read_of_scalar rfl (.inr rfl)
    rw [starts] at number ⊢
    simp [readScalar, digit, number, negative?, bind, Except.bind]

end HtmlTemplate.Code.Literal
