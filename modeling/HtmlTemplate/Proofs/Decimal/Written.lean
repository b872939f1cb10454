import HtmlTemplate.Decimal.Read
import HtmlTemplate.Decimal.Written
import Mathlib.Tactic.NormNum

/-!
The text of a number. It has digits, signs, a point and a few letters in it, so it is one line. The
floating-point numbers that are not finite are settled by their bits: there are three of them, two
infinities and one not-a-number, and each is read back from its text.
-/

namespace HtmlTemplate.Decimal

theorem eq_of_toBits {x y : Float} (same : x.toBits.toNat = y.toBits.toNat) : x = y := by
  obtain ⟨⟨bits, valid⟩⟩ := x
  obtain ⟨⟨bits', valid'⟩⟩ := y
  have equal : bits = bits' := UInt64.toNat.inj same
  subst equal
  rfl

def IsFinite (x : Float) : Prop :=
  ∃ negative mantissa exponent, Binary.ofFloat x = .finite negative mantissa exponent

theorem ofFloat_eq (x : Float) :
    Binary.ofFloat x =
      if x.toBits.toNat / 2 ^ 52 % 2 ^ 11 = 2047 then
        if x.toBits.toNat % 2 ^ 52 = 0 then .infinite (x.toBits.toNat / 2 ^ 63 = 1) else .nan
      else if x.toBits.toNat / 2 ^ 52 % 2 ^ 11 = 0 then
        .finite (x.toBits.toNat / 2 ^ 63 = 1) (x.toBits.toNat % 2 ^ 52) (-1074)
      else
        .finite (x.toBits.toNat / 2 ^ 63 = 1) (2 ^ 52 + x.toBits.toNat % 2 ^ 52)
          ((x.toBits.toNat / 2 ^ 52 % 2 ^ 11 : Nat) - 1075) := rfl

/-- A number that is not finite has the greatest scale. -/
theorem ofFloat_of_not_finite {x : Float} (special : ¬ IsFinite x) :
    x.toBits.toNat / 2 ^ 52 % 2 ^ 11 = 2047 ∧
      Binary.ofFloat x =
        if x.toBits.toNat % 2 ^ 52 = 0 then .infinite (x.toBits.toNat / 2 ^ 63 = 1) else .nan := by
  have unfolded := ofFloat_eq x
  by_cases greatest : x.toBits.toNat / 2 ^ 52 % 2 ^ 11 = 2047
  · rw [if_pos greatest] at unfolded
    exact ⟨greatest, unfolded⟩
  · rw [if_neg greatest] at unfolded
    split at unfolded
    · exact absurd ⟨_, _, _, unfolded⟩ special
    · exact absurd ⟨_, _, _, unfolded⟩ special

theorem toBits_infinity : infinity.toBits.toNat = 2047 * 2 ^ 52 := by decide

theorem toBits_negate_infinity :
    (negate infinity).toBits.toNat = 2 ^ 63 + 2047 * 2 ^ 52 := by decide

theorem eq_of_infinite {x : Float} {negative : Bool}
    (infinite : Binary.ofFloat x = .infinite negative) :
    x = if negative then negate infinity else infinity := by
  obtain ⟨greatest, cases⟩ := ofFloat_of_not_finite (x := x) (by simp [IsFinite, infinite])
  have size := x.toBits.toNat_lt
  rw [infinite] at cases
  split at cases
  next whole =>
    cases cases
    apply eq_of_toBits
    -- The sign bit is all that is left open.
    generalize x.toBits.toNat = bits at *
    by_cases sign : bits / 2 ^ 63 = 1
    · simp only [sign, decide_true, if_true, toBits_negate_infinity]
      omega
    · simp only [sign, decide_false, Bool.false_eq_true, if_false, toBits_infinity]
      omega
  · cases cases

open Float.Model Float.Model.UnpackedFloat in
theorem unpackExponent_of_greatest {bits : UInt64}
    (greatest : bits.toNat / 2 ^ 52 % 2 ^ 11 = 2047) :
    (unpackExponent bits.toBitVec : BitVec Format.binary64.exponentBits) = -1#_ := by
  apply BitVec.eq_of_toNat_eq
  simpa [unpackExponent, BitVec.extractLsb, Nat.shiftRight_eq_div_pow] using greatest

open Float.Model Float.Model.UnpackedFloat in
theorem unpackMantissa_of_part {bits : UInt64} (part : bits.toNat % 2 ^ 52 ≠ 0) :
    (unpackMantissa bits.toBitVec : BitVec Format.binary64.mantissaBitsWithoutImplicit) ≠ 0#_ := by
  intro zero
  have equal := congrArg BitVec.toNat zero
  exact part (by simpa [unpackMantissa, BitVec.extractLsb] using equal)

theorem toBits_notANumber : notANumber.toBits.toNat =
    (Float.Model.UnpackedFloat.packedNaN Float.Model.Format.binary64).toNat := by decide

/-- Of all the bits that stand for not-a-number, only one pattern is ever used. -/
theorem eq_of_nan {x : Float} (nan : Binary.ofFloat x = .nan) : x = notANumber := by
  obtain ⟨greatest, cases⟩ := ofFloat_of_not_finite (x := x) (by simp [IsFinite, nan])
  have part : x.toBits.toNat % 2 ^ 52 ≠ 0 := by
    intro whole
    rw [nan, if_pos whole] at cases
    cases cases
  have canonical := x.toModel.valid.eq_packedNaN (unpackExponent_of_greatest greatest)
    (unpackMantissa_of_part part)
  apply eq_of_toBits
  rw [toBits_notANumber, ← canonical]
  rfl

/-- A number that is not finite is read back from its text. -/
theorem readFloat?_writeFloat_of_not_finite {x : Float} (special : ¬ IsFinite x) :
    readFloat? (writeFloat x).toList = some x := by
  rw [writeFloat, String.toList_ofList]
  cases kind : Binary.ofFloat x with
  | finite negative mantissa exponent => exact absurd ⟨_, _, _, kind⟩ special
  | nan => rw [eq_of_nan kind]; rfl
  | infinite negative =>
    rw [eq_of_infinite kind]
    cases negative <;> rfl

theorem mem_of_mem_dropZeros {digits : List Char} {c : Char} (member : c ∈ dropZeros digits) :
    c ∈ digits := by
  have kept := (List.dropWhile_sublist _).subset (List.mem_reverse.mp member)
  exact List.mem_reverse.mp kept

theorem isDigit_shortestFrom {interval : Interval} {n fuel : Nat} {c : Char}
    (member : c ∈ (interval.shortestFrom n fuel).digits) : c.isDigit = true := by
  induction fuel generalizing n with
  | zero =>
    simp only [Interval.shortestFrom, List.mem_singleton] at member
    rw [member]
    rfl
  | succ fuel ih =>
    rw [Interval.shortestFrom] at member
    -- The grid must not be computed: its numbers have hundreds of digits.
    generalize interval.hit? (interval.point - n) = hit at member
    cases hit with
    | some k =>
      exact Nat.isDigit_of_mem_toDigits (by decide) (by decide) (mem_of_mem_dropZeros member)
    | none => exact ih member

/-- The characters that the text of a number is made of. -/
def isNumeric (c : Char) : Bool :=
  c.isDigit || ['+', '-', '.', 'e', 'i', 'n', 'f', 'a'].contains c

def Numeric (text : List Char) : Prop := ∀ c ∈ text, isNumeric c = true

theorem numeric_cons {c : Char} {text : List Char} :
    Numeric (c :: text) ↔ isNumeric c = true ∧ Numeric text :=
  List.forall_mem_cons

theorem numeric_append {front back : List Char} :
    Numeric (front ++ back) ↔ Numeric front ∧ Numeric back :=
  List.forall_mem_append

theorem numeric_of_all {text : List Char} (all : text.all isNumeric = true) : Numeric text :=
  List.all_eq_true.mp all

theorem numeric_of_isDigit {digits : List Char} (all : ∀ c ∈ digits, c.isDigit = true) :
    Numeric digits := by
  intro c member
  rw [isNumeric, all c member, Bool.true_or]

theorem numeric_toDigits (n : Nat) : Numeric (Nat.toDigits 10 n) :=
  numeric_of_isDigit fun _ => Nat.isDigit_of_mem_toDigits (by decide) (by decide)

theorem numeric_zeros (n : Nat) : Numeric (zeros n) := by
  intro c member
  rw [(List.mem_replicate.mp member).2]
  rfl

theorem numeric_positional {d : Digits} (digits : Numeric d.digits) : Numeric (positional d) := by
  unfold positional
  split
  next p _ =>
    split
    · exact numeric_cons.mpr ⟨rfl, numeric_cons.mpr ⟨rfl, digits⟩⟩
    · have whole : Numeric (d.digits.take p) := fun c member =>
        digits c (List.mem_of_mem_take member)
      have part : Numeric (d.digits.drop p) := fun c member =>
        digits c (List.mem_of_mem_drop member)
      refine numeric_append.mpr ⟨numeric_append.mpr ⟨whole, numeric_zeros _⟩,
        numeric_cons.mpr ⟨rfl, ?_⟩⟩
      split
      · exact numeric_of_all rfl
      · exact part
  next =>
    exact numeric_cons.mpr
      ⟨rfl, numeric_cons.mpr ⟨rfl, numeric_append.mpr ⟨numeric_zeros _, digits⟩⟩⟩

theorem numeric_scientific {f : Format} {d : Digits} (digits : Numeric d.digits) :
    Numeric (scientific f d) := by
  refine numeric_append.mpr ⟨?_, numeric_cons.mpr ⟨rfl, numeric_cons.mpr ⟨?_,
    numeric_append.mpr ⟨numeric_zeros _, numeric_toDigits _⟩⟩⟩⟩
  · split
    next first second rest same =>
      obtain ⟨leading, others⟩ := numeric_cons.mp (same ▸ digits)
      exact numeric_cons.mpr ⟨leading, numeric_cons.mpr ⟨rfl, others⟩⟩
    next => exact digits
  · split <;> rfl

theorem numeric_write {f : Format} {d : Digits} (digits : Numeric d.digits) :
    Numeric (f.write d) := by
  simp only [Format.write]
  split
  · exact numeric_positional digits
  · exact numeric_scientific digits

theorem numeric_magnitude (mantissa : Nat) (exponent : Int) :
    Numeric (if mantissa = 0 then "0.0".toList
      else Format.plain.write (shortest mantissa exponent)) := by
  split
  · exact numeric_of_all rfl
  · apply numeric_write
    rw [shortest]
    exact numeric_of_isDigit fun c => isDigit_shortestFrom

theorem numeric_signed {digits : List Char} (magnitude : Numeric digits) (negative : Bool) :
    Numeric (if negative then '-' :: digits else digits) := by
  cases negative with
  | false => exact magnitude
  | true => exact numeric_cons.mpr ⟨rfl, magnitude⟩

/-- The text of a floating-point number has digits, signs, a point and a few letters in it. -/
theorem numeric_writeFloat (x : Float) : Numeric (writeFloat x).toList := by
  rw [writeFloat, String.toList_ofList]
  cases Binary.ofFloat x with
  | nan => exact numeric_of_all rfl
  | infinite negative => cases negative <;> exact numeric_of_all rfl
  | finite negative mantissa exponent =>
    simp only [Binary.write]
    exact numeric_signed (numeric_magnitude mantissa exponent) negative

theorem numeric_writeInt (n : Int) : Numeric (writeInt n).toList := by
  have digits : Numeric (String.ofList (Nat.toDigits 10 n.natAbs)).toList := by
    rw [String.toList_ofList]
    exact numeric_toDigits _
  simp only [writeInt]
  split
  · rw [String.toList_append]
    exact numeric_append.mpr ⟨numeric_of_all rfl, digits⟩
  · exact digits

/-- The text of a number is on one line. -/
theorem newline_notMem_writeFloat (x : Float) : '\n' ∉ (writeFloat x).toList :=
  fun member => Bool.noConfusion (numeric_writeFloat x '\n' member)

end HtmlTemplate.Decimal
