/-!
Floating-point numbers as exact binary numbers: a finite one is `± mantissa * 2 ^ exponent`. Going
back, `nearest` gives the floating-point number closest to a fraction, and of two equally close ones
the one with an even mantissa.
-/

namespace HtmlTemplate.Decimal

inductive Binary where
  | finite (negative : Bool) (mantissa : Nat) (exponent : Int)
  | infinite (negative : Bool)
  | nan
  deriving DecidableEq, Repr

namespace Binary

/-- The least mantissa of a number that has all its digits. -/
def leastNormal : Nat := Nat.pow 2 52

def ofFloat (x : Float) : Binary :=
  let bits := x.toBits.toNat
  let negative := bits / Nat.pow 2 63 = 1
  let scale : Nat := bits / leastNormal % Nat.pow 2 11
  let fraction : Nat := bits % leastNormal
  if scale = 2047 then
    if fraction = 0 then .infinite negative else .nan
  else if scale = 0 then .finite negative fraction (-1074)
  else .finite negative (leastNormal + fraction) ((scale : Int) - 1075)

/-- The whole number a finite number is equal to, if it is whole. -/
def toInt? : Binary → Option Int
  | .finite negative mantissa exponent =>
    let magnitude : Option Nat :=
      match exponent with
      | .ofNat e => some (mantissa * Nat.pow 2 e)
      | .negSucc e =>
        let unit := Nat.pow 2 (e + 1)
        if mantissa % unit = 0 then some (mantissa / unit) else none
    magnitude.map fun n => if negative then -(n : Int) else n
  | _ => none

end Binary

/-- `num / den` rounded to a whole number, a half to the even neighbour. -/
def roundHalfEven (num den : Nat) : Nat :=
  let below := num / den
  let twice := 2 * (num % den)
  if twice < den ∨ (twice = den ∧ below % 2 = 0) then below else below + 1

/-- `num / den * 2 ^ (-shift)` as a fraction. -/
def scaled (num den : Nat) : (shift : Int) → Nat × Nat
  | .ofNat s => (num, den * Nat.pow 2 s)
  | .negSucc s => (num * Nat.pow 2 (s + 1), den)

/-- The floating-point number nearest to `num / den`, where `den` is positive. -/
def nearest (num den : Nat) : Float :=
  if num = 0 then Float.ofBits 0
  else
    let size : Int := (num.log2 : Int) - den.log2
    let low := scaled num den (size - 53)
    let tight := if low.1 / low.2 < 2 * Binary.leastNormal then size - 53 else size - 52
    let shift := max tight (-1074)
    let (n, d) := scaled num den shift
    let bits := (shift + 1074).toNat * Binary.leastNormal + roundHalfEven n d
    Float.ofBits (UInt64.ofNat (min bits (2047 * Binary.leastNormal)))

def negate (x : Float) : Float := Float.ofBits (x.toBits ^^^ ((1 : UInt64) <<< 63))

def infinity : Float := Float.ofBits (UInt64.ofNat (2047 * Binary.leastNormal))

def notANumber : Float := Float.ofBits (UInt64.ofNat (2047 * Binary.leastNormal + Nat.pow 2 51))

end HtmlTemplate.Decimal
