import HtmlTemplate.Decimal.Shortest

/-!
The text of a number. A floating-point number is written with its shortest digits, positionally when
its leading digit stands between the fifth place after the point and the sixteenth before it, and
always with at least one digit after the point; otherwise with an exponent of at least two digits.
-/

namespace HtmlTemplate.Decimal

/-- Which decimal exponents are written positionally, and how the others look. -/
structure Format where
  leastPositional : Int
  mostPositional : Int
  exponentDigits : Nat

def Format.plain : Format :=
  { leastPositional := -4, mostPositional := 15, exponentDigits := 2 }

def zeros (n : Nat) : List Char := List.replicate n '0'

/-- Positional form, with a digit on both sides of the point. -/
def positional (d : Digits) : List Char :=
  match d.point with
  | .ofNat p =>
    if p = 0 then '0' :: '.' :: d.digits
    else
      let whole := d.digits.take p ++ zeros (p - d.digits.length)
      let part := d.digits.drop p
      whole ++ '.' :: (if part.isEmpty then ['0'] else part)
  | .negSucc p => '0' :: '.' :: zeros (p + 1) ++ d.digits

def exponentText (width : Nat) (e : Int) : List Char :=
  let digits := Nat.toDigits 10 e.natAbs
  (if e < 0 then '-' else '+') :: zeros (width - digits.length) ++ digits

def scientific (f : Format) (d : Digits) : List Char :=
  let mantissa :=
    match d.digits with
    | first :: second :: rest => first :: '.' :: second :: rest
    | short => short
  mantissa ++ 'e' :: exponentText f.exponentDigits (d.point - 1)

def Format.write (f : Format) (d : Digits) : List Char :=
  let exponent := d.point - 1
  if f.leastPositional ≤ exponent ∧ exponent ≤ f.mostPositional then positional d
  else scientific f d

def Binary.write : Binary → List Char
  | .nan => "nan".toList
  | .infinite negative => (if negative then "-inf" else "inf").toList
  | .finite negative mantissa exponent =>
    let magnitude :=
      if mantissa = 0 then "0.0".toList else Format.plain.write (shortest mantissa exponent)
    if negative then '-' :: magnitude else magnitude

/-- The text of a floating-point number. -/
def writeFloat (x : Float) : String := String.ofList (Binary.ofFloat x).write

def writeInt (n : Int) : String :=
  let digits := String.ofList (Nat.toDigits 10 n.natAbs)
  if n < 0 then "-" ++ digits else digits

/-- A whole number with more decimal digits is not read. -/
def mostDigits : Nat := 4300

/-- What is said of a whole number with too many digits. -/
def overlongMessage (digits : Nat) : String :=
  "Exceeds the limit (" ++ writeInt mostDigits
    ++ " digits) for integer string conversion: value has " ++ writeInt digits
    ++ " digits; use sys.set_int_max_str_digits() to increase the limit"

end HtmlTemplate.Decimal
