import HtmlTemplate.Decimal.Binary

/-!
Reading numbers. A decimal is digits with at most one point among them and at least one digit, then
perhaps an exponent; it is read as the nearest floating-point number.
-/

namespace HtmlTemplate.Decimal

def digitValue (c : Char) : Nat := c.toNat - 48

def ofDigits (digits : List Char) : Nat := digits.foldl (fun n c => 10 * n + digitValue c) 0

/-- A decimal cut into its parts, none of them interpreted yet. -/
structure Parts where
  whole : List Char
  part : List Char
  exponent : Int
  deriving DecidableEq, Repr

/-- Digits, then perhaps a point and more digits; also gives what follows. -/
def readMantissa? (s : List Char) : Option (List Char × List Char × List Char) :=
  let whole := s.takeWhile Char.isDigit
  let rest := s.dropWhile Char.isDigit
  let (part, rest) :=
    match rest with
    | '.' :: more => (more.takeWhile Char.isDigit, more.dropWhile Char.isDigit)
    | other => ([], other)
  if whole.isEmpty && part.isEmpty then none else some (whole, part, rest)

def readSign : List Char → Bool × List Char
  | '-' :: rest => (true, rest)
  | '+' :: rest => (false, rest)
  | s => (false, s)

/-- An exponent that takes up the whole text, or nothing at all. -/
def readExponent? : List Char → Option Int
  | [] => some 0
  | c :: rest =>
    if c = 'e' ∨ c = 'E' then
      let (negative, digits) := readSign rest
      if !digits.isEmpty && digits.all Char.isDigit then
        some (if negative then -(ofDigits digits : Int) else ofDigits digits)
      else none
    else none

def readParts? (s : List Char) : Option Parts := do
  let (whole, part, rest) ← readMantissa? s
  let exponent ← readExponent? rest
  some { whole, part, exponent }

/-- The number nearest to the decimal. Decimals far outside the range of floating-point numbers are
settled by their size alone. -/
def Parts.toFloat (p : Parts) : Float :=
  let digits := (p.whole ++ p.part).dropWhile (· == '0')
  let exponent := p.exponent - p.part.length
  let size := exponent + digits.length
  if digits.isEmpty ∨ size < -400 then Float.ofBits 0
  else if size > 400 then infinity
  else
    match exponent with
    | .ofNat e => nearest (ofDigits digits * Nat.pow 10 e) 1
    | .negSucc e => nearest (ofDigits digits) (Nat.pow 10 (e + 1))

/-- Reads a floating-point number, with a sign, an exponent, or by the name of an infinity or of
not-a-number in any letter case. -/
def readFloat? (s : List Char) : Option Float :=
  let (negative, rest) := readSign s
  let word := String.ofList (rest.map Char.toLower)
  let magnitude : Option Float :=
    if word = "inf" ∨ word = "infinity" then some infinity
    else if word = "nan" then some notANumber
    else (readParts? rest).map Parts.toFloat
  magnitude.map fun x => if negative then negate x else x

/-- Reads a run of digits and points, as it stands in a directive. -/
def readPlain? (s : List Char) : Option Float := (readParts? s).map Parts.toFloat

end HtmlTemplate.Decimal
