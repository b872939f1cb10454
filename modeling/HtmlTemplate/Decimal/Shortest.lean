import HtmlTemplate.Decimal.Binary

/-!
The shortest decimal that reads back as a given floating-point number. The reals that round to
`m * 2 ^ q` form an interval, whose ends belong to it when `m` is even. For one digit, two digits
and so on, the two neighbours of the number on the decimal grid are tested; if any point of a grid
lies in the interval, one of these two does. The first grid with a hit wins, and of two hits the
nearer, a tie going to the even digit. Seventeen digits are always enough.
-/

namespace HtmlTemplate.Decimal

/-- The digits of a decimal number and the place of its point: `0.digits * 10 ^ point`. -/
structure Digits where
  digits : List Char
  point : Int
  deriving DecidableEq, Repr

/-- A number and the ends of the interval of reals that round to it, over one denominator. -/
structure Interval where
  value : Nat
  low : Nat
  high : Nat
  den : Nat
  closed : Bool

/-- The interval of `m * 2 ^ q`. Below the least mantissa of a scale the numbers lie twice as
close. -/
def intervalOf (m : Nat) (q : Int) : Interval :=
  let narrow := m = Binary.leastNormal ∧ q > -1074
  let (unit, den) : Nat × Nat :=
    match q - 2 with
    | .ofNat e => (Nat.pow 2 e, 1)
    | .negSucc e => (1, Nat.pow 2 (e + 1))
  { value := 4 * m * unit
    low := (4 * m - if narrow then 1 else 2) * unit
    high := (4 * m + 2) * unit
    den := den
    closed := m % 2 = 0 }

/-- Whether the grid number `num / gridDen` lies in the interval. -/
def Interval.holds (i : Interval) (num gridDen : Nat) : Bool :=
  let point := num * i.den
  if i.closed then i.low * gridDen ≤ point && point ≤ i.high * gridDen
  else i.low * gridDen < point && point < i.high * gridDen

/-- The grid numbers `k` with `k * 10 ^ step` in the interval, nearest to its value. -/
def Interval.hit? (i : Interval) (step : Int) : Option Nat :=
  let (up, down) : Nat × Nat :=
    match step with
    | .ofNat s => (Nat.pow 10 s, 1)
    | .negSucc s => (1, Nat.pow 10 (s + 1))
  let below := i.value * down / (i.den * up)
  let above := below + 1
  let first := i.holds (below * up) down
  let second := i.holds (above * up) down
  if first && second then
    let twice := 2 * (i.value * down)
    let middle := (below + above) * (i.den * up)
    if twice < middle || (twice == middle && below % 2 == 0) then some below else some above
  else if first then some below
  else if second then some above
  else none

def dropZeros (digits : List Char) : List Char :=
  (digits.reverse.dropWhile (· == '0')).reverse

/-- The number of digits before the point of `value / den`, negative for zeros after the point. -/
def Interval.point (i : Interval) : Int :=
  ((Nat.toDigits 10 (i.value * Nat.pow 10 400 / i.den)).length : Int) - 400

/-- The digits of a number `k` of the grid of `n` digits. -/
def Interval.digitsAt (i : Interval) (n k : Nat) : Digits :=
  let digits := Nat.toDigits 10 k
  { digits := dropZeros digits, point := i.point + (digits.length - n : Int) }

/-- Tries the grids of `n` digits and more, `fuel` of them. -/
def Interval.shortestFrom (i : Interval) (n : Nat) : (fuel : Nat) → Digits
  | 0 => { digits := ['0'], point := 1 }
  | fuel + 1 =>
    ((i.hit? (i.point - n)).map (i.digitsAt n)).getD (i.shortestFrom (n + 1) fuel)

/-- The shortest digits that read back as `m * 2 ^ q`, for a positive `m`. -/
def shortest (m : Nat) (q : Int) : Digits := (intervalOf m q).shortestFrom 1 17

end HtmlTemplate.Decimal
