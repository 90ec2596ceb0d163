import LinkedShapes.Number.Decimal

/-!
# Double precision numbers

The finite numbers of the binary64 format as exact integers: a sign, a significand and the power of
two that scales it. A decimal number is rounded to the nearest of them, to the even significand
in a tie, and a number is written with the fewest decimal digits that round back to it.

All of it is exact arithmetic on natural numbers: a power of ten and a power of two are compared by
cross multiplication.
-/

namespace LinkedShapes.Number

/-- A finite binary64 number, `significand * 2 ^ exponent` with a sign. In its normal form the
significand has 53 bits, or the exponent is the least one. -/
structure Binary64 where
  /-- Whether there is a minus sign; zero has both signs. -/
  negative : Bool
  /-- The significand, below `2 ^ 53`. -/
  significand : Nat
  /-- The power of two, at least -1074 and at most 971. -/
  exponent : Int
  deriving DecidableEq, Inhabited

namespace Binary64

/-- The number of bits of a normal significand. -/
def precision : Nat := 53

/-- The least exponent. -/
def minExponent : Int := -1074

/-- The greatest exponent. -/
def maxExponent : Int := 971

/-- Zero with a sign. -/
def zero (negative : Bool) : Binary64 := ⟨negative, 0, minExponent⟩

/-- The numerator and the denominator of `base ^ power`. -/
def powerRatio (base : Nat) (power : Int) : Nat × Nat :=
  match power with
  | .ofNat n => (base.pow n, 1)
  | .negSucc n => (1, base.pow (n + 1))

/-- The quotient rounded to the nearest integer, to the even one in a tie. -/
def roundDiv (numerator denominator : Nat) : Nat :=
  let quotient := numerator / denominator
  let twice := 2 * (numerator % denominator)
  if twice > denominator ∨ (twice = denominator ∧ quotient % 2 = 1) then quotient + 1
  else quotient

/-- The binary64 number nearest to a positive ratio; none if it is above the greatest one. -/
def ofRatio? (negative : Bool) (numerator denominator : Nat) : Option Binary64 :=
  let estimate : Int := (numerator.log2 : Int) - denominator.log2 - precision
  let scaled (exponent : Int) : Nat × Nat :=
    let (up, down) := powerRatio 2 exponent
    (numerator * down, denominator * up)
  let (n, d) := scaled estimate
  let exponent := max minExponent (if n / d < Nat.pow 2 precision then estimate else estimate + 1)
  let (n, d) := scaled exponent
  let significand := roundDiv n d
  let (significand, exponent) :=
    if significand = Nat.pow 2 precision then (Nat.pow 2 (precision - 1), exponent + 1)
    else (significand, exponent)
  if exponent ≤ maxExponent then some ⟨negative, significand, exponent⟩ else none

/-- The binary64 number nearest to `coefficient * 10 ^ power`; none if it is above the greatest
one. Powers so great or so small that the answer is known are not computed. -/
def ofDecimal? (negative : Bool) (coefficient : Nat) (power : Int) : Option Binary64 :=
  if coefficient = 0 then some (zero negative)
  else
    let magnitude : Int := (digits coefficient).length + power
    if magnitude > 400 then none
    else if magnitude < -400 then some (zero negative)
    else
      let (up, down) := powerRatio 10 power
      ofRatio? negative (coefficient * up) down

/-- The binary64 number nearest to an integer. -/
def ofInt? (n : Int) : Option Binary64 := ofDecimal? (n < 0) n.natAbs 0

/-- The decimal numbers that round to a positive number, in units of a power of ten: a decimal
`c` is one of them when `c * unit` lies between the two bounds. -/
structure Neighbourhood where
  /-- The lower bound. -/
  low : Nat
  /-- The number itself. -/
  middle : Nat
  /-- The upper bound. -/
  high : Nat
  /-- The length of one step of the decimal grid in the measure of the bounds. -/
  unit : Nat
  /-- Whether the bounds round to the number as well. -/
  closed : Bool

/-- The neighbourhood of a number on the grid of the multiples of `10 ^ power`. -/
def neighbourhood (x : Binary64) (power : Int) : Neighbourhood :=
  let (up2, down2) := powerRatio 2 (x.exponent - 2)
  let (up10, down10) := powerRatio 10 power
  let scale := up2 * down10
  let below := if x.significand = Nat.pow 2 (precision - 1) ∧ minExponent < x.exponent then 1 else 2
  { low := (4 * x.significand - below) * scale
    middle := 4 * x.significand * scale
    high := (4 * x.significand + 2) * scale
    unit := down2 * up10
    closed := x.significand % 2 = 0 }

/-- Whether a decimal on the grid rounds to the number. -/
def Neighbourhood.admits (n : Neighbourhood) (c : Nat) : Bool :=
  if n.closed then n.low ≤ c * n.unit && c * n.unit ≤ n.high
  else n.low < c * n.unit && c * n.unit < n.high

/-- The nearest of the two decimals around the number that round to it, the even one in a tie. -/
def Neighbourhood.nearest? (n : Neighbourhood) : Option Nat :=
  let below := n.middle / n.unit
  let above := below + 1
  match n.admits below, n.admits above with
  | false, false => none
  | true, false => some below
  | false, true => some above
  | true, true =>
    let down := n.middle - below * n.unit
    let up := above * n.unit - n.middle
    if down < up then some below
    else if up < down then some above
    else if below % 2 = 0 then some below else some above

/-- The power of ten of the first decimal digit of a positive number. -/
def leadingPower (x : Binary64) : Int :=
  let estimate := (((x.significand.log2 : Int) + x.exponent) * 30103).fdiv 100000
  let (up2, down2) := powerRatio 2 x.exponent
  let reaches (power : Int) : Bool :=
    let (up10, down10) := powerRatio 10 power
    up10 * down2 ≤ x.significand * up2 * down10
  ((estimate + 1) :: [estimate]).find? reaches |>.getD (estimate - 1)

/-- The decimal with the fewest digits that rounds to a positive number, as a coefficient and a
power of ten: `digitCount` digits are tried, then one more, up to 17. -/
def shortestFrom (x : Binary64) (leading : Int) (digitCount : Nat) : Nat → Nat × Int
  | 0 => (0, 0)
  | fuel + 1 =>
    let power := leading - (digitCount - 1 : Nat)
    match (x.neighbourhood power).nearest? with
    | some c => (c, power)
    | none => shortestFrom x leading (digitCount + 1) fuel

/-- The decimal with the fewest digits that rounds to a positive number. -/
def shortest (x : Binary64) : Nat × Int :=
  shortestFrom x x.leadingPower 1 17

/-- How a number is written: positionally between two powers of ten, else with an exponent. -/
structure Layout where
  /-- The least power of the first digit that is written positionally. -/
  leastPositional : Int
  /-- The least power above that is written with an exponent again. -/
  leastExponential : Int

/-- Numbers from 0.00001 up to below 1e16 are written positionally. -/
def layout : Layout := ⟨-5, 16⟩

/-- The text of a positive decimal without trailing zeros: its digits and the power of ten of the
first of them. -/
def placedText (digits : List Char) (power : Int) : List Char :=
  if layout.leastPositional ≤ power ∧ power < layout.leastExponential then
    if power < 0 then
      '0' :: '.' :: (List.replicate (-power - 1).toNat '0' ++ digits)
    else
      let whole := power.toNat + 1
      let fraction := digits.drop whole
      let whole := digits.take whole ++ List.replicate (whole - digits.length) '0'
      whole ++ '.' :: (if fraction = [] then ['0'] else fraction)
  else
    let mantissa := match digits with
      | [] => ['0']
      | [d] => [d]
      | d :: rest => d :: '.' :: rest
    let sign := if power < 0 then '-' else '+'
    mantissa ++ 'e' :: sign :: Number.digits power.natAbs

/-- The text of a number: the fewest digits that read back, always with a point or an exponent. -/
def text (x : Binary64) : String :=
  let magnitude :=
    if x.significand = 0 then ['0', '.', '0']
    else
      let (coefficient, power) := x.shortest
      let all := Number.digits coefficient
      let kept := (all.reverse.dropWhile (· = '0')).reverse
      placedText kept (power + (all.length - 1 : Nat))
  String.ofList (if x.negative then '-' :: magnitude else magnitude)

/-- The sign of a number and the text after it. -/
def splitSign (text : List Char) : Bool × List Char :=
  match text with
  | '-' :: rest => (true, rest)
  | '+' :: rest => (false, rest)
  | _ => (false, text)

/-- The exponent written by a text: nothing, or the letter `e`, an optional sign and digits. -/
def readExponent? (text : List Char) : Option Int :=
  match text with
  | [] => some 0
  | c :: rest =>
    if c = 'e' ∨ c = 'E' then
      let (negative, digits) := splitSign rest
      (readDigits? digits).map fun n => if negative then -(n : Int) else n
    else none

/-- The finite binary64 number nearest to the one written by a text: an optional sign, digits with
an optional point among or beside them, and an optional exponent. Names of infinities and of values
that are no numbers, and numbers too great to be finite, are not read. -/
def read? (text : List Char) : Option Binary64 :=
  let (negative, rest) := splitSign text
  let whole := rest.takeWhile Char.isDigit
  let rest := rest.dropWhile Char.isDigit
  let (fraction, rest) := match rest with
    | '.' :: rest => (rest.takeWhile Char.isDigit, rest.dropWhile Char.isDigit)
    | _ => ([], rest)
  if whole = [] && fraction = [] then none
  else
    (readExponent? rest).bind fun exponent =>
      ofDecimal? negative (digitsValue (whole ++ fraction)) (exponent - fraction.length)

end Binary64

end LinkedShapes.Number
