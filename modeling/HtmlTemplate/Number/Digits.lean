import HtmlTemplate.Number.Binary64

/-!
# Decimal digits of a number

`Digits` is a row of decimal digits with the place of the decimal point before, among or
behind them.  `shortest` is the shortest row that reads back as a given binary number,
and of those the nearest to it; `significant` and `fixed` round an exact quotient to a
number of digits or of decimal places.  The rows end without zeros.
-/

namespace HtmlTemplate

/-- The number `0.d₁d₂d₃… · 10 ^ point`. -/
structure Digits where
  digits : List Char
  point : Int
deriving DecidableEq

namespace Digits

private def withoutTrailingZeros (digits : List Char) : List Char :=
  (digits.reverse.dropWhile (· = '0')).reverse

/-- The row of a whole number of units of `10 ^ unit`. -/
def ofNat (n : Nat) (unit : Int) : Digits :=
  let digits := Nat.toDigits 10 n
  ⟨withoutTrailingZeros digits, unit + digits.length⟩

/-- The row of zero. -/
def zero : Digits := ⟨['0'], 1⟩

/-- The place of the point before the first digit of `num / den`, which is positive. -/
def pointOf (num den : Nat) : Int :=
  let estimate := (((num.log2 : Int) - den.log2) * 30103).fdiv 100000
  let isBelow (p : Int) : Bool :=
    let (n, d) := Rounding.shift 10 (-p) num den
    n < d
  (([-1, 0, 1].map (estimate + ·)).find? isBelow).getD (estimate + 2)

/-- `num / den` rounded to `count` significant digits. -/
def significant (num den count : Nat) : Digits :=
  if num = 0 then zero
  else
    let unit := pointOf num den - count
    let (n, d) := Rounding.shift 10 (-unit) num den
    ofNat (Rounding.roundDiv n d) unit

/-- `num / den` rounded to `places` decimal places. -/
def fixed (num den places : Nat) : Digits :=
  let n := Rounding.roundDiv (num * Nat.pow 10 places) den
  if n = 0 then ⟨[], -places⟩ else ofNat n (-places)

/-- The nearest of the two neighbours with `count` digits that read back as
`mantissa · 2 ^ exponent`.  A neighbour reads back if it lies between the midpoints to
the next binary numbers; the midpoints themselves do when the mantissa is even. -/
def candidate? (mantissa : Nat) (exponent : Int) (point : Int) (count : Nat) :
    Option Digits :=
  let unit := point - count
  let (a, b) := Rounding.shift 10 unit 1 1
  let (a, b) := Rounding.shift 2 (2 - exponent) a b
  let below := if mantissa = Binary64.minNormal && Binary64.minExponent < exponent then 1 else 2
  let readsBack (n : Nat) : Bool :=
    let lower := (4 * mantissa - below) * b
    let upper := (4 * mantissa + 2) * b
    if mantissa % 2 = 0 then lower ≤ n * a && n * a ≤ upper
    else lower < n * a && n * a < upper
  let n := 4 * mantissa * b / a
  let rest := 4 * mantissa * b % a
  let down := 0 < n && readsBack n
  let up := readsBack (n + 1)
  if down && (!up || 2 * rest < a || (2 * rest = a && n % 2 = 0)) then some (ofNat n unit)
  else if up then some (ofNat (n + 1) unit)
  else none

/-- The shortest row that reads back as the positive number `mantissa · 2 ^ exponent`. -/
def shortest (mantissa : Nat) (exponent : Int) : Digits :=
  if mantissa = 0 then zero
  else
    let (n, d) := Binary64.ratio mantissa exponent
    let point := pointOf n d
    ((List.range' 1 17).findSome? (candidate? mantissa exponent point)).getD
      (significant n d 17)

/-- The first `count` of a row of digits, behind which there are zeros. -/
def extended (count : Nat) (digits : List Char) : List Char :=
  digits.take count ++ List.replicate (count - digits.length) '0'

/-- The digits before the point, at least one. -/
def integerPart (d : Digits) : List Char :=
  if d.point ≤ 0 then ['0'] else extended d.point.toNat d.digits

/-- The first `places` digits behind the point. -/
def fractionPart (d : Digits) (places : Nat) : List Char :=
  let zeros := min places (-d.point).toNat
  List.replicate zeros '0' ++ extended (places - zeros) (d.digits.drop d.point.toNat)

/-- How many digits stand behind the point. -/
def places (d : Digits) : Nat := (d.digits.length - d.point).toNat

end Digits

end HtmlTemplate
