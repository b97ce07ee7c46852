import HtmlTemplate.Number.Rounding

/-!
# Binary floating-point numbers

`Binary64` holds the numbers of the 64-bit binary format: signed zeros, finite numbers
`mantissa · 2 ^ exponent`, two infinities and one not-a-number.  `ofRatio` rounds an
exact quotient to the nearest of them, a tie to the even mantissa, and every operation
is the rounding of the exact result.
-/

namespace HtmlTemplate

/-- A number of the 64-bit binary format. -/
inductive Binary64 where
  | nan
  | infinite (negative : Bool)
  | finite (negative : Bool) (mantissa : Nat) (exponent : Int)
deriving DecidableEq

namespace Binary64

/-- The least exponent of a finite number. -/
def minExponent : Int := -1074

/-- The greatest exponent of a finite number. -/
def maxExponent : Int := 971

/-- The least mantissa of a number whose exponent is not the least. -/
def minNormal : Nat := 4503599627370496

/-- The number nearest to `num / den`, with the given sign. -/
def ofRatio (negative : Bool) (num den : Nat) : Binary64 :=
  if num = 0 then .finite negative 0 minExponent
  else
    let guess : Int := (num.log2 : Int) - den.log2
    let (n, d) := Rounding.shift 2 (-guess) num den
    let exponent := max (if d ≤ n then guess - 52 else guess - 53) minExponent
    let (n, d) := Rounding.shift 2 (-exponent) num den
    let mantissa := Rounding.roundDiv n d
    let (mantissa, exponent) :=
      if mantissa = 2 * minNormal then (minNormal, exponent + 1) else (mantissa, exponent)
    if maxExponent < exponent then .infinite negative
    else .finite negative mantissa exponent

/-- The number nearest to a rational number; zero is positive. -/
def ofRat (q : Rat) : Binary64 := ofRatio (q.num < 0) q.num.natAbs q.den

/-- The number nearest to an integer. -/
def ofInt (n : Int) : Binary64 := ofRatio (n < 0) n.natAbs 1

/-- Numerator and denominator of the magnitude `mantissa · 2 ^ exponent`. -/
def ratio (mantissa : Nat) (exponent : Int) : Nat × Nat :=
  Rounding.shift 2 exponent mantissa 1

/-- The exact value of a finite number. -/
def toRat? : Binary64 → Option Rat
  | .finite negative mantissa exponent =>
    let (n, d) := ratio mantissa exponent
    some (mkRat (if negative then -(n : Int) else n) d)
  | _ => none

/-- Whether the sign is negative, also that of zero. -/
def isNegative : Binary64 → Bool
  | .nan => false
  | .infinite negative => negative
  | .finite negative _ _ => negative

/-- Whether a number is one of the two zeros. -/
def isZero : Binary64 → Bool
  | .finite _ mantissa _ => mantissa = 0
  | _ => false

/-- The number with the other sign. -/
def neg : Binary64 → Binary64
  | .nan => .nan
  | .infinite negative => .infinite !negative
  | .finite negative mantissa exponent => .finite (!negative) mantissa exponent

/-- The sum; two zeros of one sign keep it, and any other sum of zero is positive. -/
def add (x y : Binary64) : Binary64 :=
  match x, y with
  | .nan, _ | _, .nan => .nan
  | .infinite a, .infinite b => if a = b then .infinite a else .nan
  | .infinite a, _ | _, .infinite a => .infinite a
  | .finite a _ _, .finite b _ _ =>
    match x.toRat?, y.toRat? with
    | some p, some q =>
      if p + q = 0 then .finite (a && b && p = 0) 0 minExponent else ofRat (p + q)
    | _, _ => .nan

/-- The hundredfold, in which a percentage is written. -/
def hundredfold : Binary64 → Binary64
  | .finite negative mantissa exponent =>
    let (n, d) := ratio mantissa exponent
    ofRatio negative (100 * n) d
  | x => x

/-- The order of two numbers, unless one is not a number. -/
def compare? : Binary64 → Binary64 → Option Ordering
  | .nan, _ | _, .nan => none
  | .infinite a, .infinite b => some (compare b.toNat a.toNat)
  | .infinite a, _ => some (if a then .lt else .gt)
  | _, .infinite a => some (if a then .gt else .lt)
  | x, y => do
    let p ← x.toRat?
    let q ← y.toRat?
    return if p < q then .lt else if p = q then .eq else .gt

example : ofInt 9007199254740993 = .finite false 4503599627370496 1 := by decide +kernel

end Binary64

end HtmlTemplate
