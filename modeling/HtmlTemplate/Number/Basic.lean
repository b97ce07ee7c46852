import HtmlTemplate.Number.Decimal
import HtmlTemplate.Number.RealPoint

/-!
# Numbers

`Number` is an integer, a binary or decimal floating-point number, an exact ratio, or a
complex number with binary parts.  Integers mix with every other kind; ratios become
binary beside binary numbers, and real numbers complex beside complex ones; decimal
numbers mix with integers alone.
-/

namespace HtmlTemplate

/-- A number. -/
inductive Number where
  | integer (n : Int)
  | binary (x : Binary64)
  | decimal (d : Decimal)
  | ratio (q : Rat)
  | complex (re im : Binary64)

namespace Number

/-- Whether a number is of a kind that counts as real; decimal numbers do not. -/
def isReal : Number → Bool
  | .integer _ | .binary _ | .ratio _ => true
  | .decimal _ | .complex .. => false

/-- Whether a number counts as true: all but the zeros do. -/
def isTruthy : Number → Bool
  | .integer n => n ≠ 0
  | .binary x => !x.isZero
  | .decimal d => !d.isZero
  | .ratio q => q ≠ 0
  | .complex re im => !(re.isZero && im.isZero)

/-- Whether a number equals zero.  A signaling not-a-number has no answer. -/
def isZero? : Number → Except Fault Bool
  | .decimal d => if d.isSignaling then .error (.basic .invalidOperation) else .ok d.isZero
  | n => .ok !n.isTruthy

private def withoutPoint (x : Binary64) : Numeral :=
  Numeral.ofBinary64 (.shortest false) false x

/-- An imaginary part as it is written behind a real one. -/
private def imaginary (x : Binary64) : String :=
  let n := withoutPoint x
  (if n.negative then "" else "+") ++ n.toString ++ "j"

/-- The text of a number. -/
def text : Number → String
  | .integer n => toString n
  | .binary x => x.toString
  | .decimal d => d.toString
  | .ratio q => if q.den = 1 then toString q.num else toString q.num ++ "/" ++ toString q.den
  | .complex re im =>
    if re.isZero && !re.isNegative then (withoutPoint im).toString ++ "j"
    else "(" ++ (withoutPoint re).toString ++ imaginary im ++ ")"

/-- The text of a number inside a container, which names decimal numbers and ratios. -/
def inspect : Number → String
  | .decimal d => "Decimal('" ++ d.toString ++ "')"
  | .ratio q => "Fraction(" ++ toString q.num ++ ", " ++ toString q.den ++ ")"
  | n => n.text

private def finite (x : Binary64) : Except Fault Binary64 :=
  match x with
  | .infinite _ => .error (.basic .overflow)
  | x => .ok x

/-- The binary number nearest to a real number.  Integers and ratios beyond the greatest
binary number overflow. -/
def toBinary : Number → Except Fault Binary64
  | .integer n => finite (Binary64.ofInt n)
  | .ratio q => finite (Binary64.ofRat q)
  | .binary x => .ok x
  | .decimal _ | .complex .. => .error (.basic .type)

private theorem noShapeFault_finite (x : Binary64) :
  NoShapeFault (finite x)
  := by
  unfold finite
  split
  · apply noShapeFault_basic
  · apply noShapeFault_ok

theorem noShapeFault_toBinary (n : Number) :
  NoShapeFault n.toBinary
  := by
  cases n with
  | integer n => apply noShapeFault_finite
  | ratio q => apply noShapeFault_finite
  | binary x => apply noShapeFault_ok
  | decimal d => apply noShapeFault_basic
  | complex re im => apply noShapeFault_basic

/-- The exact value of an integer or a ratio. -/
def exactValue? : Number → Option Rat
  | .integer n => some n
  | .ratio q => some q
  | _ => none

private def toDecimal? : Number → Option Decimal
  | .integer n => some (.ofInt n)
  | .decimal d => some d
  | _ => none

private def toComplex : Number → Except Fault (Binary64 × Binary64)
  | .complex re im => .ok (re, im)
  | n => n.toBinary.map fun re => (re, .finite false 0 Binary64.minExponent)

/-- The sum of two numbers. -/
def add (x y : Number) : Except Fault Number :=
  match x, y with
  | .integer m, .integer n => .ok (.integer (m + n))
  | .decimal _, y | y, .decimal _ =>
    match x.toDecimal?, y.toDecimal? with
    | some a, some b => .decimal <$> a.add b
    | _, _ => .error (.basic .type)
  | .complex .., _ | _, .complex .. => do
    let (a, b) ← x.toComplex
    let (c, d) ← y.toComplex
    return .complex (a.add c) (b.add d)
  | .binary _, _ | _, .binary _ => do
    return .binary ((← x.toBinary).add (← y.toBinary))
  | .ratio p, .integer n => .ok (.ratio (p + n))
  | .integer n, .ratio q => .ok (.ratio (n + q))
  | .ratio p, .ratio q => .ok (.ratio (p + q))

/-- The real number of a number; not-a-number has none. -/
def point? : Number → Option RealPoint
  | .integer n => some (.exact n 1 0)
  | .ratio q => some (.exact q.num q.den 0)
  | .binary (.infinite negative) | .decimal (.infinite negative) =>
    some (if negative then .below else .above)
  | .binary x => x.toRat?.map fun q => .exact q.num q.den 0
  | .decimal (.finite negative coefficient exponent) =>
    some (.exact (if negative then -coefficient else coefficient) 1 exponent)
  | .decimal (.nan ..) | .complex .. => none

/-- Whether two numbers are the same real number. -/
def samePoint (x y : Number) : Bool :=
  match x.point?, y.point? with
  | some p, some q => p.compare q = .eq
  | _, _ => false

/-- Whether two numbers are equal, of whatever kinds they are. -/
def beq (x y : Number) : Bool :=
  match x, y with
  | .complex a b, .complex c d => a.compare? c == some .eq && b.compare? d == some .eq
  | .complex a b, y | y, .complex a b => b.isZero && samePoint (.binary a) y
  | x, y => samePoint x y

/-- Whether the first of two numbers is the greater.  Complex numbers have no order; a
decimal not-a-number has no answer, and a binary one is never greater. -/
def isGreater (x y : Number) : Except Fault Bool :=
  match x, y with
  | .complex .., _ | _, .complex .. => .error (.basic .type)
  | x, y =>
    match x.point?, y.point? with
    | some p, some q => .ok (p.compare q = .gt)
    | _, _ =>
      match x, y with
      | .decimal _, _ | _, .decimal _ => .error (.basic .invalidOperation)
      | _, _ => .ok false

end Number

end HtmlTemplate
