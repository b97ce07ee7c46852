import HtmlTemplate.Fault
import HtmlTemplate.Number.Numeral

/-!
# Decimal numbers

`Decimal` holds the numbers `coefficient · 10 ^ exponent`, where the exponent records how
many places were written, two infinities, and quiet and signaling not-a-numbers.  The
result of an operation is `confined`: it keeps at most `precision` digits, a tie going to
the even neighbour, and the place of its first digit has bounds.  An operation without a
value, such as any use of a signaling not-a-number, is invalid.
-/

namespace HtmlTemplate

/-- A decimal number, with the places it was written with.  A not-a-number may carry a
number of its own. -/
inductive Decimal where
  | finite (negative : Bool) (coefficient : Nat) (exponent : Int)
  | infinite (negative : Bool)
  | nan (negative : Bool) (signaling : Bool) (payload : Option Nat)
deriving DecidableEq

namespace Decimal

/-- How many digits the result of an operation keeps. -/
def precision : Nat := 28

/-- The greatest place of the first digit of a result. -/
def maxPlace : Int := 999999

/-- The least exponent of a result. -/
def minExponent : Int := -1000026

/-- The integer as a decimal number. -/
def ofInt (n : Int) : Decimal := .finite (n < 0) n.natAbs 0

/-- Whether a number is a signaling not-a-number. -/
def isSignaling : Decimal → Bool
  | .nan _ signaling _ => signaling
  | _ => false

/-- Whether a number is zero. -/
def isZero : Decimal → Bool
  | .finite _ coefficient _ => coefficient = 0
  | _ => false

/-- How many digits a coefficient is written with. -/
def digitCount (coefficient : Nat) : Nat := (Nat.toDigits 10 coefficient).length

/-- The place of the first digit of a number, counted from the digit before the point. -/
def place (coefficient : Nat) (exponent : Int) : Int := exponent + digitCount coefficient - 1

/-- The whole number nearest to a coefficient without its last `count` digits. -/
def cut (count coefficient : Nat) : Nat :=
  if digitCount coefficient < count then 0
  else Rounding.roundDiv coefficient (Nat.pow 10 count)

/-- The coefficient and exponent with at most `count` digits. -/
def round (count : Nat) (coefficient : Nat) (exponent : Int) : Nat × Int :=
  let excess := digitCount coefficient - count
  let rounded := cut excess coefficient
  if excess = 0 then (coefficient, exponent)
  else if rounded = Nat.pow 10 count then (Nat.pow 10 (count - 1), exponent + excess + 1)
  else (rounded, exponent + excess)

/-- A number as the result of an operation.  One that is too great has no value; of one
that is too small the digits below the least exponent are cut off. -/
def confined (negative : Bool) (coefficient : Nat) (exponent : Int) : Except Fault Decimal :=
  if coefficient = 0 then .ok (.finite negative 0 (max minExponent (min maxPlace exponent)))
  else
    let (c, e) :=
      if place coefficient exponent < minExponent + precision - 1 && exponent < minExponent then
        (cut (minExponent - exponent).toNat coefficient, minExponent)
      else round precision coefficient exponent
    if maxPlace < place c e then .error (.basic .exponentOverflow)
    else .ok (.finite negative c e)

/-- The exponent of a numeral in scientific notation. -/
private def exponentPart (exponent : Int) : List Char :=
  if exponent = 0 then [] else Numeral.exponentPart 'E' 1 exponent

/-- The digits of a coefficient of which `point` stand before the point. -/
def numeralAt (negative : Bool) (digits : List Char) (point : Int) (tail : List Char) :
    Numeral :=
  let d : Digits := ⟨digits, point⟩
  ⟨negative, d.integerPart, Numeral.fraction d d.places false ++ tail⟩

/-- The numeral of a number with all its places: positional if the exponent is not
positive and the point at most six places before the digits, else with an exponent. -/
def numeral : Decimal → Numeral
  | .finite negative coefficient exponent =>
    let digits := Nat.toDigits 10 coefficient
    let point := exponent + digits.length
    if exponent ≤ 0 && -6 < point then numeralAt negative digits point []
    else numeralAt negative digits 1 (exponentPart (point - 1))
  | .infinite negative => ⟨negative, [], "Infinity".toList⟩
  | .nan negative signaling payload =>
    let word := if signaling then "sNaN" else "NaN"
    ⟨negative, [], word.toList ++ payload.elim [] (Nat.toDigits 10)⟩

/-- The text of a number with all its places. -/
def toString (d : Decimal) : String := d.numeral.toString

/-- The outcome of an operation that is invalid. -/
def invalid {α : Type} : Except Fault α := .error (.basic .invalidOperation)

/-- The outcome of an operation one of whose operands is a not-a-number.  A quiet one is
passed on, with the last digits of the number it carries; a signaling one is invalid. -/
def nanOutcome? (x y : Decimal) : Option (Except Fault Decimal) :=
  if x.isSignaling || y.isSignaling then some invalid
  else match x, y with
    | .nan negative _ payload, _ | _, .nan negative _ payload =>
      some (.ok (.nan negative false (payload.map (· % Nat.pow 10 precision))))
    | _, _ => none

/-- The integer `coefficient · 10 ^ exponent` over the unit `10 ^ unit`. -/
private def scaled (negative : Bool) (coefficient : Nat) (exponent unit : Int) : Int :=
  let n := if coefficient = 0 then 0 else coefficient * Nat.pow 10 (exponent - unit).toNat
  if negative then -(n : Int) else n

/-- The coefficient and exponent of a number that is added to another, `n · 10 ^ f`.  If
it lies far below the last digit that the sum keeps, all that matters is whether it is
zero, and a single digit stands for it. -/
def beside (coefficient : Nat) (exponent : Int) (n : Nat) (f : Int) : Nat × Int :=
  let limit := f - 1 - (precision + 1 - digitCount n : Nat)
  let limit := if precision < digitCount n then f - 1 else limit
  if n ≠ 0 && exponent < f && place coefficient exponent < limit then
    (min coefficient 1, limit)
  else (coefficient, exponent)

/-- The sum. -/
def add (x y : Decimal) : Except Fault Decimal :=
  match nanOutcome? x y with
  | some outcome => outcome
  | none =>
    match x, y with
    | .infinite a, .infinite b => if a = b then .ok (.infinite a) else invalid
    | .infinite a, _ | _, .infinite a => .ok (.infinite a)
    | .finite a m e, .finite b n f =>
      let (p, i) := beside m e n f
      let (q, j) := beside n f m e
      let unit := min i j
      let sum := scaled a p i unit + scaled b q j unit
      confined (if sum = 0 then a && b else sum < 0) sum.natAbs unit
    | _, _ => invalid

/-- The quotient cut off at the point and the remainder.  A quotient with more digits than
a result keeps is invalid. -/
def divMod (x y : Decimal) : Except Fault (Decimal × Decimal) :=
  match nanOutcome? x y with
  | some outcome => outcome.map fun d => (d, d)
  | none =>
    match x, y with
    | .finite a m e, .infinite b => do return (.finite (a != b) 0 0, ← confined a m e)
    | .finite a m e, .finite b n f =>
      let unit := min e f
      let ratio := place m e - place n f
      if n = 0 then invalid
      else if m = 0 then do return (.finite (a != b) 0 0, ← confined a 0 unit)
      else if precision < ratio then invalid
      else
        let dividend := m * Nat.pow 10 (e - unit).toNat
        let (quotient, rest) :=
          if ratio < 0 then (0, dividend)
          else
            let divisor := n * Nat.pow 10 (f - unit).toNat
            (dividend / divisor, dividend % divisor)
        if precision < digitCount quotient then invalid
        else do return (.finite (a != b) quotient 0, ← confined a rest unit)
    | _, _ => invalid

example : (add (.finite false 1 20) (.finite false 5 (-100))).toOption =
  some (.finite false (Nat.pow 10 27) (-7)) := by decide +kernel

end Decimal

end HtmlTemplate
