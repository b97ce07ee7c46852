/-!
# Points of the real line

A `RealPoint` is a number `num / den · 10 ^ exponent` or one of the two ends of the real line.
`RealPoint.compare` is their order.  Numbers of very different sizes are told apart by the
numbers of their digits, without computing powers of ten.
-/

namespace HtmlTemplate

/-- A number of the form `num / den · 10 ^ exponent`, or one of the two ends of the real
line. -/
inductive RealPoint where
  | below
  | exact (num : Int) (den : Nat) (exponent : Int)
  | above

namespace RealPoint

/-- A number `s` such that `num / den · 10 ^ exponent`, if not zero, lies strictly between
`10 ^ (s - 1)` and `10 ^ (s + 1)`. -/
def size (num den : Nat) (exponent : Int) : Int :=
  exponent + (Nat.toDigits 10 num).length - (Nat.toDigits 10 den).length

/-- The order of two positive numbers. -/
def compareMagnitude (m a : Nat) (e : Int) (n b : Nat) (f : Int) : Ordering :=
  let s := size m a e
  let t := size n b f
  if t + 2 ≤ s then .gt
  else if s + 2 ≤ t then .lt
  else
    let unit := min e f
    let x := m * Nat.pow 10 (e - unit).toNat * b
    let y := n * Nat.pow 10 (f - unit).toNat * a
    if x < y then .lt else if x = y then .eq else .gt

/-- The order of two real numbers. -/
def compare : RealPoint → RealPoint → Ordering
  | .below, .below | .above, .above => .eq
  | .below, _ | _, .above => .lt
  | _, .below | .above, _ => .gt
  | .exact m a e, .exact n b f =>
    if m.sign < n.sign then .lt
    else if n.sign < m.sign then .gt
    else if m = 0 then .eq
    else if 0 < m then compareMagnitude m.natAbs a e n.natAbs b f
    else compareMagnitude n.natAbs b f m.natAbs a e

example : compare (.exact 1 1 1000000000) (.exact 5 2 0) = .gt := by decide +kernel

end RealPoint

end HtmlTemplate
