/-!
# Rounding

`roundDiv` is the whole number nearest to a quotient, the even one of two that are
equally near.  `shift` moves a quotient by a power of a base.
-/

namespace HtmlTemplate.Rounding

/-- The whole number nearest to `num / den`; of two equally near, the even one. -/
def roundDiv (num den : Nat) : Nat :=
  let q := num / den
  let r := num % den
  if den < 2 * r || (2 * r = den && q % 2 = 1) then q + 1 else q

/-- Numerator and denominator of `num / den` times `base ^ power`. -/
def shift (base : Nat) (power : Int) (num den : Nat) : Nat × Nat :=
  match power with
  | .ofNat p => (num * base.pow p, den)
  | .negSucc p => (num, den * base.pow (p + 1))

example : roundDiv 5 2 = 2 ∧ roundDiv 7 2 = 4 ∧ roundDiv 8 3 = 3 := by decide

end HtmlTemplate.Rounding
