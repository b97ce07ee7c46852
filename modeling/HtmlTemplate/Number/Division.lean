import HtmlTemplate.Number.Basic

/-!
# Division with remainder

`Number.divMod` is the quotient rounded down and the remainder with the sign of the
divisor; for decimal numbers the quotient is cut off and the remainder has the sign of the
dividend.  Binary quotients are rounded at every step, so a remainder may round up to the
divisor.
-/

namespace HtmlTemplate

namespace Binary64

/-- The zero with a sign. -/
def zero (negative : Bool) : Binary64 := .finite negative 0 minExponent

/-- The quotient of a number by a divisor that is not zero. -/
def div (x y : Binary64) : Binary64 :=
  let negative := x.isNegative != y.isNegative
  match x, y with
  | .nan, _ | _, .nan | .infinite _, .infinite _ => .nan
  | .infinite _, _ => .infinite negative
  | _, .infinite _ => zero negative
  | .finite _ m e, .finite _ n f =>
    let (a, b) := ratio m e
    let (c, d) := ratio n f
    ofRatio negative (a * d) (b * c)

/-- The remainder of a number by a divisor that is not zero, with the sign of the number. -/
def remainder (x y : Binary64) : Binary64 :=
  match x, y with
  | .nan, _ | _, .nan | .infinite _, _ => .nan
  | x, .infinite _ => x
  | .finite negative m e, .finite _ n f =>
    let (a, b) := ratio m e
    let (c, d) := ratio n f
    ofRatio negative (a * d % (b * c)) (b * d)

/-- The greatest whole number that is not greater. -/
def floor (x : Binary64) : Binary64 :=
  match x.toRat? with
  | some q => if q.floor = 0 then zero x.isNegative else ofInt q.floor
  | none => x

/-- The quotient rounded down and the remainder, by a divisor that is not zero. -/
def divMod (x y : Binary64) : Binary64 × Binary64 :=
  let rest := x.remainder y
  let quotient := (x.add rest.neg).div y
  let (quotient, rest) :=
    if rest.isZero then (quotient, zero y.isNegative)
    else if y.isNegative != rest.isNegative && rest ≠ .nan then
      (quotient.add (ofInt (-1)), rest.add y)
    else (quotient, rest)
  if quotient.isZero then (zero (x.isNegative != y.isNegative), rest)
  else
    let whole := quotient.floor
    let half := ofRatio false 1 2
    if (quotient.add whole.neg).compare? half = some .gt then (whole.add (ofInt 1), rest)
    else (whole, rest)

end Binary64

namespace Number

/-- The quotient rounded down and the remainder. -/
def divMod (x y : Number) : Except Fault (Number × Number) :=
  match x, y with
  | .complex .., _ | _, .complex .. => .error (.basic .type)
  | .decimal a, .decimal b => decimals a b
  | .decimal a, .integer n => decimals a (.ofInt n)
  | .integer n, .decimal b => decimals (.ofInt n) b
  | .decimal _, _ | _, .decimal _ => .error (.basic .type)
  | .integer m, .integer n =>
    if n = 0 then .error (.basic .zeroDivision)
    else .ok (.integer (m.fdiv n), .integer (m.fmod n))
  | .binary _, _ | _, .binary _ => do
    let a ← x.toBinary
    let b ← y.toBinary
    if b.isZero then .error (.basic .zeroDivision)
    else
      let (quotient, rest) := a.divMod b
      return (.binary quotient, .binary rest)
  | x, y =>
    match x.exactValue?, y.exactValue? with
    | some p, some q =>
      if q = 0 then .error (.basic .zeroDivision)
      else
        let quotient := (p / q).floor
        .ok (.integer quotient, .ratio (p - quotient * q))
    | _, _ => .error (.basic .type)
where
  decimals (a b : Decimal) : Except Fault (Number × Number) := do
    let (quotient, rest) ← a.divMod b
    return (.decimal quotient, .decimal rest)

end Number

end HtmlTemplate
