import HtmlTemplate.Number.Digits

/-!
# Numerals

A `Numeral` is the written form of a number in three parts: its sign, the digits before
the point, and all that follows them.  Grouping and padding act on the parts.
`Numeral.ofBinary64` writes a binary number in one of the styles of `Style`.
-/

namespace HtmlTemplate

/-- The written form of a number. -/
structure Numeral where
  negative : Bool
  integer : List Char
  tail : List Char
deriving DecidableEq

namespace Numeral

/-- How the digits of a binary number are chosen and laid out.  A `shortest` or `general`
numeral is positional when its point lies close to its digits, and with `wholePoint` it
then shows at least one digit behind the point. -/
inductive Style where
  | shortest (wholePoint : Bool)
  | general (count : Nat) (wholePoint : Bool)
  | exponent (places : Nat)
  | fixed (places : Nat)

/-- An exponent: its mark, its sign, and at least `width` digits. -/
def exponentPart (mark : Char) (width : Nat) (exponent : Int) : List Char :=
  let digits := Nat.toDigits 10 exponent.natAbs
  mark :: (if exponent < 0 then '-' else '+') ::
    (List.replicate (width - digits.length) '0' ++ digits)

/-- The digits behind the point, after the point itself.  Without any digit the point is
left out, unless `alternate` asks for it. -/
def fraction (d : Digits) (places : Nat) (alternate : Bool) : List Char :=
  if places = 0 && !alternate then [] else '.' :: d.fractionPart places

/-- The numeral without an exponent. -/
def positional (negative : Bool) (d : Digits) (places : Nat) (alternate : Bool) : Numeral :=
  ⟨negative, d.integerPart, fraction d places alternate⟩

/-- The numeral with one digit before the point and an exponent. -/
def exponential (negative : Bool) (d : Digits) (places : Nat) (alternate : Bool) : Numeral :=
  let unit : Digits := ⟨d.digits, 1⟩
  ⟨negative, unit.integerPart,
    fraction unit places alternate ++ exponentPart 'e' 2 (d.point - 1)⟩

/-- No binary number has more significant digits, or more decimal places, than this. -/
def digitLimit : Nat := 1100

/-- The numeral of the magnitude `mantissa · 2 ^ exponent`. -/
def ofMagnitude (style : Style) (alternate : Bool) (negative : Bool) (mantissa : Nat)
    (exponent : Int) : Numeral :=
  let (num, den) := Binary64.ratio mantissa exponent
  match style with
  | .shortest wholePoint =>
    let d := Digits.shortest mantissa exponent
    if d.point ≤ -4 || 16 < d.point then
      exponential negative d (d.digits.length - 1) alternate
    else positional negative d (max d.places wholePoint.toNat) alternate
  | .general count wholePoint =>
    let d := Digits.significant num den (min count digitLimit)
    let shown := if alternate then count else d.digits.length
    if d.point ≤ -4 || (count : Int) - wholePoint.toNat < d.point then
      exponential negative d (shown - 1) alternate
    else
      positional negative d (max (shown - d.point).toNat wholePoint.toNat) alternate
  | .exponent places =>
    exponential negative (Digits.significant num den (min (places + 1) digitLimit)) places
      alternate
  | .fixed places => positional negative (Digits.fixed num den (min places digitLimit)) places alternate

/-- The numeral of a binary number. -/
def ofBinary64 (style : Style) (alternate : Bool) : Binary64 → Numeral
  | .nan => ⟨false, [], ['n', 'a', 'n']⟩
  | .infinite negative => ⟨negative, [], ['i', 'n', 'f']⟩
  | .finite negative mantissa exponent =>
    ofMagnitude style alternate negative mantissa exponent

/-- The numeral of an integer in a base of at most sixteen. -/
def ofInt (base : Nat) (n : Int) : Numeral :=
  ⟨n < 0, Nat.toDigits base n.natAbs, []⟩

/-- The numeral as a text. -/
def toString (n : Numeral) : String :=
  String.ofList ((if n.negative then ['-'] else []) ++ n.integer ++ n.tail)

end Numeral

/-- The shortest text that reads back as a binary number. -/
def Binary64.toString (x : Binary64) : String :=
  (Numeral.ofBinary64 (.shortest true) false x).toString

end HtmlTemplate
