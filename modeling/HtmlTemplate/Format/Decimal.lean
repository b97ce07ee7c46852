import HtmlTemplate.Format.Layout
import HtmlTemplate.Number.Decimal

/-!
# Formatting decimal numbers

Decimal numbers have format specifications of a form of their own, `readDecimal?`: digits
are those of ASCII, zeros for fill exclude an alignment, the only grouping is by commas,
and there is no alternate form.  `FormatSpec.decimal` writes a decimal number.  The sign of
a negative zero is dropped before the number is written, and only a presentation type in
lower case rounds for this purpose.
-/

namespace HtmlTemplate.FormatSpec

/-- The outcome for a specification that does not fit. -/
def malformed {α : Type} : Except Fault α := .error (.basic .value)

/-- Fails unless a specification fits. -/
def require (holds : Bool) : Except Fault Unit := if holds then .ok () else malformed

theorem noShapeFault_require (holds : Bool) :
  NoShapeFault (require holds)
  := by
  unfold require
  split
  · apply noShapeFault_ok
  · apply noShapeFault_basic

/-- The rest of a text whose first character is one of some marks. -/
private def skipOne (marks : List Char) : List Char → List Char
  | c :: rest => if marks.contains c then rest else c :: rest
  | [] => []

/-- The rest of a specification behind its fill, alignment and sign, each of which it may
lack.  A character outside ASCII is fill, together with all such characters behind it, and
NUL passes for an alignment and for a sign. -/
private def behindSign (s : List Char) : List Char :=
  let alignments := ['<', '>', '=', '^', '\x00']
  let signs := ['+', '-', ' ', '\x00']
  match (s.drop 1).dropWhile (0x80 ≤ ·.toNat) with
  | c :: rest =>
    if alignments.contains c then skipOne signs rest
    else skipOne signs (skipOne alignments s)
  | [] => skipOne signs (skipOne alignments s)

/-- Whether a specification asks for zero without a sign, and its other characters. -/
private def zeroFlag (s : List Char) : Bool × List Char :=
  match behindSign s with
  | 'z' :: rest => (true, s.take (s.length - (rest.length + 1)) ++ rest)
  | _ => (false, s)

/-- The number in ASCII digits at the start of a text, and the rest. -/
private def asciiCount? (s : List Char) : Option (Nat × List Char) :=
  let n := (s.takeWhile Char.isDigit).foldl (fun n c => 10 * n + (c.toNat - '0'.toNat)) 0
  if countLimit ≤ n then none else some (n, s.dropWhile Char.isDigit)

/-- The width at the start of a text, which does not start with a zero. -/
private def asciiWidth? : List Char → Option (Nat × List Char)
  | '0' :: _ => none
  | s => asciiCount? s

private def asciiPrecision? : List Char → Option (Option Nat × List Char)
  | '.' :: c :: rest =>
    if c.isDigit then (asciiCount? (c :: rest)).map fun (n, rest) => (some n, rest) else none
  | '.' :: [] => none
  | rest => some (none, rest)

/-- The presentation type of a decimal number.  Without one it is general, in capitals;
the types that follow the custom of a place are general, and exclude a grouping. -/
private def decimalPresentation? (grouped : Bool) : List Char → Option Char
  | [] => some 'G'
  | [c] =>
    if ['e', 'E', 'f', 'F', 'g', 'G', '%'].contains c then some c
    else if c = 'n' && !grouped then some 'g'
    else if c = 'N' && !grouped then some 'G'
    else none
  | _ => none

/-- The greatest width and precision of a decimal number. -/
def decimalLimit : Nat := 999999999999999999

/-- The specification for decimal numbers that a text writes.  NUL as the first character
can only be a fill; further on it ends the specification. -/
def readDecimal? (s : String) : Option FormatSpec := do
  let fillsNul := s.toList.head? = some '\x00'
  let (positiveZero, s) := zeroFlag (if fillsNul then '_' :: s.toList.drop 1 else s.toList)
  let (fill, alignment, rest) := filled (s.takeWhile (· ≠ '\x00'))
  let (sign, rest) := leadingSign rest
  let (zeroPadded, rest) := flag '0' rest
  if zeroPadded && alignment.isSome then none
  let (width, rest) ← asciiWidth? rest
  if decimalLimit < width then none
  let (grouped, rest) := flag ',' rest
  let (precision, rest) ← asciiPrecision? rest
  let presentation ← decimalPresentation? grouped rest
  return {
    fill := if zeroPadded then '0' else if fillsNul then '\x00' else fill.getD ' '
    alignment, sign, positiveZero, zeroPadded, width, precision
    alternate := false
    grouping := if grouped then some .comma else none
    presentation := some presentation }

/-- The coefficient and exponent at a number of places. -/
private def rescale (places : Nat) (coefficient : Nat) (exponent : Int) :
    Except Fault (Nat × Int) := do
  let shift := exponent + places
  if coefficient = 0 then return (0, -places)
  else if shift < 0 then return (Decimal.cut (-shift).toNat coefficient, -places)
  else
    require (Decimal.digitCount coefficient + shift ≤ decimalLimit + 1)
    requireRoom shift.toNat
    return (coefficient * Nat.pow 10 shift.toNat, -places)

private theorem noShapeFault_rescale (places coefficient : Nat) (exponent : Int) :
  NoShapeFault (rescale places coefficient exponent)
  := by
  unfold rescale
  dsimp only
  split
  · apply noShapeFault_ok
  · split
    · apply noShapeFault_ok
    · apply (noShapeFault_require _).bind
      intro _
      apply (noShapeFault_requireRoom _).bind
      intro _
      apply noShapeFault_ok

/-- The numeral of a number with all its places, without an exponent. -/
private def positional (negative : Bool) (coefficient : Nat) (exponent : Int) :
    Except Fault Numeral := do
  let digits := Nat.toDigits 10 coefficient
  requireRoom exponent.natAbs
  return Decimal.numeralAt negative digits (exponent + digits.length) []

/-- The numeral of a number without an exponent, with `precision` places if there is a
precision.  A whole number has no places. -/
private def fixed (precision : Option Nat) (negative : Bool) (coefficient : Nat)
    (exponent : Int) : Except Fault Numeral := do
  let (c, e) ← match precision with
    | some places => rescale places coefficient exponent
    | none =>
      if coefficient = 0 && 0 < exponent then pure (0, 0) else pure (coefficient, exponent)
  positional negative c e

private theorem noShapeFault_fixed (precision : Option Nat) (negative : Bool)
    (coefficient : Nat) (exponent : Int) :
  NoShapeFault (fixed precision negative coefficient exponent)
  := by
  have hpositional (c : Nat) (e : Int) : NoShapeFault (positional negative c e) := by
    apply (noShapeFault_requireRoom _).bind
    intro _
    apply noShapeFault_ok
  unfold fixed
  cases precision with
  | some places =>
    apply (noShapeFault_rescale ..).bind
    intro scaled
    apply hpositional
  | none =>
    dsimp only
    split
    · apply hpositional 0 0
    · apply hpositional coefficient exponent

/-- The numeral of a number with an exponent, with `precision` digits behind the point if
there is a precision. -/
private def scientific (precision : Option Nat) (negative : Bool) (coefficient : Nat)
    (exponent : Int) : Except Fault Numeral := do
  requireRoom (precision.getD 0)
  let size := Decimal.digitCount coefficient
  let (c, e) := match precision with
    | some p =>
      if coefficient = 0 then (coefficient, exponent)
      else if size ≤ p + 1 then
        (coefficient * Nat.pow 10 (p + 1 - size), exponent - (p + 1 - size : Nat))
      else Decimal.round (p + 1) coefficient exponent
    | none => (coefficient, exponent)
  let digits := Nat.toDigits 10 c
  let point : Int := if c = 0 then 1 - (precision.getD 0 : Nat) else 1
  return Decimal.numeralAt negative digits point
    (Numeral.exponentPart 'E' 1 (e + digits.length - point))

private theorem noShapeFault_scientific (precision : Option Nat) (negative : Bool)
    (coefficient : Nat) (exponent : Int) :
  NoShapeFault (scientific precision negative coefficient exponent)
  := by
  apply (noShapeFault_requireRoom _).bind
  intro _
  apply noShapeFault_ok

/-- The numeral of a number with at most `precision` digits if there is a precision. -/
private def general (precision : Option Nat) (negative : Bool) (coefficient : Nat)
    (exponent : Int) : Numeral :=
  let (c, e) := match precision with
    | some p => Decimal.round (max p 1) coefficient exponent
    | none => (coefficient, exponent)
  (Decimal.finite negative c e).numeral

/-- Whether a number is rounded to zero before its sign is looked at. -/
private def roundsToZero (spec : FormatSpec) (coefficient : Nat) (exponent : Int) :
    Except Fault Bool := do
  match spec.presentation, spec.precision with
  | some 'f', some places => return (← rescale places coefficient exponent).1 = 0
  | some '%', some places => return (← rescale places coefficient (exponent + 2)).1 = 0
  | some 'e', some places =>
    requireRoom places
    return coefficient = 0
  | _, _ => return coefficient = 0

/-- Whether a negative number is written as zero without a sign. -/
private def losesSign (spec : FormatSpec) (coefficient : Nat) (exponent : Int) :
    Except Fault Bool :=
  if !spec.positiveZero then .ok false
  else if coefficient = 0 then .ok true
  else (spec.roundsToZero coefficient exponent).mapError fun _ => .basic .value

private theorem noShapeFault_losesSign (spec : FormatSpec) (coefficient : Nat)
    (exponent : Int) :
  NoShapeFault (spec.losesSign coefficient exponent)
  := by
  unfold losesSign
  split
  · apply noShapeFault_ok
  · split
    · apply noShapeFault_ok
    · cases spec.roundsToZero coefficient exponent with
      | ok isZero => apply noShapeFault_ok
      | error fault => apply noShapeFault_basic

private def lower (s : List Char) : List Char := s.map Char.toLower

/-- The numeral of a finite number in the presentation type. -/
private def finite (spec : FormatSpec) (negative : Bool) (coefficient : Nat)
    (exponent : Int) : Except Fault Numeral := do
  require (spec.precision.getD 0 ≤ decimalLimit)
  let losesSign ← if negative then spec.losesSign coefficient exponent else .ok false
  let negative := negative && !losesSign
  match spec.presentation with
  | some '%' =>
    let n ← fixed spec.precision negative coefficient (exponent + 2)
    return { n with tail := n.tail ++ ['%'] }
  | some 'f' | some 'F' => fixed spec.precision negative coefficient exponent
  | some 'e' =>
    let n ← scientific spec.precision negative coefficient exponent
    return { n with tail := lower n.tail }
  | some 'E' => scientific spec.precision negative coefficient exponent
  | some 'g' =>
    let n := general spec.precision negative coefficient exponent
    return { n with tail := lower n.tail }
  | _ => return general spec.precision negative coefficient exponent

private theorem noShapeFault_decimalNumeral (spec : FormatSpec) (negative : Bool)
    (coefficient : Nat) (exponent : Int) :
  NoShapeFault (spec.finite negative coefficient exponent)
  := by
  have hsign {f : Bool → Except Fault Numeral} (h : ∀ b, NoShapeFault (f b)) :
      NoShapeFault (if negative = true then spec.losesSign coefficient exponent >>= f
        else .ok false >>= f) := by
    split
    · apply (noShapeFault_losesSign ..).bind h
    · apply (noShapeFault_ok false).bind h
  unfold finite
  apply (noShapeFault_require _).bind
  intro _
  apply hsign
  intro losesSign
  dsimp only
  split
  · apply (noShapeFault_fixed ..).bind
    intro n
    apply noShapeFault_ok
  · apply noShapeFault_fixed
  · apply noShapeFault_fixed
  · apply (noShapeFault_scientific ..).bind
    intro n
    apply noShapeFault_ok
  · apply noShapeFault_scientific
  · apply noShapeFault_ok
  · apply noShapeFault_ok

/-- A decimal number as a specification says.  Zeros filled in by a specification that
asks for them are digits; those of a fill character are not.  An infinity or a
not-a-number is filled by spaces instead of zeros. -/
def decimal (spec : FormatSpec) (d : Decimal) : Except Fault (List Char) := do
  match d with
  | .finite negative coefficient exponent =>
    let n ← spec.finite negative coefficient exponent
    if spec.zeroPadded then spec.layOut 3 [] n
    else
      let grouped := { n with integer := spec.group 3 0 n.integer }
      { spec with grouping := none }.layOut 3 [] grouped
  | d =>
    let spec := if spec.zeroPadded then { spec with fill := ' ', zeroPadded := false } else spec
    let n := d.numeral
    let percent := if spec.presentation = some '%' then ['%'] else []
    spec.layOut 3 [] { n with tail := n.tail ++ percent }

theorem noShapeFault_decimal (spec : FormatSpec) (d : Decimal) :
  NoShapeFault (spec.decimal d)
  := by
  unfold decimal
  split
  · apply (noShapeFault_decimalNumeral ..).bind
    intro n
    dsimp only
    split
    · apply noShapeFault_layOut
    · apply noShapeFault_layOut
  · apply noShapeFault_layOut

end HtmlTemplate.FormatSpec
