import HtmlTemplate.Format.Decimal
import HtmlTemplate.Number.Basic

/-!
# Formatting numbers

`FormatSpec.formatNumber` writes a number as a format specification says.  Which
presentation types there are, and which of the other parts may stand beside them,
depends on the kind of the number; a specification that does not fit is a fault.
-/

namespace HtmlTemplate.FormatSpec

private def upper (s : List Char) : List Char := s.map Char.toUpper

/-- The style of a binary number in a presentation type, and whether it is written in
capitals and as a percentage. -/
private def style? (presentation : Option Char) (precision : Option Nat)
    (wholePoint : Bool) : Option (Numeral.Style × Bool × Bool) :=
  let places := precision.getD 6
  let count := max places 1
  match presentation with
  | none =>
    match precision with
    | none => some (.shortest wholePoint, false, false)
    | some p => some (.general (max p 1) wholePoint, false, false)
  | some 'e' => some (.exponent places, false, false)
  | some 'E' => some (.exponent places, true, false)
  | some 'f' => some (.fixed places, false, false)
  | some 'F' => some (.fixed places, true, false)
  | some 'g' | some 'n' => some (.general count false, false, false)
  | some 'G' => some (.general count false, true, false)
  | some '%' => some (.fixed places, false, true)
  | some _ => none

/-- A numeral without the sign of a zero, if the specification asks for that. -/
private def withoutNegativeZero (spec : FormatSpec) (n : Numeral) : Numeral :=
  let isZero := (n.integer ++ n.tail.takeWhile (· ≠ 'e')).all fun c => c = '0' || c = '.'
  if spec.positiveZero && isZero then { n with negative := false } else n

private def capitals (inCapitals : Bool) (n : Numeral) : Numeral :=
  if inCapitals then { n with tail := upper n.tail } else n

/-- The greatest precision of a binary number. -/
def precisionLimit : Nat := 2147483647

/-- Fails if the precision is one that no binary number has, or asks for more places than
there is room for. -/
private def requirePrecision (spec : FormatSpec) (style : Numeral.Style) :
    Except Fault Unit := do
  let precision := spec.precision.getD 0
  require (precision ≤ precisionLimit)
  match style with
  | .fixed _ | .exponent _ => requireRoom precision
  | _ => if spec.alternate then requireRoom precision

private theorem noShapeFault_requirePrecision (spec : FormatSpec) (style : Numeral.Style) :
  NoShapeFault (spec.requirePrecision style)
  := by
  unfold requirePrecision
  apply (noShapeFault_require _).bind
  intro _
  split
  · apply noShapeFault_requireRoom
  · apply noShapeFault_requireRoom
  · split
    · apply noShapeFault_requireRoom
    · apply noShapeFault_ok

private def binary (spec : FormatSpec) (x : Binary64) : Except Fault (List Char) := do
  let some (style, inCapitals, percent) := style? spec.presentation spec.precision true
    | malformed
  require (spec.presentation ≠ some 'n' || spec.grouping.isNone)
  spec.requirePrecision style
  let n := Numeral.ofBinary64 style spec.alternate (if percent then x.hundredfold else x)
  let n := capitals inCapitals (spec.withoutNegativeZero n)
  spec.layOut 3 [] { n with tail := n.tail ++ if percent then ['%'] else [] }

private theorem noShapeFault_binary (spec : FormatSpec) (x : Binary64) :
  NoShapeFault (spec.binary x)
  := by
  unfold binary
  split
  · apply (noShapeFault_require _).bind
    intro _
    apply (noShapeFault_requirePrecision ..).bind
    intro _
    apply noShapeFault_layOut
  · apply noShapeFault_basic

/-- The character with a number, alone in its field. -/
private def character (spec : FormatSpec) (n : Int) : Except Fault (List Char) := do
  require (spec.precision.isNone && !spec.positiveZero)
  require (spec.sign.isNone && !spec.alternate && spec.grouping.isNone)
  if n < 0 || 0x110000 ≤ n then .error (.basic .overflow)
  else spec.layOut 3 [] ⟨false, [], [Char.ofNat n.toNat]⟩

private theorem noShapeFault_character (spec : FormatSpec) (n : Int) :
  NoShapeFault (spec.character n)
  := by
  unfold character
  apply (noShapeFault_require _).bind
  intro _
  apply (noShapeFault_require _).bind
  intro _
  split
  · apply noShapeFault_basic
  · apply noShapeFault_layOut

/-- An integer in a base, with the marker of the base in the alternate form. -/
private def inBase (spec : FormatSpec) (base : Nat) (n : Int) : Except Fault (List Char) := do
  require (spec.precision.isNone && !spec.positiveZero)
  require (base = 10 || spec.grouping ≠ some .comma)
  require (spec.presentation ≠ some 'n' || spec.grouping.isNone)
  let inCapitals := spec.presentation = some 'X'
  let marker := match base, spec.presentation with
    | 10, _ | _, none => []
    | _, some c => if spec.alternate then ['0', c] else []
  let numeral := Numeral.ofInt base n
  spec.layOut (if base = 10 then 3 else 4) marker
    { numeral with
      integer := if inCapitals then upper numeral.integer else numeral.integer }

private theorem noShapeFault_inBase (spec : FormatSpec) (base : Nat) (n : Int) :
  NoShapeFault (spec.inBase base n)
  := by
  unfold inBase
  apply (noShapeFault_require _).bind
  intro _
  apply (noShapeFault_require _).bind
  intro _
  apply (noShapeFault_require _).bind
  intro _
  apply noShapeFault_layOut

private def integer (spec : FormatSpec) (n : Int) : Except Fault (List Char) :=
  match spec.presentation with
  | none | some 'd' | some 'n' => spec.inBase 10 n
  | some 'b' => spec.inBase 2 n
  | some 'o' => spec.inBase 8 n
  | some 'x' | some 'X' => spec.inBase 16 n
  | some 'c' => spec.character n
  | some _ =>
    if (style? spec.presentation spec.precision true).isNone then malformed
    else do spec.binary (← (Number.integer n).toBinary)

private theorem noShapeFault_integer (spec : FormatSpec) (n : Int) :
  NoShapeFault (spec.integer n)
  := by
  unfold integer
  split
  · apply noShapeFault_inBase
  · apply noShapeFault_inBase
  · apply noShapeFault_inBase
  · apply noShapeFault_inBase
  · apply noShapeFault_inBase
  · apply noShapeFault_inBase
  · apply noShapeFault_inBase
  · apply noShapeFault_character
  · split
    · apply noShapeFault_basic
    · apply (Number.noShapeFault_toBinary _).bind
      apply noShapeFault_binary

/-- A complex number, its parts grouped but not filled, inside one field.  Without a
presentation type it has parentheses, unless its real part is left out. -/
private def complex (spec : FormatSpec) (re im : Binary64) : Except Fault (List Char) := do
  let some (style, inCapitals, percent) := style? spec.presentation spec.precision false
    | malformed
  require (!percent && spec.fill ≠ '0' && spec.alignment ≠ some .inside)
  require (spec.presentation ≠ some 'n' || spec.grouping.isNone)
  spec.requirePrecision style
  requireRoom spec.width
  let part (sign : Option SignStyle) (x : Binary64) : List Char :=
    let n := Numeral.ofBinary64 style spec.alternate x
    let bare := { spec with width := 0, sign, zeroPadded := false, alignment := none }
    bare.number 3 [] (capitals inCapitals (spec.withoutNegativeZero n))
  let plain := spec.presentation.isNone
  let content :=
    if plain && re.isZero && !re.isNegative then part spec.sign im ++ ['j']
    else if plain then
      ['('] ++ part spec.sign re ++ part (some .plus) im ++ ['j', ')']
    else part spec.sign re ++ part (some .plus) im ++ ['j']
  return spec.field .right content

private theorem noShapeFault_complex (spec : FormatSpec) (re im : Binary64) :
  NoShapeFault (spec.complex re im)
  := by
  unfold complex
  split
  · apply (noShapeFault_require _).bind
    intro _
    apply (noShapeFault_require _).bind
    intro _
    apply (noShapeFault_requirePrecision ..).bind
    intro _
    apply (noShapeFault_requireRoom _).bind
    intro _
    apply noShapeFault_ok
  · apply noShapeFault_basic

/-- The specification without the presentation type NUL, which counts as none for binary
numbers. -/
private def withoutNul (spec : FormatSpec) : FormatSpec :=
  { spec with presentation := spec.presentation.filter (· ≠ '\x00') }

/-- A number as a format specification says.  Ratios have none. -/
def formatNumber (format : String) (n : Number) : Except Fault String :=
  String.ofList <$> match n with
    | .integer n => (read? format).elim malformed (·.integer n)
    | .binary x => (read? format).elim malformed (·.withoutNul.binary x)
    | .decimal d => (readDecimal? format).elim malformed (·.decimal d)
    | .complex re im => (read? format).elim malformed (·.withoutNul.complex re im)
    | .ratio _ => .error (.basic .type)

theorem noShapeFault_formatNumber (format : String) (n : Number) :
  NoShapeFault (formatNumber format n)
  := by
  have helim {spec? : Option FormatSpec} {write : FormatSpec → Except Fault (List Char)}
      (h : ∀ spec, NoShapeFault (write spec)) : NoShapeFault (spec?.elim malformed write) := by
    cases spec? with
    | none => apply noShapeFault_basic
    | some spec => apply h
  apply NoShapeFault.map
  cases n with
  | integer n => exact helim fun spec => noShapeFault_integer spec n
  | binary x => exact helim fun spec => noShapeFault_binary spec.withoutNul x
  | decimal d => exact helim fun spec => noShapeFault_decimal spec d
  | complex re im => exact helim fun spec => noShapeFault_complex spec.withoutNul re im
  | ratio q => apply noShapeFault_basic

end HtmlTemplate.FormatSpec
