import HtmlTemplate.Format.Spec

/-!
# Laying out fields

`FormatSpec.field` fills a text up to the width of its field, and `FormatSpec.number`
does so with a numeral, whose digits it groups.  Zeros filled in between the sign and the
digits of a number are digits of it, and are grouped like the others.  A field that is
wider than `textLimit` has no room anywhere.
-/

namespace HtmlTemplate

/-- The character of a grouping. -/
def Grouping.char : Grouping → Char
  | .comma => ','
  | .underscore => '_'

/-- Digits in reverse order, brought to at least `width` characters by zeros, and with a
separator behind each group of `size` that is not the last.  `fuel` bounds the number of
groups. -/
def groupReversed (separator : Char) (size : Nat) :
    (fuel : Nat) → (width : Nat) → List Char → List Char
  | 0, _, digits => digits
  | fuel + 1, width, digits =>
    let count := min size (max (max digits.length width) 1)
    let group := digits.take count
    let filled := group ++ List.replicate (count - group.length) '0'
    let rest := digits.drop count
    if rest.isEmpty && width ≤ count then filled
    else filled ++ separator :: groupReversed separator size fuel (width - count - 1) rest

/-- No text is longer than this. -/
def textLimit : Nat := 1073741824

/-- Fails if a text of a given length would have no room. -/
def requireRoom (length : Nat) : Except Fault Unit :=
  if textLimit < length then .error (.basic .memory) else .ok ()

theorem noShapeFault_requireRoom (length : Nat) :
  NoShapeFault (requireRoom length)
  := by
  unfold requireRoom
  split
  · apply noShapeFault_basic
  · apply noShapeFault_ok

namespace FormatSpec

/-- A text brought to the width of its field. -/
def field (spec : FormatSpec) (usual : Alignment) (s : List Char) : List Char :=
  let count := spec.width - s.length
  let fill (n : Nat) := List.replicate n spec.fill
  match spec.alignment.getD usual with
  | .left => s ++ fill count
  | .right | .inside => fill count ++ s
  | .center => fill (count / 2) ++ s ++ fill (count - count / 2)

/-- The sign of a numeral. -/
def signOf (style : Option SignStyle) (n : Numeral) : List Char :=
  if n.negative then ['-']
  else match style with
    | some .plus => ['+']
    | some .space => [' ']
    | _ => []

/-- Digits brought to at least `width` characters by zeros, and grouped in groups of
`size` if there is a grouping. -/
def group (spec : FormatSpec) (size width : Nat) (digits : List Char) : List Char :=
  if digits.isEmpty then []
  else match spec.grouping with
    | none => List.replicate (width - digits.length) '0' ++ digits
    | some grouping =>
      (groupReversed grouping.char size (digits.length + width + 1) width
        digits.reverse).reverse

/-- A numeral brought to the width of its field, with a marker of its base behind the
sign. -/
def number (spec : FormatSpec) (size : Nat) (marker : List Char) (n : Numeral) :
    List Char :=
  let alignment := spec.alignment.getD (if spec.zeroPadded then .inside else .right)
  let front := signOf spec.sign n ++ marker
  let inside := alignment = .inside
  let least :=
    if spec.fill = '0' && inside then spec.width - (front.length + n.tail.length) else 0
  let digits := spec.group size least n.integer ++ n.tail
  if inside then
    let count := spec.width - (front.length + digits.length)
    front ++ List.replicate count spec.fill ++ digits
  else spec.field .right (front ++ digits)

/-- A numeral in its field, if there is room for it. -/
def layOut (spec : FormatSpec) (size : Nat) (marker : List Char) (n : Numeral) :
    Except Fault (List Char) := do
  requireRoom spec.width
  return spec.number size marker n

theorem noShapeFault_layOut (spec : FormatSpec) (size : Nat) (marker : List Char)
    (n : Numeral) :
  NoShapeFault (spec.layOut size marker n)
  := by
  apply (noShapeFault_requireRoom _).bind
  intro _
  apply noShapeFault_ok

end FormatSpec

end HtmlTemplate
