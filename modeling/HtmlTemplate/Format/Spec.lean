import HtmlTemplate.Number.Decimal
import HtmlTemplate.Text.Digit

/-!
# Format specifications

A `FormatSpec` says how a text or a number is laid out: a fill character and an
alignment, a sign, a width, a grouping of digits, a precision and a presentation type,
all of them optional and in this order.  `FormatSpec.read?` reads the written form.
-/

namespace HtmlTemplate

/-- Where the fill of a field goes: behind the content, before it, on both sides of it, or
between the sign of a number and its digits. -/
inductive Alignment where
  | left
  | right
  | center
  | inside
deriving DecidableEq

/-- What stands before a number that is not negative. -/
inductive SignStyle where
  | minus
  | plus
  | space
deriving DecidableEq

/-- The character between two groups of digits. -/
inductive Grouping where
  | comma
  | underscore
deriving DecidableEq

/-- A format specification. -/
structure FormatSpec where
  fill : Char
  alignment : Option Alignment
  sign : Option SignStyle
  positiveZero : Bool
  alternate : Bool
  zeroPadded : Bool
  width : Nat
  grouping : Option Grouping
  precision : Option Nat
  presentation : Option Char

namespace FormatSpec

/-- The alignment that a character asks for. -/
def alignment? : Char → Option Alignment
  | '<' => some .left
  | '>' => some .right
  | '^' => some .center
  | '=' => some .inside
  | _ => none

/-- The fill and alignment at the start of a specification, and the rest. -/
def filled : List Char → Option Char × Option Alignment × List Char
  | c :: a :: rest =>
    match alignment? a, alignment? c with
    | some alignment, _ => (some c, some alignment, rest)
    | none, some alignment => (none, some alignment, a :: rest)
    | none, none => (none, none, c :: a :: rest)
  | [a] =>
    match alignment? a with
    | some alignment => (none, some alignment, [])
    | none => (none, none, [a])
  | [] => (none, none, [])

/-- The sign at the start of a text, and the rest. -/
def leadingSign : List Char → Option SignStyle × List Char
  | '-' :: rest => (some .minus, rest)
  | '+' :: rest => (some .plus, rest)
  | ' ' :: rest => (some .space, rest)
  | rest => (none, rest)

/-- Whether a text starts with a character, and the rest behind it. -/
def flag (c : Char) : List Char → Bool × List Char
  | d :: rest => if c = d then (true, rest) else (false, d :: rest)
  | [] => (false, [])

/-- Widths and precisions are less than this. -/
def countLimit : Nat := 9223372036854775808

/-- The number at the start of a text, and the rest.  There may be none, but it may not
be too large. -/
private def count? (s : List Char) : Option (Option Nat × List Char) :=
  let digits := s.takeWhile Digit.isDigit
  let n := Digit.ofDigits (digits.filterMap Digit.value?)
  if countLimit ≤ n then none
  else some (if digits.isEmpty then none else some n, s.dropWhile Digit.isDigit)

private def leadingGrouping : List Char → Option Grouping × List Char
  | ',' :: rest => (some .comma, rest)
  | '_' :: rest => (some .underscore, rest)
  | rest => (none, rest)

private def precision? : List Char → Option (Option Nat × List Char)
  | '.' :: rest =>
    match count? rest with
    | some (some n, rest) => some (some n, rest)
    | _ => none
  | rest => some (none, rest)

private def presentation? : List Char → Option (Option Char)
  | [] => some none
  | [c] => some (some c)
  | _ => none

/-- The specification that a text writes.  A zero before the width asks for zeros as
fill, unless another fill is given. -/
def read? (s : String) : Option FormatSpec := do
  let (fill, alignment, rest) := filled s.toList
  let (sign, rest) := leadingSign rest
  let (positiveZero, rest) := flag 'z' rest
  let (alternate, rest) := flag '#' rest
  let (zeroPadded, rest) := if fill.isSome then (false, rest) else flag '0' rest
  let (width, rest) ← count? rest
  let (grouping, rest) := leadingGrouping rest
  let (precision, rest) ← precision? rest
  let presentation ← presentation? rest
  return {
    fill := if zeroPadded then '0' else fill.getD ' '
    alignment, sign, positiveZero, alternate, zeroPadded
    width := width.getD 0
    grouping, precision, presentation }

end FormatSpec

end HtmlTemplate
