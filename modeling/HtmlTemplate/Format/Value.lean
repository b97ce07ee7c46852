import HtmlTemplate.Format.Number
import HtmlTemplate.Value.Display

/-!
# Formatting values

`Value.format` writes a value as a format specification says: texts and numbers have
specifications, any other value has only the empty one, which gives its text.  A text that
already fills its field is kept with its mark, unless it is empty.
-/

namespace HtmlTemplate

/-- Whether a specification is one for texts. -/
def FormatSpec.fitsText (spec : FormatSpec) : Bool :=
  spec.sign.isNone && !spec.positiveZero && !spec.alternate && spec.grouping.isNone
    && spec.alignment ≠ some .inside
    && (spec.presentation.isNone || spec.presentation = some 's')

/-- A text as a format specification says.  The precision is the greatest number of
characters that are kept. -/
def FormatSpec.formatText (spec : FormatSpec) (mark : Mark) (s : String) :
    Except Fault Value := do
  let kept := match spec.precision with
    | some count => s.toList.take count
    | none => s.toList
  if s ≠ "" && spec.width ≤ s.length && kept.length = s.length then return .text mark s
  else
    requireRoom spec.width
    return .plain (String.ofList (spec.field .left kept))

theorem FormatSpec.noShapeFault_formatText (spec : FormatSpec) (mark : Mark) (s : String) :
  NoShapeFault (spec.formatText mark s)
  := by
  unfold formatText
  dsimp only
  apply NoShapeFault.ite
  · apply noShapeFault_ok
  · apply (noShapeFault_requireRoom _).bind
    intro _
    apply noShapeFault_ok

/-- A text as a written format specification says. -/
def formatTextAs (format : String) (mark : Mark) (s : String) : Except Fault Value :=
  match FormatSpec.read? format with
  | some spec => if spec.fitsText then spec.formatText mark s else .error (.basic .value)
  | none => .error (.basic .value)

theorem noShapeFault_formatTextAs (format : String) (mark : Mark) (s : String) :
  NoShapeFault (formatTextAs format mark s)
  := by
  unfold formatTextAs
  split
  · split
    · apply FormatSpec.noShapeFault_formatText
    · apply noShapeFault_basic
  · apply noShapeFault_basic

/-- A value as a format specification says. -/
def Value.format (value : Value) (format : String) : Except Fault Value :=
  if format = "" then .ok (.plain value.display)
  else match value with
    | .text mark s => formatTextAs format mark s
    | .emptiness e => formatTextAs format .plain e.name
    | .bool b => .plain <$> FormatSpec.formatNumber format (.integer b.toNat)
    | .number n => .plain <$> FormatSpec.formatNumber format n
    | _ => .error (.basic .type)

theorem Value.noShapeFault_format (value : Value) (format : String) :
  NoShapeFault (value.format format)
  := by
  unfold Value.format
  split
  · apply noShapeFault_ok
  · split
    · apply noShapeFault_formatTextAs
    · apply noShapeFault_formatTextAs
    · apply (FormatSpec.noShapeFault_formatNumber ..).map
    · apply (FormatSpec.noShapeFault_formatNumber ..).map
    · apply noShapeFault_basic

end HtmlTemplate
