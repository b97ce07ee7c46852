import HtmlTemplate.Escape
import HtmlTemplate.Format.Value

/-!
# Templates

A `Template` is a row of literal segments and a row of values, one fewer, that stand
between them; `Template.make` checks only that the numbers fit.  `Host.template` resolves
what a template may be given as: a template already made, literal segments with slots
whose values are first converted and formatted, or a list or tuple of texts together with
its values.  `Template.text` interleaves segments and values.
-/

namespace HtmlTemplate

/-- Literal segments and the values between them. -/
structure Template where
  strings : Value
  values : Value

/-- A template as a value. -/
def Template.toValue (t : Template) : Value := .template t.strings t.values

/-- The template with these segments and values, if there is one segment more. -/
def Template.make (strings values : Value) : Except Fault Template := do
  let m ← strings.size
  let n ← values.size
  if m = n + 1 then return ⟨strings, values⟩ else .error (.shape (.count m n))

/-- A value as a conversion leaves it. -/
def Value.convert (value : Value) (conversion : String) : Except Fault Value :=
  match conversion with
  | "" => .ok value
  | "r" => .ok (.plain value.inspect)
  | "s" => .ok (.plain value.display)
  | "a" => .ok (.plain value.inspectAscii)
  | _ => .error (.basic .key)

/-- The value of a slot, converted and then formatted.  Without a format it is kept as
it is. -/
def Slot.resolve (slot : Slot Value) : Except Fault Value := do
  let value ← slot.value.convert (slot.conversion.getD "")
  if slot.format = "" then return value
  else value.format slot.format

/-- Whether all of a row of values are texts. -/
def allTexts (items : List Value) : Bool :=
  items.all fun item => match item with
    | .text .. => true
    | _ => false

/-- Fails if there are values beside a template that has its own. -/
def requireNone (values : Value) (cause : ShapeFault) : Except Fault Unit := do
  if ← values.isTruthy then .error (.shape cause) else return

/-- The template that a value and the values beside it stand for. -/
def Host.template {σ : Type} (host : Host σ) (strings values : Value) : Run σ Template :=
  match strings with
  | .template s v => do
    .ofExcept (requireNone values .callWithValues)
    return ⟨s, v⟩
  | .slotted _ segments slots => do
    .ofExcept (requireNone values .slottedWithValues)
    .ofExcept do
      let values ← slots.mapM Slot.resolve
      Template.make (.tuple segments) (.tuple values)
  | .sequence .list items | .sequence .tuple items =>
    if allTexts items then do
      let values ← host.items values
      .ofExcept (Template.make (.tuple items) (.tuple values))
    else .fail (.shape (.notTemplate strings.className))
  | strings => .fail (.shape (.notTemplate strings.className))

/-- The first of the segments. -/
def Value.firstSegment (strings : Value) : Except Fault Value :=
  match strings with
  | .mapping _ entries =>
    match entries.find? fun e => e.1.beq (.int 0) with
    | some e => .ok e.2
    | none => .error (.basic .key)
  | .set .. | .keys _ | .collection .. => .error (.basic .type)
  | strings => do
    match ← strings.items with
    | segment :: _ => return segment
    | [] => .error (.basic .lookup)

/-- The segments after the first.  Only sequences that can be cut have them. -/
def Value.otherSegments (strings : Value) : Except Fault (List Value) :=
  match strings with
  | .text .. | .bytes .. | .range .. | .sequence .list _ | .sequence .tuple _
  | .sequence .userList _ => do return (← strings.items).drop 1
  | _ => .error (.basic .type)

/-- The text of a literal segment. -/
def Value.segmentText : Value → Except Fault String
  | .text _ s => .ok s
  | _ => .error (.basic .type)

/-- Values and the segments behind them, in turn. -/
def interleave : List Value → List String → List String
  | value :: values, segment :: segments =>
    value.display :: segment :: interleave values segments
  | _, _ => []

/-- The text of a template: its segments with the texts of its values between them. -/
def Template.text (t : Template) : Except Fault String := do
  let first ← t.strings.firstSegment
  let others ← t.strings.otherSegments
  let values ← t.values.items
  let first ← first.segmentText
  let others ← (others.take values.length).mapM Value.segmentText
  return String.join (first :: interleave values others)

/-- The template with every value changed by a callback.  A callback that runs out of
items inside the row of values fails with a fault of its own. -/
def Template.mapValues {σ : Type} (t : Template) (f : Value → Run σ Value) :
    Run σ Template := do
  let values ← .ofExcept t.values.items
  let values ← (values.mapM f).mapFault Fault.insideSequence
  .ofExcept (Template.make t.strings (.tuple values))

end HtmlTemplate
