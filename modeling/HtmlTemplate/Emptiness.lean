import HtmlTemplate.Value.Size

/-!
# Emptiness

`Value.classify` sorts values into those that are present and six ways of being empty.
-/

namespace HtmlTemplate

/-- The outcome of the emptiness test for a value. -/
def Value.classify (value : Value) : Except Fault Emptiness :=
  match value with
  | .absent => .ok .absent
  | .bool b => .ok (if b then .present else .falseValue)
  | .text _ s => .ok (if s = "" then .emptyString else .present)
  | .bytes .fixed data => .ok (if data.isEmpty then .emptyString else .present)
  | .mapping _ entries => .ok (if entries.isEmpty then .emptyMapping else .present)
  | .bytes .. | .sequence .. | .range .. | .set .. | .keys _ | .collection .. => do
    return if (← value.size) = 0 then .emptySequence else .present
  | .number n => do return if ← n.isZero? then .zero else .present
  | _ => .ok .present

/-- Whether a value is empty. -/
def Value.isEmpty (value : Value) : Except Fault Bool := do
  return (← value.classify) ≠ .present

end HtmlTemplate
