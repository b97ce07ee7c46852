import HtmlTemplate.Template.Basic

/-!
# Evaluating templates

Three ways to make text of a template: `Host.html` inserts the texts of the values as they
are, `Host.renderExpanded` calls callables and joins lists first, and `Host.safeHtml`
escapes the values and marks the result as safe.  `Host.safeHtml` takes a single text or
real number as well.
-/

namespace HtmlTemplate

variable {σ : Type}

/-- The items of a list or a tuple. -/
def Value.listed? : Value → Option (List Value)
  | .sequence .list items | .sequence .tuple items => some items
  | _ => none

/-- Whether a value is escaped by itself: texts, truth values and real numbers are. -/
def Value.isSingle : Value → Bool
  | .text .. | .bool _ => true
  | .number n => n.isReal
  | _ => false

/-- The texts of values with a space between two of them. -/
def spaced (items : List Value) : String := " ".intercalate (items.map Value.display)

namespace Host

/-- The text of a template with its values inserted as they are. -/
def html (host : Host σ) (strings : Value) (values : List Value) : Run σ String := do
  let t ← host.template strings (.tuple values)
  .ofExcept t.text

/-- What a callable gives, or else the value itself, with the items of a list or a tuple
joined by spaces. -/
def expand (host : Host σ) (value : Value) : Run σ Value := do
  let value ← if value.isCallable then host.call value [] else pure value
  match value.listed? with
  | some items => return .plain (spaced items)
  | none => return value

/-- The text of a template with its values expanded. -/
def renderExpanded (host : Host σ) (strings : Value) (values : List Value) :
    Run σ String := do
  let t ← host.template strings (.tuple values)
  let t ← t.mapValues host.expand
  .ofExcept t.text

/-- The text of a template with its values escaped, or the escaped text of a single text
or real number, marked as safe.  A list or tuple without values beside it is no template. -/
def safeHtml (host : Host σ) (template : Value) (values : List Value) : Run σ Value :=
  if template.isSingle then
    if values.isEmpty then do
      let escaped ← host.escape template
      return .text .safe escaped.display
    else .fail (.shape .plainWithValues)
  else if template.listed?.isSome && values.isEmpty then .fail (.shape .segmentsAlone)
  else do
    let t ← host.template template (.tuple values)
    let t ← t.mapValues host.escape
    return .text .safe (← .ofExcept t.text)

end Host

end HtmlTemplate
