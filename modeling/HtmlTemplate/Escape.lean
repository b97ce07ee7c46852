import HtmlTemplate.Text.Comment
import HtmlTemplate.Text.Entity
import HtmlTemplate.Value.Display
import HtmlTemplate.Host

/-!
# Escaping values

A value with an HTML form of its own is already safe: a text marked safe, markup, or a
widget.  `Host.escape` gives that form, and escapes the text of any other value;
`Host.safe` makes markup of a value without escaping it, and `Host.joined?` is what markup
joins to itself.  Markup is a text of class `markupsafe.Markup`, and does here what
markupsafe documents for that class.
-/

namespace HtmlTemplate

variable {σ : Type}

/-- The HTML form of a value that has one. -/
def Host.html? (host : Host σ) : Value → Option (Run σ Value)
  | .text .safe s => some (pure (.text .safe s))
  | .text .markup s => some (pure (.text .markup s))
  | .widget _ content => some (host.widget content)
  | .operation .safeText | .operation .markup => some (.fail (.basic .type))
  | _ => none

/-- The escaped form of a value: its own HTML, or its text with the special characters
written as entities.  The absent value is the empty text. -/
def Host.escape (host : Host σ) (value : Value) : Run σ Value :=
  match value with
  | .absent => pure (.plain "")
  | value =>
    match host.html? value with
    | some html => html
    | none => pure (.plain (Entity.escape value.display))

/-- The text of a value as markup: its own HTML, or else its text as it is.  So the
constructor of `markupsafe.Markup` is documented: it asks an object for its HTML if it has
some, and converts any other object to a text that it does not escape. -/
def Host.markupText (host : Host σ) (value : Value) : Run σ String :=
  match host.html? value with
  | some html => do return (← html).display
  | none => pure value.display

/-- A value marked as markup, which is made of it as `markupText` says.  The absent value is
the empty text. -/
def Host.safe (host : Host σ) (value : Value) : Run σ Value :=
  match value with
  | .absent => pure (.text .markup "")
  | value => do return .text .markup (← host.markupText value)

/-- What markup joins to itself: the HTML of a value that has some, and any other text
escaped.  So the methods of `markupsafe.Markup` are documented: they escape their arguments,
which leaves HTML as it is. -/
def Host.joined? (host : Host σ) (value : Value) : Option (Run σ String) :=
  match value with
  | .text .plain s => some (pure (Entity.escapeNumeric s))
  | value => (host.html? value).map fun html => do host.markupText (← html)

/-- A text without its comments. -/
def withoutComments : Value → Except Fault Value
  | .text _ s => .ok (.plain (Comment.strip s))
  | _ => .error (.basic .type)

end HtmlTemplate
