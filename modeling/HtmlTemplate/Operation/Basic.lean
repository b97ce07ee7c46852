/-!
# Operations and parameters

`Operation` names the operations of the library and the basic ones beside them, as far as
they can be handed about as values.  `ParameterKind` says how a parameter of a callable
takes its argument; `acceptsTwo` says whether a callable with given parameters takes two
arguments by position.
-/

namespace HtmlTemplate

/-- An operation that can be called by name and handed about as a value. -/
inductive Operation where
  | html
  | renderExpanded
  | templateCall
  | asTemplateCall
  | mapValues
  | safe
  | safeHtml
  | escapeHtml
  | safeText
  | markup
  | each
  | when
  | classify
  | isEmpty
  | tag
  | div
  | span
  | p
  | removeComments
  | shapeError
  | parseAttributes
  | text
  | inspect
  | inspectAscii
  | size
  | list
  | upper
  | greatest
  | divMod
deriving DecidableEq

/-- How a parameter takes its argument: by position, by position or name, from all
positions left over, by name alone, or from all names left over. -/
inductive ParameterKind where
  | positional
  | required
  | optional
  | rest
  | named
  | requiredNamed
  | extra
deriving DecidableEq

namespace ParameterKind

/-- Whether a parameter takes one argument by position. -/
def takesPosition : ParameterKind → Bool
  | .positional | .required | .optional => true
  | _ => false

/-- Whether a parameter needs an argument by position. -/
def needsPosition : ParameterKind → Bool
  | .positional | .required => true
  | _ => false

/-- Whether a callable with these parameters can be called with so many arguments by
position and none by name. -/
def accepts (parameters : List ParameterKind) (count : Nat) : Bool :=
  !parameters.contains .requiredNamed
    && parameters.countP needsPosition ≤ count
    && (parameters.contains .rest || count ≤ parameters.countP takesPosition)

/-- Whether a callable has room for two arguments by position. -/
def acceptsTwo (parameters : List ParameterKind) : Bool :=
  parameters.contains .rest || 2 ≤ parameters.countP takesPosition

end ParameterKind

end HtmlTemplate
