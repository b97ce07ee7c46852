import HtmlTemplate.Template.Evaluate

/-!
# Elements

`Element.text` is the text of an HTML element with a name, attributes and content.  A
text given for the attributes is the class of the element; the values of attributes and
the content are written as they are.
-/

namespace HtmlTemplate.Element

/-- The attributes of an element, each with a space before it. -/
def attributes : Value → String
  | .text _ s => " class=\"" ++ s ++ "\""
  | .mapping _ entries =>
    String.join (entries.map fun e => " " ++ e.1.display ++ "=\"" ++ e.2.display ++ "\"")
  | _ => ""

/-- The content of an element: the items of a list or a tuple are joined by spaces, and
the absent value is empty. -/
def content : Value → String
  | .absent => ""
  | .sequence .list items | .sequence .tuple items => spaced items
  | value => value.display

/-- The text of an element with a name, attributes and content. -/
def text (name attributesOf contentOf : Value) : String :=
  "<" ++ name.display ++ attributes attributesOf ++ ">" ++ content contentOf
    ++ "</" ++ name.display ++ ">"

end HtmlTemplate.Element
