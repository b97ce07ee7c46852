import HtmlTemplate.Number.Basic
import HtmlTemplate.Operation.Basic

/-!
# Values

The values that templates are filled with, and that callbacks take and give, are of many
kinds, and the rules of the library tell them apart: `Value` has one constructor for each
family of kinds.  A text carries a `Mark` that says whether it is safe as HTML, and an
object of a class that is made elsewhere a `Label` that says how it shows itself.  Functions
and iterators are references into a state that a `Host` keeps.
-/

namespace HtmlTemplate

/-- What is known of a text: nothing, that it is escaped, or that it is markup, which
escapes whatever is joined to it. -/
inductive Mark where
  | plain
  | safe
  | markup
deriving DecidableEq

/-- The kinds of values that hold bytes. -/
inductive BytesKind where
  | fixed
  | mutable
  | view
deriving DecidableEq

/-- The kinds of sequences with arbitrary items. -/
inductive SequenceKind where
  | list
  | tuple
  | deque
  | userList
deriving DecidableEq

/-- The kinds of mappings. -/
inductive MappingKind where
  | plain
  | ordered
  | user
deriving DecidableEq

/-- The outcome of the emptiness test for a value. -/
inductive Emptiness where
  | absent
  | falseValue
  | emptyString
  | emptySequence
  | emptyMapping
  | zero
  | present
deriving DecidableEq

/-- How an object shows itself whose class is made elsewhere: the name of the class, and
the text of the object. -/
structure Label where
  className : String
  text : String
deriving DecidableEq

/-- A place of a template that an expression fills, with the conversion and the format
that are applied to its value. -/
structure Slot (α : Type) where
  value : α
  conversion : Option String
  format : String

/-- A value. -/
inductive Value where
  /-- No value. -/
  | absent
  | bool (b : Bool)
  | number (n : Number)
  | text (mark : Mark) (s : String)
  | bytes (kind : BytesKind) (data : List UInt8)
  | sequence (kind : SequenceKind) (items : List Value)
  | range (start stop step : Int)
  | set (frozen : Bool) (items : List Value)
  | mapping (kind : MappingKind) (entries : List (Value × Value))
  /-- The keys of a mapping, a collection without an order of its own. -/
  | keys (items : List Value)
  /-- An iterator over items that the host keeps. -/
  | iterator (id : Nat)
  /-- Literal segments and the values between them. -/
  | template (strings values : Value)
  /-- A template whose values still have to be converted and formatted. -/
  | slotted (label : Label) (strings : List Value) (slots : List (Slot Value))
  | emptiness (e : Emptiness)
  /-- An object with an HTML form of its own. -/
  | widget (label : Label) (content : Value)
  /-- An object with another text for use inside containers. -/
  | object (label : Label) (inspect : String)
  /-- An object with a size that is no collection. -/
  | sized (label : Label) (size : Int)
  /-- A collection without an order. -/
  | collection (label : Label) (size : Int)
  /-- A function that the host keeps. -/
  | function (label : Label) (id : Nat) (parameters : List ParameterKind)
  | operation (op : Operation)
  /-- An operation with its first arguments given. -/
  | applied (op : Operation) (arguments : List Value)
  /-- A shape fault that was made but not raised. -/
  | shapeError (message : Value)

namespace Value

/-- A plain text. -/
def plain (s : String) : Value := .text .plain s

/-- An integer. -/
def int (n : Int) : Value := .number (.integer n)

/-- A list. -/
def list (items : List Value) : Value := .sequence .list items

/-- A tuple. -/
def tuple (items : List Value) : Value := .sequence .tuple items

/-- Whether a value can be called. -/
def isCallable : Value → Bool
  | .function .. | .operation _ | .applied .. => true
  | _ => false

end Value

end HtmlTemplate
