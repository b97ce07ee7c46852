import HtmlTemplate.Value.Basic

/-!
# Expressions

An `Expression` describes how a value is made: from constants, by building containers, by
calling, and, in the body of a function, from the arguments of the call.  A `Closure` is
what a function is made of.
-/

namespace HtmlTemplate

/-- A description of how a value is made. -/
inductive Expression where
  | constant (value : Value)
  | failing (fault : Fault)
  | sequence (kind : SequenceKind) (items : List Expression)
  | set (frozen : Bool) (items : List Expression)
  | mapping (kind : MappingKind) (entries : List (Expression × Expression))
  | keys (entries : List (Expression × Expression))
  | iterator (items : List Expression)
  | widget (label : Label) (content : Expression)
  | slotted (label : Label) (strings : List Expression) (slots : List (Slot Expression))
  | function (label : Label) (parameters : List ParameterKind) (name : Option String)
      (bodies : List Expression)
  | applied (op : Operation) (arguments : List Expression)
  | call (callee : Expression) (arguments : List Expression)
      (named : List (String × Expression))
  | add (left right : Expression)
  /-- An argument of the function whose body this is. -/
  | argument (place : Nat)
  /-- All arguments of the function whose body this is. -/
  | allArguments
  | variable (name : String)

/-- What a function is made of: its parameters, the name under which its calls are
recorded, if any, and its bodies.  A call evaluates the body after that of the call
before; the last body is used again and again. -/
structure Closure where
  parameters : List ParameterKind
  name : Option String
  bodies : List Expression

end HtmlTemplate
