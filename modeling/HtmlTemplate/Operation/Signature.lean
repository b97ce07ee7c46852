import HtmlTemplate.Value.Basic

/-!
# Signatures

`Operation.parameters` are the parameters of an operation, and `Parameter.bind?` matches
the arguments of a call with parameters.  A callable `Value.takesTwo` if it has room for
two arguments by position, and tells so.
-/

namespace HtmlTemplate

/-- A parameter: its name, how it takes its argument, and the value it has without one. -/
structure Parameter where
  name : String
  kind : ParameterKind
  default : Option Value

namespace Parameter

/-- A parameter that needs an argument. -/
def needed (name : String) : Parameter := ⟨name, .required, none⟩

/-- A parameter with a value of its own. -/
def optional (name : String) (default : Value) : Parameter := ⟨name, .optional, some default⟩

/-- A parameter that needs an argument by position. -/
def placed (name : String) : Parameter := ⟨name, .positional, none⟩

/-- A parameter for all arguments by position that are left over. -/
def others (name : String) : Parameter := ⟨name, .rest, none⟩

/-- The argument given by name to a parameter, if it can be given so. -/
def named? (p : Parameter) (named : List (String × Value)) : Option Value :=
  if p.kind = .positional then none else named.lookup p.name

/-- The arguments of a call, in the order of the parameters, and those left over.  Too
many arguments, or too few, or one that is given twice, or under an unknown name, match
no parameters. -/
def bind? : List Parameter → List Value → List (String × Value) →
    Option (List Value × List Value)
  | [], [], [] => some ([], [])
  | [], _, _ => none
  | p :: ps, arguments, named =>
    if p.kind = .rest then
      if named.isEmpty then (bind? ps [] []).map fun (bound, _) => (bound, arguments) else none
    else
      match arguments, named? p named with
      | _ :: _, some _ => none
      | a :: arguments, none =>
        (bind? ps arguments named).map fun (bound, rest) => (a :: bound, rest)
      | [], some a =>
        (bind? ps [] (named.filter (·.1 ≠ p.name))).map fun (bound, rest) => (a :: bound, rest)
      | [], none =>
        match p.default with
        | some a => (bind? ps [] named).map fun (bound, rest) => (a :: bound, rest)
        | none => none

end Parameter

/-- The parameters of an operation. -/
def Operation.parameters : Operation → List Parameter
  | .html | .renderExpanded => [.needed "strings", .others "values"]
  | .templateCall => [.needed "strings", .optional "values" (.tuple [])]
  | .asTemplateCall => [.needed "strings", .optional "values" (.tuple [])]
  | .mapValues => [.needed "call", .needed "fn"]
  | .safe | .escapeHtml | .classify | .isEmpty => [.needed "value"]
  | .safeHtml => [.needed "template", .others "values"]
  | .markup | .safeText | .text =>
    [.optional "object" (.plain ""), .optional "encoding" .absent,
      .optional "errors" (.plain "strict")]
  | .each => [.needed "collection", .needed "callback"]
  | .when => [.needed "condition", .needed "render"]
  | .tag => [.needed "name", .optional "attributes" .absent, .optional "content" (.plain "")]
  | .div | .span | .p => [.optional "attributes" .absent, .optional "content" (.plain "")]
  | .removeComments => [.needed "text"]
  | .shapeError =>
    [.needed "message", .optional "segments" .absent, .optional "values" .absent]
  | .parseAttributes => [.needed "pairs"]
  | .inspect | .inspectAscii | .size | .upper => [.placed "object"]
  | .list => [⟨"iterable", .positional, some (.tuple [])⟩]
  | .divMod => [.placed "x", .placed "y"]
  | .greatest => [.others "items"]

/-- Whether an operation tells its parameters.  A few basic ones do not. -/
def Operation.tellsParameters : Operation → Bool
  | .safeText | .text | .greatest => false
  | _ => true

/-- Whether an operation with some arguments already given has room for two more by
position, and tells so. -/
def Operation.takesTwo (op : Operation) (given : List Value) : Bool :=
  let kinds := op.parameters.map (·.kind)
  op.tellsParameters
    && (kinds.contains .rest || given.length + 2 ≤ kinds.countP ParameterKind.takesPosition)

/-- Whether a callable has room for two arguments by position, and tells so. -/
def Value.takesTwo : Value → Bool
  | .function _ _ parameters => ParameterKind.acceptsTwo parameters
  | .operation op => op.takesTwo []
  | .applied op arguments => op.takesTwo arguments
  | _ => false

end HtmlTemplate
