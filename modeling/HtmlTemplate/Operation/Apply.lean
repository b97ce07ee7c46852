import HtmlTemplate.Attribute
import HtmlTemplate.Condition
import HtmlTemplate.Element
import HtmlTemplate.Iteration
import HtmlTemplate.Number.Division
import HtmlTemplate.Text.Encoding
import HtmlTemplate.Text.Uppercase

/-!
# Applying operations

`Host.apply` is the outcome of an operation for the arguments of a call, given by position
and by name.
-/

namespace HtmlTemplate

variable {σ : Type}

/-- The text of pieces, where `errors` names what becomes of bytes that stand for no
character: by default they are a fault. -/
def decodePieces (pieces : List Piece) (errors : String) : Except Fault String :=
  let read (repair : Repair) := .ok (String.ofList (Encoding.repaired repair pieces))
  if pieces.all Piece.isChar then read .ignore
  else match errors with
    | "strict" | "surrogateescape" | "surrogatepass" => .error (.basic .undecodable)
    | "ignore" => read .ignore
    | "replace" => read .replace
    | "backslashreplace" => read .escape
    | "xmlcharrefreplace" | "namereplace" => .error (.basic .type)
    | _ => .error (.basic .lookup)

/-- The name of an encoding or a repair, given by a value. -/
def Value.nameText : Value → Except Fault String
  | .text _ s => if s.contains '\x00' then .error (.basic .value) else .ok s
  | _ => .error (.basic .type)

/-- The text of bytes in a named encoding.  Without any bytes the names do not matter. -/
def decodeBytes (object : Value) (encoding errors : String) : Except Fault String :=
  match object with
  | .bytes _ data =>
    if data.isEmpty then .ok ""
    else match Encoding.named? encoding with
      | some pieces => decodePieces (pieces data) errors
      | none => .error (.basic .lookup)
  | _ => .error (.basic .type)

/-- Whether a call gives an argument for the parameter at a place. -/
def isGiven (arguments : List Value) (named : List (String × Value)) (place : Nat)
    (name : String) : Bool :=
  place < arguments.length || (named.lookup name).isSome

/-- A text made of the arguments of a call: the text of a value, or, as soon as the
encoding or the repair is given, the text of bytes. -/
def textOf (arguments : List Value) (named : List (String × Value)) (object encoding errors : Value) :
    Except Fault String :=
  let given := isGiven arguments named
  if !given 1 "encoding" && !given 2 "errors" then .ok object.display
  else do
    let encoding ← if given 1 "encoding" then encoding.nameText else pure "utf-8"
    let errors ← if given 2 "errors" then errors.nameText else pure "strict"
    if given 0 "object" then decodeBytes object encoding errors else return ""

/-- The markup made of a value: of its own HTML, or of its text as it is; of bytes if an
encoding is given.  So the constructor of `markupsafe.Markup` is documented, with the
encoding that bytes are converted by and what becomes of those that cannot be. -/
def Host.decodeMarkup (host : Host σ) (object encoding errors : Value) : Run σ String := do
  let object ← (host.html? object).getD (pure object)
  match encoding with
  | .absent => return object.display
  | encoding => .ofExcept do decodeBytes object (← encoding.nameText) (← errors.nameText)

/-- The message of a shape fault, with the counts behind it if both are given. -/
def Host.shapeMessage (host : Host σ) (message segments values : Value) :
    Run σ Value :=
  match segments, values with
  | .absent, _ | _, .absent => pure message
  | _, _ =>
    let counts := "\n\n  Got " ++ segments.display ++ " segment(s) and " ++ values.display
      ++ " value(s)"
    match message with
    | .text .markup s => pure (.text .markup (s ++ Entity.escapeNumeric counts))
    | .text _ s => pure (.plain (s ++ counts))
    | .sequence .tuple _ => .fail (.basic .type)
    | .sequence kind items => do
      return .sequence kind (items ++ (← host.items (.plain counts)))
    | _ => .fail (.basic .type)

/-- The greater of two values under their keys, the first of them if they are equally
great. -/
def greater (best : Option (Value × Value)) (candidate : Value × Value) :
    Except Fault (Value × Value) :=
  match best with
  | none => .ok candidate
  | some best => do return if ← candidate.1.isGreater best.1 then candidate else best

/-- The greatest of the items of one value, or of several values.  Each is compared before
the next one is taken. -/
def Host.greatest (host : Host σ) (arguments : List Value)
    (named : List (String × Value)) : Run σ Value := do
  if named.any fun e => e.1 ≠ "key" && e.1 ≠ "default" then .fail (.basic .type)
  let key := (named.lookup "key").getD .absent
  let step (best : Option (Value × Value)) (item : Value) := do
    let keyed ← match key with
      | .absent => pure item
      | key => host.call key [item]
    return some (← .ofExcept (greater best (keyed, item)))
  let best ← match arguments with
    | [] => .fail (.basic .type)
    | [collection] => host.foldItems step none collection
    | arguments =>
      if (named.lookup "default").isSome then .fail (.basic .type)
      else arguments.foldlM step none
  match best, named.lookup "default" with
  | some (_, item), _ => return item
  | none, some value => return value
  | none, none => .fail (.basic .value)

/-- The quotient and remainder of two values. -/
def Value.divMod (x y : Value) : Except Fault Value :=
  match x.number?, y.number? with
  | some m, some n => do
    let (quotient, rest) ← m.divMod n
    return .tuple [.number quotient, .number rest]
  | _, _ => .error (.basic .type)

/-- The outcome of an operation for the arguments of its parameters, and those left
over. -/
def Host.perform (host : Host σ) (op : Operation) (arguments others : List Value) :
    Run σ Value :=
  match op, arguments with
  | .html, [strings] => .plain <$> host.html strings others
  | .renderExpanded, [strings] => .plain <$> host.renderExpanded strings others
  | .templateCall, [strings, values] =>
    .ofExcept (Template.toValue <$> Template.make strings values)
  | .asTemplateCall, [strings, values] => Template.toValue <$> host.template strings values
  | .mapValues, [.template strings values, callback] =>
    Template.toValue <$>
      Template.mapValues ⟨strings, values⟩ fun value => host.call callback [value]
  | .mapValues, [_, _] => .fail (.basic .attribute)
  | .safe, [value] => host.safe value
  | .safeHtml, [template] => host.safeHtml template others
  | .escapeHtml, [value] => host.escape value
  | .markup, [object, encoding, errors] =>
    .text .markup <$> host.decodeMarkup object encoding errors
  | .each, [collection, callback] => .plain <$> host.each collection callback
  | .when, [condition, callback] => host.when condition callback
  | .classify, [value] => .ofExcept (.emptiness <$> value.classify)
  | .isEmpty, [value] => .ofExcept (.bool <$> value.isEmpty)
  | .tag, [name, attributes, content] => pure (.plain (Element.text name attributes content))
  | .div, [attributes, content] =>
    pure (.plain (Element.text (.plain "div") attributes content))
  | .span, [attributes, content] =>
    pure (.plain (Element.text (.plain "span") attributes content))
  | .p, [attributes, content] =>
    pure (.plain (Element.text (.plain "p") attributes content))
  | .removeComments, [text] => .ofExcept (withoutComments text)
  | .shapeError, [message, segments, values] =>
    .shapeError <$> host.shapeMessage message segments values
  | .parseAttributes, [pairs] => do
    let insert entries pair := .ofExcept (Attribute.insertPair entries pair)
    return .mapping .plain (← host.foldItems insert [] pairs)
  | .inspect, [value] => pure (.plain value.inspect)
  | .inspectAscii, [value] => pure (.plain value.inspectAscii)
  | .size, [value] => .ofExcept ((fun n : Nat => .int n) <$> value.size)
  | .list, [items] => .list <$> host.items items
  | .upper, [.text _ s] => pure (.plain (Uppercase.ofString s))
  | .divMod, [x, y] => .ofExcept (x.divMod y)
  | _, _ => .fail (.basic .type)

/-- The outcome of an operation for the arguments of a call. -/
def Host.apply (host : Host σ) (op : Operation) (arguments : List Value)
    (named : List (String × Value)) : Run σ Value :=
  if op = .greatest then host.greatest arguments named
  else match op, Parameter.bind? op.parameters arguments named with
    | .text, some ([object, encoding, errors], _) =>
      .ofExcept (.plain <$> textOf arguments named object encoding errors)
    | .safeText, some ([object, encoding, errors], _) =>
      .ofExcept (.text .safe <$> textOf arguments named object encoding errors)
    | op, some (bound, others) => host.perform op bound others
    | _, none => .fail (.basic .type)

end HtmlTemplate
