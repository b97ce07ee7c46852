import HtmlTemplate.Text.Quoted
import HtmlTemplate.Value.Basic

/-!
# The text of a value

`Value.display` is the text of a value, which templates insert, and `Value.inspect` the
text that stands for it inside containers, where texts are quoted and numbers of the less
common kinds are named.  `Value.className` is the name of the kind of a value.  An object
with a `Label` has its name and its text from there.
-/

namespace HtmlTemplate

/-- The word for an outcome of the emptiness test. -/
def Emptiness.word : Emptiness → String
  | .absent => "absent"
  | .falseValue => "false"
  | .emptyString => "empty-string"
  | .emptySequence => "empty-sequence"
  | .emptyMapping => "empty-mapping"
  | .zero => "zero"
  | .present => "present"

/-- The name of an outcome of the emptiness test. -/
def Emptiness.name : Emptiness → String
  | .absent => "Emptiness.ABSENT"
  | .falseValue => "Emptiness.FALSE"
  | .emptyString => "Emptiness.EMPTY_STRING"
  | .emptySequence => "Emptiness.EMPTY_SEQUENCE"
  | .emptyMapping => "Emptiness.EMPTY_MAPPING"
  | .zero => "Emptiness.ZERO"
  | .present => "Emptiness.PRESENT"

/-- The text of an operation as a value. -/
def Operation.display : Operation → String
  | .html => "<function html>"
  | .renderExpanded => "<function render_expanded>"
  | .templateCall => "<class 'hyperstr.template.TemplateCall'>"
  | .asTemplateCall => "<function as_template_call>"
  | .mapValues => "<function map_values>"
  | .safe => "<function safe>"
  | .safeHtml => "<function safe_html>"
  | .escapeHtml => "<function escape_html>"
  | .safeText => "<class 'hyperstr.markup.Safe'>"
  | .markup => "<class 'markupsafe.Markup'>"
  | .each => "<function each>"
  | .when => "<function when>"
  | .classify => "<function classify>"
  | .isEmpty => "<function is_empty>"
  | .tag => "<function tag>"
  | .div => "<function div>"
  | .span => "<function span>"
  | .p => "<function p>"
  | .removeComments => "<function remove_html_comments>"
  | .shapeError => "<class 'hyperstr.errors.TemplateShapeError'>"
  | .parseAttributes => "<function parse_attrs>"
  | .text => "<class 'str'>"
  | .inspect => "<built-in function repr>"
  | .inspectAscii => "<built-in function ascii>"
  | .size => "<built-in function len>"
  | .list => "<class 'list'>"
  | .upper => "<method 'upper' of 'str' objects>"
  | .greatest => "<built-in function max>"
  | .divMod => "<built-in function divmod>"

/-- The name of the kind of an operation. -/
def Operation.className : Operation → String
  | .templateCall | .safeText | .markup | .shapeError | .text | .list => "type"
  | .inspect | .inspectAscii | .size | .greatest | .divMod => "builtin_function_or_method"
  | .upper => "method_descriptor"
  | _ => "function"

namespace Value

/-- The name of the kind of a value. -/
def className : Value → String
  | .absent => "NoneType"
  | .bool _ => "bool"
  | .number (.integer _) => "int"
  | .number (.binary _) => "float"
  | .number (.decimal _) => "Decimal"
  | .number (.ratio _) => "Fraction"
  | .number (.complex ..) => "complex"
  | .text .plain _ => "str"
  | .text .safe _ => "Safe"
  | .text .markup _ => "Markup"
  | .bytes .fixed _ => "bytes"
  | .bytes .mutable _ => "bytearray"
  | .bytes .view _ => "memoryview"
  | .sequence .list _ => "list"
  | .sequence .tuple _ => "tuple"
  | .sequence .deque _ => "deque"
  | .sequence .userList _ => "UserList"
  | .range .. => "range"
  | .set false _ => "set"
  | .set true _ => "frozenset"
  | .mapping .plain _ => "dict"
  | .mapping .ordered _ => "OrderedDict"
  | .mapping .user _ => "UserDict"
  | .keys _ => "dict_keys"
  | .iterator _ => "list_iterator"
  | .template .. => "TemplateCall"
  | .emptiness _ => "Emptiness"
  | .slotted label .. | .widget label _ | .object label _ | .sized label _
  | .collection label _ | .function label .. => label.className
  | .operation op => op.className
  | .applied .. => "partial"
  | .shapeError _ => "TemplateShapeError"

/-- Texts in a row, with a comma between two of them. -/
private def commas (texts : List String) : String := ", ".intercalate texts

/-- A text between two others. -/
private def within (left right : String) (s : String) : String := left ++ s ++ right

private def displayBool (b : Bool) : String := if b then "True" else "False"

private def inspectRange (start stop step : Int) : String :=
  within "range(" ")" (commas ([toString start, toString stop]
    ++ if step = 1 then [] else [toString step]))

private def inspectBytes (data : List UInt8) : BytesKind → String
  | .fixed => Quoted.quoteBytes data
  | .mutable => within "bytearray(" ")" (Quoted.quoteBytes data)
  | .view => "<memory>"

private def inspectSequence (items : List String) : SequenceKind → String
  | .list | .userList => within "[" "]" (commas items)
  | .deque => within "deque([" "])" (commas items)
  | .tuple =>
    match items with
    | [item] => within "(" ",)" item
    | items => within "(" ")" (commas items)

private def inspectSet (items : List String) : Bool → String
  | false => if items.isEmpty then "set()" else within "\x7b" "\x7d" (commas items)
  | true => if items.isEmpty then "frozenset()" else within "frozenset(\x7b" "\x7d)" (commas items)

private def inspectMapping (entries : List (String × String)) : MappingKind → String
  | .plain | .user => within "\x7b" "\x7d" (commas (entries.map fun e => e.1 ++ ": " ++ e.2))
  | .ordered =>
    if entries.isEmpty then "OrderedDict()"
    else within "OrderedDict([" "])"
      (commas (entries.map fun e => within "(" ")" (e.1 ++ ", " ++ e.2)))

mutual

/-- The text that stands for a value inside containers. -/
def inspect : Value → String
  | .absent => "None"
  | .bool b => displayBool b
  | .number n => n.inspect
  | .text .markup s => within "Markup(" ")" (Quoted.quote s)
  | .text _ s => Quoted.quote s
  | .bytes kind data => inspectBytes data kind
  | .sequence kind items => inspectSequence (inspectAll items) kind
  | .range start stop step => inspectRange start stop step
  | .set frozen items => inspectSet (inspectAll items) frozen
  | .mapping kind entries => inspectMapping (inspectEntries entries) kind
  | .keys items => within "dict_keys([" "])" (commas (inspectAll items))
  | .iterator _ => "<list_iterator>"
  | .template strings values =>
    within "TemplateCall(" ")"
      (commas ["strings=" ++ strings.inspect, "values=" ++ values.inspect])
  | .emptiness e => within "<" ">" (e.name ++ ": " ++ Quoted.quote e.word)
  | .object _ inner => inner
  | .slotted label .. | .widget label _ | .sized label _ | .collection label _
  | .function label .. => label.text
  | .operation op => op.display
  | .applied op arguments =>
    within "functools.partial(" ")" (commas (op.display :: inspectAll arguments))
  | .shapeError message => within "TemplateShapeError(" ")" message.inspect

/-- The texts of values inside containers. -/
def inspectAll : List Value → List String
  | [] => []
  | item :: items => item.inspect :: inspectAll items

/-- The texts of keys and values inside containers. -/
def inspectEntries : List (Value × Value) → List (String × String)
  | [] => []
  | (key, value) :: entries => (key.inspect, value.inspect) :: inspectEntries entries

end

/-- The text of a value. -/
def display : Value → String
  | .number n => n.text
  | .text _ s => s
  | .emptiness e => e.name
  | .object label _ => label.text
  | .shapeError message => message.display
  | value => value.inspect

/-- The text that stands for a value inside containers, in ASCII alone. -/
def inspectAscii (value : Value) : String := Quoted.toAscii value.inspect

end Value

end HtmlTemplate
