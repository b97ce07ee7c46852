import HtmlTemplate.Fault
import HtmlTemplate.Value.Display
import HtmlTemplate.Value.Equality

/-!
# Attribute pairs

`Attribute.split?` cuts a text of the form `KEY=VALUE` at its first equals sign.  In the
entries of a row of pairs, `Attribute.ofPairs`, a key that is given again keeps its place
and takes its last value.
-/

namespace HtmlTemplate

/-- What is known of a part that is cut out of a text: the parts of markup are markup, since
the methods of `markupsafe.Markup` are documented to return markup, and those of a safe text
are plain. -/
def Mark.ofPart : Mark → Mark
  | .markup => .markup
  | .plain | .safe => .plain

namespace Attribute

/-- The key and value of a pair, unless the equals sign or the key is missing. -/
def split? (pair : String) : Option (String × String) :=
  let key := pair.toList.takeWhile (· ≠ '=')
  match pair.toList.dropWhile (· ≠ '=') with
  | [] => none
  | _ :: value => if key = [] then none else some (String.ofList key, String.ofList value)

/-- The key and value of a pair.  Only texts are pairs. -/
def read (pair : Value) : Except Fault (Value × Value) :=
  match pair with
  | .text mark s =>
    match split? s with
    | some (key, value) => .ok (.text mark.ofPart key, .text mark.ofPart value)
    | none => .error (.malformedAttribute pair.inspect)
  | .bytes .fixed _ | .bytes .mutable _ => .error (.basic .type)
  | .operation .text | .operation .safeText | .operation .markup => .error (.basic .type)
  | _ => .error (.basic .attribute)

/-- The entries before with the entry of a pair. -/
def insertPair (before : List (Value × Value)) (pair : Value) :
    Except Fault (List (Value × Value)) := do
  let (key, value) ← read pair
  return Entries.insert key value before

/-- The entries of a row of pairs.  The first pair that is malformed is the fault. -/
def ofPairs (pairs : List Value) : Except Fault (List (Value × Value)) :=
  pairs.foldlM insertPair []

end Attribute

end HtmlTemplate
