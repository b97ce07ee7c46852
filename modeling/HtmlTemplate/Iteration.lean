import HtmlTemplate.Escape
import HtmlTemplate.Operation.Signature

/-!
# Iteration

`Host.each` calls a callback for every entry of a collection and joins the texts of what
it gives.  The `Entries` of a collection are values with their keys: a number counts
itself down from zero, the items of a sequence have their places as keys, and a mapping has
its own.  They are either listed or computed one by one as they are visited.
-/

namespace HtmlTemplate

variable {σ : Type}

/-- The values that are visited in a collection, each with its key. -/
inductive Entries where
  /-- A number of entries, each computed when it is visited. -/
  | counted (count : Nat) (entry : Nat → Value × Value)
  | listed (entries : List (Value × Value))

namespace Entries

/-- The entries in order. -/
def toList : Entries → List (Value × Value)
  | .counted count entry => (List.range count).map entry
  | .listed entries => entries

/-- The items of a sequence with their places. -/
def ofItems (items : List Value) : Entries :=
  .listed ((items.zipIdx).map fun (item, i) => (item, .int i))

/-- The entries of a collection; other values, texts and bytes among them, have none. -/
def of? : Value → Option Entries
  | .number (.integer n) => some (.counted n.toNat fun i => (.int i, .int i))
  | .bytes .view data => some (ofItems (data.map fun b => .int b.toNat))
  | .sequence _ items => some (ofItems items)
  | .range start stop step =>
    some (.counted (Value.rangeLength start stop step) fun i =>
      (.int (start + step * i), .int i))
  | .mapping _ entries => some (.listed (entries.map fun e => (e.2, e.1)))
  | _ => none

end Entries

/-- Whether what a callback gives is left out: the absent value, falsehood and the empty
text are, other values that count as false are not. -/
def Value.isSkipped : Value → Bool
  | .absent | .bool false => true
  | .text _ s => s = ""
  | _ => false

/-- The text before with what a callback gives for an entry behind it. -/
def visit (callback : Value × Value → Run σ Value) (before : String)
    (entry : Value × Value) : Run σ String := do
  let result ← callback entry
  return if result.isSkipped then before else before ++ result.display

/-- The text before with the results for a row of entries behind it. -/
def visitListed (callback : Value × Value → Run σ Value) (before : String) :
    List (Value × Value) → Run σ String
  | [] => pure before
  | entry :: entries => do visitListed callback (← visit callback before entry) entries

/-- The text before with the results for the last `left` of `count` computed entries
behind it. -/
def visitCounted (callback : Value × Value → Run σ Value) (entry : Nat → Value × Value)
    (count : Nat) (before : String) : (left : Nat) → Run σ String
  | 0 => pure before
  | left + 1 => do
    let before ← visit callback before (entry (count - (left + 1)))
    visitCounted callback entry count before left

/-- The results for all entries, joined. -/
def Entries.visitAll (callback : Value × Value → Run σ Value) : Entries → Run σ String
  | .counted count entry => visitCounted callback entry count "" count
  | .listed entries => visitListed callback "" entries

namespace Host

/-- The call of a callback for an entry: with its value and its key if the callback has
room for two arguments, else with its value alone. -/
def callEntry (host : Host σ) (callback : Value) (entry : Value × Value) : Run σ Value :=
  host.call callback (if callback.takesTwo then [entry.1, entry.2] else [entry.1])

/-- The texts of what a callback gives for the entries of a collection, joined. -/
def each (host : Host σ) (collection callback : Value) : Run σ String :=
  match Entries.of? collection with
  | some entries => entries.visitAll (host.callEntry callback)
  | none => pure ""

end Host

end HtmlTemplate
