import HtmlTemplate.Run
import HtmlTemplate.Value.Equality

/-!
# Hosts

A `Host` knows what the values do that do something: what a call of a callable gives, what
HTML a widget gives of itself, and which item an iterator gives next.  The operations of
the library take it as a parameter, so what is said of them holds for callbacks that
change a state of any kind, or fail.  `Host.items` are the items of any value that has
some, and `Host.foldItems` takes them one by one.
-/

namespace HtmlTemplate

/-- What callables, widgets and iterators do to a state: the outcome of calling a value
with arguments, the HTML of a widget with some content, how many items an iterator has
left at most, and the next of them, which it then has no more. -/
structure Host (σ : Type) where
  call : Value → List Value → Run σ Value
  widget : Value → Run σ Value
  left : Nat → Run σ Nat
  next : Nat → Run σ (Option Value)

/-- No row is longer than this. -/
def rowLimit : Nat := 1073741824

/-- The items of a range, if there is room for them. -/
def Value.rangeItems (start stop step : Int) : Except Fault (List Value) := do
  let n ← checkedSize (rangeLength start stop step)
  if rowLimit < n then .error (.basic .memory)
  else return (List.range n).map fun (i : Nat) => .int (start + step * i)

/-- The items of a value, unless it is an iterator. -/
def Value.items : Value → Except Fault (List Value)
  | .text _ s => .ok (s.toList.map fun c => .plain (String.singleton c))
  | .bytes _ data => .ok (data.map fun b => .int b.toNat)
  | .sequence _ items | .set _ items | .keys items => .ok items
  | .range start stop step => rangeItems start stop step
  | .mapping _ entries => .ok (entries.map (·.1))
  | .collection _ n => .ok ((List.range n.toNat).map fun (i : Nat) => .int i)
  | _ => .error (.basic .type)

namespace Host

variable {σ β : Type}

/-- The next items of an iterator, at most `count` of them. -/
def take (host : Host σ) (id : Nat) : (count : Nat) → Run σ (List Value)
  | 0 => pure []
  | count + 1 => do
    match ← host.next id with
    | none => return []
    | some item => return item :: (← take host id count)

/-- The items of a value.  An iterator then has none left. -/
def items (host : Host σ) : Value → Run σ (List Value)
  | .iterator id => do take host id (← host.left id)
  | value => .ofExcept value.items

/-- The outcome of a step for each of the next items of an iterator, at most `count` of
them. -/
def foldNext (host : Host σ) (step : β → Value → Run σ β) (id : Nat) :
    (count : Nat) → β → Run σ β
  | 0, b => pure b
  | count + 1, b => do
    match ← host.next id with
    | none => return b
    | some item => foldNext host step id count (← step b item)

/-- The outcome of a step for each of the items of a value, in turn.  When a step fails, an
iterator keeps the items behind the one that was at fault. -/
def foldItems (host : Host σ) (step : β → Value → Run σ β) (b : β) : Value → Run σ β
  | .iterator id => do foldNext host step id (← host.left id) b
  | value => do (← .ofExcept value.items).foldlM step b

end Host

end HtmlTemplate
