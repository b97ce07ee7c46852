import HtmlTemplate.Expression.Basic
import HtmlTemplate.Operation.Apply
import HtmlTemplate.Value.Sum

/-!
# Evaluating expressions

Evaluation changes a `World`: the functions and iterators made so far, the variables, and
the calls that were recorded.  `Expression.eval` is parametrised by the host that calls
are left to; `World.host` is the host whose functions evaluate their bodies, up to a depth
of nested calls.
-/

namespace HtmlTemplate

/-- The state of an evaluation.  A function is kept with the number of its calls, an
iterator as the items it has left, and the calls with the last one first. -/
structure World where
  functions : Array (Closure × Nat)
  iterators : Array (List Value)
  bindings : List (String × Value)
  calls : List (String × List Value)

namespace World

/-- The state at the start. -/
def initial : World := ⟨#[], #[], [], []⟩

/-- A new function. -/
def addFunction (label : Label) (closure : Closure) : Run World Value := do
  let world ← Run.get
  Run.modify fun w => { w with functions := w.functions.push (closure, 0) }
  return .function label world.functions.size closure.parameters

/-- A new iterator. -/
def addIterator (items : List Value) : Run World Value := do
  let world ← Run.get
  Run.modify fun w => { w with iterators := w.iterators.push items }
  return .iterator world.iterators.size

/-- How many items an iterator has left. -/
def left (id : Nat) : Run World Nat := do
  return (← Run.get).iterators.getD id [] |>.length

/-- The next item of an iterator, which then has it no more. -/
def next (id : Nat) : Run World (Option Value) := do
  match (← Run.get).iterators.getD id [] with
  | [] => return none
  | item :: items => do
    Run.modify fun w => { w with iterators := w.iterators.setIfInBounds id items }
    return some item

/-- The value of a variable. -/
def lookUp (name : String) : Run World Value := do
  let world ← Run.get
  match world.bindings.lookup name with
  | some value => return value
  | none => .fail (.basic .key)

/-- The world with a variable set. -/
def setVariable (name : String) (value : Value) (world : World) : World :=
  { world with bindings := (name, value) :: world.bindings }

/-- The recorded calls in the order in which they were made, and the world without
them. -/
def takeCalls (world : World) : List (String × List Value) × World :=
  (world.calls.reverse, { world with calls := [] })

end World

/-- The call of a value with arguments by position and by name.  Only operations take
arguments by name. -/
def Host.callNamed {σ : Type} (host : Host σ) (callee : Value) (arguments : List Value)
    (named : List (String × Value)) : Run σ Value :=
  match callee with
  | .operation op => host.apply op arguments named
  | .applied op given => host.apply op (given ++ arguments) named
  | callee => if named.isEmpty then host.call callee arguments else .fail (.basic .type)

/-- A set of values, each once. -/
def distinctSet (frozen : Bool) (items : List Value) : Except Fault Value := do
  items.forM Value.requireHashable
  let distinct := items.foldl (fun kept item => Entries.insert item item kept) []
  return .set frozen (distinct.map (·.1))

/-- The entries of a mapping. -/
def distinctEntries (entries : List (Value × Value)) :
    Except Fault (List (Value × Value)) := do
  entries.forM fun e => e.1.requireHashable
  return entries.foldl (fun kept e => Entries.insert e.1 e.2 kept) []

namespace Expression

mutual

/-- The value of an expression in the body of a function with the given arguments. -/
def eval (host : Host World) (given : List Value) : Expression → Run World Value
  | .constant value => pure value
  | .failing fault => .fail fault
  | .sequence kind items => .sequence kind <$> evalAll host given items
  | .set frozen items => do .ofExcept (distinctSet frozen (← evalAll host given items))
  | .mapping kind entries => do
    return .mapping kind (← .ofExcept (distinctEntries (← evalEntries host given entries)))
  | .keys entries => do
    let entries ← .ofExcept (distinctEntries (← evalEntries host given entries))
    return .keys (entries.map (·.1))
  | .iterator items => do World.addIterator (← evalAll host given items)
  | .widget label content => .widget label <$> eval host given content
  | .slotted label strings slots => do
    let strings ← evalAll host given strings
    return .slotted label strings (← evalSlots host given slots)
  | .function label parameters name bodies =>
    World.addFunction label ⟨parameters, name, bodies⟩
  | .applied op arguments => .applied op <$> evalAll host given arguments
  | .call callee arguments named => do
    let callee ← eval host given callee
    let arguments ← evalAll host given arguments
    let named ← evalNamed host given named
    host.callNamed callee arguments named
  | .add left right => do
    let left ← eval host given left
    let right ← eval host given right
    host.add left right
  | .argument place => pure (given.getD place .absent)
  | .allArguments => pure (.tuple given)
  | .variable name => World.lookUp name

/-- The values of expressions, from first to last. -/
def evalAll (host : Host World) (given : List Value) : List Expression → Run World (List Value)
  | [] => pure []
  | item :: items => do
    let item ← eval host given item
    return item :: (← evalAll host given items)

/-- The values of pairs of expressions, each key before its value. -/
def evalEntries (host : Host World) (given : List Value) :
    List (Expression × Expression) → Run World (List (Value × Value))
  | [] => pure []
  | (key, value) :: entries => do
    let key ← eval host given key
    let value ← eval host given value
    return (key, value) :: (← evalEntries host given entries)

/-- The slots with the values of their expressions. -/
def evalSlots (host : Host World) (given : List Value) :
    List (Slot Expression) → Run World (List (Slot Value))
  | [] => pure []
  | ⟨value, conversion, format⟩ :: slots => do
    let value ← eval host given value
    return ⟨value, conversion, format⟩ :: (← evalSlots host given slots)

/-- The values of expressions under names. -/
def evalNamed (host : Host World) (given : List Value) :
    List (String × Expression) → Run World (List (String × Value))
  | [] => pure []
  | (name, value) :: named => do
    let value ← eval host given value
    return (name, value) :: (← evalNamed host given named)

end

end Expression

namespace World

/-- The number of calls that a function had before, with this one counted. -/
def countCall (id : Nat) : Run World Nat := do
  let world ← Run.get
  Run.modify fun w => { w with
    functions := w.functions.modify id fun (closure, count) => (closure, count + 1) }
  return (world.functions[id]?.map (·.2)).getD 0

/-- The outcome of a call of a function.  A call that its parameters do not accept is
neither recorded nor counted. -/
def callFunction (host : Host World) (id : Nat) (arguments : List Value) :
    Run World Value := do
  let world ← Run.get
  match world.functions[id]? with
  | none => .fail (.basic .type)
  | some (closure, _) =>
    if ParameterKind.accepts closure.parameters arguments.length then do
      if let some name := closure.name then
        Run.modify fun w => { w with calls := (name, arguments) :: w.calls }
      let count ← countCall id
      let place := min count (closure.bodies.length - 1)
      (closure.bodies.getD place (.constant .absent)).eval host arguments
    else .fail (.basic .type)

/-- The host whose functions evaluate their bodies, with a bound on the depth of nested
calls. -/
def hostWithin : (depth : Nat) → Host World
  | 0 => ⟨fun _ _ => .fail (.basic .recursion), pure, left, next⟩
  | depth + 1 =>
    { call := fun callee arguments =>
        match callee with
        | .function _ id _ => callFunction (hostWithin depth) id arguments
        | .operation op => (hostWithin depth).apply op arguments []
        | .applied op given => (hostWithin depth).apply op (given ++ arguments) []
        | _ => .fail (.basic .type)
      widget := pure
      left := left
      next := next }

/-- How deeply calls may be nested. -/
def depthLimit : Nat := 300

/-- The host whose functions evaluate their bodies. -/
def host : Host World := hostWithin depthLimit

end World

/-- The outcome of an expression: its value or fault, and the calls that were recorded on
the way. -/
structure Outcome where
  result : Except Fault Value
  calls : List (String × List Value)

/-- The outcome of an expression, and the world after it. -/
def Expression.run (e : Expression) (world : World) : Outcome × World :=
  let (result, world) := e.eval World.host [] world
  let (calls, world) := world.takeCalls
  (⟨result, calls⟩, world)

/-- An expression with the variable that its value is kept in, if any. -/
structure Step where
  target : Option String
  expression : Expression

/-- The outcomes of a row of steps.  A step that fails sets no variable and does not keep
the next ones from being taken. -/
def Step.runAll : List Step → World → List Outcome
  | [], _ => []
  | step :: steps, world =>
    let (outcome, world) := step.expression.run world
    let world := match step.target, outcome.result with
      | some name, .ok value => world.setVariable name value
      | _, _ => world
    outcome :: Step.runAll steps world

end HtmlTemplate
