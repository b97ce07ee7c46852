import HtmlTemplate.Escape

/-!
# Sums of values

`Host.add` joins two values: numbers are added, texts and sequences of one kind appended.
Markup on either side makes markup of the sum and escapes the other side.
-/

namespace HtmlTemplate

variable {σ : Type}

/-- The sum of two values of which neither is markup. -/
def Value.append : Value → Value → Except Fault Value
  | .text _ s, .text _ t => .ok (.plain (s ++ t))
  | .sequence a xs, .sequence b ys =>
    if a = b then .ok (.sequence a (xs ++ ys)) else .error (.basic .type)
  | .bytes .fixed a, .bytes _ b => .ok (.bytes .fixed (a ++ b))
  | .bytes .mutable a, .bytes _ b => .ok (.bytes .mutable (a ++ b))
  | x, y =>
    match x.number?, y.number? with
    | some m, some n => return .number (← m.add n)
    | _, _ => .error (.basic .type)

/-- Markup made of two texts that are already HTML: the methods of `markupsafe.Markup` are
documented to return markup. -/
def markupOf (left right : Run σ String) : Run σ Value := do
  let s ← left
  let t ← right
  return .text .markup (s ++ t)

/-- The sum of two values. -/
def Host.add (host : Host σ) (x y : Value) : Run σ Value :=
  match x, y with
  | .sequence .userList xs, y => do return .sequence .userList (xs ++ (← host.items y))
  | .text .markup s, y =>
    match host.joined? y, y with
    | some joined, _ => markupOf (pure s) joined
    | none, .sequence .userList ys => do
      return .sequence .userList ((← host.items x) ++ ys)
    | none, _ => .fail (.basic .type)
  | x, .text .markup t =>
    match host.joined? x with
    | some joined => markupOf joined (pure t)
    | none => .fail (.basic .type)
  | x, .sequence .userList ys => do return .sequence .userList ((← host.items x) ++ ys)
  | x, y => .ofExcept (x.append y)

end HtmlTemplate
