import HtmlTemplate.Emptiness
import HtmlTemplate.Host

/-!
# Conditions

`Host.when` calls a callback with the value of a condition, unless the value is empty.
-/

namespace HtmlTemplate

variable {σ : Type}

/-- What a callback gives for the value of a condition.  A callable condition is called
for its value; if that fails in the ordinary way, or the value is empty, the result is the
empty text. -/
def Host.when (host : Host σ) (condition callback : Value) : Run σ Value := do
  let result ←
    if condition.isCallable then (host.call condition []).attempt
    else pure (.ok condition)
  match result with
  | .error fault => if fault.isOrdinary then return .plain "" else .fail fault
  | .ok value =>
    if ← .ofExcept value.isEmpty then return .plain "" else host.call callback [value]

end HtmlTemplate
