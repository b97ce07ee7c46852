import HtmlTemplate.Host

/-!
# Recorded calls

`Host.recorded` is a host that does what another one does and keeps a record of the calls that
it is asked for.  What an operation does with it tells which calls the operation makes, whatever
the callables do.
-/

namespace HtmlTemplate

variable {σ τ α : Type}

/-- A call: what is called, and with which arguments. -/
structure Call where
  callee : Value
  arguments : List Value

/-- The computation beside a second state, which it leaves as it is. -/
def Run.beside (run : Run σ α) : Run (σ × τ) α := fun (s, t) =>
  let (result, s) := run s
  (result, s, t)

/-- The host that keeps a record of the calls, the last one at the end, beside the state of
another host. -/
def Host.recorded (host : Host σ) : Host (σ × List Call) where
  call callee arguments := fun (s, calls) =>
    let (result, s) := host.call callee arguments s
    (result, s, calls ++ [⟨callee, arguments⟩])
  widget content := (host.widget content).beside
  left id := (host.left id).beside
  next id := (host.next id).beside

theorem Host.recorded_call {host : Host σ} {callee : Value} {arguments : List Value} {s s' : σ}
    {result : Except Fault Value} (h : host.call callee arguments s = (result, s'))
    (calls : List Call) :
  host.recorded.call callee arguments (s, calls) = (result, s', calls ++ [⟨callee, arguments⟩])
  := by
  simp only [recorded, h]

end HtmlTemplate
