import HtmlTemplate.Proofs.Host.Acceptance
import HtmlTemplate.Proofs.Host.Recording

/-!
# Runs of a condition

A conditional callback runs in two parts: the condition gets its value, by a call without
arguments if it can be called (`Host.Settles`), and the callback is called with that value if
it is present (`Host.Completes`).  `when_runs` says so of every condition and callback, whatever
they do to the state: each is called once at most, and only the ordinary faults of the
condition are kept back.
-/

namespace HtmlTemplate

variable {σ : Type}

/-- The kinds of fault that are no failure but a request to end what is done. -/
def FaultKind.requests : List FaultKind := [.interrupt, .exit, .abandoned, .unspecified]

theorem Fault.isOrdinary_iff (fault : Fault) :
  fault.isOrdinary = true ↔ ∀ kind ∈ FaultKind.requests, fault ≠ .basic kind
  := by
  cases fault with
  | basic kind => cases kind <;> simp [isOrdinary, FaultKind.requests]
  | _ => simp [isOrdinary]

/-- A condition has a value of its own, or the one that it gives when it is called without
arguments: the value or the fault, and the calls. -/
inductive Host.Settles (host : Host σ) (condition : Value) (s : σ) :
    Except Fault Value → σ → List Call → Prop where
  | value (h : condition.isCallable = false) : Settles host condition s (.ok condition) s []
  | call {result : Except Fault Value} {t : σ} (h : condition.isCallable = true)
      (hcall : host.call condition [] s = (result, t)) :
      Settles host condition s result t [⟨condition, []⟩]

/-- What follows the value of a condition, or its fault.  The callback is called if the value
is present, and what it gives or fails with is the outcome.  A request of the condition is
passed on, and so is the fault of a value that cannot be tested; any other fault and a
value that is empty give the empty text. -/
inductive Host.Completes (host : Host σ) (callback : Value) :
    Except Fault Value → σ → Except Fault Value → σ → List Call → Prop where
  | present {value : Value} {outcome : Except Fault Value} {t s' : σ}
      (h : value.classify = .ok .present) (hcall : host.call callback [value] t = (outcome, s')) :
      Completes host callback (.ok value) t outcome s' [⟨callback, [value]⟩]
  | empty {value : Value} {e : Emptiness} {t : σ} (h : value.classify = .ok e)
      (hempty : e ≠ .present) : Completes host callback (.ok value) t (.ok (.plain "")) t []
  | untested {value : Value} {fault : Fault} {t : σ} (h : value.classify = .error fault) :
      Completes host callback (.ok value) t (.error fault) t []
  | failed {fault : Fault} {t : σ} (h : ∀ kind ∈ FaultKind.requests, fault ≠ .basic kind) :
      Completes host callback (.error fault) t (.ok (.plain "")) t []
  | requested {kind : FaultKind} {t : σ} (h : kind ∈ FaultKind.requests) :
      Completes host callback (.error (.basic kind)) t (.error (.basic kind)) t []

namespace Host

variable {host : Host σ} {condition callback : Value} {result outcome : Except Fault Value}
  {s t s' : σ} {before after : List Call}

/-- What `Host.when` makes of the value of a condition or of its fault. -/
def complete (host : Host σ) (callback : Value) : Except Fault Value → Run σ Value
  | .error fault => if fault.isOrdinary then return .plain "" else .fail fault
  | .ok value => do
    if ← .ofExcept value.isEmpty then return .plain "" else host.call callback [value]

theorem exists_settles (host : Host σ) (condition : Value) (s : σ) :
  ∃ result t before, host.Settles condition s result t before
  := by
  cases h : condition.isCallable with
  | false => use .ok condition, s, [], .value h
  | true =>
    rcases hcall : host.call condition [] s with ⟨result, t⟩
    use result, t, [⟨condition, []⟩], .call h hcall

theorem exists_completes (host : Host σ) (callback : Value) (result : Except Fault Value)
    (t : σ) :
  ∃ outcome s' after, host.Completes callback result t outcome s' after
  := by
  cases result with
  | ok value =>
    cases h : value.classify with
    | ok e =>
      by_cases hpresent : e = .present
      · rw [hpresent] at h
        rcases hcall : host.call callback [value] t with ⟨outcome, s'⟩
        use outcome, s', [⟨callback, [value]⟩], .present h hcall
      · use .ok (.plain ""), t, [], .empty h hpresent
    | error fault => use .error fault, t, [], .untested h
  | error fault =>
    by_cases h : ∃ kind ∈ FaultKind.requests, fault = .basic kind
    · obtain ⟨kind, hkind, rfl⟩ := h
      use .error (.basic kind), t, [], .requested hkind
    · use .ok (.plain ""), t, [], .failed fun kind hkind heq => h ⟨kind, hkind, heq⟩

theorem Settles.when_eq (h : host.Settles condition s result t before) (callback : Value) :
  host.when condition callback s = host.complete callback result t
  := by
  cases h with
  | value h =>
    unfold Host.when
    rw [if_neg (by rw [h]; decide), pure_bind]
    rfl
  | call h hcall =>
    have hattempt : (host.call condition []).attempt s = (.ok result, t) := by
      rw [Run.attempt, hcall]
    unfold Host.when
    rw [if_pos h, Run.bind_of_ok hattempt]
    rfl

theorem Completes.complete_eq (h : host.Completes callback result t outcome s' after) :
  host.complete callback result t = (outcome, s')
  := by
  cases h with
  | @present value _ _ _ h hcall =>
    have hempty : value.isEmpty = .ok false := by
      rw [Value.isEmpty, h]
      rfl
    rw [complete, hempty]
    exact hcall
  | @empty value e _ h hempty =>
    have hempty : value.isEmpty = .ok true := by
      rw [Value.isEmpty, h]
      show Except.ok (decide (e ≠ .present)) = _
      rw [decide_eq_true hempty]
    rw [complete, hempty]
    rfl
  | @untested value fault _ h =>
    have hempty : value.isEmpty = .error fault := by
      rw [Value.isEmpty, h]
      rfl
    rw [complete, hempty]
    rfl
  | @failed fault _ h =>
    rw [complete, if_pos ((Fault.isOrdinary_iff fault).mpr h)]
    rfl
  | @requested kind _ h =>
    have hordinary : ¬ (Fault.basic kind).isOrdinary = true := by
      rw [Fault.isOrdinary_iff]
      intro hne
      apply hne kind h rfl
    rw [complete, if_neg hordinary]
    rfl

theorem Settles.recorded (h : host.Settles condition s result t before) (calls : List Call) :
  host.recorded.Settles condition (s, calls) result (t, calls ++ before) before
  := by
  cases h with
  | value h =>
    rw [List.append_nil]
    apply value h
  | call h hcall => apply call h (recorded_call hcall calls)

theorem Completes.recorded (h : host.Completes callback result t outcome s' after)
    (calls : List Call) :
  host.recorded.Completes callback result (t, calls) outcome (s', calls ++ after) after
  := by
  cases h with
  | present h hcall => apply present h (recorded_call hcall calls)
  | empty h hempty =>
    rw [List.append_nil]
    apply empty h hempty
  | untested h =>
    rw [List.append_nil]
    apply untested h
  | failed h =>
    rw [List.append_nil]
    apply failed h
  | requested h =>
    rw [List.append_nil]
    apply requested h

end Host

/-- A condition settles before anything else, by one call without arguments if it can be called
and by none else, and the callback is called at most once behind it, with its value.  A condition
that gives a value which cannot be called is as good as that value, in the state that it
leaves.  One that accepts no call without arguments has failed. -/
theorem when_runs (host : Host σ) (condition callback : Value) (s : σ) :
  (∃ result t before outcome s' after, host.Settles condition s result t before
      ∧ host.Completes callback result t outcome s' after
      ∧ host.when condition callback s = (outcome, s')
      ∧ host.recorded.when condition callback (s, []) = (outcome, s', before ++ after)
      ∧ ∀ value, result = .ok value → value.isCallable = false →
        host.when condition callback s = host.when value callback t
          ∧ host.recorded.when condition callback (s, [])
            = host.recorded.when value callback (t, before))
    ∧ (condition.isCallable = true → condition.accepts 0 = false →
      host.checked.when condition callback s = (.ok (.plain ""), s))
  := by
  constructor
  · obtain ⟨result, t, before, hsettles⟩ := host.exists_settles condition s
    obtain ⟨outcome, s', after, hcompletes⟩ := host.exists_completes callback result t
    have hrecorded := hsettles.recorded []
    rw [List.nil_append] at hrecorded
    use result, t, before, outcome, s', after, hsettles, hcompletes
    rw [hsettles.when_eq, hrecorded.when_eq]
    use hcompletes.complete_eq, (hcompletes.recorded before).complete_eq
    rintro value rfl hvalue
    rw [(Host.Settles.value hvalue).when_eq, (Host.Settles.value hvalue).when_eq]
    use rfl
  · intro hcallable haccepts
    have hcall : host.checked.call condition [] s = (.error (.basic .type), s) := by
      show (if condition.accepts 0 then _ else Run.fail _) s = _
      rw [haccepts]
      rfl
    rw [(Host.Settles.call hcallable hcall).when_eq]
    rfl

end HtmlTemplate
