import HtmlTemplate.Proofs.Host.Recording
import HtmlTemplate.Proofs.Template.Carried

/-!
# Expansion

The callables among the values of a template are called from left to right, each without
arguments, up to the last one or the first that fails (`Host.Expands`).  `renderExpanded_runs` says
so of every template, whatever the callables do to the state: nothing else is called, what a call
gives included, and no value is lost.  What is not listed is then inserted as it is.
-/

namespace HtmlTemplate

variable {σ : Type}

/-- The one text of a list or a tuple, its items with spaces between them.  Any other value stays
as it is. -/
def Value.joined (value : Value) : Value :=
  match value.listed? with
  | some items => .plain (spaced items)
  | none => value

theorem Value.joined_of_not_listed {value : Value} (h : value.listed? = none) :
  value.joined = value
  := by
  rw [joined, h]

/-- The calls of the callables among values, without arguments. -/
def callsOf (values : List Value) : List Call :=
  (values.filter Value.isCallable).map fun value => ⟨value, []⟩

theorem callsOf_of_callable {value : Value} (h : value.isCallable = true) (values : List Value) :
  callsOf (value :: values) = ⟨value, []⟩ :: callsOf values
  := by
  rw [callsOf, List.filter_cons_of_pos h, List.map_cons, ← callsOf]

theorem callsOf_of_not_callable {value : Value} (h : value.isCallable = false)
    (values : List Value) :
  callsOf (value :: values) = callsOf values
  := by
  rw [callsOf, List.filter_cons_of_neg (by simp [h]), ← callsOf]

/-- The callables among values are called in turn, up to the last one or the first that fails: the
calls, and the values with what each callable gives in its place, or the fault. -/
inductive Host.Expands (host : Host σ) :
    List Value → σ → List Call → Except Fault (List Value) → σ → Prop where
  | done (s : σ) : Expands host [] s [] (.ok []) s
  | kept {value : Value} {values : List Value} {calls : List Call}
      {outcome : Except Fault (List Value)} {s s' : σ} (h : value.isCallable = false)
      (hvalues : Expands host values s calls outcome s') :
      Expands host (value :: values) s calls ((value :: ·) <$> outcome) s'
  | failing {value : Value} {values : List Value} {fault : Fault} {s s' : σ}
      (h : value.isCallable = true) (hcall : host.call value [] s = (.error fault, s')) :
      Expands host (value :: values) s [⟨value, []⟩] (.error fault) s'
  | called {value result : Value} {values : List Value} {calls : List Call}
      {outcome : Except Fault (List Value)} {s t s' : σ} (h : value.isCallable = true)
      (hcall : host.call value [] s = (.ok result, t))
      (hvalues : Expands host values t calls outcome s') :
      Expands host (value :: values) s (⟨value, []⟩ :: calls) ((result :: ·) <$> outcome) s'

namespace Host

variable {host : Host σ} {value : Value} {values : List Value} {calls : List Call}
  {outcome : Except Fault (List Value)} {s s' : σ}

theorem expand_of_callable (host : Host σ) (h : value.isCallable = true) :
  host.expand value = Value.joined <$> host.call value []
  := by
  rw [expand, if_pos h, map_eq_pure_bind]
  apply congrArg
  funext result
  unfold Value.joined
  beta_reduce
  cases result.listed? with
  | none => rfl
  | some items => rfl

theorem expand_of_not_callable (host : Host σ) (h : value.isCallable = false) :
  host.expand value = pure value.joined
  := by
  rw [expand, if_neg (by simp [h]), pure_bind]
  unfold Value.joined
  beta_reduce
  cases value.listed? with
  | none => rfl
  | some items => rfl

theorem exists_expands (host : Host σ) (values : List Value) (s : σ) :
  ∃ calls outcome s', host.Expands values s calls outcome s'
  := by
  induction values generalizing s with
  | nil => use [], .ok [], s, .done s
  | cons value values ih =>
    cases h : value.isCallable with
    | false =>
      obtain ⟨calls, outcome, s', hvalues⟩ := ih s
      use calls, (value :: ·) <$> outcome, s', .kept h hvalues
    | true =>
      rcases hcall : host.call value [] s with ⟨fault | result, t⟩
      · use [⟨value, []⟩], .error fault, t, .failing h hcall
      · obtain ⟨calls, outcome, s', hvalues⟩ := ih t
        use ⟨value, []⟩ :: calls, (result :: ·) <$> outcome, s', .called h hcall hvalues

theorem expands_of_not_callable (host : Host σ) (h : ∀ value ∈ values, value.isCallable = false)
    (s : σ) :
  host.Expands values s [] (.ok values) s
  := by
  induction values with
  | nil => apply Expands.done
  | cons value values ih =>
    rw [List.forall_mem_cons] at h
    apply Expands.kept h.1 (ih h.2)

namespace Expands

/-- If no call fails, all callables are called and no value is lost. -/
theorem all_of_ok {results : List Value} (h : host.Expands values s calls outcome s')
    (hresults : outcome = .ok results) :
  calls = callsOf values ∧ results.length = values.length
  := by
  induction h generalizing results with
  | done s =>
    cases hresults
    exact ⟨rfl, rfl⟩
  | @kept _ _ _ outcome _ _ h _ ih =>
    cases outcome with
    | ok rest =>
      cases hresults
      obtain ⟨hcalls, hlength⟩ := ih rfl
      rw [hcalls, callsOf_of_not_callable h, List.length_cons, List.length_cons, hlength]
      exact ⟨rfl, rfl⟩
    | error fault => cases hresults
  | failing h => cases hresults
  | @called _ _ _ _ outcome _ _ _ h _ _ ih =>
    cases outcome with
    | ok rest =>
      cases hresults
      obtain ⟨hcalls, hlength⟩ := ih rfl
      rw [hcalls, callsOf_of_callable h, List.length_cons, List.length_cons, hlength]
      exact ⟨rfl, rfl⟩
    | error fault => cases hresults

/-- A fault is that of the last call.  The callables before it have been called, and nothing
behind it. -/
theorem exists_failing {fault : Fault} (h : host.Expands values s calls outcome s')
    (hfault : outcome = .error fault) :
  ∃ before value behind results t, values = before ++ value :: behind
    ∧ value.isCallable = true ∧ calls = callsOf (before ++ [value])
    ∧ host.Expands before s (callsOf before) (.ok results) t
    ∧ host.call value [] t = (.error fault, s')
  := by
  induction h with
  | done s => cases hfault
  | @kept first _ _ outcome _ _ h _ ih =>
    cases outcome with
    | ok rest => cases hfault
    | error fault =>
      cases hfault
      obtain ⟨before, value, behind, results, t, rfl, hvalue, rfl, hbefore, hcall⟩ := ih rfl
      use first :: before, value, behind, first :: results, t, rfl, hvalue
      rw [List.cons_append, callsOf_of_not_callable h, callsOf_of_not_callable h]
      use rfl, kept h hbefore
  | @failing first rest _ s _ h hcall =>
    cases hfault
    use [], first, rest, [], s, rfl, h
    rw [List.nil_append, callsOf_of_callable h]
    use rfl, done s
  | @called first result _ _ outcome _ _ _ h hfirst _ ih =>
    cases outcome with
    | ok rest => cases hfault
    | error fault =>
      cases hfault
      obtain ⟨before, value, behind, results, t, rfl, hvalue, rfl, hbefore, hcall⟩ := ih rfl
      use first :: before, value, behind, result :: results, t, rfl, hvalue
      rw [List.cons_append, callsOf_of_callable h, callsOf_of_callable h]
      use rfl, called h hfirst hbefore

/-- The calls are recorded in the order in which they are made. -/
theorem recorded (h : host.Expands values s calls outcome s') (before : List Call) :
  host.recorded.Expands values (s, before) calls outcome (s', before ++ calls)
  := by
  induction h generalizing before with
  | done s =>
    rw [List.append_nil]
    apply done
  | kept h _ ih => apply kept h (ih before)
  | failing h hcall => apply failing h (recorded_call hcall before)
  | called h hcall _ ih =>
    rw [List.append_cons]
    apply called h (recorded_call hcall before) (ih _)

theorem mapM_expand (h : host.Expands values s calls outcome s') :
  (values.mapM fun value => Value.display <$> host.expand value) s
    = (List.map (fun result => result.joined.display) <$> outcome, s')
  := by
  induction h with
  | done s => rfl
  | @kept value values calls outcome s s' h _ ih =>
    rw [List.mapM_cons, host.expand_of_not_callable h, map_pure, pure_bind]
    cases outcome with
    | ok results => rw [Run.bind_of_ok ih]; rfl
    | error fault => apply Run.bind_of_error ih
  | @failing value values fault s s' h hcall =>
    rw [List.mapM_cons, host.expand_of_callable h, Functor.map_map, map_eq_pure_bind]
    apply Run.bind_of_error
    apply Run.bind_of_error hcall
  | @called value result values calls outcome s t s' h hcall _ ih =>
    rw [List.mapM_cons, host.expand_of_callable h, Functor.map_map, map_eq_pure_bind, bind_assoc,
      Run.bind_of_ok hcall, pure_bind]
    cases outcome with
    | ok results => rw [Run.bind_of_ok ih]; rfl
    | error fault => apply Run.bind_of_error ih

end Expands

end Host

section Carries

variable {host : Host σ} {x : Value} {beside segments values : List Value} {calls : List Call}
  {s s' : σ}

/-- Without a fault the results are put between the segments, those that are listed as one text
each. -/
theorem Carries.renderExpanded_of_ok {results : List Value}
    (h : Carries x beside segments values)
    (hexpands : host.Expands values s calls (.ok results) s') :
  host.renderExpanded x beside s
    = (.ok (alternate (segments.map Value.display)
        (results.map fun result => result.joined.display)), s')
  := by
  rw [h.renderExpanded_eq, map_eq_pure_bind,
    Run.bind_of_ok (Run.mapFault_of_ok hexpands.mapM_expand _)]
  rfl

/-- This is the text of a raw template with the results for values. -/
theorem Carries.html_joined {results : List Value} (h : Carries x beside segments values)
    (hlength : results.length = values.length) (host : Host σ) :
  host.html (.list segments) (results.map Value.joined)
    = pure (alternate (segments.map Value.display)
        (results.map fun result => result.joined.display))
  := by
  have hsegments : (Value.list segments).IsSegments segments
      (results.map Value.joined).length := by
    rw [List.length_map, hlength]
    apply h.isSegments
  rw [host.html_of_isSegments hsegments, List.map_map]
  rfl

theorem Carries.renderExpanded_of_error {fault : Fault} (h : Carries x beside segments values)
    (hexpands : host.Expands values s calls (.error fault) s') :
  host.renderExpanded x beside s = (.error fault.insideSequence, s')
  := by
  rw [h.renderExpanded_eq, map_eq_pure_bind]
  apply Run.bind_of_error (Run.mapFault_of_error hexpands.mapM_expand _)

/-- The callables among the values of a template are called from left to right, each once and
without arguments, and nothing else is called.  If no call fails, the text is that of the segments
with the values and what the callables give between them, all of them, where the items of lists
and tuples are joined.  The first call that fails is the last one, and its fault is passed on; one
that has run out of items does not end the values, but is a fault of another kind.  With nothing
to call or to join the text is that of a raw template. -/
theorem renderExpanded_runs (host : Host σ) (h : Carries x beside segments values) (s : σ) :
  (∃ calls outcome answer s', host.Expands values s calls outcome s'
      ∧ host.renderExpanded x beside s = (answer, s')
      ∧ host.recorded.renderExpanded x beside (s, []) = (answer, s', calls)
      ∧ (∀ results, outcome = .ok results → calls = callsOf values
        ∧ host.html (.list segments) (results.map Value.joined) s' = (answer, s'))
      ∧ ∀ fault, outcome = .error fault →
        answer = .error (if fault = .basic .exhausted then .basic .runtime else fault)
          ∧ ∃ before value behind results t, values = before ++ value :: behind
            ∧ value.isCallable = true ∧ calls = callsOf (before ++ [value])
            ∧ host.Expands before s (callsOf before) (.ok results) t
            ∧ host.call value [] t = (.error fault, s'))
    ∧ ((∀ value ∈ values, value.isCallable = false ∧ value.listed? = none) →
      host.renderExpanded x beside = host.html x beside)
  := by
  constructor
  · obtain ⟨calls, outcome, s', hexpands⟩ := host.exists_expands values s
    have hrecorded := hexpands.recorded []
    rw [List.nil_append] at hrecorded
    cases outcome with
    | ok results =>
      refine ⟨calls, .ok results, _, s', hexpands, h.renderExpanded_of_ok hexpands,
        h.renderExpanded_of_ok hrecorded, ?_, ?_⟩
      · rintro _ ⟨⟩
        obtain ⟨hcalls, hlength⟩ := hexpands.all_of_ok rfl
        rw [h.html_joined hlength]
        use hcalls
        rfl
      · rintro fault ⟨⟩
    | error fault =>
      use calls, .error fault, .error fault.insideSequence, s', hexpands,
        h.renderExpanded_of_error hexpands, h.renderExpanded_of_error hrecorded
      constructor
      · rintro results ⟨⟩
      · rintro _ ⟨⟩
        rw [← Fault.insideSequence_eq]
        use rfl
        apply hexpands.exists_failing rfl
  · intro hvalues
    funext s
    have hexpands := host.expands_of_not_callable (fun value hvalue => (hvalues value hvalue).1) s
    have hjoined : values.map (fun value => value.joined.display) = values.map Value.display := by
      apply List.map_congr_left
      intro value hvalue
      rw [Value.joined_of_not_listed (hvalues value hvalue).2]
    rw [h.renderExpanded_of_ok hexpands, hjoined, h.html_eq]
    rfl

end Carries

/-- A host whose functions give a list that holds the function, twice in all.  They have run out of
items then. -/
def Host.twice : Host Nat where
  call callee _ := fun count =>
    if count < 2 then (.ok (.list [.plain "a", callee]), count + 1)
    else (.error (.basic .exhausted), count)
  widget content := pure content
  left _ := pure 0
  next _ := pure none

/-- Neither the function in a list is called nor those in the lists that the calls give. -/
theorem renderExpanded_runs_lists :
  let f := Value.function ⟨"Function", "<f>"⟩ 0 []
  let segments := [.plain "<p>", .plain ",", .plain ",", .plain "</p>"]
  Carries (.tuple segments) [f, .list [f], f] segments [f, .list [f], f]
    ∧ Host.twice.recorded.renderExpanded (.tuple segments) [f, .list [f], f] (0, [])
      = (.ok "<p>a <f>,<f>,a <f></p>", 2, [⟨f, []⟩, ⟨f, []⟩])
  := by
  intro f segments
  have h : Carries (.tuple segments) [f, .list [f], f] segments [f, .list [f], f] :=
    .beside ⟨rfl, rfl, rfl⟩
  have hrun : Host.twice.renderExpanded (.tuple segments) [f, .list [f], f] 0
      = (.ok "<p>a <f>,<f>,a <f></p>", 2) := by
    rfl
  obtain ⟨⟨calls, outcome, answer, s', -, heq, hrecorded, hresults, hfault⟩, -⟩ :=
    renderExpanded_runs Host.twice h 0
  rw [hrun] at heq
  cases heq
  use h
  cases outcome with
  | ok results =>
    rw [hrecorded, (hresults results rfl).1]
    rfl
  | error fault => cases (hfault fault rfl).1

end HtmlTemplate
