import HtmlTemplate.Proofs.Host.Acceptance
import HtmlTemplate.Proofs.Iteration.Calls

/-!
# The form of the calls of an iteration

A callback is called with a value and its key if it has room for two arguments, else with the
value alone.  `each_callForm` says that a callback that tells its parameters is thereby called
in a form that it accepts whenever there is one, so that the number of the arguments is at
fault only if it accepts neither.
-/

namespace HtmlTemplate

variable {σ : Type}

/-- Iterating over a collection calls the callback in the given form for the entries in turn, up
to the last one or the first for which it fails, and makes no other call. -/
def Host.CallsInForm (host : Host σ) (callback : Value) (form : Value × Value → List Value)
    (collection : Value) (s : σ) : Prop :=
  ∃ entries visited outcome s', collection.HasEntries entries
    ∧ Visits (fun entry => host.call callback (form entry)) entries s visited outcome s'
    ∧ host.recorded.each collection callback (s, [])
      = (joinedResults <$> outcome, s', visited.map fun entry => ⟨callback, form entry⟩)

namespace Host

variable {callback : Value}

theorem callsInForm (host : Host σ) {form : Value × Value → List Value}
    (hform : ∀ entry, entryCall callback entry = ⟨callback, form entry⟩) (collection : Value)
    (s : σ) :
  host.CallsInForm callback form collection s
  := by
  have hcall : host.callEntry callback = fun entry => host.call callback (form entry) := by
    funext entry
    show host.call callback (entryCall callback entry).arguments = _
    rw [hform]
  obtain ⟨entries, hentries, heach⟩ := exists_hasEntries collection
  obtain ⟨visited, outcome, s', h⟩ := exists_visits (host.callEntry callback) entries s
  use entries, visited, outcome, s', hentries
  constructor
  · rw [← hcall]
    exact h
  · rw [heach, (h.recorded []).visitListed_eq, List.nil_append, funext hform]

/-- The number of arguments with which a callback is called for an entry. -/
theorem length_entryCall (callback : Value) (entry : Value × Value) :
  (entryCall callback entry).arguments.length = if callback.takesTwo then 2 else 1
  := by
  unfold entryCall
  split
  · rfl
  · rfl

theorem checked_callEntry (host : Host σ) (callback : Value) :
  host.checked.callEntry callback =
    if callback.accepts (if callback.takesTwo then 2 else 1) then host.callEntry callback
    else fun _ => .fail (.basic .type)
  := by
  funext entry
  rw [← length_entryCall callback entry]
  show (if callback.accepts (entryCall callback entry).arguments.length then _ else _) = _
  split
  · rfl
  · rfl

theorem each_of_callEntry_eq {host host' : Host σ}
    (h : host.callEntry callback = host'.callEntry callback) (collection : Value) :
  host.each collection callback = host'.each collection callback
  := by
  unfold each
  rw [h]

theorem each_of_callEntry_fail {host : Host σ} {fault : Fault}
    (h : host.callEntry callback = fun _ => .fail fault) {collection : Value}
    (hentries : ¬ collection.HasEntries []) :
  host.each collection callback = .fail fault
  := by
  obtain ⟨entries, hcollection, heach⟩ := exists_hasEntries collection
  rw [heach, h]
  cases entries with
  | nil => contradiction
  | cons entry entries => rfl

end Host

/-- A callback that tells its parameters is called with a value and its key for every entry that
is visited if it accepts two arguments, and with the value alone if it only accepts one.  In
both cases the number of the arguments is never at fault; if it accepts neither, it is so for
the first entry. -/
theorem each_callForm {callback : Value} (htells : callback.tellsParameters = true)
    (host : Host σ) (collection : Value) (s : σ) :
  (callback.accepts 2 = true →
      host.CallsInForm callback (fun entry => [entry.1, entry.2]) collection s)
    ∧ (callback.accepts 2 = false → callback.accepts 1 = true →
      host.CallsInForm callback (fun entry => [entry.1]) collection s)
    ∧ (callback.accepts 1 = true ∨ callback.accepts 2 = true →
      host.checked.each collection callback = host.each collection callback)
    ∧ (callback.accepts 1 = false → callback.accepts 2 = false → ¬ collection.HasEntries [] →
      host.checked.each collection callback = .fail (.basic .type))
  := by
  have htwo := Value.takesTwo_eq_accepts htells
  refine ⟨?_, ?_, ?_, ?_⟩
  · intro h
    apply host.callsInForm
    intro entry
    rw [entryCall, if_pos (by rw [htwo (.inr h), h])]
  · intro h hone
    apply host.callsInForm
    intro entry
    rw [entryCall, if_neg (by rw [htwo (.inl hone), h]; decide)]
  · intro h
    have haccepts : callback.accepts (if callback.takesTwo then 2 else 1) = true := by
      rw [htwo h]
      split
      case isTrue htrue => exact htrue
      case isFalse hfalse => exact h.resolve_right hfalse
    apply Host.each_of_callEntry_eq
    rw [Host.checked_callEntry, if_pos haccepts]
  · intro hone htwo hentries
    have haccepts : ¬ callback.accepts (if callback.takesTwo then 2 else 1) = true := by
      rw [Bool.not_eq_true]
      split
      · exact htwo
      · exact hone
    apply Host.each_of_callEntry_fail _ hentries
    rw [Host.checked_callEntry, if_neg haccepts]

/-- A second parameter that takes its argument by name alone is no room for a key. -/
theorem each_callForm_named :
  let f := Value.function ⟨"Function", "<f>"⟩ 0 [.required, .named]
  f.tellsParameters = true
    ∧ World.host.CallsInForm f (fun entry => [entry.1]) (.list [.int 7, .absent]) World.initial
    ∧ World.host.checked.each (.list [.int 7, .absent]) f
      = World.host.each (.list [.int 7, .absent]) f
  := by
  intro f
  have htells : f.tellsParameters = true := rfl
  have hone : f.accepts 1 = true := by decide
  obtain ⟨-, hform, hchecked, -⟩ :=
    each_callForm htells World.host (.list [.int 7, .absent]) World.initial
  exact ⟨htells, hform (by decide) hone, hchecked (.inl hone)⟩

end HtmlTemplate
