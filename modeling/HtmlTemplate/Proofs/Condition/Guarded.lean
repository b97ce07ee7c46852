import HtmlTemplate.Proofs.Condition.Runs
import HtmlTemplate.Proofs.Iteration.Entries
import HtmlTemplate.Proofs.Value.Truth

/-!
# Guarded iterations

The emptiness test and the iteration tell the kinds of values apart in ways of their own.  They
agree on what is empty: a value that is tested and found empty has no entries
(`Value.HasEntries.eq_nil`).  `when_each` draws the conclusion that an iteration does the same
whether or not its collection is tested before.
-/

namespace HtmlTemplate

variable {σ : Type}

/-! ### The entries of an empty value -/

namespace Value

variable {collection : Value} {items : List Value} {entries : List (Value × Value)}
  {e : Emptiness}

theorem HasItems.length_eq (h : collection.HasItems items) {n : Nat}
    (hn : collection.size = .ok n) :
  items.length = n
  := by
  cases h with
  | sequence kind items =>
    cases hn
    rfl
  | view data =>
    cases hn
    apply List.length_map
  | @range start stop step numbers h =>
    have hnumbers := (HasItems.range h).eq (hasItems_range start stop step)
    rw [hnumbers, rangeNumbers, List.length_map, List.length_map, List.length_range]
    apply toNat_of_checkedSize hn

/-- A value with items is tested by its size. -/
theorem HasItems.classify_eq (h : collection.HasItems items) :
  collection.classify = do return if (← collection.size) = 0 then .emptySequence else .present
  := by
  cases h with
  | sequence => rfl
  | view => rfl
  | range => rfl

theorem HasItems.eq_nil (h : collection.HasItems items) (hclassify : collection.classify = .ok e)
    (hempty : e ≠ .present) :
  items = []
  := by
  rw [h.classify_eq] at hclassify
  cases hn : collection.size with
  | error fault =>
    rw [hn] at hclassify
    cases hclassify
  | ok n =>
    rw [hn] at hclassify
    cases hclassify
    rw [← List.length_eq_zero_iff, h.length_eq hn]
    by_contra hpositive
    rw [if_neg hpositive] at hempty
    contradiction

/-- A value that is empty in some way has no entries. -/
theorem HasEntries.eq_nil (h : collection.HasEntries entries)
    (hclassify : collection.classify = .ok e) (hempty : e ≠ .present) :
  entries = []
  := by
  cases h with
  | count n =>
    cases hclassify
    have hzero : n = 0 := by
      by_contra hne
      simp [Number.isTruthy, hne] at hempty
    rw [hzero]
    rfl
  | mapping kind entries =>
    cases hclassify
    cases entries with
    | nil => rfl
    | cons entry entries => contradiction
  | items hitems =>
    rw [hitems.eq_nil hclassify hempty]
    rfl
  | other => rfl

theorem hasEntries_nil (hclassify : collection.classify = .ok e) (hempty : e ≠ .present) :
  collection.HasEntries []
  := by
  obtain ⟨entries, hentries, -⟩ := exists_hasEntries collection
  rwa [hentries.eq_nil hclassify hempty] at hentries

end Value

/-! ### The test before the iteration -/

namespace Host

variable {host outer : Host σ} {render callback value : Value} {e : Emptiness}

theorem each_eq_pure (h : value.HasEntries []) (host : Host σ) (callback : Value) :
  host.each value callback = pure ""
  := h.each_eq host callback

/-- What a condition does that is not called for its value. -/
theorem when_of_classify (hcallable : value.isCallable = false)
    (hclassify : value.classify = .ok e) (host : Host σ) (render : Value) :
  host.when value render = if e = .present then host.call render [value] else pure (.plain "")
  := by
  funext s
  rw [(Settles.value hcallable).when_eq, complete, Value.isEmpty_of_classify hclassify]
  by_cases h : e = .present
  · rw [if_pos h, h]
    rfl
  · rw [if_neg h, decide_eq_true h]
    rfl

/-- A host in which a callable, called with a collection, iterates over it by a callback of
another host. -/
def Iterates (outer host : Host σ) (render callback : Value) : Prop :=
  ∀ collection, outer.call render [collection] = .plain <$> host.each collection callback

/-- The host with one function more, that iterates by a callback. -/
def withIteration (host : Host σ) (id : Nat) (callback : Value) : Host σ where
  call
    | .function label place parameters, [collection] =>
      if place = id then .plain <$> host.each collection callback
      else host.call (.function label place parameters) [collection]
    | callee, arguments => host.call callee arguments
  widget := host.widget
  left := host.left
  next := host.next

theorem withIteration_iterates (host : Host σ) (id : Nat) (callback : Value)
    (label : Label) (parameters : List ParameterKind) :
  (host.withIteration id callback).Iterates host (.function label id parameters) callback
  := by
  intro collection
  apply if_pos rfl

theorem Iterates.when_eq (h : outer.Iterates host render callback)
    (hcallable : value.isCallable = false) (hclassify : value.classify = .ok e) :
  outer.when value render = .plain <$> host.each value callback
  := by
  rw [when_of_classify hcallable hclassify]
  split
  case isTrue => apply h
  case isFalse hempty => rw [each_eq_pure (Value.hasEntries_nil hclassify hempty), map_pure]

end Host

/-- An iteration that is guarded by the test of its collection has the outcome of the iteration,
and makes its calls, for every value that is not called and for which the test does not fail.
If the value is empty in some way there are no entries, and nothing is called. -/
theorem when_each {value : Value} {e : Emptiness} (hcallable : value.isCallable = false)
    (hclassify : value.classify = .ok e) (host : Host σ) (render callback : Value) :
  (∀ outer : Host σ, outer.Iterates host render callback →
      outer.when value render = .plain <$> host.each value callback)
    ∧ (∀ outer : Host (σ × List Call), outer.Iterates host.recorded render callback →
      outer.when value render = .plain <$> host.recorded.each value callback)
    ∧ (e ≠ .present → value.HasEntries []
      ∧ ∀ s, host.recorded.each value callback (s, []) = (.ok "", s, []))
  := by
  refine ⟨?_, ?_, ?_⟩
  · intro outer houter
    apply houter.when_eq hcallable hclassify
  · intro outer houter
    apply houter.when_eq hcallable hclassify
  · intro hempty
    have hentries := Value.hasEntries_nil hclassify hempty
    use hentries
    intro s
    rw [Host.each_eq_pure hentries]
    rfl

/-- A range that ends before it begins is a collection without entries. -/
theorem when_each_range :
  let render := Value.function ⟨"Function", "<f>"⟩ 0 [.required]
  let callback := Value.function ⟨"Function", "<g>"⟩ 1 [.required]
  (Value.range 3 1 1).isCallable = false
    ∧ (Value.range 3 1 1).classify = .ok .emptySequence
    ∧ (World.host.recorded.withIteration 0 callback).when (.range 3 1 1) render
      = .plain <$> World.host.recorded.each (.range 3 1 1) callback
    ∧ (Value.range 3 1 1).HasEntries []
  := by
  intro render callback
  have hcallable : (Value.range 3 1 1).isCallable = false := rfl
  have hclassify : (Value.range 3 1 1).classify = .ok .emptySequence := rfl
  obtain ⟨-, hrecorded, hempty⟩ := when_each hcallable hclassify World.host render callback
  use hcallable, hclassify, hrecorded _ (Host.withIteration_iterates _ _ _ _ _)
  apply (hempty (by decide)).1

end HtmlTemplate
