import HtmlTemplate.Proofs.Template.Interleaving

/-!
# Computations without shape faults

A computation `Run.NoShapeFault` ends with no shape fault in any state.  Once a template is
made, nothing that is done with it ends with one, unless a callable or a widget raises it:
neither its text (`Template.noShapeFault_text`) nor changing its values one by one
(`Template.IsMade.mapValues`), since a value has as many items as its size says.
-/

namespace HtmlTemplate

/-! ### Computations without shape faults -/

/-- A computation that never ends with a shape fault. -/
def Run.NoShapeFault {σ α : Type} (run : Run σ α) : Prop :=
  ∀ s, HtmlTemplate.NoShapeFault (run s).1

/-- Neither callables nor widgets raise shape faults. -/
structure Host.NoShapeFault {σ : Type} (host : Host σ) : Prop where
  call : ∀ callee arguments, (host.call callee arguments).NoShapeFault
  widget : ∀ content, (host.widget content).NoShapeFault

namespace Run

variable {σ α β : Type} {run : Run σ α}

theorem noShapeFault_pure (a : α) :
  (pure a : Run σ α).NoShapeFault
  := by
  intro s
  apply noShapeFault_ok

theorem noShapeFault_ofExcept {result : Except Fault α}
    (h : HtmlTemplate.NoShapeFault result) :
  (ofExcept result : Run σ α).NoShapeFault
  := by
  intro s
  apply h

theorem noShapeFault_fail (kind : FaultKind) :
  (fail (.basic kind) : Run σ α).NoShapeFault
  := by
  intro s
  apply noShapeFault_basic

/-- What comes behind a computation need only be without shape faults for its results. -/
theorem NoShapeFault.bind_of_ok {f : α → Run σ β} (h : run.NoShapeFault)
    (hf : ∀ s a s', run s = (.ok a, s') → (f a).NoShapeFault) :
  (run >>= f).NoShapeFault
  := by
  intro s
  have hs := h s
  rw [bind_apply]
  rcases hrun : run s with ⟨fault | a, s'⟩
  · rw [hrun] at hs
    constructor
    rintro cause ⟨⟩
    apply hs.ne cause rfl
  · apply hf s a s' hrun

theorem NoShapeFault.bind {f : α → Run σ β} (h : run.NoShapeFault)
    (hf : ∀ a, (f a).NoShapeFault) :
  (run >>= f).NoShapeFault
  := by
  apply h.bind_of_ok
  intro s a s' _
  apply hf

theorem NoShapeFault.mapM {f : α → Run σ β} (hf : ∀ a, (f a).NoShapeFault)
    (items : List α) :
  (items.mapM f).NoShapeFault
  := by
  induction items with
  | nil => apply noShapeFault_pure
  | cons item items ih =>
    rw [List.mapM_cons]
    apply (hf item).bind
    intro result
    apply ih.bind
    intro results
    apply noShapeFault_pure

theorem eq_ok_of_mapFault {f : Fault → Fault} {a : α} {s s' : σ}
    (h : run.mapFault f s = (.ok a, s')) :
  run s = (.ok a, s')
  := by
  rw [mapFault] at h
  rcases hrun : run s with ⟨fault | a, s'⟩
  · rw [hrun] at h
    cases h
  · rw [hrun] at h
    apply h

theorem NoShapeFault.insideSequence (h : run.NoShapeFault) :
  (run.mapFault Fault.insideSequence).NoShapeFault
  := by
  intro s
  have hs := h s
  rw [mapFault]
  rcases hrun : run s with ⟨fault | a, s'⟩
  · rw [hrun] at hs
    constructor
    intro cause hcause
    apply hs.ne cause
    cases fault with
    | shape other => apply hcause
    | malformedAttribute pair => cases hcause
    | stated message => cases hcause
    | basic kind => cases kind <;> cases hcause
  · apply noShapeFault_ok

end Run

/-! ### Sizes and items -/

theorem Value.noShapeFault_checkedSize (n : Int) :
  NoShapeFault (checkedSize n)
  := by
  unfold checkedSize
  split
  · apply noShapeFault_basic
  · split
    · apply noShapeFault_basic
    · apply noShapeFault_ok

theorem Value.noShapeFault_rangeItems (start stop step : Int) :
  NoShapeFault (rangeItems start stop step)
  := by
  apply (noShapeFault_checkedSize _).bind
  intro n
  split
  · apply noShapeFault_basic
  · apply noShapeFault_ok

theorem Value.noShapeFault_items (value : Value) :
  NoShapeFault value.items
  := by
  unfold items
  split
  · apply noShapeFault_ok
  · apply noShapeFault_ok
  · apply noShapeFault_ok
  · apply noShapeFault_ok
  · apply noShapeFault_ok
  · apply noShapeFault_rangeItems
  · apply noShapeFault_ok
  · apply noShapeFault_ok
  · apply noShapeFault_basic

theorem Value.length_rangeItems {start stop step : Int} {items : List Value} {n : Nat}
    (hitems : rangeItems start stop step = .ok items)
    (hsize : checkedSize (rangeLength start stop step) = .ok n) :
  items.length = n
  := by
  rw [rangeItems, hsize] at hitems
  change (if rowLimit < n then _ else _) = _ at hitems
  split at hitems
  · cases hitems
  · cases hitems
    rw [List.length_map, List.length_range]

/-- A value has as many items as its size says. -/
theorem Value.length_items {value : Value} {items : List Value} {n : Nat}
    (hitems : value.items = .ok items) (hsize : value.size = .ok n) :
  items.length = n
  := by
  cases value with
  | text mark s =>
    cases hitems
    cases hsize
    rw [List.length_map, String.length_toList]
  | bytes kind data =>
    cases hitems
    cases hsize
    apply List.length_map
  | sequence kind values =>
    cases hitems
    cases hsize
    rfl
  | range start stop step => apply length_rangeItems hitems hsize
  | set frozen values =>
    cases hitems
    cases hsize
    rfl
  | mapping kind entries =>
    cases hitems
    cases hsize
    apply List.length_map
  | keys values =>
    cases hitems
    cases hsize
    rfl
  | collection label count =>
    cases hitems
    rw [List.length_map, List.length_range]
    apply toNat_of_checkedSize hsize
  | _ => cases hitems

/-! ### Texts of templates -/

theorem Value.noShapeFault_firstSegment (strings : Value) :
  NoShapeFault strings.firstSegment
  := by
  unfold firstSegment
  split
  · split
    · apply noShapeFault_ok
    · apply noShapeFault_basic
  · apply noShapeFault_basic
  · apply noShapeFault_basic
  · apply noShapeFault_basic
  · apply strings.noShapeFault_items.bind
    intro items
    split
    · apply noShapeFault_ok
    · apply noShapeFault_basic

theorem Value.noShapeFault_otherSegments (strings : Value) :
  NoShapeFault strings.otherSegments
  := by
  have hitems : NoShapeFault (strings.items >>= fun items => Except.ok (items.drop 1)) := by
    apply strings.noShapeFault_items.bind
    intro items
    apply noShapeFault_ok
  unfold otherSegments
  split
  · apply hitems
  · apply hitems
  · apply hitems
  · apply hitems
  · apply hitems
  · apply hitems
  · apply noShapeFault_basic

theorem Value.noShapeFault_segmentText (segment : Value) :
  NoShapeFault segment.segmentText
  := by
  unfold segmentText
  split
  · apply noShapeFault_ok
  · apply noShapeFault_basic

theorem Template.noShapeFault_text (t : Template) :
  NoShapeFault t.text
  := by
  apply t.strings.noShapeFault_firstSegment.bind
  intro first
  apply t.strings.noShapeFault_otherSegments.bind
  intro others
  apply t.values.noShapeFault_items.bind
  intro values
  apply first.noShapeFault_segmentText.bind
  intro first
  apply (NoShapeFault.mapM Value.noShapeFault_segmentText _).bind
  intro others
  apply noShapeFault_ok

/-- A template has one segment more than values. -/
def Template.IsMade (t : Template) : Prop := Template.make t.strings t.values = .ok t

/-- The numbers of segments and values of a template. -/
theorem Template.exists_size_of_make {strings row : Value} {t : Template}
    (h : Template.make strings row = .ok t) :
  t = ⟨strings, row⟩ ∧ ∃ n, strings.size = .ok (n + 1) ∧ row.size = .ok n
  := by
  cases hstrings : strings.size with
  | error fault =>
    rw [make, hstrings] at h
    cases h
  | ok m =>
    cases hrow : row.size with
    | error fault =>
      rw [make, hstrings, hrow] at h
      cases h
    | ok n =>
      rw [make_of_size hstrings hrow] at h
      split at h
      case isTrue hmn =>
        cases h
        rw [hmn]
        use rfl, n
      case isFalse => cases h

theorem Template.isMade_of_make {strings row : Value} {t : Template}
    (h : Template.make strings row = .ok t) :
  t.IsMade
  := by
  obtain ⟨rfl, -⟩ := exists_size_of_make h
  apply h

/-- Changing values one by one keeps their number, so it adds no shape fault. -/
theorem Template.IsMade.mapValues {σ : Type} {t : Template} (ht : t.IsMade)
    {f : Value → Run σ Value} (hf : ∀ value, (f value).NoShapeFault) :
  (t.mapValues f).NoShapeFault
  := by
  obtain ⟨-, n, hstrings, hsize⟩ := exists_size_of_make ht
  apply (Run.noShapeFault_ofExcept t.values.noShapeFault_items).bind_of_ok
  intro s values s' hvalues
  apply (Run.NoShapeFault.mapM hf values).insideSequence.bind_of_ok
  intro s results s' hresults
  have hlength : results.length = n := by
    rw [Run.length_of_mapM (Run.eq_ok_of_mapFault hresults)]
    apply Value.length_items (Prod.mk.inj hvalues).1 hsize
  have hresultsSize : (Value.tuple results).size = .ok results.length := rfl
  rw [make_of_size hstrings hresultsSize, hlength, if_pos rfl]
  apply Run.noShapeFault_pure

end HtmlTemplate
