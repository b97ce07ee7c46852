import HtmlTemplate.Proofs.Template.Carriers

/-!
# Carried templates

A template is given as texts with its values beside them, already made, or as segments with slots
whose values are still to be converted and formatted.  `Carries` is what the three have in common:
literal segments and the values between them.  Whatever becomes of the values one by one is put
between these segments (`Carries.html_eq`, `Carries.renderExpanded_eq`, `Carries.safeHtml_eq`).
-/

namespace HtmlTemplate

variable {σ : Type}

/-- What is given for a template, and the values beside it, carry these segments and these values
between them, as many as fit. -/
inductive Carries : Value → List Value → List Value → List Value → Prop where
  | beside {strings : Value} {segments values : List Value}
      (h : strings.IsSegments segments values.length) : Carries strings values segments values
  | made {strings row : Value} {segments values : List Value}
      (h : strings.IsSegments segments values.length) (hrow : row.Lists values) :
      Carries (.template strings row) [] segments values
  | slotted (label : Label) {segments values : List Value} {slots : List (Slot Value)}
      (htexts : allTexts segments = true) (hlength : segments.length = slots.length + 1)
      (hslots : List.Forall₂ (fun slot value => slot.resolve = .ok value) slots values) :
      Carries (.slotted label segments slots) [] segments values

theorem mapM_resolve_of_forall₂ {slots : List (Slot Value)} {values : List Value}
    (h : List.Forall₂ (fun slot value => slot.resolve = .ok value) slots values) :
  slots.mapM Slot.resolve = .ok values
  := by
  induction h with
  | nil => rfl
  | cons hslot _ ih =>
    rw [List.mapM_cons, hslot, ih]
    rfl

/-- The texts of the results for a row are those that each result has. -/
theorem map_display_mapM (f : Value → Run σ Value) (values : List Value) :
  List.map Value.display <$> values.mapM f = values.mapM fun value => Value.display <$> f value
  := by
  induction values with
  | nil => simp
  | cons value values ih =>
    rw [List.mapM_cons, List.mapM_cons, ← ih]
    simp only [map_eq_pure_bind, bind_assoc, pure_bind, List.map_cons]

section Carries

variable {x strings row : Value} {beside segments values : List Value}

/-- The values of a template are changed one by one, and their texts put between its segments. -/
theorem Template.mapValues_bind_text (h : strings.IsSegments segments values.length)
    (hrow : row.Lists values) (f : Value → Run σ Value) :
  (Template.mapValues ⟨strings, row⟩ f >>= fun t => Run.ofExcept t.text)
    = alternate (segments.map Value.display)
      <$> (values.mapM fun value => Value.display <$> f value).mapFault Fault.insideSequence
  := by
  have hmake : Template.make strings row = .ok ⟨strings, row⟩ := by
    rw [Template.make_of_size (Value.size_listed h.listed) hrow.size, if_pos h.length]
  rw [Template.mapValues_of_make h.listed hrow hmake, ← map_display_mapM, Run.mapFault_map]
  funext s
  simp only [map_eq_pure_bind, bind_assoc, pure_bind]
  rcases hresults : values.mapM f s with ⟨fault | results, s'⟩
  · rw [Run.bind_of_error (Run.mapFault_of_error hresults _),
      Run.bind_of_error (Run.mapFault_of_error hresults _)]
  · have hresults' : strings.IsSegments segments results.length := by
      rw [Run.length_of_mapM hresults]
      apply h
    rw [Run.bind_of_ok (Run.mapFault_of_ok hresults _),
      Run.bind_of_ok (Run.mapFault_of_ok hresults _), Template.text_of_items hresults' rfl]
    rfl

theorem Carries.isSegments (h : Carries x beside segments values) :
  (Value.list segments).IsSegments segments values.length
  := by
  cases h with
  | beside h => use rfl, h.texts, h.length
  | made h => use rfl, h.texts, h.length
  | slotted label htexts hlength hslots =>
    rw [← hslots.length_eq]
    use rfl

/-- What carries segments and values is resolved to a template of them at once. -/
theorem Carries.exists_template (h : Carries x beside segments values) (host : Host σ) :
  ∃ strings row, strings.IsSegments segments values.length ∧ row.Lists values
    ∧ host.template x (.tuple beside) = pure ⟨strings, row⟩
  := by
  have hsegments := h.isSegments.toTuple
  cases h with
  | beside h =>
    use .tuple segments, .tuple beside, hsegments, Value.lists_tuple beside
    apply host.template_of_isSegments h
  | @made strings row _ _ h hrow =>
    use strings, row, h, hrow
    rfl
  | @slotted label _ _ slots htexts hlength hslots =>
    use .tuple segments, .tuple values, hsegments, Value.lists_tuple values
    show Run.ofExcept (slots.mapM Slot.resolve >>= fun values =>
      Template.make (.tuple segments) (.tuple values)) = _
    rw [mapM_resolve_of_forall₂ hslots]
    show Run.ofExcept (Template.make (.tuple segments) (.sequence .tuple values)) = _
    rw [Template.make_of_isSegments hsegments]
    rfl

/-- The texts of the values are put between the segments. -/
theorem Carries.html_eq (h : Carries x beside segments values) (host : Host σ) :
  host.html x beside
    = pure (alternate (segments.map Value.display) (values.map Value.display))
  := by
  obtain ⟨strings, row, hsegments, hrow, htemplate⟩ := h.exists_template host
  rw [Host.html, htemplate, pure_bind, Template.text_of_items hsegments hrow.items,
    Run.ofExcept_ok]

/-- The values are expanded, and their texts put between the segments. -/
theorem Carries.renderExpanded_eq (h : Carries x beside segments values) (host : Host σ) :
  host.renderExpanded x beside
    = alternate (segments.map Value.display)
      <$> (values.mapM fun value => Value.display <$> host.expand value).mapFault
        Fault.insideSequence
  := by
  obtain ⟨strings, row, hsegments, hrow, htemplate⟩ := h.exists_template host
  rw [Host.renderExpanded, htemplate, pure_bind]
  apply Template.mapValues_bind_text hsegments hrow

/-- The values are escaped, and the texts of their HTML put between the segments.  A list or tuple
needs values beside it. -/
theorem Carries.safeHtml_eq (h : Carries x beside segments values) (host : Host σ)
    (hbeside : x.listed?.isSome = true → beside ≠ []) :
  host.safeHtml x beside
    = (fun texts => .text .safe (alternate (segments.map Value.display) texts))
      <$> (values.mapM fun value => Value.display <$> host.escape value).mapFault
        Fault.insideSequence
  := by
  have hsingle : ¬ x.isSingle = true := by
    cases h with
    | beside h =>
      obtain rfl | rfl := Value.listed?_eq_some.mp h.listed
      · exact Bool.false_ne_true
      · exact Bool.false_ne_true
    | made => exact Bool.false_ne_true
    | slotted => exact Bool.false_ne_true
  have hlisted : ¬ (x.listed?.isSome && beside.isEmpty) = true := by
    rw [Bool.and_eq_true, List.isEmpty_iff]
    rintro ⟨hsome, hempty⟩
    apply hbeside hsome hempty
  obtain ⟨strings, row, hsegments, hrow, htemplate⟩ := h.exists_template host
  have htext := Template.mapValues_bind_text hsegments hrow host.escape
  rw [Host.safeHtml, if_neg hsingle, if_neg hlisted, htemplate, pure_bind, ← bind_assoc, htext]
  simp only [map_eq_pure_bind, bind_assoc, pure_bind]

end Carries

end HtmlTemplate
