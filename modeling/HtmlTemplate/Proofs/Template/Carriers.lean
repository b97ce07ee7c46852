import HtmlTemplate.Proofs.Template.Interleaving

/-!
# Carriers of templates

The segments of a template and the values between them may be given in several ways: a
list or a tuple of segments with the values beside it, a template already made, or
segments with slots.  All of them are evaluated to the same outcome, `interleaved`, and
none of them inserts anything but the texts of the values (`html_eq_interleaved`).
-/

namespace HtmlTemplate

variable {σ : Type}

/-- The outcome for segments and the values between them: the segments with the texts of
the values between them, or a fault if the numbers do not fit. -/
def interleaved (segments values : List Value) : Except Fault String :=
  if segments.length = values.length + 1 then
    .ok (alternate (segments.map Value.display) (values.map Value.display))
  else .error (.shape (.count segments.length values.length))

/-- The items of a value, as many as its size says. -/
structure Value.Lists (row : Value) (values : List Value) : Prop where
  size : row.size = .ok values.length
  items : row.items = .ok values

theorem Value.lists_tuple (values : List Value) :
  (Value.tuple values).Lists values
  := by
  constructor
  · rfl
  · rfl

/-- A slot without a conversion and without a format. -/
structure Slot.IsBare (slot : Slot Value) : Prop where
  conversion : slot.conversion.getD "" = ""
  format : slot.format = ""

theorem Slot.IsBare.resolve {slot : Slot Value} (h : slot.IsBare) :
  slot.resolve = .ok slot.value
  := by
  rw [Slot.resolve, h.conversion, h.format]
  rfl

theorem mapM_resolve_of_isBare {slots : List (Slot Value)} (h : ∀ slot ∈ slots, slot.IsBare) :
  slots.mapM Slot.resolve = .ok (slots.map (·.value))
  := by
  induction slots with
  | nil => rfl
  | cons slot slots ih =>
    rw [List.forall_mem_cons] at h
    rw [List.mapM_cons, h.1.resolve, ih h.2]
    rfl

section Carriers

variable {segments values : List Value} {strings row : Value}

/-- Making a template of segments and values, and its text then, is interleaving them. -/
theorem Template.make_bind_text (hlisted : strings.listed? = some segments)
    (htexts : allTexts segments = true) (hrow : row.Lists values) :
  Template.make strings row >>= Template.text = interleaved segments values
  := by
  rw [Template.make_of_size (Value.size_listed hlisted) hrow.size, interleaved]
  split
  case isTrue hlength =>
    apply Template.text_of_items ⟨hlisted, htexts, hlength⟩ hrow.items
  case isFalse => rfl

theorem Host.html_beside (host : Host σ) (hlisted : strings.listed? = some segments)
    (htexts : allTexts segments = true) (values : List Value) :
  host.html strings values = .ofExcept (interleaved segments values)
  := by
  rw [Host.html, host.template_of_texts hlisted htexts, Run.ofExcept_bind,
    Template.make_bind_text rfl htexts (Value.lists_tuple values)]

theorem Host.html_slotted (host : Host σ) (label : Label) (htexts : allTexts segments = true)
    {slots : List (Slot Value)} (hslots : ∀ slot ∈ slots, slot.IsBare) :
  host.html (.slotted label segments slots) []
    = .ofExcept (interleaved segments (slots.map (·.value)))
  := by
  have htemplate : host.template (.slotted label segments slots) (.tuple [])
      = .ofExcept (Template.make (.tuple segments) (.tuple (slots.map (·.value)))) := by
    show Run.ofExcept (slots.mapM Slot.resolve >>= fun values =>
      Template.make (.tuple segments) (.tuple values)) = _
    rw [mapM_resolve_of_isBare hslots]
    rfl
  rw [Host.html, htemplate, Run.ofExcept_bind,
    Template.make_bind_text rfl htexts (Value.lists_tuple _)]

theorem Host.html_made (host : Host σ) (hlisted : strings.listed? = some segments)
    (htexts : allTexts segments = true) (hrow : row.Lists values) :
  (Run.ofExcept (Template.make strings row) >>= fun t => host.html t.toValue [])
    = .ofExcept (interleaved segments values)
  := by
  rw [← Template.make_bind_text hlisted htexts hrow]
  apply Run.ofExcept_bind

/-- A template whose values are changed one by one has the same segments, and as many
values as before. -/
theorem Template.mapValues_of_make {t : Template} (hlisted : strings.listed? = some segments)
    (hrow : row.Lists values) (ht : Template.make strings row = .ok t)
    (f : Value → Run σ Value) :
  t.mapValues f
    = (fun results => ⟨strings, .tuple results⟩)
      <$> (values.mapM f).mapFault Fault.insideSequence
  := by
  rw [Template.make_of_size (Value.size_listed hlisted) hrow.size] at ht
  split at ht
  case isFalse => cases ht
  case isTrue hlength =>
    cases ht
    funext s
    rw [Template.mapValues, hrow.items, Run.ofExcept_ok, pure_bind, map_eq_pure_bind,
      Run.bind_apply, Run.bind_apply, Run.mapFault]
    rcases hresults : values.mapM f s with ⟨fault | results, s'⟩
    · rfl
    · have hsize : (Value.tuple results).size = .ok results.length := rfl
      have hmake : Template.make strings (.tuple results) = .ok ⟨strings, .tuple results⟩ := by
        rw [Template.make_of_size (Value.size_listed hlisted) hsize,
          Run.length_of_mapM hresults, if_pos hlength]
      show Run.ofExcept (Template.make strings (.tuple results)) s' = _
      rw [hmake]
      rfl

end Carriers

/-- Segments that are texts are interleaved with the texts of the values, however the two
are given, and nothing else happens; if their numbers do not fit, the fault says both.
Changing the values of a template already made keeps the segments and the fit. -/
theorem html_eq_interleaved (host : Host σ) {segments : List Value}
    (htexts : allTexts segments = true) (values : List Value) :
  (∀ strings : Value, strings.listed? = some segments →
    host.html strings values = .ofExcept (interleaved segments values))
  ∧ (∀ (label : Label) (slots : List (Slot Value)), slots.map (·.value) = values →
    (∀ slot ∈ slots, slot.IsBare) →
    host.html (.slotted label segments slots) [] = .ofExcept (interleaved segments values))
  ∧ ∀ strings row : Value, strings.listed? = some segments → row.Lists values →
    Template.make strings row = (if segments.length = values.length + 1 then .ok ⟨strings, row⟩
      else .error (.shape (.count segments.length values.length)))
    ∧ (Run.ofExcept (Template.make strings row) >>= fun t => host.html t.toValue [])
      = .ofExcept (interleaved segments values)
    ∧ ∀ t, Template.make strings row = .ok t → ∀ f : Value → Run σ Value,
      t.mapValues f = (fun results => ⟨strings, .tuple results⟩)
        <$> (values.mapM f).mapFault Fault.insideSequence
      ∧ ∀ s s' results, values.mapM f s = (.ok results, s') →
        segments.length = results.length + 1
  := by
  refine ⟨?_, ?_, ?_⟩
  · intro strings hlisted
    apply host.html_beside hlisted htexts
  · rintro label slots rfl hslots
    apply host.html_slotted label htexts hslots
  · intro strings row hlisted hrow
    have hmake := Template.make_of_size (Value.size_listed hlisted) hrow.size
    refine ⟨hmake, host.html_made hlisted htexts hrow, ?_⟩
    intro t ht f
    use Template.mapValues_of_make hlisted hrow ht f
    intro s s' results hresults
    rw [hmake] at ht
    split at ht
    case isTrue hlength => rw [Run.length_of_mapM hresults, hlength]
    case isFalse => cases ht

/-- A function between two segments is not called, and two values are one too many. -/
theorem html_eq_interleaved_paragraph :
  let f := Value.function ⟨"Function", "<f>"⟩ 0 []
  allTexts [.plain "<p>", .plain "</p>"] = true
    ∧ Host.echo.html (.list [.plain "<p>", .plain "</p>"]) [f] = pure "<p><f></p>"
    ∧ Host.echo.html (.tuple [.plain "<p>", .plain "</p>"]) [f, .plain "&"]
      = .fail (.shape (.count 2 2))
  := by
  intro f
  have htexts : allTexts [.plain "<p>", .plain "</p>"] = true := rfl
  use htexts
  rw [(html_eq_interleaved Host.echo htexts _).1 _ rfl,
    (html_eq_interleaved Host.echo htexts _).1 _ rfl]
  constructor
  · rfl
  · rfl

end HtmlTemplate
