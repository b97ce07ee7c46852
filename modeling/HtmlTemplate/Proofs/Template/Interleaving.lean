import HtmlTemplate.Template.Evaluate
import Mathlib.Data.List.Forall2
import Mathlib.Tactic.Use

/-!
# Interleaving

A template that is given as literal segments and the values between them is evaluated to
the segments and the texts of the values in turn, `alternate`, whether the segments are a
list, a tuple or a field of a template already made (`Host.html_of_isSegments`,
`Host.EscapeTo.safeHtml_of_isSegments` and `Host.EscapeTo.safeHtml_template`).
-/

namespace HtmlTemplate

/-- Segments with texts between them. -/
def alternate : List String → List String → String
  | segment :: segments, text :: texts => segment ++ (text ++ alternate segments texts)
  | [segment], [] => segment
  | _, _ => ""

/-- Segments and texts may be cut at any text. -/
theorem alternate_append_cons (segments segments' texts texts' : List String) (text : String)
    (h : segments.length = texts.length + 1) :
  alternate (segments ++ segments') (texts ++ text :: texts')
    = alternate segments texts ++ (text ++ alternate segments' texts')
  := by
  induction segments generalizing texts with
  | nil => cases h
  | cons segment segments ih =>
    cases texts with
    | nil =>
      obtain rfl := List.length_eq_zero_iff.mp (Nat.succ.inj h)
      rfl
    | cons next texts =>
      simp only [List.cons_append, alternate, ih texts (Nat.succ.inj h), String.append_assoc]

theorem join_interleave (segment : String) (segments : List String) (values : List Value)
    (h : segments.length = values.length) :
  String.join (segment :: interleave values segments)
    = alternate (segment :: segments) (values.map Value.display)
  := by
  induction values generalizing segment segments with
  | nil =>
    obtain rfl := List.length_eq_zero_iff.mp h
    simp [interleave, alternate]
  | cons value values ih =>
    cases segments with
    | nil => cases h
    | cons next segments =>
      have := ih next segments (Nat.succ.inj h)
      simp only [interleave, List.map_cons, alternate, String.join_cons] at this ⊢
      rw [this]

/-! ### Segments -/

theorem allTexts_cons {item : Value} {items : List Value} :
  allTexts (item :: items) = true ↔ (∃ mark s, item = .text mark s) ∧ allTexts items = true
  := by
  rw [allTexts, List.all_cons, Bool.and_eq_true, ← allTexts]
  constructor
  · rintro ⟨hitem, hitems⟩
    cases item with
    | text mark s => use ⟨mark, s, rfl⟩
    | _ => cases hitem
  · rintro ⟨⟨mark, s, rfl⟩, hitems⟩
    use rfl

theorem mapM_segmentText {segments : List Value} (h : allTexts segments = true) :
  segments.mapM Value.segmentText = .ok (segments.map Value.display)
  := by
  induction segments with
  | nil => rfl
  | cons segment segments ih =>
    obtain ⟨⟨mark, s, rfl⟩, hsegments⟩ := allTexts_cons.mp h
    rw [List.mapM_cons, ih hsegments]
    rfl

/-- The values that list their items are the lists and the tuples. -/
theorem Value.listed?_eq_some {value : Value} {items : List Value} :
  value.listed? = some items ↔ value = .list items ∨ value = .tuple items
  := by
  constructor
  · intro h
    cases value with
    | sequence kind values =>
      cases kind with
      | list =>
        left
        rw [Option.some.inj h, Value.list]
      | tuple =>
        right
        rw [Option.some.inj h, Value.tuple]
      | deque => cases h
      | userList => cases h
    | _ => cases h
  · rintro (rfl | rfl)
    · rfl
    · rfl

theorem Value.firstSegment_listed {strings segment : Value} {segments : List Value}
    (h : strings.listed? = some (segment :: segments)) :
  strings.firstSegment = .ok segment
  := by
  obtain rfl | rfl := Value.listed?_eq_some.mp h
  · rfl
  · rfl

theorem Value.otherSegments_listed {strings segment : Value} {segments : List Value}
    (h : strings.listed? = some (segment :: segments)) :
  strings.otherSegments = .ok segments
  := by
  obtain rfl | rfl := Value.listed?_eq_some.mp h
  · rfl
  · rfl

theorem Value.size_listed {strings : Value} {segments : List Value}
    (h : strings.listed? = some segments) :
  strings.size = .ok segments.length
  := by
  obtain rfl | rfl := Value.listed?_eq_some.mp h
  · rfl
  · rfl

/-- A value lists the literal segments of a template: it is a list or a tuple of texts, one
more than the values that stand between them. -/
structure Value.IsSegments (strings : Value) (segments : List Value) (count : Nat) :
    Prop where
  listed : strings.listed? = some segments
  texts : allTexts segments = true
  length : segments.length = count + 1

section Segments

variable {σ : Type} {strings : Value} {segments values : List Value}

theorem Value.IsSegments.toTuple {count : Nat} (h : strings.IsSegments segments count) :
  (Value.tuple segments).IsSegments segments count
  := by
  constructor
  · rfl
  · apply h.texts
  · apply h.length

/-- The text of a template whose segments are texts, one more than its values. -/
theorem Template.text_of_items {row : Value} (h : strings.IsSegments segments values.length)
    (hrow : row.items = .ok values) :
  Template.text ⟨strings, row⟩
    = .ok (alternate (segments.map Value.display) (values.map Value.display))
  := by
  obtain ⟨hlisted, htexts, hlength⟩ := h
  cases segments with
  | nil => cases hlength
  | cons segment segments =>
    obtain ⟨⟨mark, s, rfl⟩, hsegments⟩ := allTexts_cons.mp htexts
    have hlength' : (segments.map Value.display).length = values.length := by
      rw [List.length_map]
      apply Nat.succ.inj hlength
    have hothers : (segments.take values.length).mapM Value.segmentText
        = .ok (segments.map Value.display) := by
      rw [← hlength', List.length_map, List.take_length]
      apply mapM_segmentText hsegments
    rw [List.map_cons, ← join_interleave _ _ _ hlength', Template.text,
      Value.firstSegment_listed hlisted, Value.otherSegments_listed hlisted, hrow]
    show ((segments.take values.length).mapM Value.segmentText >>= fun others =>
      Except.ok (String.join (s :: interleave values others))) = _
    rw [hothers]
    rfl

theorem Template.text_of_isSegments (h : strings.IsSegments segments values.length)
    (kind : SequenceKind) :
  Template.text ⟨strings, .sequence kind values⟩
    = .ok (alternate (segments.map Value.display) (values.map Value.display))
  := Template.text_of_items h rfl

/-- Making a template compares the numbers of segments and values, and nothing else. -/
theorem Template.make_of_size {row : Value} {m n : Nat} (hstrings : strings.size = .ok m)
    (hrow : row.size = .ok n) :
  Template.make strings row
    = if m = n + 1 then .ok ⟨strings, row⟩ else .error (.shape (.count m n))
  := by
  rw [Template.make, hstrings, hrow]
  rfl

/-- A template is made of segments and the values between them. -/
theorem Template.make_of_isSegments (h : strings.IsSegments segments values.length)
    (kind : SequenceKind) :
  Template.make strings (.sequence kind values) = .ok ⟨strings, .sequence kind values⟩
  := by
  have hrow : (Value.sequence kind values).size = .ok values.length := rfl
  rw [Template.make_of_size (Value.size_listed h.listed) hrow, if_pos h.length]

/-- Texts with values beside them are a template if the numbers fit. -/
theorem Host.template_of_texts (host : Host σ) (hlisted : strings.listed? = some segments)
    (htexts : allTexts segments = true) (values : List Value) :
  host.template strings (.tuple values)
    = .ofExcept (Template.make (.tuple segments) (.tuple values))
  := by
  obtain rfl | rfl := Value.listed?_eq_some.mp hlisted
  · show (if allTexts segments = true then _ else _) = _
    rw [if_pos htexts]
    rfl
  · show (if allTexts segments = true then _ else _) = _
    rw [if_pos htexts]
    rfl

/-- Segments with the values between them beside them are a template. -/
theorem Host.template_of_isSegments (host : Host σ)
    (h : strings.IsSegments segments values.length) :
  host.template strings (.tuple values) = pure ⟨.tuple segments, .tuple values⟩
  := by
  rw [host.template_of_texts h.listed h.texts]
  show Run.ofExcept (Template.make (.tuple segments) (.sequence .tuple values)) = _
  rw [Template.make_of_isSegments h.toTuple]
  rfl

/-- Values between segments are inserted as they are. -/
theorem Host.html_of_isSegments (host : Host σ)
    (h : strings.IsSegments segments values.length) :
  host.html strings values
    = pure (alternate (segments.map Value.display) (values.map Value.display))
  := by
  rw [Host.html, host.template_of_isSegments h, pure_bind]
  show Run.ofExcept (Template.text ⟨.tuple segments, .sequence .tuple values⟩) = _
  rw [Template.text_of_isSegments h.toTuple, Run.ofExcept_ok]

/-! ### Escaped values -/

/-- The values have the given HTML at once: making it neither fails nor changes the
state. -/
def Host.EscapeTo (host : Host σ) (values htmls : List Value) : Prop :=
  List.Forall₂ (fun value html => host.escape value = pure html) values htmls

variable {host : Host σ} {htmls : List Value}

theorem Host.EscapeTo.mapM_escape (h : host.EscapeTo values htmls) :
  values.mapM host.escape = pure htmls
  := by
  induction h with
  | nil => rfl
  | cons hvalue _ ih => rw [List.mapM_cons, hvalue, ih, pure_bind, pure_bind]

/-- A template with its values escaped has the text of its segments with the HTML of the
values between them. -/
theorem Host.EscapeTo.text_mapValues (h : host.EscapeTo values htmls)
    (hsegments : strings.IsSegments segments values.length) (kind : SequenceKind) :
  (Template.mapValues ⟨strings, .sequence kind values⟩ host.escape >>= fun t =>
      Run.ofExcept t.text)
    = pure (alternate (segments.map Value.display) (htmls.map Value.display))
  := by
  have hsegments' : strings.IsSegments segments htmls.length := h.length_eq ▸ hsegments
  have hmap : Template.mapValues ⟨strings, .sequence kind values⟩ host.escape
      = pure ⟨strings, .sequence .tuple htmls⟩ := by
    show ((values.mapM host.escape).mapFault Fault.insideSequence >>= fun values =>
      Run.ofExcept (Template.make strings (.sequence .tuple values))) = _
    rw [h.mapM_escape, Run.mapFault_pure, pure_bind,
      Template.make_of_isSegments hsegments', Run.ofExcept_ok]
  rw [hmap, pure_bind, Template.text_of_isSegments hsegments', Run.ofExcept_ok]

/-- The values of a template already made are escaped, its segments are not. -/
theorem Host.EscapeTo.safeHtml_template (h : host.EscapeTo values htmls)
    (hsegments : strings.IsSegments segments values.length) (kind : SequenceKind) :
  host.safeHtml (.template strings (.sequence kind values)) []
    = pure (.text .safe (alternate (segments.map Value.display) (htmls.map Value.display)))
  := by
  have htext := h.text_mapValues hsegments kind
  show (Template.mapValues ⟨strings, .sequence kind values⟩ host.escape >>= fun t =>
    Run.ofExcept t.text >>= fun text => pure (Value.text .safe text)) = _
  rw [← bind_assoc, htext, pure_bind]

/-- The values beside segments are escaped, the segments are not. -/
theorem Host.EscapeTo.safeHtml_of_isSegments (h : host.EscapeTo values htmls)
    (hsegments : strings.IsSegments segments values.length) (hvalues : values ≠ []) :
  host.safeHtml strings values
    = pure (.text .safe (alternate (segments.map Value.display) (htmls.map Value.display)))
  := by
  have hsingle : ¬ strings.isSingle = true := by
    obtain rfl | rfl := Value.listed?_eq_some.mp hsegments.listed
    · exact Bool.false_ne_true
    · exact Bool.false_ne_true
  have hempty : ¬ (strings.listed?.isSome && values.isEmpty) = true := by
    simp [hvalues]
  have htext := h.text_mapValues hsegments.toTuple .tuple
  rw [Host.safeHtml, if_neg hsingle, if_neg hempty, host.template_of_isSegments hsegments,
    pure_bind, ← bind_assoc]
  show (Template.mapValues ⟨.tuple segments, .sequence .tuple values⟩ host.escape >>= fun t =>
    Run.ofExcept t.text) >>= _ = _
  rw [htext, pure_bind]

end Segments

/-- The HTML of a value has a text, and making it neither fails nor changes the state. -/
def Host.HasHtml {σ : Type} (host : Host σ) (value : Value) (text : String) : Prop :=
  ∃ html, host.escape value = pure html ∧ html.display = text

/-- Values with HTML of given texts are escaped to values with these texts. -/
theorem Host.exists_escapeTo {σ : Type} {host : Host σ} {values : List Value}
    {texts : List String} (h : List.Forall₂ host.HasHtml values texts) :
  ∃ htmls, host.EscapeTo values htmls ∧ htmls.map Value.display = texts
  := by
  induction h with
  | nil =>
    use [], .nil
    rfl
  | cons hvalue _ ih =>
    obtain ⟨html, hhtml, rfl⟩ := hvalue
    obtain ⟨htmls, hhtmls, rfl⟩ := ih
    use html :: htmls, .cons hhtml hhtmls
    rfl

/-- A text marked safe is its own escaped form. -/
theorem Host.safeHtml_safe {σ : Type} (host : Host σ) (s : String) :
  host.safeHtml (.text .safe s) [] = pure (.text .safe s)
  := rfl

/-- A host whose functions give back their first argument. -/
def Host.echo : Host Unit where
  call _ arguments := pure (arguments.headD .absent)
  widget content := pure content
  left _ := pure 0
  next _ := pure none

end HtmlTemplate
