import HtmlTemplate.Element
import HtmlTemplate.Proofs.Iteration.Visits
import HtmlTemplate.Proofs.Template.Interleaving
import HtmlTemplate.Proofs.Text.Escaped

/-!
# Injection safety

A `Composition` describes how HTML is put together from untrusted texts: they are escaped
on their own or as values of templates that escape, and the results are used in templates,
elements and lists.  Whatever the untrusted texts are, the significant characters of the
result are the same, in the same order: `Composition.significant_render_eq`.

The proof compares two renderings.  Values are `Alike` if they are texts with the same mark
and the same significant characters, and every step takes values alike to values alike.
-/

namespace HtmlTemplate

open Entity (significant)

/-- A tree of renderings with untrusted texts, which are named by `ι`. -/
inductive Composition (ι : Type) where
  /-- An untrusted text, escaped by itself. -/
  | leaf (i : ι)
  /-- A template already made whose values are escaped: untrusted texts, and parts. -/
  | escaped (strings : Value) (values : List (ι ⊕ Composition ι))
  /-- Segments with the parts between them as they are. -/
  | raw (strings : Value) (values : List (Composition ι))
  | element (name attributes : Value) (content : Composition ι)
  /-- An element whose content is a list. -/
  | elementOfList (name attributes : Value) (contents : List (Composition ι))
  /-- The items of a list, each as it is. -/
  | each (items : List (Composition ι))

namespace Composition

variable {σ ι : Type}

mutual

/-- The outcome of a tree for the untrusted texts it is about. -/
def render (host : Host σ) (identity : Value) (untrusted : ι → String) :
    Composition ι → Run σ Value
  | .leaf i => host.safeHtml (.plain (untrusted i)) []
  | .escaped strings values => do
    let values ← renderParts host identity untrusted values
    let template ← .ofExcept (Template.make strings (.tuple values))
    host.safeHtml template.toValue []
  | .raw strings values => do
    let values ← renderAll host identity untrusted values
    .plain <$> host.html strings values
  | .element name attributes content => do
    let content ← render host identity untrusted content
    return .plain (Element.text name attributes content)
  | .elementOfList name attributes contents => do
    let contents ← renderAll host identity untrusted contents
    return .plain (Element.text name attributes (.list contents))
  | .each items => do
    let items ← renderAll host identity untrusted items
    .plain <$> host.each (.list items) identity

/-- The outcomes of trees, from first to last. -/
def renderAll (host : Host σ) (identity : Value) (untrusted : ι → String) :
    List (Composition ι) → Run σ (List Value)
  | [] => pure []
  | part :: parts => do
    let value ← render host identity untrusted part
    return value :: (← renderAll host identity untrusted parts)

/-- Untrusted texts as they are, and the outcomes of trees, from first to last. -/
def renderParts (host : Host σ) (identity : Value) (untrusted : ι → String) :
    List (ι ⊕ Composition ι) → Run σ (List Value)
  | [] => pure []
  | .inl i :: parts => do
    return .plain (untrusted i) :: (← renderParts host identity untrusted parts)
  | .inr part :: parts => do
    let value ← render host identity untrusted part
    return value :: (← renderParts host identity untrusted parts)

end

mutual

/-- In every template of a tree the segments are texts, one more than the values. -/
def IsWellShaped : Composition ι → Prop
  | .leaf _ => True
  | .escaped strings values =>
    (∃ segments, strings.IsSegments segments values.length) ∧ PartsAreWellShaped values
  | .raw strings values =>
    (∃ segments, strings.IsSegments segments values.length) ∧ AllAreWellShaped values
  | .element _ _ content => content.IsWellShaped
  | .elementOfList _ _ contents => AllAreWellShaped contents
  | .each items => AllAreWellShaped items

/-- All trees of a row are well shaped. -/
def AllAreWellShaped : List (Composition ι) → Prop
  | [] => True
  | part :: parts => part.IsWellShaped ∧ AllAreWellShaped parts

/-- All trees in a row of trees and untrusted texts are well shaped. -/
def PartsAreWellShaped : List (ι ⊕ Composition ι) → Prop
  | [] => True
  | .inl _ :: parts => PartsAreWellShaped parts
  | .inr part :: parts => part.IsWellShaped ∧ PartsAreWellShaped parts

end

end Composition

/-! ### Values alike -/

namespace Value

/-- Texts with the same mark and the same significant characters. -/
def Alike (value value' : Value) : Prop :=
  ∃ mark s s', value = .text mark s ∧ value' = .text mark s' ∧ significant s = significant s'

theorem Alike.text (mark : Mark) {s s' : String} (h : significant s = significant s') :
  Alike (.text mark s) (.text mark s')
  := by
  use mark, s, s'

/-- Escaped texts are alike, whatever was escaped. -/
theorem Alike.escaped (mark : Mark) (s s' : String) :
  Alike (.text mark (Entity.escape s)) (.text mark (Entity.escape s'))
  := by
  apply Alike.text
  rw [Entity.significant_escape, Entity.significant_escape]

variable {σ : Type} {values values' : List Value}

/-- Values alike are escaped to values alike. -/
theorem Alike.escape {value value' : Value} (h : value.Alike value') (host : Host σ) :
  ∃ html html', host.escape value = pure html ∧ host.escape value' = pure html'
    ∧ html.Alike html'
  := by
  obtain ⟨mark, s, s', rfl, rfl, hs⟩ := h
  cases mark with
  | plain =>
    use .plain (Entity.escape s), .plain (Entity.escape s'), rfl, rfl
    apply Alike.escaped
  | safe =>
    use .text .safe s, .text .safe s', rfl, rfl
    apply Alike.text .safe hs
  | markup =>
    use .text .markup s, .text .markup s', rfl, rfl
    apply Alike.text .markup hs

/-- The texts of values alike have the same significant characters between segments. -/
theorem significant_alternate (h : List.Forall₂ Alike values values')
    (segments : List String) :
  significant (alternate segments (values.map display))
    = significant (alternate segments (values'.map display))
  := by
  induction h generalizing segments with
  | nil => rfl
  | cons hvalue _ ih =>
    obtain ⟨mark, s, s', rfl, rfl, hs⟩ := hvalue
    cases segments with
    | nil => rfl
    | cons segment segments =>
      simp only [List.map_cons, alternate, Entity.significant_append, display, hs, ih]

/-- So they have with spaces between them. -/
theorem significant_spaced (h : List.Forall₂ Alike values values') :
  significant (spaced values) = significant (spaced values')
  := by
  induction h with
  | nil => rfl
  | cons hvalue hvalues ih =>
    obtain ⟨mark, s, s', rfl, rfl, hs⟩ := hvalue
    cases hvalues with
    | nil => simp [spaced, display, hs]
    | cons => simp_all [spaced, display, Entity.significant_append]

/-- So they have joined, where empty texts may be left out. -/
theorem significant_joinedResults (h : List.Forall₂ Alike values values') :
  significant (joinedResults values) = significant (joinedResults values')
  := by
  induction h with
  | nil => rfl
  | cons hvalue _ ih =>
    obtain ⟨mark, s, s', rfl, rfl, hs⟩ := hvalue
    have htext (s : String) :
        (if isSkipped (.text mark s) then "" else display (.text mark s)) = s := by
      by_cases hempty : s = ""
      · simp [isSkipped, hempty]
      · simp [isSkipped, hempty, display]
    simp only [joinedResults_cons, htext, Entity.significant_append, hs, ih]

/-- Elements with contents of the same significant characters have the same. -/
theorem significant_element (name attributes : Value) {content content' : Value}
    (h : significant (Element.content content) = significant (Element.content content')) :
  significant (Element.text name attributes content)
    = significant (Element.text name attributes content')
  := by
  simp only [Element.text, Entity.significant_append, h]

end Value

/-! ### Two renderings -/

namespace Composition

open Value (Alike)

variable {σ ι : Type}

/-- A template made of segments and escaped values has values alike between its
segments. -/
theorem alike_escaped {host : Host σ} {strings : Value} {segments : List Value}
    {values values' htmls htmls' : List Value}
    (hsegments : strings.IsSegments segments values.length)
    (hhtmls : host.EscapeTo values htmls) (hhtmls' : host.EscapeTo values' htmls')
    (halike : List.Forall₂ Alike htmls htmls') :
  ∃ value value',
    (Run.ofExcept (Template.make strings (.tuple values)) >>= fun t =>
      host.safeHtml t.toValue []) = pure value
    ∧ (Run.ofExcept (Template.make strings (.tuple values')) >>= fun t =>
      host.safeHtml t.toValue []) = pure value'
    ∧ value.Alike value'
  := by
  have hsegments' : strings.IsSegments segments values'.length := by
    rw [hhtmls'.length_eq, ← halike.length_eq, ← hhtmls.length_eq]
    apply hsegments
  have hmake := Template.make_of_isSegments hsegments .tuple
  have hmake' := Template.make_of_isSegments hsegments' .tuple
  use .text .safe (alternate (segments.map Value.display) (htmls.map Value.display)),
    .text .safe (alternate (segments.map Value.display) (htmls'.map Value.display))
  rw [Value.tuple, hmake, Value.tuple, hmake']
  use hhtmls.safeHtml_template hsegments .tuple, hhtmls'.safeHtml_template hsegments' .tuple
  apply Alike.text
  apply Value.significant_alternate halike

mutual

/-- A tree is rendered to values alike for any two choices of the untrusted texts. -/
theorem alike_render {host : Host σ} {identity : Value} (hidentity : host.IsIdentity identity)
    (untrusted untrusted' : ι → String) :
    ∀ t : Composition ι, t.IsWellShaped →
      ∃ value value', render host identity untrusted t = pure value
        ∧ render host identity untrusted' t = pure value' ∧ value.Alike value'
  | .leaf i, _ => by
      use .text .safe (Entity.escape (untrusted i)),
        .text .safe (Entity.escape (untrusted' i)), rfl, rfl
      apply Alike.escaped
  | .escaped strings parts, h => by
      rw [IsWellShaped] at h
      obtain ⟨⟨segments, hsegments⟩, hparts⟩ := h
      obtain ⟨values, values', htmls, htmls', hvalues, hvalues', hhtmls, hhtmls', halike,
        hlength⟩ := alike_renderParts hidentity untrusted untrusted' parts hparts
      rw [← hlength] at hsegments
      rw [render, render, hvalues, hvalues', pure_bind, pure_bind]
      apply alike_escaped hsegments hhtmls hhtmls' halike
  | .raw strings parts, h => by
      rw [IsWellShaped] at h
      obtain ⟨⟨segments, hsegments⟩, hparts⟩ := h
      obtain ⟨values, values', hvalues, hvalues', halike, hlength⟩ :=
        alike_renderAll hidentity untrusted untrusted' parts hparts
      have hsegments' := hsegments
      rw [← hlength] at hsegments
      rw [← hlength, halike.length_eq] at hsegments'
      rw [render, render, hvalues, hvalues', pure_bind, pure_bind,
        host.html_of_isSegments hsegments, host.html_of_isSegments hsegments', map_pure,
        map_pure]
      refine ⟨_, _, rfl, rfl, ?_⟩
      apply Alike.text
      apply Value.significant_alternate halike
  | .element name attributes content, h => by
      rw [IsWellShaped] at h
      obtain ⟨value, value', hvalue, hvalue', mark, s, s', rfl, rfl, hs⟩ :=
        alike_render hidentity untrusted untrusted' content h
      rw [render, render, hvalue, hvalue', pure_bind, pure_bind]
      refine ⟨_, _, rfl, rfl, ?_⟩
      apply Alike.text
      apply Value.significant_element
      apply hs
  | .elementOfList name attributes contents, h => by
      rw [IsWellShaped] at h
      obtain ⟨values, values', hvalues, hvalues', halike, -⟩ :=
        alike_renderAll hidentity untrusted untrusted' contents h
      rw [render, render, hvalues, hvalues', pure_bind, pure_bind]
      refine ⟨_, _, rfl, rfl, ?_⟩
      apply Alike.text
      apply Value.significant_element
      apply Value.significant_spaced halike
  | .each items, h => by
      rw [IsWellShaped] at h
      obtain ⟨values, values', hvalues, hvalues', halike, -⟩ :=
        alike_renderAll hidentity untrusted untrusted' items h
      rw [render, render, hvalues, hvalues', pure_bind, pure_bind, hidentity.each_list,
        hidentity.each_list, map_pure, map_pure]
      refine ⟨_, _, rfl, rfl, ?_⟩
      apply Alike.text
      apply Value.significant_joinedResults halike

/-- The trees of a row are rendered to values alike. -/
theorem alike_renderAll {host : Host σ} {identity : Value}
    (hidentity : host.IsIdentity identity) (untrusted untrusted' : ι → String) :
    ∀ parts : List (Composition ι), AllAreWellShaped parts →
      ∃ values values', renderAll host identity untrusted parts = pure values
        ∧ renderAll host identity untrusted' parts = pure values'
        ∧ List.Forall₂ Alike values values' ∧ values.length = parts.length
  | [], _ => by
      use [], [], rfl, rfl, .nil
      rfl
  | part :: parts, h => by
      rw [AllAreWellShaped] at h
      obtain ⟨value, value', hvalue, hvalue', halike⟩ :=
        alike_render hidentity untrusted untrusted' part h.1
      obtain ⟨values, values', hvalues, hvalues', halikes, hlength⟩ :=
        alike_renderAll hidentity untrusted untrusted' parts h.2
      rw [renderAll, renderAll, hvalue, hvalue', pure_bind, pure_bind, hvalues, hvalues']
      use value :: values, value' :: values', rfl, rfl, .cons halike halikes
      rw [List.length_cons, hlength, List.length_cons]

/-- Untrusted texts, and the trees among them, are escaped to values alike. -/
theorem alike_renderParts {host : Host σ} {identity : Value}
    (hidentity : host.IsIdentity identity) (untrusted untrusted' : ι → String) :
    ∀ parts : List (ι ⊕ Composition ι), PartsAreWellShaped parts →
      ∃ values values' htmls htmls', renderParts host identity untrusted parts = pure values
        ∧ renderParts host identity untrusted' parts = pure values'
        ∧ host.EscapeTo values htmls ∧ host.EscapeTo values' htmls'
        ∧ List.Forall₂ Alike htmls htmls' ∧ values.length = parts.length
  | [], _ => by
      use [], [], [], [], rfl, rfl, .nil, .nil, .nil
      rfl
  | .inl i :: parts, h => by
      rw [PartsAreWellShaped] at h
      obtain ⟨values, values', htmls, htmls', hvalues, hvalues', hhtmls, hhtmls', halikes,
        hlength⟩ := alike_renderParts hidentity untrusted untrusted' parts h
      have halike : Alike (.plain (Entity.escape (untrusted i)))
          (.plain (Entity.escape (untrusted' i))) := Alike.escaped ..
      rw [renderParts, renderParts, hvalues, hvalues']
      refine ⟨_, _, _, _, rfl, rfl, .cons rfl hhtmls, .cons rfl hhtmls',
        .cons halike halikes, ?_⟩
      rw [List.length_cons, hlength, List.length_cons]
  | .inr part :: parts, h => by
      rw [PartsAreWellShaped] at h
      obtain ⟨value, value', hvalue, hvalue', hvalues⟩ :=
        alike_render hidentity untrusted untrusted' part h.1
      obtain ⟨html, html', hhtml, hhtml', halike⟩ := hvalues.escape host
      obtain ⟨values, values', htmls, htmls', hvalues, hvalues', hhtmls, hhtmls', halikes,
        hlength⟩ := alike_renderParts hidentity untrusted untrusted' parts h.2
      rw [renderParts, renderParts, hvalue, hvalue', pure_bind, pure_bind, hvalues, hvalues']
      refine ⟨_, _, _, _, rfl, rfl, .cons hhtml hhtmls, .cons hhtml' hhtmls',
        .cons halike halikes, ?_⟩
      rw [List.length_cons, hlength, List.length_cons]

end

/-- Untrusted texts add no significant character to what a tree is rendered to, remove none
and change nothing in their order. -/
theorem significant_render_eq {host : Host σ} {identity : Value}
    (hidentity : host.IsIdentity identity) {t : Composition ι} (ht : t.IsWellShaped)
    (untrusted untrusted' : ι → String) :
  ∃ mark s s', t.render host identity untrusted = pure (.text mark s)
    ∧ t.render host identity untrusted' = pure (.text mark s')
    ∧ significant s = significant s'
  := by
  obtain ⟨value, value', hvalue, hvalue', mark, s, s', rfl, rfl, hs⟩ :=
    alike_render hidentity untrusted untrusted' t ht
  use mark, s, s', hvalue, hvalue', hs

/-- A template that escapes an untrusted text and an element with two more of them. -/
def sample : Composition Bool :=
  .escaped (.tuple [.plain "<p>", .plain " ", .plain "</p>"])
    [.inl false, .inr (.elementOfList (.plain "b") (.plain "c") [.leaf true,
      .each [.raw (.list [.plain "<i>", .plain "</i>"]) [.leaf false]]])]

theorem isWellShaped_sample :
  sample.IsWellShaped
  := by
  refine ⟨⟨_, rfl, rfl, rfl⟩, ?_, trivial⟩
  refine ⟨trivial, ?_, trivial⟩
  refine ⟨?_, trivial⟩
  refine ⟨⟨_, rfl, rfl, rfl⟩, ?_⟩
  exact ⟨trivial, trivial⟩

theorem significant_render_sample :
  let f := Value.function ⟨"Function", "<f>"⟩ 0 [.required]
  Host.echo.IsIdentity f ∧ sample.IsWellShaped
    ∧ ∃ mark s s', sample.render Host.echo f (fun _ => "") =
        pure (.text mark s)
      ∧ sample.render Host.echo f (fun _ => "<!-- \" -->") =
        pure (.text mark s')
      ∧ significant s = significant s'
  := by
  intro f
  have hidentity : Host.echo.IsIdentity f := fun _ => rfl
  use hidentity, isWellShaped_sample
  apply significant_render_eq hidentity isWellShaped_sample

end Composition

end HtmlTemplate
