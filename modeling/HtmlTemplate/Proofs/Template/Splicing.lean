import HtmlTemplate.Proofs.Template.Interleaving

/-!
# Splicing

A template that stands as a value in another one may be spliced into it: the segments where
the two meet are joined, and the values of the inner template take the place of the value.
`ListTemplate.append` puts two templates side by side in this way, and
`ListTemplate.splice` and `Nesting.flatten` are made of it.  The text is the same, also
when values are escaped: no value is escaped twice, however deep it stands and however often
a result is escaped again (`nested_eq_spliced`).
-/

namespace HtmlTemplate

/-- The segment that two segments make together. -/
def joinSegments (a b : Value) : Value := .plain (a.display ++ b.display)

theorem display_joinSegments (a b : Value) :
  (joinSegments a b).display = a.display ++ b.display
  := rfl

/-- Segments side by side, where the last of the one row is joined with the first of the
other. -/
def glue : List Value → List Value → List Value
  | [a], b :: segments' => joinSegments a b :: segments'
  | a :: segments, segments' => a :: glue segments segments'
  | [], segments' => segments'

/-- Texts, and the values that stand between them. -/
structure ListTemplate where
  segments : List Value
  values : List Value
  allTexts_segments : allTexts segments = true
  length_segments : segments.length = values.length + 1

section Glue

variable {segments segments' : List Value}

theorem glue_cons_cons (a b : Value) :
  glue (a :: b :: segments) segments' = a :: glue (b :: segments) segments'
  := by
  rw [glue]
  simp

theorem allTexts_glue (h : allTexts segments = true) (h' : allTexts segments' = true) :
  allTexts (glue segments segments') = true
  := by
  induction segments with
  | nil => apply h'
  | cons a segments ih =>
    obtain ⟨ha, hsegments⟩ := allTexts_cons.mp h
    cases segments with
    | nil =>
      cases segments' with
      | nil => apply h
      | cons b segments' =>
        rw [glue]
        apply allTexts_cons.mpr
        use ⟨.plain, _, rfl⟩, (allTexts_cons.mp h').2
    | cons b segments =>
      rw [glue_cons_cons]
      apply allTexts_cons.mpr
      use ha, ih hsegments

theorem length_glue (h : segments ≠ []) (h' : segments' ≠ []) :
  (glue segments segments').length + 1 = segments.length + segments'.length
  := by
  induction segments with
  | nil => contradiction
  | cons a segments ih =>
    cases segments with
    | nil =>
      cases segments' with
      | nil => contradiction
      | cons b segments' =>
        simp only [glue, List.length_cons, List.length_nil]
        omega
    | cons b segments =>
      have := ih (List.cons_ne_nil b segments)
      rw [glue_cons_cons, List.length_cons, List.length_cons (a := a)]
      omega

/-- Segments side by side have the texts of both rows between them. -/
theorem alternate_glue (texts texts' : List String) (h : segments.length = texts.length + 1)
    (h' : segments'.length = texts'.length + 1) :
  alternate ((glue segments segments').map Value.display) (texts ++ texts')
    = alternate (segments.map Value.display) texts
      ++ alternate (segments'.map Value.display) texts'
  := by
  induction segments generalizing texts with
  | nil => cases h
  | cons a segments ih =>
    cases segments with
    | nil =>
      obtain rfl := List.length_eq_zero_iff.mp (Nat.succ.inj h).symm
      cases segments' with
      | nil => cases h'
      | cons b segments' =>
        rw [glue, List.map_cons, display_joinSegments]
        cases texts' with
        | nil =>
          obtain rfl := List.length_eq_zero_iff.mp (Nat.succ.inj h')
          rfl
        | cons text texts' =>
          apply String.append_assoc
    | cons b segments =>
      cases texts with
      | nil => cases h
      | cons text texts =>
        have := ih texts (Nat.succ.inj h)
        rw [glue_cons_cons, List.cons_append]
        simp only [List.map_cons, alternate, String.append_assoc] at this ⊢
        rw [this]

end Glue

namespace ListTemplate

theorem segments_ne_nil (t : ListTemplate) :
  t.segments ≠ []
  := by
  have := t.length_segments
  intro h
  simp [h] at this

/-- Two templates side by side, with the segments where they meet joined. -/
def append (t t' : ListTemplate) : ListTemplate where
  segments := glue t.segments t'.segments
  values := t.values ++ t'.values
  allTexts_segments := allTexts_glue t.allTexts_segments t'.allTexts_segments
  length_segments := by
    have := length_glue t.segments_ne_nil t'.segments_ne_nil
    have := t.length_segments
    have := t'.length_segments
    rw [List.length_append]
    omega

/-- The template up to the value at a place. -/
def before (t : ListTemplate) (i : Fin t.values.length) : ListTemplate where
  segments := t.segments.take (i + 1)
  values := t.values.take i
  allTexts_segments := by
    apply List.all_eq_true.mpr
    intro segment hsegment
    apply List.all_eq_true.mp t.allTexts_segments
    apply List.mem_of_mem_take hsegment
  length_segments := by
    have := t.length_segments
    simp only [List.length_take]
    omega

/-- The template behind the value at a place. -/
def behind (t : ListTemplate) (i : Fin t.values.length) : ListTemplate where
  segments := t.segments.drop (i + 1)
  values := t.values.drop (i + 1)
  allTexts_segments := by
    apply List.all_eq_true.mpr
    intro segment hsegment
    apply List.all_eq_true.mp t.allTexts_segments
    apply List.mem_of_mem_drop hsegment
  length_segments := by
    have := t.length_segments
    simp only [List.length_drop]
    omega

/-- A template with another one in the place of a value: the segment before that place is
joined with the first segment of the inner template, the last one with the segment behind
the place, and the inner values stand where the value stood. -/
def splice (outer : ListTemplate) (i : Fin outer.values.length) (inner : ListTemplate) :
    ListTemplate :=
  ((outer.before i).append inner).append (outer.behind i)

theorem values_splice (outer : ListTemplate) (i : Fin outer.values.length)
    (inner : ListTemplate) :
  (outer.splice i inner).values
    = (outer.before i).values ++ inner.values ++ (outer.behind i).values
  := rfl

/-- The text of a template with texts for its values. -/
def text (t : ListTemplate) (texts : List String) : String :=
  alternate (t.segments.map Value.display) texts

/-- The segments of the template are given as a list or a tuple. -/
def IsGivenBy (t : ListTemplate) (strings : Value) : Prop :=
  strings.listed? = some t.segments

theorem IsGivenBy.isSegments {t : ListTemplate} {strings : Value} (h : t.IsGivenBy strings) :
  strings.IsSegments t.segments t.values.length
  := by
  constructor
  · apply h
  · apply t.allTexts_segments
  · apply t.length_segments

theorem text_append (t t' : ListTemplate) {texts texts' : List String}
    (h : texts.length = t.values.length) (h' : texts'.length = t'.values.length) :
  (t.append t').text (texts ++ texts') = t.text texts ++ t'.text texts'
  := by
  apply alternate_glue
  · rw [h, t.length_segments]
  · rw [h', t'.length_segments]

/-- The inner template is spliced in with the text it would have by itself. -/
theorem text_splice (outer inner : ListTemplate) (i : Fin outer.values.length)
    {texts inside texts' : List String} (h : texts.length = (outer.before i).values.length)
    (hinside : inside.length = inner.values.length)
    (h' : texts'.length = (outer.behind i).values.length) :
  (outer.splice i inner).text (texts ++ inside ++ texts')
    = outer.text (texts ++ inner.text inside :: texts')
  := by
  have happend : (texts ++ inside).length = ((outer.before i).append inner).values.length := by
    rw [List.length_append, h, hinside, append, List.length_append]
  have hsegments : outer.segments = (outer.before i).segments ++ (outer.behind i).segments :=
    (List.take_append_drop (i + 1) outer.segments).symm
  rw [splice, text_append _ _ happend h', text_append _ _ h hinside, text, text, text, text,
    hsegments, List.map_append, alternate_append_cons, String.append_assoc]
  rw [List.length_map, h, length_segments]

end ListTemplate

/-! ### Calls that insert -/

section Inserts

variable {σ : Type} {call : Value → List Value → Run σ Value} {shows : Value → String → Prop}
  {result : String → Value}

/-- A call puts what its values show between the segments, and its result shows this. -/
structure Inserts (call : Value → List Value → Run σ Value) (shows : Value → String → Prop)
    (result : String → Value) : Prop where
  call_eq : ∀ {strings : Value} {segments values : List Value} {texts : List String},
    strings.IsSegments segments values.length → values ≠ [] →
    List.Forall₂ shows values texts →
    call strings values = pure (result (alternate (segments.map Value.display) texts))
  shows_result : ∀ s, shows (result s) s

/-- The result of a call for the inner template is worth as much, in the place of a value
of the outer template, as the inner template spliced in there. -/
def IsSpliced (call : Value → List Value → Run σ Value) (outer inner : ListTemplate)
    (i : Fin outer.values.length) : Prop :=
  ∀ strings strings' strings'' : Value, outer.IsGivenBy strings → inner.IsGivenBy strings' →
    (outer.splice i inner).IsGivenBy strings'' →
    ∃ x y, call strings' inner.values = pure x
      ∧ call strings (outer.values.set i x) = pure y
      ∧ call strings'' (outer.splice i inner).values = pure y

theorem exists_forall₂_shows {values : List Value} (h : ∀ v ∈ values, ∃ s, shows v s) :
  ∃ texts, List.Forall₂ shows values texts
  := by
  induction values with
  | nil => use [], .nil
  | cons v values ih =>
    obtain ⟨s, hs⟩ := h v List.mem_cons_self
    obtain ⟨texts, htexts⟩ := ih fun v hv => h v (List.mem_cons_of_mem _ hv)
    use s :: texts, .cons hs htexts

theorem Inserts.isSpliced (h : Inserts call shows result) {outer inner : ListTemplate}
    {i : Fin outer.values.length} (hinner : inner.values ≠ [])
    (hshows : ∀ v ∈ (outer.splice i inner).values, ∃ s, shows v s) :
  IsSpliced call outer inner i
  := by
  intro strings strings' strings'' houter hinner' hsplice
  obtain ⟨texts, htexts⟩ := exists_forall₂_shows fun v hv =>
    hshows v (List.mem_append_left _ (List.mem_append_left _ hv))
  obtain ⟨inside, hinside⟩ := exists_forall₂_shows fun v hv =>
    hshows v (List.mem_append_left _ (List.mem_append_right _ hv))
  obtain ⟨texts', htexts'⟩ := exists_forall₂_shows fun v hv =>
    hshows v (List.mem_append_right _ hv)
  have hset : outer.values.set i (result (inner.text inside))
      = (outer.before i).values ++ result (inner.text inside) :: (outer.behind i).values := by
    rw [List.set_eq_take_append_cons_drop, if_pos i.isLt]
    rfl
  have houter' : strings.IsSegments outer.segments
      (outer.values.set i (result (inner.text inside))).length := by
    rw [List.length_set]
    apply houter.isSegments
  use result (inner.text inside), result (outer.text (texts ++ inner.text inside :: texts'))
  refine ⟨?_, ?_, ?_⟩
  · apply h.call_eq hinner'.isSegments hinner hinside
  · apply h.call_eq houter'
    · simp [hset]
    · rw [hset]
      apply List.rel_append htexts
      apply List.Forall₂.cons (h.shows_result _) htexts'
  · rw [← outer.text_splice inner i htexts.length_eq.symm hinside.length_eq.symm
      htexts'.length_eq.symm]
    apply h.call_eq hsplice.isSegments
    · simp [ListTemplate.values_splice, hinner]
    · apply List.rel_append (List.rel_append htexts hinside) htexts'

/-- Values are inserted by their texts. -/
theorem Host.inserts_html (host : Host σ) :
  Inserts (fun strings values => .plain <$> host.html strings values)
    (fun value s => value.display = s) .plain
  := by
  constructor
  · intro strings segments values texts hsegments _ htexts
    obtain rfl : values.map Value.display = texts := by
      rw [← List.forall₂_eq_eq_eq]
      apply List.forall₂_map_left_iff.mpr htexts
    rw [host.html_of_isSegments hsegments, map_pure]
  · intro s
    rfl

/-- All texts have HTML. -/
theorem Host.exists_hasHtml (host : Host σ) {values : List Value}
    (h : allTexts values = true) :
  ∀ v ∈ values, ∃ s, host.HasHtml v s
  := by
  intro v hv
  have htext := List.all_eq_true.mp h v hv
  cases v with
  | text mark s =>
    cases mark with
    | plain =>
      use Entity.escape s, .plain (Entity.escape s), rfl
      rfl
    | safe =>
      use s, .text .safe s, rfl
      rfl
    | markup =>
      use s, .text .markup s, rfl
      rfl
  | _ => cases htext

/-- Values are inserted by the texts of their HTML. -/
theorem Host.inserts_safeHtml (host : Host σ) :
  Inserts host.safeHtml host.HasHtml (.text .safe)
  := by
  constructor
  · intro strings segments values texts hsegments hvalues htexts
    obtain ⟨htmls, hhtmls, rfl⟩ := Host.exists_escapeTo htexts
    apply hhtmls.safeHtml_of_isSegments hsegments hvalues
  · intro s
    use .text .safe s, rfl
    rfl

end Inserts

/-! ### Nested templates -/

/-- Templates that escape their values, where the result of a template may be a value of
another one. -/
inductive Nesting where
  | value (v : Value)
  /-- The result of a template, escaped by itself a number of times. -/
  | template (wraps : Nat) (strings : Value) (parts : List Nesting)

variable {σ : Type}

/-- A value escaped by itself a number of times. -/
def Host.rewrap (host : Host σ) : Nat → Value → Run σ Value
  | 0, value => pure value
  | n + 1, value => do host.rewrap n (← host.safeHtml value [])

theorem Host.rewrap_safe (host : Host σ) (n : Nat) (s : String) :
  host.rewrap n (.text .safe s) = pure (.text .safe s)
  := by
  induction n with
  | zero => rfl
  | succ n ih => rw [rewrap, host.safeHtml_safe, pure_bind, ih]

namespace Nesting

mutual

/-- The value of a tree of templates. -/
def render (host : Host σ) : Nesting → Run σ Value
  | .value v => pure v
  | .template wraps strings parts => do
    let values ← renderAll host parts
    host.rewrap wraps (← host.safeHtml strings values)

/-- The values of trees, from first to last. -/
def renderAll (host : Host σ) : List Nesting → Run σ (List Value)
  | [] => pure []
  | part :: parts => do
    let value ← render host part
    return value :: (← renderAll host parts)

end

/-- A template without values. -/
def ofSegment (segment : Value) : ListTemplate where
  segments := [.plain segment.display]
  values := []
  allTexts_segments := rfl
  length_segments := rfl

mutual

/-- The template of all the segments of a tree, with its leaves for values. -/
def flatten : Nesting → ListTemplate
  | .value v => ⟨[.plain "", .plain ""], [v], rfl, rfl⟩
  | .template _ strings parts => flattenAll (strings.listed?.getD []) parts

/-- Trees spliced between segments. -/
def flattenAll : List Value → List Nesting → ListTemplate
  | segment :: segments, part :: parts =>
    (ofSegment segment).append (part.flatten.append (flattenAll segments parts))
  | [segment], [] => ofSegment segment
  | _, _ => ofSegment (.plain "")

end

/-- The value of a tree whose HTML has a text: the value itself, or else the text. -/
def result : Nesting → String → Value
  | .value v, _ => v
  | .template .., s => .text .safe s

mutual

/-- Every template of a tree has values, and its segments are texts, one more than the
values. -/
def IsWellShaped : Nesting → Prop
  | .value _ => True
  | .template _ strings parts =>
    (∃ segments, strings.IsSegments segments parts.length) ∧ parts ≠ []
      ∧ AllAreWellShaped parts

/-- All trees of a row are well shaped. -/
def AllAreWellShaped : List Nesting → Prop
  | [] => True
  | part :: parts => part.IsWellShaped ∧ AllAreWellShaped parts

end

theorem text_value (v : Value) (s : String) :
  (flatten (.value v)).text [s] = s
  := by
  show "" ++ (s ++ "") = s
  rw [String.append_empty, String.empty_append]

theorem values_flattenAll_cons (segment : Value) (segments : List Value) (part : Nesting)
    (parts : List Nesting) :
  (flattenAll (segment :: segments) (part :: parts)).values
    = part.flatten.values ++ (flattenAll segments parts).values
  := by
  rw [flattenAll]
  rfl

theorem text_flattenAll_cons {segment : Value} {segments : List Value} {part : Nesting}
    {parts : List Nesting} {inside texts : List String}
    (hinside : inside.length = part.flatten.values.length)
    (htexts : texts.length = (flattenAll segments parts).values.length) :
  (flattenAll (segment :: segments) (part :: parts)).text (inside ++ texts)
    = segment.display ++ (part.flatten.text inside ++ (flattenAll segments parts).text texts)
  := by
  have hrest : (inside ++ texts).length
      = (part.flatten.append (flattenAll segments parts)).values.length := by
    rw [List.length_append, hinside, htexts, ListTemplate.append, List.length_append]
  have hsegment : ([] : List String).length = (ofSegment segment).values.length := rfl
  rw [flattenAll, ← part.flatten.text_append _ hinside htexts]
  apply ListTemplate.text_append _ _ hsegment hrest

variable {host : Host σ}

/-- A template is rendered to its segments and the HTML of its values, however often its
result is escaped again. -/
theorem render_template {strings : Value} {segments values : List Value} {parts : List Nesting}
    {texts : List String} (hsegments : strings.IsSegments segments parts.length)
    (hparts : parts ≠ []) (hvalues : renderAll host parts = pure values)
    (hlength : values.length = parts.length)
    (htexts : List.Forall₂ host.HasHtml values texts) (wraps : Nat) :
  render host (.template wraps strings parts)
    = pure (.text .safe (alternate (segments.map Value.display) texts))
  := by
  have hne : values ≠ [] := by
    rintro rfl
    apply hparts (List.length_eq_zero_iff.mp hlength.symm)
  rw [← hlength] at hsegments
  rw [render, hvalues, pure_bind, host.inserts_safeHtml.call_eq hsegments hne htexts, pure_bind,
    host.rewrap_safe]

mutual

/-- The HTML of a tree is the text of the flattened template. -/
theorem render_flatten :
    ∀ t : Nesting, t.IsWellShaped → (∀ v ∈ t.flatten.values, ∃ s, host.HasHtml v s) →
      ∃ texts, render host t = pure (t.result (t.flatten.text texts))
        ∧ List.Forall₂ host.HasHtml t.flatten.values texts
        ∧ host.HasHtml (t.result (t.flatten.text texts)) (t.flatten.text texts)
  | .value v, _, h => by
      obtain ⟨s, hs⟩ := h v List.mem_cons_self
      use [s], rfl, .cons hs .nil
      rw [text_value]
      apply hs
  | .template wraps strings parts, ht, h => by
      rw [IsWellShaped] at ht
      obtain ⟨⟨segments, hsegments⟩, hparts, hall⟩ := ht
      rw [flatten, hsegments.listed, Option.getD_some] at h
      obtain ⟨values, htmls, texts, hvalues, hlength, hhtmls, htexts, htext⟩ :=
        renderAll_flattenAll parts hall segments hsegments.length h
      rw [flatten, hsegments.listed, Option.getD_some]
      use texts
      rw [← htext]
      use render_template hsegments hparts hvalues hlength hhtmls wraps, htexts
      apply host.inserts_safeHtml.shows_result

/-- Trees between segments have the HTML of the flattened template between them. -/
theorem renderAll_flattenAll :
    ∀ parts : List Nesting, AllAreWellShaped parts → ∀ segments : List Value,
      segments.length = parts.length + 1 →
      (∀ v ∈ (flattenAll segments parts).values, ∃ s, host.HasHtml v s) →
      ∃ values htmls texts, renderAll host parts = pure values
        ∧ values.length = parts.length ∧ List.Forall₂ host.HasHtml values htmls
        ∧ List.Forall₂ host.HasHtml (flattenAll segments parts).values texts
        ∧ alternate (segments.map Value.display) htmls = (flattenAll segments parts).text texts
  | [], _, [segment], _, _ => by
      use [], [], [], rfl, rfl, .nil, .nil
      rfl
  | part :: parts, hall, segment :: segments, hlength, h => by
      rw [AllAreWellShaped] at hall
      rw [values_flattenAll_cons] at h
      obtain ⟨inside, hvalue, hinside, hhtml⟩ :=
        render_flatten part hall.1 fun v hv => h v (List.mem_append_left _ hv)
      obtain ⟨values, htmls, texts, hvalues, hlength', hhtmls, htexts, htext⟩ :=
        renderAll_flattenAll parts hall.2 segments (Nat.succ.inj hlength) fun v hv =>
          h v (List.mem_append_right _ hv)
      use part.result (part.flatten.text inside) :: values,
        part.flatten.text inside :: htmls, inside ++ texts
      rw [renderAll, hvalue, pure_bind, hvalues, List.length_cons, hlength',
        values_flattenAll_cons, text_flattenAll_cons hinside.length_eq.symm
          htexts.length_eq.symm, ← htext]
      use rfl, rfl, .cons hhtml hhtmls, List.rel_append hinside htexts
      rfl

end

theorem values_flatten_ne_nil :
    ∀ t : Nesting, t.IsWellShaped → t.flatten.values ≠ []
  | .value v, _ => by
      apply List.cons_ne_nil
  | .template _ strings [], h => by
      rw [IsWellShaped] at h
      have := h.2.1
      contradiction
  | .template _ strings (part :: parts), h => by
      rw [IsWellShaped, AllAreWellShaped] at h
      obtain ⟨⟨segments, hsegments⟩, -, hpart, -⟩ := h
      cases segments with
      | nil =>
        have := hsegments.length
        contradiction
      | cons segment segments =>
        rw [flatten, hsegments.listed, Option.getD_some, values_flattenAll_cons]
        apply List.append_ne_nil_of_left_ne_nil
        apply values_flatten_ne_nil part hpart

end Nesting

/-- Templates that stand as values in others may be spliced into them, whether values are
inserted as they are or escaped.  Of nested templates that escape, with results escaped
again any number of times, this leaves one template, in which every leaf is escaped once. -/
theorem nested_eq_spliced (host : Host σ) :
  (∀ (outer inner : ListTemplate) (i : Fin outer.values.length), inner.values ≠ [] →
    IsSpliced (fun strings values => .plain <$> host.html strings values) outer inner i)
  ∧ (∀ (outer inner : ListTemplate) (i : Fin outer.values.length), inner.values ≠ [] →
    (∀ v ∈ (outer.splice i inner).values, ∃ s, host.HasHtml v s) →
    IsSpliced host.safeHtml outer inner i)
  ∧ ∀ (wraps : Nat) (strings : Value) (parts : List Nesting) (t : Nesting),
    t = .template wraps strings parts → t.IsWellShaped →
    (∀ v ∈ t.flatten.values, ∃ s, host.HasHtml v s) →
    ∃ texts, List.Forall₂ host.HasHtml t.flatten.values texts
      ∧ t.render host = pure (.text .safe (t.flatten.text texts))
      ∧ ∀ strings', t.flatten.IsGivenBy strings' →
        host.safeHtml strings' t.flatten.values = pure (.text .safe (t.flatten.text texts))
  := by
  refine ⟨?_, ?_, ?_⟩
  · intro outer inner i hinner
    apply host.inserts_html.isSpliced hinner
    intro v _
    use v.display
  · intro outer inner i hinner hhtml
    apply host.inserts_safeHtml.isSpliced hinner hhtml
  · rintro wraps strings parts t rfl ht hhtml
    obtain ⟨texts, hrender, htexts, -⟩ := Nesting.render_flatten _ ht hhtml
    use texts, htexts, hrender
    intro strings' h
    apply host.inserts_safeHtml.call_eq h.isSegments (Nesting.values_flatten_ne_nil _ ht) htexts

/-- A paragraph around an untrusted text and a line break. -/
def paragraph : ListTemplate :=
  ⟨[.plain "<p>", .plain " ", .plain "</p>"], [.plain "<", .text .markup "<br>"], rfl, rfl⟩

/-- A text in parentheses. -/
def parenthesis : ListTemplate := ⟨[.plain "(", .plain ")"], [.plain "&"], rfl, rfl⟩

/-- The parenthesis in the paragraph, with both results escaped again. -/
def nested : Nesting :=
  .template 2 (.list paragraph.segments)
    [.template 1 (.tuple parenthesis.segments) (parenthesis.values.map .value),
      .value (.text .markup "<br>")]

theorem nested_eq_spliced_paragraph :
  IsSpliced (fun strings values => .plain <$> Host.echo.html strings values)
    paragraph parenthesis ⟨0, by decide⟩
  ∧ IsSpliced Host.echo.safeHtml paragraph parenthesis ⟨0, by decide⟩
  ∧ ∃ texts, List.Forall₂ Host.echo.HasHtml nested.flatten.values texts
    ∧ nested.render Host.echo = pure (.text .safe (nested.flatten.text texts))
    ∧ ∀ strings', nested.flatten.IsGivenBy strings' →
      Host.echo.safeHtml strings' nested.flatten.values
        = pure (.text .safe (nested.flatten.text texts))
  := by
  have hvalues : parenthesis.values ≠ [] := List.cons_ne_nil _ _
  have hnested : nested.IsWellShaped := by
    refine ⟨⟨_, rfl, rfl, rfl⟩, List.cons_ne_nil _ _, ?_, trivial, trivial⟩
    refine ⟨⟨_, rfl, rfl, rfl⟩, List.cons_ne_nil _ _, trivial, trivial⟩
  obtain ⟨hhtml, hsafeHtml, hnesting⟩ := nested_eq_spliced Host.echo
  refine ⟨?_, ?_, ?_⟩
  · apply hhtml paragraph parenthesis _ hvalues
  · apply hsafeHtml paragraph parenthesis _ hvalues
    apply Host.echo.exists_hasHtml
    rfl
  · apply hnesting _ _ _ nested rfl hnested
    apply Host.echo.exists_hasHtml
    rfl

end HtmlTemplate
