import HtmlTemplate.Proofs.Template.Interleaving
import HtmlTemplate.Proofs.Text.Escaped
import HtmlTemplate.Proofs.Text.Outline
import Mathlib.Data.List.FinRange
import Mathlib.Data.List.Infix

/-!
# Stripping escaped templates

Untrusted texts cannot open, close or hide in a comment: if the delimiters of comments
begin and end inside segments (`HoldDelimiters`), then a template with its values escaped
has without its comments the HTML of another template, whose segments do not depend on
the values and whose values are some of them, in the same order (`stripped_eq_selected`).
-/

namespace HtmlTemplate

variable {ι σ : Type}

/-- No segment but the last ends like the beginning of an opener, and no segment but the
first begins like the end of a closer. -/
structure HoldDelimiters (segments : List String) : Prop where
  begun : ∀ segment ∈ segments.dropLast, ∀ u ∈ ["<", "<!", "<!-"],
    ¬ u.toList <:+ segment.toList
  ended : ∀ segment ∈ segments.tail, ∀ v ∈ [">", "->"], ¬ v.toList <+: segment.toList

/-! ### Outlines of templates -/

namespace Outline

open Comment (opener closer)

/-- The outline of a segment and the places behind it, with a segment behind each. -/
def ofSegments (segment : String) : List (ι × String) → Outline ι
  | [] => segment.toList.map .inl
  | (i, next) :: rest => segment.toList.map .inl ++ .inr i :: ofSegments next rest

variable {segment : String} {rest : List (ι × String)}

/-- The text of an outline of segments is the segments with the texts of the places between
them. -/
theorem spell_ofSegments (texts : ι → String) (segment : String) (rest : List (ι × String)) :
  spell (fun i => (texts i).toList) (ofSegments segment rest)
    = (alternate (segment :: rest.map (·.2)) ((rest.map (·.1)).map texts)).toList
  := by
  induction rest generalizing segment with
  | nil =>
    rw [ofSegments, ← List.append_nil (List.map _ _), spell_map_inl_append, spell_nil,
      List.append_nil]
    rfl
  | cons p rest ih =>
    obtain ⟨i, next⟩ := p
    rw [ofSegments, spell_map_inl_append, spell_inr_cons, ih]
    simp only [List.map_cons, alternate, String.toList_append]

theorem places_ofSegments (segment : String) (rest : List (ι × String)) :
  places (ofSegments segment rest) = rest.map (·.1)
  := by
  induction rest generalizing segment with
  | nil =>
    rw [ofSegments, ← List.append_nil (List.map _ _), places_map_inl_append]
    rfl
  | cons p rest ih =>
    obtain ⟨i, next⟩ := p
    rw [ofSegments, places_map_inl_append, places_inr_cons, ih, List.map_cons]

/-- Characters in front of an outline of segments belong to its first segment. -/
theorem ofSegments_cons (c : Char) (segment : String) (rest : List (ι × String)) :
  ofSegments (String.ofList (c :: segment.toList)) rest = .inl c :: ofSegments segment rest
  := by
  cases rest with
  | nil => rw [ofSegments, ofSegments, String.toList_ofList, List.map_cons]
  | cons p rest =>
    rw [ofSegments, ofSegments, String.toList_ofList, List.map_cons, List.cons_append]

/-- Every outline is that of some segments. -/
theorem exists_ofSegments (cells : Outline ι) :
  ∃ segment rest, ofSegments segment rest = cells
  := by
  induction cells with
  | nil =>
    use "", []
    rfl
  | cons cell cells ih =>
    obtain ⟨segment, rest, rfl⟩ := ih
    cases cell with
    | inl c =>
      use String.ofList (c :: segment.toList), rest
      apply ofSegments_cons
    | inr i =>
      use "", (i, segment) :: rest
      rfl

/-- What an outline of segments begins with, up to a place, its first segment does. -/
theorem prefix_of_prefix_ofSegments {v : List Char}
    (h : v.map .inl <+: ofSegments segment rest) :
  v <+: segment.toList
  := by
  cases rest with
  | nil =>
    apply prefix_of_map_prefix_append (t := [])
    · simp
    · rw [List.append_nil]
      apply h
  | cons p rest =>
    obtain ⟨i, next⟩ := p
    apply prefix_of_map_prefix_append (t := .inr i :: ofSegments next rest)
    · simp
    · apply h

/-- The words that an opener may begin with, and end behind. -/
theorem exists_of_opener {u v : List Char} (h : opener = u ++ v) (hu : u ≠ []) (hv : v ≠ []) :
  ∃ w ∈ ["<", "<!", "<!-"], w.toList = u
  := by
  have hinits : opener.inits = [[], ['<'], ['<', '!'], ['<', '!', '-'], opener] := rfl
  have hinit : u ∈ opener.inits := by
    rw [List.mem_inits, h]
    apply List.prefix_append
  simp only [hinits, List.mem_cons, List.not_mem_nil, or_false] at hinit
  obtain rfl | rfl | rfl | rfl | rfl := hinit
  · contradiction
  · use "<"
    simp
  · use "<!"
    simp
  · use "<!-"
    simp
  · obtain rfl : v = [] := List.append_right_eq_self.mp h.symm
    contradiction

/-- The words that a closer may end with, and begin before. -/
theorem exists_of_closer {u v : List Char} (h : closer = u ++ v) (hu : u ≠ []) (hv : v ≠ []) :
  ∃ w ∈ [">", "->"], w.toList = v
  := by
  have htails : closer.tails = [closer, ['-', '>'], ['>'], []] := rfl
  have htail : v ∈ closer.tails := by
    rw [List.mem_tails, h]
    apply List.suffix_append
  simp only [htails, List.mem_cons, List.not_mem_nil, or_false] at htail
  obtain rfl | rfl | rfl | rfl := htail
  · obtain rfl : u = [] := List.append_left_eq_self.mp h.symm
    contradiction
  · use "->"
    simp
  · use ">"
    simp
  · contradiction

/-- Places between segments that hold the delimiters are apart from them. -/
theorem isApart_ofSegments (h : HoldDelimiters (segment :: rest.map (·.2))) :
  IsApart (ofSegments segment rest)
  := by
  induction rest generalizing segment with
  | nil => apply isApart_map_inl
  | cons p rest ih =>
    obtain ⟨i, next⟩ := p
    have hnext : HoldDelimiters (next :: rest.map (·.2)) := by
      constructor
      · intro other hother
        apply h.begun other (List.mem_cons_of_mem segment hother)
      · intro other hother
        apply h.ended other (List.mem_cons_of_mem next hother)
    apply (ih hnext).append_inr_cons
    · intro u v huv hu hv hsuffix
      obtain ⟨w, hw, rfl⟩ := exists_of_opener huv hu hv
      apply h.begun segment List.mem_cons_self w hw hsuffix
    · intro u v huv hu hv hprefix
      obtain ⟨w, hw, rfl⟩ := exists_of_closer huv hu hv
      apply h.ended next List.mem_cons_self w hw
      apply prefix_of_prefix_ofSegments hprefix

end Outline

/-! ### Stripping -/

/-- The outcome for a template that is made of segments and a row of values, with the values
escaped. -/
def Host.safeMade (host : Host σ) (strings row : Value) : Run σ Value := do
  let template ← .ofExcept (Template.make strings row)
  host.safeHtml template.toValue []

theorem Host.escapeTo_plain (host : Host σ) (texts : ι → String) (is : List ι) :
  host.EscapeTo (is.map fun i => .plain (texts i))
    (is.map fun i => .plain (Entity.escape (texts i)))
  := by
  induction is with
  | nil => apply List.Forall₂.nil
  | cons i is ih => exact .cons rfl ih

/-- Untrusted texts between segments stand there escaped. -/
theorem Host.safeMade_plain (host : Host σ) {strings : Value} {segments : List Value}
    {is : List ι} (h : strings.IsSegments segments is.length) (kind : SequenceKind)
    (texts : ι → String) :
  host.safeMade strings (.sequence kind (is.map fun i => .plain (texts i)))
    = pure (.text .safe (alternate (segments.map Value.display)
        (is.map fun i => Entity.escape (texts i))))
  := by
  have hsegments : strings.IsSegments segments
      (is.map fun i => Value.plain (texts i)).length := by
    rw [List.length_map]
    apply h
  rw [Host.safeMade, Template.make_of_isSegments hsegments, Run.ofExcept_ok, pure_bind]
  show host.safeHtml (.template _ _) [] = _
  rw [(host.escapeTo_plain texts is).safeHtml_template hsegments, List.map_map]
  rfl

theorem Host.safeMade_tuple (host : Host σ) (segments : List String) (is : List ι)
    (h : segments.length = is.length + 1) (kind : SequenceKind) (texts : ι → String) :
  host.safeMade (.tuple (segments.map .plain)) (.sequence kind (is.map fun i => .plain (texts i)))
    = pure (.text .safe (alternate segments (is.map fun i => Entity.escape (texts i))))
  := by
  have hsegments : (Value.tuple (segments.map .plain)).IsSegments (segments.map .plain)
      is.length := by
    constructor
    · rfl
    · simp [allTexts, Value.plain]
    · rw [List.length_map, h]
  have hdisplay : (segments.map Value.plain).map Value.display = segments := by
    rw [List.map_map]
    apply List.map_id
  rw [host.safeMade_plain hsegments, hdisplay]

/-- The segments behind the first one, each with the place in front of it. -/
theorem Value.IsSegments.exists_places {strings : Value} {segments : List Value} {n : Nat}
    (h : strings.IsSegments segments n) :
  ∃ (segment : String) (rest : List (Fin n × String)),
    segments.map Value.display = segment :: rest.map (·.2) ∧ rest.map (·.1) = List.finRange n
  := by
  obtain ⟨first, others, rfl⟩ := List.exists_cons_of_length_eq_add_one h.length
  have hlength : (List.finRange n).length = (others.map Value.display).length := by
    rw [List.length_finRange, List.length_map, ← Nat.succ.inj h.length]
  use first.display, (List.finRange n).zip (others.map Value.display)
  constructor
  · rw [List.map_cons, List.map_snd_zip hlength.ge]
  · apply List.map_fst_zip hlength.le

/-- Segments that hold the delimiters, with escaped texts between them, are stripped to
segments with the escaped texts of some places between them, whatever the texts are. -/
theorem exists_strip_alternate {segment : String} {rest : List (ι × String)}
    (h : HoldDelimiters (segment :: rest.map (·.2))) :
  ∃ (segment' : String) (rest' : List (ι × String)),
    (rest'.map (·.1)).Sublist (rest.map (·.1))
    ∧ ∀ texts : ι → String,
      Comment.strip (alternate (segment :: rest.map (·.2))
          ((rest.map (·.1)).map fun i => Entity.escape (texts i)))
        = alternate (segment' :: rest'.map (·.2))
          ((rest'.map (·.1)).map fun i => Entity.escape (texts i))
  := by
  obtain ⟨segment', rest', hcells⟩ :=
    Outline.exists_ofSegments (Outline.outside false (Outline.ofSegments segment rest))
  use segment', rest'
  constructor
  · rw [← Outline.places_ofSegments segment', hcells, ← Outline.places_ofSegments segment]
    apply (Outline.outside_sublist _ _).filterMap
  · intro texts
    rw [← String.toList_inj, Comment.strip, String.toList_ofList,
      ← Outline.spell_ofSegments fun i => Entity.escape (texts i),
      ← Outline.spell_ofSegments fun i => Entity.escape (texts i), hcells]
    apply Outline.outside_spell
    · intro i
      apply Entity.not_mem_escape rfl
    · intro i
      apply Entity.not_mem_escape rfl
    · apply Outline.isApart_ofSegments h

/-- The place inside a comment is lost, and the segments around the comment are joined. -/
example :
  Outline.outside false
      (Outline.ofSegments "<b>" [(0, "</b><!-- "), (1, " --><i>"), (2, "</i>")])
    = Outline.ofSegments "<b>" [(0, "</b><i>"), (2, "</i>")]
  := by
  cbv

/-- If the delimiters of comments begin and end inside segments, then a template with
untrusted texts, escaped, is stripped to what other segments give with some of the texts,
in the same order.  Which segments and which texts does not depend on the texts. -/
theorem stripped_eq_selected {strings : Value} {segments : List Value} {n : Nat}
    (hsegments : strings.IsSegments segments n)
    (hdelimiters : HoldDelimiters (segments.map Value.display)) :
  ∃ (segments' : List String) (kept : List (Fin n)), kept.Pairwise (· < ·)
    ∧ ∀ {σ : Type} (host : Host σ) (kind : SequenceKind) (untrusted : Fin n → String),
      ∃ s s' : String,
        host.safeMade strings (.sequence kind (List.ofFn fun i => .plain (untrusted i)))
          = pure (.text .safe s)
        ∧ host.safeMade (.tuple (segments'.map .plain))
            (.sequence kind (kept.map fun i => .plain (untrusted i)))
          = pure (.text .safe s')
        ∧ withoutComments (.text .safe s) = .ok (.plain s')
  := by
  obtain ⟨segment, rest, hrest, hplaces⟩ := hsegments.exists_places
  rw [hrest] at hdelimiters
  obtain ⟨segment', rest', hsublist, hstrip⟩ := exists_strip_alternate hdelimiters
  rw [hplaces] at hsublist
  rw [hplaces, ← hrest] at hstrip
  use segment' :: rest'.map (·.2), rest'.map (·.1)
  constructor
  · apply (List.pairwise_lt_finRange n).sublist hsublist
  · intro σ host kind untrusted
    have hmade : host.safeMade strings (.sequence kind (List.ofFn fun i => .plain (untrusted i)))
        = pure (.text .safe (alternate (segments.map Value.display)
          ((List.finRange n).map fun i => Entity.escape (untrusted i)))) := by
      rw [List.ofFn_eq_map]
      apply host.safeMade_plain
      rw [List.length_finRange]
      apply hsegments
    have hselected := host.safeMade_tuple (segment' :: rest'.map (·.2)) (rest'.map (·.1))
      (by simp) kind untrusted
    refine ⟨_, _, hmade, hselected, ?_⟩
    rw [withoutComments, hstrip]

/-- Segments with a comment around the second of three places. -/
def commented : List Value :=
  [.plain "<b>", .plain "</b><!-- ", .plain " --><i>", .plain "</i>"]

theorem stripped_eq_selected_commented :
  (Value.list commented).IsSegments commented 3
    ∧ HoldDelimiters (commented.map Value.display)
    ∧ ∃ (segments' : List String) (kept : List (Fin 3)), kept.Pairwise (· < ·)
      ∧ ∀ untrusted : Fin 3 → String, ∃ s s' : String,
        Host.echo.safeMade (.list commented) (.tuple (List.ofFn fun i => .plain (untrusted i)))
          = pure (.text .safe s)
        ∧ Host.echo.safeMade (.tuple (segments'.map .plain))
            (.tuple (kept.map fun i => .plain (untrusted i)))
          = pure (.text .safe s')
        ∧ withoutComments (.text .safe s) = .ok (.plain s')
  := by
  have hsegments : (Value.list commented).IsSegments commented 3 := by
    constructor
    · rfl
    · rfl
    · rfl
  have hdelimiters : HoldDelimiters (commented.map Value.display) := by
    constructor
    · simp [commented, Value.plain, Value.display, List.suffix_cons_iff]
    · simp [commented, Value.plain, Value.display]
  use hsegments, hdelimiters
  obtain ⟨segments', kept, hkept, hstrip⟩ := stripped_eq_selected hsegments hdelimiters
  use segments', kept, hkept
  apply hstrip Host.echo .tuple

end HtmlTemplate
