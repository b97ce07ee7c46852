import HtmlTemplate.Format.Value
import Mathlib.Tactic.Use

/-!
# Formatted texts

What is formatted becomes a plain text, with one exception: a text that already fills its field
(`FillsField`) is kept, and its mark with it.  What a formatted text shows does not depend on its
mark (`display_formatTextAs`).
-/

namespace HtmlTemplate

namespace FormatSpec

variable {spec : FormatSpec} {s : String}

/-- A text is as it would be formatted: it is not empty, the field is not wider, and the precision
does not cut it. -/
structure Fills (spec : FormatSpec) (s : String) : Prop where
  ne : s ≠ ""
  width_le : spec.width ≤ s.length
  le_precision : ∀ count, spec.precision = some count → s.length ≤ count

/-- The characters that the precision leaves. -/
def cut (spec : FormatSpec) (s : List Char) : List Char :=
  match spec.precision with
  | some count => s.take count
  | none => s

theorem length_cut_eq_iff (spec : FormatSpec) (s : String) :
  (spec.cut s.toList).length = s.length
    ↔ ∀ count, spec.precision = some count → s.length ≤ count
  := by
  rw [cut, ← String.length_toList]
  cases spec.precision with
  | none => simp
  | some count =>
    rw [List.length_take]
    simp only [Option.some.injEq, forall_eq']
    omega

theorem fills_iff (spec : FormatSpec) (s : String) :
  spec.Fills s ↔ (s ≠ "" && spec.width ≤ s.length
    && (spec.cut s.toList).length = s.length) = true
  := by
  simp only [Bool.and_eq_true, decide_eq_true_eq, length_cut_eq_iff]
  constructor
  · intro h
    use ⟨h.ne, h.width_le⟩, h.le_precision
  · rintro ⟨⟨hne, hwidth⟩, hprecision⟩
    use hne, hwidth, hprecision

theorem formatText_eq (spec : FormatSpec) (mark : Mark) (s : String) :
  spec.formatText mark s
    = if s ≠ "" && spec.width ≤ s.length && (spec.cut s.toList).length = s.length then
        .ok (.text mark s)
      else requireRoom spec.width >>= fun _ =>
        .ok (.plain (String.ofList (spec.field .left (spec.cut s.toList))))
  := rfl

theorem formatText_of_fills (h : spec.Fills s) (mark : Mark) :
  spec.formatText mark s = .ok (.text mark s)
  := by
  rw [fills_iff] at h
  rw [formatText_eq, if_pos h]

/-- A text that does not fill its field becomes plain. -/
theorem exists_formatText (h : ¬ spec.Fills s) :
  ∃ shown, ∀ mark, spec.formatText mark s = Value.plain <$> shown
  := by
  rw [fills_iff] at h
  use requireRoom spec.width >>= fun _ =>
    .ok (String.ofList (spec.field .left (spec.cut s.toList)))
  intro mark
  rw [formatText_eq, if_neg h, map_eq_pure_bind, bind_assoc]
  rfl

end FormatSpec

/-- A text fills the field that a written specification asks for. -/
def FillsField (format s : String) : Prop :=
  ∃ spec, FormatSpec.read? format = some spec ∧ spec.Fills s

variable {format s : String} {mark : Mark} {value result : Value}

theorem formatTextAs_of_fillsField (h : FillsField format s)
    (hresult : formatTextAs format mark s = .ok result) :
  result = .text mark s
  := by
  obtain ⟨spec, hspec, hfills⟩ := h
  rw [formatTextAs, hspec] at hresult
  dsimp only at hresult
  split at hresult
  · rw [FormatSpec.formatText_of_fills hfills] at hresult
    cases hresult
    rfl
  · cases hresult

theorem exists_formatTextAs (h : ¬ FillsField format s) :
  ∃ shown, ∀ mark, formatTextAs format mark s = Value.plain <$> shown
  := by
  unfold formatTextAs
  split
  case h_1 spec hspec =>
    split
    · apply FormatSpec.exists_formatText
      intro hfills
      apply h ⟨spec, hspec, hfills⟩
    · use .error (.basic .value)
      intro mark
      rfl
  case h_2 =>
    use .error (.basic .value)
    intro mark
    rfl

/-- What a formatted text shows does not depend on its mark. -/
theorem display_formatTextAs (format s : String) (mark mark' : Mark) :
  Value.display <$> formatTextAs format mark s = Value.display <$> formatTextAs format mark' s
  := by
  by_cases h : FillsField format s
  · obtain ⟨spec, hspec, hfills⟩ := h
    rw [formatTextAs, formatTextAs, hspec]
    dsimp only
    split
    · rw [FormatSpec.formatText_of_fills hfills, FormatSpec.formatText_of_fills hfills]
      rfl
    · rfl
  · obtain ⟨shown, hshown⟩ := exists_formatTextAs h
    rw [hshown, hshown]

theorem Value.exists_plain_of_map {shown : Except Fault String}
    (h : Value.plain <$> shown = .ok result) :
  ∃ s, result = .plain s
  := by
  cases shown with
  | ok s =>
    cases h
    use s
  | error fault => cases h

theorem formatTextAs_eq_ok (h : formatTextAs format mark s = .ok result) :
  (∃ t, result = .plain t) ∨ result = .text mark s
  := by
  by_cases hfills : FillsField format s
  · right
    apply formatTextAs_of_fillsField hfills h
  · left
    obtain ⟨shown, hshown⟩ := exists_formatTextAs hfills
    rw [hshown] at h
    apply Value.exists_plain_of_map h

theorem Value.format_text (hformat : format ≠ "") (mark : Mark) (s : String) :
  (Value.text mark s).format format = formatTextAs format mark s
  := by
  unfold Value.format
  rw [if_neg hformat]

/-- What is formatted becomes a plain text, or it is a text and is kept. -/
theorem Value.format_eq_ok (hformat : format ≠ "") (h : value.format format = .ok result) :
  (∃ s, result = .plain s) ∨ result = value ∧ ∃ mark s, value = .text mark s
  := by
  unfold Value.format at h
  rw [if_neg hformat] at h
  cases value with
  | text mark s =>
    obtain hplain | rfl := formatTextAs_eq_ok h
    · left
      apply hplain
    · right
      use rfl, mark, s
  | emptiness e =>
    left
    obtain hplain | rfl := formatTextAs_eq_ok h
    · apply hplain
    · use e.name
      rfl
  | bool b =>
    left
    apply exists_plain_of_map h
  | number n =>
    left
    apply exists_plain_of_map h
  | _ => cases h

end HtmlTemplate
