import HtmlTemplate.Proofs.Template.Slots
import HtmlTemplate.Proofs.Text.Escaped

/-!
# Marked slots

A text that is marked as escaped keeps its mark in a slot only if it is left as it is: not
converted, and not formatted or already filling its field (`Slot.KeepsMark`).  Any other slot makes
a plain text of it, which is escaped again.  `safeHtml_marked` says so of every template with
slots; `marked_escapedAgain` are slots where it can be seen.
-/

namespace HtmlTemplate

variable {σ : Type}

/-- What is inserted for a slot where values are escaped. -/
def Host.slotInserted (host : Host σ) (slot : Slot Value) : Run σ String := do
  let value ← .ofExcept slot.resolve
  Value.display <$> host.escape value

/-- A slot leaves a text as it is: it does not convert it, and has no format or one that the text
already has. -/
def Slot.KeepsMark (slot : Slot Value) (s : String) : Prop :=
  slot.conversion.getD "" = "" ∧ (slot.format = "" ∨ FillsField slot.format s)

section Marked

variable {slot : Slot Value} {slots : List (Slot Value)} {segments : List Value} {mark : Mark}
  {s : String} {formatted : Value}

theorem Slot.resolve_of_keepsMark (hvalue : slot.value = .text mark s) (h : slot.KeepsMark s)
    (hformat : (Value.text mark s).format slot.format = .ok formatted) :
  slot.resolve = .ok (.text mark s) ∧ formatted.display = s
  := by
  obtain ⟨hconversion, hfills⟩ := h
  rw [resolve_of_convert (Value.convert_eq_ok_iff.mpr (.inl ⟨hconversion, hvalue.symm⟩))]
  split
  case isTrue hempty =>
    rw [hempty] at hformat
    cases hformat
    use rfl
    rfl
  case isFalse hempty =>
    have hkept : formatted = .text mark s := by
      rw [Value.format_text hempty] at hformat
      apply formatTextAs_of_fillsField (hfills.resolve_left hempty) hformat
    rw [hformat, hkept]
    use rfl
    rfl

/-- A text formatted without its mark is the plain text that it shows. -/
theorem formatTextAs_plain {format : String}
    (h : formatTextAs format mark s = .ok formatted) :
  formatTextAs format .plain s = .ok (.plain formatted.display)
  := by
  have hdisplay := display_formatTextAs format s mark .plain
  rw [h] at hdisplay
  cases hplain : formatTextAs format .plain s with
  | error fault =>
    rw [hplain] at hdisplay
    cases hdisplay
  | ok result =>
    rw [hplain] at hdisplay
    have hshown : formatted.display = result.display := Except.ok.inj hdisplay
    obtain ⟨t, rfl⟩ | rfl := formatTextAs_eq_ok hplain
    · rw [hshown]
      rfl
    · rw [hshown]
      rfl

theorem Slot.resolve_of_not_keepsMark (hvalue : slot.value = .text mark s)
    (hconversion : slot.conversion.getD "" = "" ∨ slot.conversion.getD "" = "s")
    (h : ¬ slot.KeepsMark s)
    (hformat : (Value.text mark s).format slot.format = .ok formatted) :
  slot.resolve = .ok (.plain formatted.display)
  := by
  obtain hconversion | hconversion := hconversion
  · have hempty : slot.format ≠ "" := fun hempty => h ⟨hconversion, .inl hempty⟩
    have hfills : ¬ FillsField slot.format s := fun hfills => h ⟨hconversion, .inr hfills⟩
    obtain ⟨shown, hshown⟩ := exists_formatTextAs hfills
    rw [resolve_of_convert (Value.convert_eq_ok_iff.mpr (.inl ⟨hconversion, hvalue.symm⟩)),
      if_neg hempty, hformat]
    rw [Value.format_text hempty, hshown] at hformat
    obtain ⟨t, rfl⟩ := Value.exists_plain_of_map hformat
    rfl
  · have hconvert : slot.value.convert (slot.conversion.getD "") = .ok (.plain s) := by
      rw [hvalue]
      apply Value.convert_eq_ok_iff.mpr
      right; right; left
      use hconversion
      rfl
    rw [resolve_of_convert hconvert]
    split
    case isTrue hempty =>
      rw [hempty] at hformat
      cases hformat
      rfl
    case isFalse hempty =>
      rw [Value.format_text hempty] at hformat
      apply (Value.format_text hempty .plain s).trans (formatTextAs_plain hformat)

/-- A marked text is inserted as it is formatted if its mark is kept, and escaped again if not. -/
theorem Host.exists_slotInserted (host : Host σ) (hvalue : slot.value = .text mark s)
    (hmark : mark ≠ .plain)
    (hconversion : slot.conversion.getD "" = "" ∨ slot.conversion.getD "" = "s")
    (hformat : (Value.text mark s).format slot.format = .ok formatted) :
  ∃ text, host.slotInserted slot = pure text
    ∧ (slot.KeepsMark s → text = formatted.display)
    ∧ (¬ slot.KeepsMark s → text = Entity.escape formatted.display)
  := by
  by_cases h : slot.KeepsMark s
  · obtain ⟨hresolve, hshown⟩ := Slot.resolve_of_keepsMark hvalue h hformat
    have hescape : host.escape (.text mark s) = pure (.text mark s) := by
      cases mark with
      | plain => contradiction
      | safe => rfl
      | markup => rfl
    use s
    rw [slotInserted, hresolve, Run.ofExcept_ok, pure_bind, hescape, hshown]
    use rfl, fun _ => rfl
    intro hnot
    contradiction
  · use Entity.escape formatted.display
    rw [slotInserted, Slot.resolve_of_not_keepsMark hvalue hconversion h hformat,
      Run.ofExcept_ok, pure_bind]
    use rfl
    constructor
    · intro hkeeps
      contradiction
    · intro _
      rfl

/-- What is inserted for a marked text that is not turned into its quoted form is the formatted
text exactly if the slot leaves the marked text as it is, or the formatted text has nothing to
escape.  Otherwise it is escaped again. -/
theorem safeHtml_marked (host : Host σ) (label : Label) (htexts : allTexts segments = true)
    (hlength : segments.length = slots.length + 1)
    (hslots : ∀ slot ∈ slots, ∃ piece, slot.piece = .ok piece) :
  host.safeHtml (.slotted label segments slots) []
      = (fun texts => .text .safe (alternate (segments.map Value.display) texts))
        <$> (slots.mapM host.slotInserted).mapFault Fault.insideSequence
    ∧ ∀ slot ∈ slots, ∀ mark s formatted, slot.value = .text mark s → mark ≠ .plain →
      slot.conversion.getD "" = "" ∨ slot.conversion.getD "" = "s" →
      (Value.text mark s).format slot.format = .ok formatted →
      ∃ text, host.slotInserted slot = pure text
        ∧ (¬ slot.KeepsMark s → text = Entity.escape formatted.display)
        ∧ (text = formatted.display ↔ slot.KeepsMark s
          ∨ ∀ c ∈ formatted.display.toList, Entity.isSpecial c = false)
  := by
  constructor
  · obtain ⟨pieces, hpieces⟩ := exists_pieces hslots
    obtain ⟨values, hvalues, -, -⟩ := exists_resolved hpieces
    rw [(Carries.slotted label htexts hlength hvalues).safeHtml_eq host (by rintro ⟨⟩),
      mapM_eq_of_forall₂ hvalues (g := host.slotInserted)]
    intro slot _ value hvalue
    rw [Host.slotInserted, hvalue, Run.ofExcept_ok, pure_bind]
  · intro slot _ mark s formatted hvalue hmark hconversion hformat
    obtain ⟨text, hinserted, hkept, hescaped⟩ :=
      host.exists_slotInserted hvalue hmark hconversion hformat
    use text, hinserted, hescaped
    rw [← Entity.escape_eq_self_iff]
    by_cases h : slot.KeepsMark s
    · simp [h, hkept h]
    · simp [h, hescaped h]

end Marked

/-- A marked text in a field of its own width is kept, and the same text in a wider one is
escaped. -/
theorem safeHtml_marked_fields :
  let label : Label := ⟨"Slotted", "<slotted>"⟩
  let segments := [.plain "<p>", .plain "|", .plain "</p>"]
  let slots : List (Slot Value) := [⟨.text .safe "<b>", none, "3"⟩, ⟨.text .safe "<b>", none, "4"⟩]
  allTexts segments = true ∧ segments.length = slots.length + 1
    ∧ (∀ slot ∈ slots, ∃ piece, slot.piece = .ok piece)
    ∧ Host.echo.safeHtml (.slotted label segments slots) []
      = (fun texts => .text .safe (alternate (segments.map Value.display) texts))
        <$> (slots.mapM Host.echo.slotInserted).mapFault Fault.insideSequence
    ∧ Host.echo.slotInserted ⟨.text .safe "<b>", none, "3"⟩ = pure "<b>"
    ∧ Host.echo.slotInserted ⟨.text .safe "<b>", none, "4"⟩ = pure "&lt;b&gt; "
  := by
  intro label segments slots
  have htexts : allTexts segments = true := rfl
  have hlength : segments.length = slots.length + 1 := rfl
  have hslots : ∀ slot ∈ slots, ∃ piece, slot.piece = .ok piece :=
    List.forall_mem_cons.mpr ⟨⟨"<b>", rfl⟩, List.forall_mem_singleton.mpr ⟨"<b> ", rfl⟩⟩
  obtain ⟨heq, hinserted⟩ := safeHtml_marked Host.echo label htexts hlength hslots
  obtain ⟨text, htext, -, hkept⟩ := hinserted _ List.mem_cons_self .safe "<b>" (.text .safe "<b>")
    rfl (by decide) (.inl rfl) rfl
  obtain ⟨text', htext', hescaped, -⟩ := hinserted _ (List.mem_cons_of_mem _ List.mem_cons_self)
    .safe "<b>" (.plain "<b> ") rfl (by decide) (.inl rfl) rfl
  have hkeeps : Slot.KeepsMark ⟨.text .safe "<b>", none, "3"⟩ "<b>" := by
    use rfl
    right
    refine ⟨_, rfl, by decide, by decide, ?_⟩
    rintro count ⟨⟩
  have hloses : ¬ Slot.KeepsMark ⟨.text .safe "<b>", none, "4"⟩ "<b>" := by
    rintro ⟨-, hempty | ⟨spec, hspec, hfills⟩⟩
    · apply absurd hempty (by decide)
    · cases hspec
      apply absurd hfills.width_le (by decide)
  use htexts, hlength, hslots, heq
  rw [htext, htext', hkept.mpr (.inl hkeeps), hescaped hloses]
  use rfl
  rfl

/-- The result of escaping a text is escaped a second time in a field that it does not fill and in
a slot that asks for its text, though not in a field of its own width. -/
theorem marked_escapedAgain :
  let m := Value.text .safe "&lt;"
  Host.echo.safeHtml (.plain "<") [] = pure m
    ∧ m.format "4" = .ok m ∧ m.format "5" = .ok (.plain "&lt; ")
    ∧ m.format "" = .ok (.plain "&lt;")
    ∧ Host.echo.safeHtml (.slotted ⟨"Slotted", "<slotted>"⟩
        [.plain "", .plain "|", .plain "|", .plain ""]
        [⟨m, none, "4"⟩, ⟨m, none, "5"⟩, ⟨m, some "s", ""⟩]) []
      = pure (.text .safe "&lt;|&amp;lt; |&amp;lt;")
  := by
  refine ⟨rfl, rfl, rfl, rfl, rfl⟩

end HtmlTemplate
