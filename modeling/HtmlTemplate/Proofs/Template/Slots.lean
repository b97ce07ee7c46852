import HtmlTemplate.Proofs.Format.Text
import HtmlTemplate.Proofs.Template.Carried

/-!
# Slots

The value of a slot is converted (`Value.convert_eq_ok_iff` says to what) and then formatted; what
it shows then is its `Slot.piece`.  All slots of a template are resolved before anything is called,
so the first one that has no piece gives the fault (`Host.template_of_failing`).
`slotted_eq_pieces` says what becomes of the pieces: they are inserted as they are, escaped once, or
left alone where values are expanded.  Only a value that is neither converted nor formatted is more
to the evaluators than its text.
-/

namespace HtmlTemplate

variable {σ : Type}

/-- What a slot shows: the text of its value, converted and then formatted. -/
def Slot.piece (slot : Slot Value) : Except Fault String := do
  let value ← slot.value.convert (slot.conversion.getD "")
  let value ← value.format slot.format
  return value.display

instance (slot : Slot Value) : Decidable slot.IsBare :=
  decidable_of_iff (slot.conversion.getD "" = "" ∧ slot.format = "")
    ⟨fun h => ⟨h.1, h.2⟩, fun h => ⟨h.conversion, h.format⟩⟩

section Resolve

variable {slot : Slot Value} {slots : List (Slot Value)} {value result : Value}
  {pieces : List String}

/-- A value that is kept because nothing is to be formatted has the text that an empty format
gives it. -/
theorem Slot.piece_eq (slot : Slot Value) :
  slot.piece = Value.display <$> slot.resolve
  := by
  rw [piece, resolve]
  cases slot.value.convert (slot.conversion.getD "") with
  | error fault => rfl
  | ok value =>
    show value.format slot.format >>= (fun value => .ok value.display)
      = Value.display <$> if slot.format = "" then .ok value else value.format slot.format
    split
    case isTrue h =>
      rw [h]
      rfl
    case isFalse h =>
      rw [map_eq_pure_bind]
      rfl

theorem Slot.exists_resolve {piece : String} (h : slot.piece = .ok piece) :
  ∃ value, slot.resolve = .ok value ∧ value.display = piece
  := by
  rw [piece_eq] at h
  cases hresolve : slot.resolve with
  | ok value =>
    rw [hresolve] at h
    cases h
    use value
  | error fault =>
    rw [hresolve] at h
    cases h

theorem Slot.resolve_of_error {fault : Fault} (h : slot.piece = .error fault) :
  slot.resolve = .error fault
  := by
  rw [piece_eq] at h
  cases hresolve : slot.resolve with
  | ok value =>
    rw [hresolve] at h
    cases h
  | error fault =>
    rw [hresolve] at h
    cases h
    rfl

/-- What a conversion makes of a value: none keeps it, and `r`, `s` and `a` give the text that it
has inside containers, the text that it shows, and the former in ASCII.  There are no others. -/
theorem Value.convert_eq_ok_iff {conversion : String} :
  value.convert conversion = .ok result ↔
    conversion = "" ∧ result = value
    ∨ conversion = "r" ∧ result = .plain value.inspect
    ∨ conversion = "s" ∧ result = .plain value.display
    ∨ conversion = "a" ∧ result = .plain value.inspectAscii
  := by
  constructor
  · intro h
    unfold Value.convert at h
    split at h
    · cases h
      left
      use rfl
    · cases h
      right; left
      use rfl
    · cases h
      right; right; left
      use rfl
    · cases h
      right; right; right
      use rfl
    · cases h
  · rintro (⟨rfl, rfl⟩ | ⟨rfl, rfl⟩ | ⟨rfl, rfl⟩ | ⟨rfl, rfl⟩)
    · rfl
    · rfl
    · rfl
    · rfl

theorem Value.convert_eq_ok {conversion : String} (h : value.convert conversion = .ok result) :
  conversion = "" ∧ result = value ∨ ∃ s, result = .plain s
  := by
  obtain h | ⟨-, h⟩ | ⟨-, h⟩ | ⟨-, h⟩ := Value.convert_eq_ok_iff.mp h
  · left
    apply h
  · right
    use value.inspect
  · right
    use value.display
  · right
    use value.inspectAscii

theorem Slot.resolve_of_convert (h : slot.value.convert (slot.conversion.getD "") = .ok value) :
  slot.resolve = if slot.format = "" then .ok value else value.format slot.format
  := by
  rw [resolve, h]
  rfl

/-- A value that is converted or formatted becomes a plain text, unless it is a text that is
kept. -/
theorem Slot.resolve_of_not_isBare (h : ¬ slot.IsBare) (hresolve : slot.resolve = .ok value) :
  (∃ s, value = .plain s) ∨ value = slot.value ∧ ∃ mark s, slot.value = .text mark s
  := by
  cases hconvert : slot.value.convert (slot.conversion.getD "") with
  | error fault =>
    rw [resolve, hconvert] at hresolve
    cases hresolve
  | ok converted =>
    rw [resolve_of_convert hconvert] at hresolve
    obtain ⟨hconversion, rfl⟩ | ⟨s, rfl⟩ := Value.convert_eq_ok hconvert
    · have hformat : slot.format ≠ "" := fun hformat => h ⟨hconversion, hformat⟩
      rw [if_neg hformat] at hresolve
      apply Value.format_eq_ok hformat hresolve
    · left
      split at hresolve
      · cases hresolve
        use s
      · rename_i hformat
        obtain hplain | ⟨rfl, -⟩ := Value.format_eq_ok hformat hresolve
        · apply hplain
        · use s

theorem exists_pieces (h : ∀ slot ∈ slots, ∃ piece, slot.piece = .ok piece) :
  ∃ pieces, List.Forall₂ (fun slot piece => slot.piece = .ok piece) slots pieces
  := by
  induction slots with
  | nil => use [], .nil
  | cons slot slots ih =>
    rw [List.forall_mem_cons] at h
    obtain ⟨piece, hpiece⟩ := h.1
    obtain ⟨pieces, hpieces⟩ := ih h.2
    use piece :: pieces, .cons hpiece hpieces

/-- The slots that have pieces are resolved to values with these texts. -/
theorem exists_resolved (h : List.Forall₂ (fun slot piece => slot.piece = .ok piece) slots pieces) :
  ∃ values, List.Forall₂ (fun slot value => slot.resolve = .ok value) slots values
    ∧ List.Forall₂ (fun p value => p.1.resolve = .ok value ∧ p.2 = value.display)
      (slots.zip pieces) values
    ∧ values.map Value.display = pieces
  := by
  induction h with
  | nil =>
    use [], .nil, .nil
    rfl
  | cons hpiece _ ih =>
    obtain ⟨value, hvalue, rfl⟩ := Slot.exists_resolve hpiece
    obtain ⟨values, hvalues, hpairs, rfl⟩ := ih
    use value :: values, .cons hvalue hvalues, .cons ⟨hvalue, rfl⟩ hpairs
    rfl

theorem mapM_resolve_of_failing {before behind : List (Slot Value)} {fault : Fault}
    (hbefore : ∀ earlier ∈ before, ∃ piece, earlier.piece = .ok piece)
    (hslot : slot.piece = .error fault) :
  (before ++ slot :: behind).mapM Slot.resolve = .error fault
  := by
  induction before with
  | nil =>
    rw [List.nil_append, List.mapM_cons, Slot.resolve_of_error hslot]
    rfl
  | cons first before ih =>
    rw [List.forall_mem_cons] at hbefore
    obtain ⟨piece, hpiece⟩ := hbefore.1
    obtain ⟨value, hvalue, -⟩ := Slot.exists_resolve hpiece
    rw [List.cons_append, List.mapM_cons, hvalue, ih hbefore.2]
    rfl

/-- The fault of the first slot that has no piece is the fault of the template.  No host is asked
for anything before. -/
theorem Host.template_of_failing (host : Host σ) (label : Label) (segments : List Value)
    {before : List (Slot Value)} {fault : Fault}
    (hbefore : ∀ earlier ∈ before, ∃ piece, earlier.piece = .ok piece)
    (hslot : slot.piece = .error fault) (behind : List (Slot Value)) :
  host.template (.slotted label segments (before ++ slot :: behind)) (.tuple []) = .fail fault
  := by
  show Run.ofExcept ((before ++ slot :: behind).mapM Slot.resolve >>= fun values =>
    Template.make (.tuple segments) (.tuple values)) = _
  rw [mapM_resolve_of_failing hbefore hslot]
  rfl

end Resolve

/-- Values and what stands for them, with the same computation for each, give the same results. -/
theorem mapM_eq_of_forall₂ {α β : Type} {R : α → Value → Prop} {f : Value → Run σ β}
    {g : α → Run σ β} {items : List α} {values : List Value} (h : List.Forall₂ R items values)
    (hfg : ∀ item ∈ items, ∀ value, R item value → f value = g item) :
  values.mapM f = items.mapM g
  := by
  induction h with
  | nil => rfl
  | cons hvalue _ ih =>
    rw [List.forall_mem_cons] at hfg
    rw [List.mapM_cons, List.mapM_cons, hfg.1 _ hvalue, ih hfg.2]

/-- What is inserted for a slot where values are escaped: its piece, escaped once.  Of the values
that are neither converted nor formatted, the absent one is not shown, and one with an HTML form
of its own gives this. -/
def Host.slotHtml (host : Host σ) (slot : Slot Value) (piece : String) : Run σ String :=
  if slot.IsBare then
    match host.html? slot.value, slot.value with
    | some html, _ => Value.display <$> html
    | none, .absent => pure ""
    | none, _ => pure (Entity.escape piece)
  else pure (Entity.escape piece)

/-- What is inserted for a slot where values are expanded: its piece, or the expanded value if this
is neither converted nor formatted. -/
def Host.slotExpanded (host : Host σ) (slot : Slot Value) (piece : String) : Run σ String :=
  if slot.IsBare then Value.display <$> host.expand slot.value else pure piece

section Evaluate

variable {slot : Slot Value} {value : Value}

theorem Host.display_escape_of_resolve (host : Host σ)
    (hhtml : ¬ slot.IsBare → host.html? slot.value = none) (h : slot.resolve = .ok value) :
  Value.display <$> host.escape value = host.slotHtml slot value.display
  := by
  rw [Host.slotHtml]
  split
  case isTrue hbare =>
    rw [hbare.resolve] at h
    cases h
    unfold Host.escape
    split
    case h_1 habsent =>
      rw [habsent]
      rfl
    case h_2 hne =>
      split
      case h_1 html hhtml => rw [hhtml]
      case h_2 hhtml =>
        rw [hhtml]
        split
        · contradiction
        · contradiction
        · rfl
  case isFalse hbare =>
    have hplain : ∃ s, value = .plain s := by
      obtain hplain | ⟨rfl, mark, s, hs⟩ := Slot.resolve_of_not_isBare hbare h
      · apply hplain
      · specialize hhtml hbare
        rw [hs] at hhtml ⊢
        cases mark with
        | plain => use s; rfl
        | safe => cases hhtml
        | markup => cases hhtml
    obtain ⟨s, rfl⟩ := hplain
    rfl

theorem Host.display_expand_of_resolve (host : Host σ) (h : slot.resolve = .ok value) :
  Value.display <$> host.expand value = host.slotExpanded slot value.display
  := by
  rw [Host.slotExpanded]
  split
  case isTrue hbare =>
    rw [hbare.resolve] at h
    cases h
    rfl
  case isFalse hbare =>
    obtain ⟨s, rfl⟩ | ⟨rfl, mark, s, hs⟩ := Slot.resolve_of_not_isBare hbare h
    · rfl
    · rw [hs]
      rfl

end Evaluate

section Slotted

variable {segments : List Value} {slots : List (Slot Value)} {pieces : List String}

/-- A template with slots is evaluated like any other with the values that its slots are resolved
to: the raw text holds their pieces, and the evaluators that change values see only those that are
neither converted nor formatted.  Without slots nothing is escaped.  If a slot cannot be resolved,
the first such slot gives the fault, and there is no host that does anything before. -/
theorem slotted_eq_pieces (host : Host σ) (label : Label) (htexts : allTexts segments = true)
    (hlength : segments.length = slots.length + 1) :
  (∀ pieces, List.Forall₂ (fun slot piece => slot.piece = .ok piece) slots pieces →
      host.html (.slotted label segments slots) []
        = pure (alternate (segments.map Value.display) pieces)
      ∧ ((∀ slot ∈ slots, ¬ slot.IsBare → host.html? slot.value = none) →
        host.safeHtml (.slotted label segments slots) []
          = (fun texts => .text .safe (alternate (segments.map Value.display) texts))
            <$> ((slots.zip pieces).mapM fun p => host.slotHtml p.1 p.2).mapFault
              Fault.insideSequence)
      ∧ host.renderExpanded (.slotted label segments slots) []
        = alternate (segments.map Value.display)
          <$> ((slots.zip pieces).mapM fun p => host.slotExpanded p.1 p.2).mapFault
            Fault.insideSequence)
    ∧ (∀ segment, segments = [segment] →
      host.safeHtml (.slotted label segments slots) [] = pure (.text .safe segment.display))
    ∧ ∀ before slot behind fault, slots = before ++ slot :: behind →
      (∀ earlier ∈ before, ∃ piece, earlier.piece = .ok piece) → slot.piece = .error fault →
      host.html (.slotted label segments slots) [] = .fail fault
        ∧ host.safeHtml (.slotted label segments slots) [] = .fail fault
        ∧ host.renderExpanded (.slotted label segments slots) [] = .fail fault
  := by
  refine ⟨?_, ?_, ?_⟩
  · intro pieces hpieces
    obtain ⟨values, hvalues, hpairs, rfl⟩ := exists_resolved hpieces
    have hcarries := Carries.slotted label htexts hlength hvalues
    refine ⟨hcarries.html_eq host, ?_, ?_⟩
    · intro hhtml
      rw [hcarries.safeHtml_eq host (by rintro ⟨⟩)]
      rw [mapM_eq_of_forall₂ hpairs (g := fun p => host.slotHtml p.1 p.2)]
      rintro ⟨slot, piece⟩ hmem value ⟨hvalue, rfl⟩
      apply host.display_escape_of_resolve (hhtml slot (List.of_mem_zip hmem).1) hvalue
    · rw [hcarries.renderExpanded_eq host]
      rw [mapM_eq_of_forall₂ hpairs (g := fun p => host.slotExpanded p.1 p.2)]
      rintro ⟨slot, piece⟩ - value ⟨hvalue, rfl⟩
      apply host.display_expand_of_resolve hvalue
  · rintro segment rfl
    obtain rfl := List.length_eq_zero_iff.mp (Nat.succ.inj hlength).symm
    rw [(Carries.slotted label htexts hlength .nil).safeHtml_eq host (by rintro ⟨⟩)]
    rfl
  · rintro before slot behind fault rfl hbefore hslot
    have htemplate := host.template_of_failing label segments hbefore hslot behind
    refine ⟨?_, ?_, ?_⟩
    · rw [Host.html, htemplate]
      rfl
    · show host.template _ _ >>= _ = _
      rw [htemplate]
      rfl
    · rw [Host.renderExpanded, htemplate]
      rfl

end Slotted

/-- A padded text is escaped with its padding, and the absent value is shown only raw.  A number
whose precision is no number is a fault, and the widget before it is not asked for its HTML. -/
theorem slotted_eq_pieces_greeting :
  let label : Label := ⟨"Slotted", "<slotted>"⟩
  let widget : Value := .widget ⟨"Widget", "<widget>"⟩ .absent
  let segments := [.plain "<p>", .plain "|", .plain "</p>"]
  let slots : List (Slot Value) := [⟨.plain "<", some "s", "3"⟩, ⟨.absent, none, ""⟩]
  let failing : List (Slot Value) := [⟨widget, none, ""⟩, ⟨.int 1, none, ".x"⟩]
  allTexts segments = true ∧ segments.length = slots.length + 1
    ∧ segments.length = failing.length + 1
    ∧ List.Forall₂ (fun slot piece => slot.piece = .ok piece) slots ["<  ", "None"]
    ∧ Host.echo.html (.slotted label segments slots) [] = pure "<p><  |None</p>"
    ∧ Host.echo.safeHtml (.slotted label segments slots) [] = pure (.text .safe "<p>&lt;  |</p>")
    ∧ Host.echo.renderExpanded (.slotted label segments slots) [] = pure "<p><  |None</p>"
    ∧ Host.echo.safeHtml (.slotted label segments failing) [] = .fail (.basic .value)
  := by
  intro label widget segments slots failing
  have htexts : allTexts segments = true := rfl
  have hlength : segments.length = slots.length + 1 := rfl
  have hfailing : segments.length = failing.length + 1 := rfl
  have hpieces : List.Forall₂ (fun slot piece => slot.piece = .ok piece) slots ["<  ", "None"] :=
    .cons rfl (.cons rfl .nil)
  have hhtml : ∀ slot ∈ slots, ¬ slot.IsBare → Host.echo.html? slot.value = none := by
    intro slot hslot _
    simp only [slots, List.mem_cons, List.not_mem_nil, or_false] at hslot
    obtain rfl | rfl := hslot
    · rfl
    · rfl
  obtain ⟨hraw, hescaped, hexpanded⟩ :=
    (slotted_eq_pieces Host.echo label htexts hlength).1 ["<  ", "None"] hpieces
  use htexts, hlength, hfailing, hpieces
  rw [hraw, hescaped hhtml, hexpanded]
  use rfl, rfl, rfl
  apply ((slotted_eq_pieces Host.echo label htexts hfailing).2.2 [⟨widget, none, ""⟩]
    ⟨.int 1, none, ".x"⟩ [] _ rfl _ rfl).2.1
  intro earlier hearlier
  rw [List.mem_singleton.mp hearlier]
  use "<widget>"
  rfl

end HtmlTemplate
