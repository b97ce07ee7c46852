import HtmlTemplate.Proofs.Template.NoShapeFault

/-!
# Rejection

What is given for a template may have no usable shape: there are values beside a template
that has its own, or it is no template at all (`Misshaped`), or the numbers of segments and
values do not fit (`Miscounted`).  `rejects_misshaped` says that exactly these calls are
rejected, before anything is called, and when the fault tells the numbers.
-/

namespace HtmlTemplate

/-- A template already made, or segments with slots: the values are part of it. -/
def Value.carriesValues : Value → Bool
  | .template .. | .slotted .. => true
  | _ => false

/-- A list or a tuple of texts. -/
def Value.ListsTexts (x : Value) : Prop :=
  ∃ segments, x.listed? = some segments ∧ allTexts segments = true

/-- There are values beside a template that has its own, or what is given is neither a
template nor a list or tuple of texts. -/
def Misshaped (x : Value) (values : List Value) : Prop :=
  (x.carriesValues = true ∧ values ≠ []) ∨ (x.carriesValues = false ∧ ¬ x.ListsTexts)

/-- The numbers of segments and of values do not fit: of segments with slots that can all
be converted and formatted, or of texts with values beside them. -/
inductive Miscounted : Value → List Value → Nat → Nat → Prop where
  | slotted {label : Label} {segments values resolved : List Value} {slots : List (Slot Value)}
      (hslots : slots.mapM Slot.resolve = .ok resolved)
      (hlength : segments.length ≠ slots.length + 1) :
      Miscounted (.slotted label segments slots) values segments.length slots.length
  | listed {x : Value} {segments values : List Value}
      (hlisted : x.listed? = some segments) (htexts : allTexts segments = true)
      (hlength : segments.length ≠ values.length + 1) :
      Miscounted x values segments.length values.length

/-- On these grounds, besides the numbers, a call that escapes is rejected: there are values
beside a single text or number, or none beside a list or tuple, or what is given for a
template is misshaped. -/
def MisshapedToEscape (x : Value) (values : List Value) : Prop :=
  (x.isSingle = true ∧ values ≠ []) ∨ (x.listed?.isSome = true ∧ values = [])
    ∨ (x.isSingle = false ∧ Misshaped x values)

/-- A call is rejected exactly if the numbers of segments and values do not fit, or for
another ground.  It then fails whatever callables and widgets do, and leaves the state as
it is; the fault tells the numbers if they are the only ground.  Otherwise there is no shape
fault that a callable or a widget does not raise. -/
structure Rejects {α : Type} (call : ∀ {σ : Type}, Host σ → Run σ α)
    (miscounted : Nat → Nat → Prop) (otherwise : Prop) : Prop where
  rejected : otherwise ∨ (∃ m n, miscounted m n) →
    ∃ cause : ShapeFault, (∀ m n, cause.counts? = some (m, n) ↔ miscounted m n ∧ ¬ otherwise)
      ∧ ∀ {σ : Type} (host : Host σ), call host = .fail (.shape cause)
  accepted : ¬ otherwise → (∀ m n, ¬ miscounted m n) →
    ∀ {σ : Type} (host : Host σ), host.NoShapeFault → (call host).NoShapeFault

/-- A value that is a template has been made. -/
def Value.IsMade (x : Value) : Prop :=
  ∀ strings values, x = .template strings values → Template.IsMade ⟨strings, values⟩

/-! ### Resolving a template -/

theorem Slot.noShapeFault_resolve (slot : Slot Value) :
  NoShapeFault slot.resolve
  := by
  have hconvert (conversion : String) : NoShapeFault (slot.value.convert conversion) := by
    unfold Value.convert
    split
    · apply noShapeFault_ok
    · apply noShapeFault_ok
    · apply noShapeFault_ok
    · apply noShapeFault_ok
    · apply noShapeFault_basic
  apply (hconvert _).bind
  intro value
  split
  · apply noShapeFault_ok
  · apply Value.noShapeFault_format

theorem length_of_mapM_resolve {slots : List (Slot Value)} {resolved : List Value}
    (h : slots.mapM Slot.resolve = .ok resolved) :
  resolved.length = slots.length
  := by
  induction slots generalizing resolved with
  | nil =>
    cases h
    rfl
  | cons slot slots ih =>
    rw [List.mapM_cons] at h
    cases hslot : slot.resolve with
    | error fault =>
      rw [hslot] at h
      cases h
    | ok value =>
      cases hslots : slots.mapM Slot.resolve with
      | error fault =>
        rw [hslot, hslots] at h
        cases h
      | ok values =>
        rw [hslot, hslots] at h
        cases h
        rw [List.length_cons, List.length_cons, ih hslots]

/-- What a value and the values beside it are resolved to has a fault exactly if they are
misshaped or miscounted. -/
structure IsResolved (x : Value) (values : List Value) (result : Except Fault Template) :
    Prop where
  misshaped : Misshaped x values → ∃ cause : ShapeFault, cause.counts? = none
    ∧ result = .error (.shape cause)
  miscounted : ¬ Misshaped x values → ∀ m n, Miscounted x values m n →
    result = .error (.shape (.count m n))
  noShapeFault : ¬ Misshaped x values → (∀ m n, ¬ Miscounted x values m n) →
    NoShapeFault result
  isMade : ∀ t, result = .ok t → t.IsMade

section Resolve

variable {x : Value} {values : List Value}

theorem isResolved_misshaped (h : Misshaped x values) {cause : ShapeFault}
    (hcause : cause.counts? = none) :
  IsResolved x values (.error (.shape cause))
  := by
  constructor
  · intro _
    use cause
  · intro hnot
    contradiction
  · intro hnot
    contradiction
  · rintro t ⟨⟩

theorem not_misshaped_of_carriesValues (h : x.carriesValues = true) :
  ¬ Misshaped x []
  := by
  rintro (⟨-, hne⟩ | ⟨hcarries, -⟩)
  · contradiction
  · rw [h] at hcarries
    cases hcarries

theorem isResolved_template {strings row : Value} (h : Template.IsMade ⟨strings, row⟩) :
  IsResolved (.template strings row) [] (.ok ⟨strings, row⟩)
  := by
  have hshape : ¬ Misshaped (.template strings row) [] := not_misshaped_of_carriesValues rfl
  constructor
  · intro hmisshaped
    contradiction
  · intro _ m n hmiscounted
    cases hmiscounted with
    | listed hlisted => cases hlisted
  · intro _ _
    apply noShapeFault_ok
  · rintro t ⟨⟩
    apply h

/-- Making a template of segments and values fails exactly if their numbers do not fit. -/
theorem isResolved_make {segments row : List Value} (hshape : ¬ Misshaped x values)
    (hmiscounted : ∀ m n, Miscounted x values m n
      ↔ segments.length ≠ row.length + 1 ∧ m = segments.length ∧ n = row.length) :
  IsResolved x values (Template.make (.tuple segments) (.tuple row))
  := by
  have hsegments : (Value.tuple segments).size = .ok segments.length := rfl
  have hrow : (Value.tuple row).size = .ok row.length := rfl
  have hmake := Template.make_of_size hsegments hrow
  constructor
  · intro hmisshaped
    contradiction
  · intro _ m n h
    obtain ⟨hlength, rfl, rfl⟩ := (hmiscounted m n).mp h
    rw [hmake, if_neg hlength]
  · intro _ h
    rw [hmake]
    split
    case isTrue => apply noShapeFault_ok
    case isFalse hlength =>
      apply absurd _ (h segments.length row.length)
      rw [hmiscounted]
      use hlength
  · intro t
    apply Template.isMade_of_make

theorem isResolved_slotted (label : Label) (segments : List Value) (slots : List (Slot Value)) :
  IsResolved (.slotted label segments slots) []
    (slots.mapM Slot.resolve >>= fun row => Template.make (.tuple segments) (.tuple row))
  := by
  have hshape : ¬ Misshaped (.slotted label segments slots) [] := not_misshaped_of_carriesValues rfl
  cases hslots : slots.mapM Slot.resolve with
  | ok row =>
    have hlength := length_of_mapM_resolve hslots
    apply isResolved_make hshape
    intro m n
    constructor
    · intro h
      cases h with
      | slotted _ hne =>
        rw [hlength]
        use hne
      | listed hlisted => cases hlisted
    · rintro ⟨hne, rfl, rfl⟩
      rw [hlength] at hne ⊢
      apply Miscounted.slotted hslots hne
  | error fault =>
    have hfault := NoShapeFault.mapM Slot.noShapeFault_resolve slots
    rw [hslots] at hfault
    constructor
    · intro hmisshaped
      contradiction
    · intro _ m n h
      cases h with
      | slotted hresolved =>
        rw [hslots] at hresolved
        cases hresolved
      | listed hlisted => cases hlisted
    · intro _ _
      constructor
      rintro cause ⟨⟩
      apply hfault.ne cause rfl
    · rintro t ⟨⟩

theorem isResolved_listed {segments : List Value} (hlisted : x.listed? = some segments)
    (htexts : allTexts segments = true) (values : List Value) :
  IsResolved x values (Template.make (.tuple segments) (.tuple values))
  := by
  have hcarries : x.carriesValues = false := by
    obtain rfl | rfl := Value.listed?_eq_some.mp hlisted
    · rfl
    · rfl
  apply isResolved_make
  · rintro (⟨htrue, -⟩ | ⟨-, hnot⟩)
    · rw [hcarries] at htrue
      cases htrue
    · apply hnot
      use segments
  · intro m n
    constructor
    · intro h
      cases h with
      | slotted => cases hcarries
      | listed hlisted' _ hlength =>
        rw [hlisted] at hlisted'
        cases hlisted'
        use hlength
    · rintro ⟨hlength, rfl, rfl⟩
      apply Miscounted.listed hlisted htexts hlength

theorem Host.template_of_not_listsTexts {σ : Type} (host : Host σ)
    (hcarries : x.carriesValues = false) (hlists : ¬ x.ListsTexts) (row : Value) :
  host.template x row = .fail (.shape (.notTemplate x.className))
  := by
  have hnot {items : List Value} (hlisted : x.listed? = some items) :
      ¬ allTexts items = true := by
    intro htexts
    apply hlists
    use items
  cases x with
  | template strings values => cases hcarries
  | slotted label segments slots => cases hcarries
  | sequence kind items =>
    cases kind with
    | list =>
      show (if allTexts items = true then _ else _) = _
      rw [if_neg (hnot rfl)]
    | tuple =>
      show (if allTexts items = true then _ else _) = _
      rw [if_neg (hnot rfl)]
    | deque => rfl
    | userList => rfl
  | _ => rfl

/-- A value and the values beside it are resolved without calling anything. -/
theorem exists_isResolved (hx : x.IsMade) (values : List Value) :
  ∃ result, IsResolved x values result
    ∧ ∀ {σ : Type} (host : Host σ), host.template x (.tuple values) = .ofExcept result
  := by
  by_cases hcarries : x.carriesValues = true
  · cases values with
    | nil =>
      cases x with
      | template strings row =>
        use .ok ⟨strings, row⟩, isResolved_template (hx strings row rfl)
        intro σ host
        rfl
      | slotted label segments slots =>
        use slots.mapM Slot.resolve >>= fun row => Template.make (.tuple segments) (.tuple row),
          isResolved_slotted label segments slots
        intro σ host
        rfl
      | _ => cases hcarries
    | cons value values =>
      have hshape : Misshaped x (value :: values) := by
        left
        use hcarries, List.cons_ne_nil value values
      cases x with
      | template strings row =>
        use .error (.shape .callWithValues), isResolved_misshaped hshape rfl
        intro σ host
        rfl
      | slotted label segments slots =>
        use .error (.shape .slottedWithValues), isResolved_misshaped hshape rfl
        intro σ host
        rfl
      | _ => cases hcarries
  · rw [Bool.not_eq_true] at hcarries
    by_cases hlists : x.ListsTexts
    · obtain ⟨segments, hlisted, htexts⟩ := hlists
      use Template.make (.tuple segments) (.tuple values),
        isResolved_listed hlisted htexts values
      intro σ host
      apply host.template_of_texts hlisted htexts
    · have hshape : Misshaped x values := by
        right
        use hcarries
      use .error (.shape (.notTemplate x.className)), isResolved_misshaped hshape rfl
      intro σ host
      apply host.template_of_not_listsTexts hcarries hlists

end Resolve

/-! ### Evaluating a template -/

section Evaluate

variable {x : Value} {values : List Value} {α : Type}
  {call : ∀ {σ : Type}, Host σ → Run σ α} {miscounted miscounted' : Nat → Nat → Prop}
  {otherwise otherwise' : Prop}

theorem Rejects.of_fail (h : otherwise) (cause : ShapeFault) (hcounts : cause.counts? = none)
    (hcall : ∀ {σ : Type} (host : Host σ), call host = .fail (.shape cause)) :
  Rejects call miscounted otherwise
  := by
  constructor
  · intro _
    use cause
    constructor
    · intro m n
      simp [hcounts, h]
    · apply hcall
  · intro hnot
    contradiction

theorem Rejects.congr (h : Rejects call miscounted otherwise)
    (hmiscounted : ∀ m n, miscounted' m n ↔ miscounted m n)
    (hotherwise : otherwise' ↔ otherwise) :
  Rejects call miscounted' otherwise'
  := by
  obtain rfl : miscounted' = miscounted := by
    funext m n
    apply propext (hmiscounted m n)
  obtain rfl : otherwise' = otherwise := propext hotherwise
  apply h

/-- Resolving a template is where its shape is looked at. -/
theorem Rejects.of_template {rest : ∀ {σ : Type}, Host σ → Template → Run σ α} (hx : x.IsMade)
    (hcall : ∀ {σ : Type} (host : Host σ),
      call host = host.template x (.tuple values) >>= rest host)
    (hrest : ∀ {σ : Type} (host : Host σ), host.NoShapeFault → ∀ t : Template, t.IsMade →
      (rest host t).NoShapeFault) :
  Rejects call (Miscounted x values) (Misshaped x values)
  := by
  obtain ⟨result, hresolved, htemplate⟩ := exists_isResolved hx values
  by_cases hshape : Misshaped x values
  · obtain ⟨cause, hcounts, rfl⟩ := hresolved.misshaped hshape
    apply Rejects.of_fail hshape cause hcounts
    intro σ host
    rw [hcall, htemplate]
    rfl
  · have hresult := hresolved.miscounted hshape
    constructor
    · intro h
      obtain ⟨m, n, hmiscounted⟩ := h.resolve_left hshape
      use .count m n
      constructor
      · intro m' n'
        constructor
        · rintro ⟨⟩
          use hmiscounted
        · rintro ⟨hmiscounted', -⟩
          have heq := hresult m' n' hmiscounted'
          rw [hresult m n hmiscounted] at heq
          cases heq
          rfl
      · intro σ host
        rw [hcall, htemplate, hresult m n hmiscounted]
        rfl
    · intro _ hcount σ host hhost
      rw [hcall, htemplate]
      apply (Run.noShapeFault_ofExcept (hresolved.noShapeFault hshape hcount)).bind_of_ok
      intro s t s' ht
      apply hrest host hhost
      apply hresolved.isMade t (Prod.mk.inj ht).1

theorem Host.NoShapeFault.expand {σ : Type} {host : Host σ} (h : host.NoShapeFault)
    (value : Value) :
  (host.expand value).NoShapeFault
  := by
  unfold Host.expand
  split
  · apply (h.call value []).bind
    intro result
    dsimp only
    split
    · apply Run.noShapeFault_pure
    · apply Run.noShapeFault_pure
  · apply (Run.noShapeFault_pure value).bind
    intro result
    dsimp only
    split
    · apply Run.noShapeFault_pure
    · apply Run.noShapeFault_pure

theorem Host.NoShapeFault.html? {σ : Type} {host : Host σ} (h : host.NoShapeFault)
    {value : Value} {html : Run σ Value} (hhtml : host.html? value = some html) :
  html.NoShapeFault
  := by
  unfold Host.html? at hhtml
  split at hhtml
  · cases hhtml
    apply Run.noShapeFault_pure
  · cases hhtml
    apply Run.noShapeFault_pure
  · cases hhtml
    apply h.widget
  · cases hhtml
    apply Run.noShapeFault_fail
  · cases hhtml
    apply Run.noShapeFault_fail
  · cases hhtml

theorem Host.NoShapeFault.escape {σ : Type} {host : Host σ} (h : host.NoShapeFault)
    (value : Value) :
  (host.escape value).NoShapeFault
  := by
  unfold Host.escape
  split
  · apply Run.noShapeFault_pure
  · split
    case h_1 html hhtml => apply h.html? hhtml
    case h_2 => apply Run.noShapeFault_pure

theorem Template.IsMade.text_mapValues {σ : Type} {t : Template} (ht : t.IsMade)
    {f : Value → Run σ Value} (hf : ∀ value, (f value).NoShapeFault) :
  (t.mapValues f >>= fun t => Run.ofExcept t.text).NoShapeFault
  := by
  apply (ht.mapValues hf).bind
  intro t
  apply Run.noShapeFault_ofExcept t.noShapeFault_text

theorem rejects_html (hx : x.IsMade) (values : List Value) :
  Rejects (fun host => host.html x values) (Miscounted x values) (Misshaped x values)
  := by
  apply Rejects.of_template hx
  · intro σ host
    rfl
  · intro σ host _ t _
    apply Run.noShapeFault_ofExcept t.noShapeFault_text

theorem rejects_renderExpanded (hx : x.IsMade) (values : List Value) :
  Rejects (fun host => host.renderExpanded x values) (Miscounted x values) (Misshaped x values)
  := by
  apply Rejects.of_template hx
  · intro σ host
    rfl
  · intro σ host hhost t ht
    apply ht.text_mapValues hhost.expand

theorem Value.listed?_of_isSingle (h : x.isSingle = true) :
  x.listed? = none
  := by
  cases x with
  | sequence kind items => cases h
  | _ => rfl

/-- A single text or number is escaped unless there are values beside it. -/
theorem rejects_safeHtml_single (hsingle : x.isSingle = true) (values : List Value) :
  Rejects (fun host => host.safeHtml x values)
    (fun m n => x.isSingle = false ∧ Miscounted x values m n) (MisshapedToEscape x values)
  := by
  cases values with
  | nil =>
    have hshape : ¬ MisshapedToEscape x [] := by
      simp [MisshapedToEscape, hsingle, Value.listed?_of_isSingle hsingle]
    constructor
    · rintro (hnot | ⟨m, n, hnot, -⟩)
      · contradiction
      · rw [hsingle] at hnot
        cases hnot
    · intro _ _ σ host hhost
      rw [Host.safeHtml, if_pos hsingle]
      apply (hhost.escape x).bind
      intro escaped
      apply Run.noShapeFault_pure
  | cons value values =>
    have hshape : MisshapedToEscape x (value :: values) := by
      left
      use hsingle, List.cons_ne_nil value values
    apply Rejects.of_fail hshape .plainWithValues rfl
    intro σ host
    rw [Host.safeHtml, if_pos hsingle]
    rfl

/-- A template is escaped unless its segments stand alone. -/
theorem rejects_safeHtml_template (hx : x.IsMade) (hsingle : x.isSingle = false)
    (values : List Value) :
  Rejects (fun host => host.safeHtml x values)
    (fun m n => x.isSingle = false ∧ Miscounted x values m n) (MisshapedToEscape x values)
  := by
  by_cases halone : x.listed?.isSome = true ∧ values = []
  · apply Rejects.of_fail (.inr (.inl halone)) .segmentsAlone rfl
    intro σ host
    obtain ⟨hlisted, rfl⟩ := halone
    rw [Host.safeHtml, hsingle, hlisted]
    rfl
  · have hnot : ¬ (x.listed?.isSome && values.isEmpty) = true := by
      simpa using halone
    have htemplate : Rejects (fun host => host.safeHtml x values) (Miscounted x values)
        (Misshaped x values) := by
      apply Rejects.of_template hx
      · intro σ host
        rw [Host.safeHtml, hsingle, if_neg hnot]
        rfl
      · intro σ host hhost t ht
        rw [← bind_assoc]
        apply (ht.text_mapValues hhost.escape).bind
        intro text
        apply Run.noShapeFault_pure
    apply htemplate.congr
    · simp [hsingle]
    · simp [MisshapedToEscape, hsingle, halone]

end Evaluate

/-- A call is rejected for its shape exactly if the numbers of segments and values do not
fit, or it is misshaped in another way, which the fault then does not tell the numbers of;
and it is rejected before any callable or widget is called. -/
theorem rejects_misshaped (x : Value) (hx : x.IsMade) (values : List Value) :
  Rejects (fun host => host.html x values) (Miscounted x values) (Misshaped x values)
  ∧ Rejects (fun host => host.renderExpanded x values) (Miscounted x values)
    (Misshaped x values)
  ∧ Rejects (fun host => host.safeHtml x values)
    (fun m n => x.isSingle = false ∧ Miscounted x values m n) (MisshapedToEscape x values)
  := by
  use rejects_html hx values, rejects_renderExpanded hx values
  cases hsingle : x.isSingle with
  | true =>
    have h := rejects_safeHtml_single hsingle values
    rw [hsingle] at h
    apply h
  | false =>
    have h := rejects_safeHtml_template hx hsingle values
    rw [hsingle] at h
    apply h

/-- A template already made, whose value is a function. -/
def page : Value :=
  .template (.tuple [.plain "<p>", .plain "</p>"])
    (.tuple [.function ⟨"Function", "<f>"⟩ 0 [.required]])

theorem rejects_misshaped_page :
  page.IsMade
  ∧ Rejects (fun host => host.html page [.absent]) (Miscounted page [.absent])
    (Misshaped page [.absent])
  ∧ Rejects (fun host => host.renderExpanded page [.absent]) (Miscounted page [.absent])
    (Misshaped page [.absent])
  ∧ Rejects (fun host => host.safeHtml page [.absent])
    (fun m n => page.isSingle = false ∧ Miscounted page [.absent] m n)
    (MisshapedToEscape page [.absent])
  := by
  have hpage : page.IsMade := by
    rintro strings values ⟨⟩
    rfl
  use hpage
  apply rejects_misshaped page hpage

end HtmlTemplate
