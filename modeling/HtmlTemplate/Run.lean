import HtmlTemplate.Fault

/-!
# Computations with state

`Run σ α` is a computation that reads and changes a state of type `σ` and ends with a
value of type `α` or a fault.  The state is kept when it ends with a fault.
-/

namespace HtmlTemplate

/-- A computation with a state, ending with a value or a fault. -/
def Run (σ α : Type) : Type := σ → Except Fault α × σ

namespace Run

variable {σ α β : Type}

/-- The computation that ends with a fault. -/
def fail (fault : Fault) : Run σ α := fun s => (.error fault, s)

/-- The computation that ends as a result says. -/
def ofExcept (result : Except Fault α) : Run σ α := fun s => (result, s)

/-- The outcome of a computation, as a value. -/
def attempt (run : Run σ α) : Run σ (Except Fault α) := fun s =>
  let (result, s) := run s
  (.ok result, s)

/-- The computation whose fault, if any, is changed. -/
def mapFault (f : Fault → Fault) (run : Run σ α) : Run σ α := fun s =>
  match run s with
  | (.ok a, s) => (.ok a, s)
  | (.error fault, s) => (.error (f fault), s)

/-- The state. -/
def get : Run σ σ := fun s => (.ok s, s)

/-- The computation that changes the state. -/
def modify (f : σ → σ) : Run σ Unit := fun s => (.ok (), f s)

instance : Monad (Run σ) where
  pure a := fun s => (.ok a, s)
  bind run f := fun s =>
    match run s with
    | (.ok a, s) => f a s
    | (.error fault, s) => (.error fault, s)

@[simp]
theorem pure_apply (a : α) (s : σ) :
  (pure a : Run σ α) s = (.ok a, s)
  := rfl

@[simp]
theorem fail_apply (fault : Fault) (s : σ) :
  (fail fault : Run σ α) s = (.error fault, s)
  := rfl

@[simp]
theorem ofExcept_apply (result : Except Fault α) (s : σ) :
  ofExcept result s = (result, s)
  := rfl

@[simp]
theorem ofExcept_ok (a : α) :
  (ofExcept (.ok a) : Run σ α) = pure a
  := rfl

theorem ofExcept_bind (result : Except Fault α) (f : α → Except Fault β) :
  ((ofExcept result : Run σ α) >>= fun a => ofExcept (f a)) = ofExcept (result >>= f)
  := by
  cases result with
  | ok a => rfl
  | error fault => rfl

@[simp]
theorem mapFault_pure (f : Fault → Fault) (a : α) :
  (mapFault f (pure a) : Run σ α) = pure a
  := rfl

theorem bind_apply (run : Run σ α) (f : α → Run σ β) (s : σ) :
  (run >>= f) s = match run s with
    | (.ok a, s) => f a s
    | (.error fault, s) => (.error fault, s)
  := rfl

theorem bind_of_ok {run : Run σ α} {f : α → Run σ β} {s s' : σ} {a : α}
    (h : run s = (.ok a, s')) :
  (run >>= f) s = f a s'
  := by
  rw [bind_apply, h]

theorem bind_of_error {run : Run σ α} {f : α → Run σ β} {s s' : σ} {fault : Fault}
    (h : run s = (.error fault, s')) :
  (run >>= f) s = (.error fault, s')
  := by
  rw [bind_apply, h]

theorem bind_eq_ok_iff {run : Run σ α} {f : α → Run σ β} {s s' : σ} {b : β} :
  (run >>= f) s = (.ok b, s') ↔ ∃ a t, run s = (.ok a, t) ∧ f a t = (.ok b, s')
  := by
  rw [bind_apply]
  constructor
  · intro h
    rcases hrun : run s with ⟨_ | a, t⟩
    · rw [hrun] at h
      cases h
    · rw [hrun] at h
      exact ⟨a, t, rfl, h⟩
  · rintro ⟨a, t, hrun, h⟩
    rw [hrun]
    exact h

private theorem id_map_run (run : Run σ α) :
  id <$> run = run
  := by
  funext s
  show (match run s with | (.ok a, s) => _ | (.error fault, s) => _) = run s
  rcases run s with ⟨_ | _, _⟩ <;> rfl

private theorem bind_assoc_run {γ : Type}
    (run : Run σ α) (f : α → Run σ β) (g : β → Run σ γ) :
  run >>= f >>= g = run >>= fun a => f a >>= g
  := by
  funext s
  simp only [bind_apply]
  rcases run s with ⟨_ | _, _⟩ <;> rfl

instance : LawfulMonad (Run σ) :=
  LawfulMonad.mk' _ id_map_run (fun _ _ => rfl) bind_assoc_run

theorem mapFault_of_ok {run : Run σ α} {s s' : σ} {a : α} (h : run s = (.ok a, s'))
    (f : Fault → Fault) :
  run.mapFault f s = (.ok a, s')
  := by
  rw [mapFault, h]

theorem mapFault_of_error {run : Run σ α} {s s' : σ} {fault : Fault}
    (h : run s = (.error fault, s')) (f : Fault → Fault) :
  run.mapFault f s = (.error (f fault), s')
  := by
  rw [mapFault, h]

/-- A result is changed and a fault is changed, in either order. -/
theorem mapFault_map (f : Fault → Fault) (g : α → β) (run : Run σ α) :
  (g <$> run).mapFault f = g <$> run.mapFault f
  := by
  funext s
  rw [map_eq_pure_bind, map_eq_pure_bind]
  rcases h : run s with ⟨fault | a, s'⟩
  · have hmap : (run >>= fun a => pure (g a)) s = (.error fault, s') := bind_of_error h
    rw [mapFault_of_error hmap, bind_of_error (mapFault_of_error h f)]
  · have hmap : (run >>= fun a => pure (g a)) s = (.ok (g a), s') := bind_of_ok h
    rw [mapFault_of_ok hmap, bind_of_ok (mapFault_of_ok h f)]
    rfl

/-- A computation for every item of a row has a result for every item. -/
theorem length_of_mapM {f : α → Run σ β} {items : List α} {results : List β} {s s' : σ}
    (h : items.mapM f s = (.ok results, s')) :
  results.length = items.length
  := by
  induction items generalizing results s s' with
  | nil =>
    obtain ⟨hresults, -⟩ := Prod.mk.inj h
    cases hresults
    rfl
  | cons item items ih =>
    rw [List.mapM_cons] at h
    obtain ⟨result, t, -, hitems⟩ := bind_eq_ok_iff.mp h
    obtain ⟨rest, t', hrest, hresults⟩ := bind_eq_ok_iff.mp hitems
    obtain ⟨hcons, -⟩ := Prod.mk.inj hresults
    cases hcons
    rw [List.length_cons, List.length_cons, ih hrest]

end Run

end HtmlTemplate
