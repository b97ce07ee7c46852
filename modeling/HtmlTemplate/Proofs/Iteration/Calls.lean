import HtmlTemplate.Proofs.Host.Recording
import HtmlTemplate.Proofs.Iteration.Entries
import HtmlTemplate.Proofs.Iteration.Visits

/-!
# The calls of an iteration

Iterating over a collection calls the callback for one entry after the other and stops behind
the first call that fails (`Visits`).  `each_visits` says so of every callback, whatever it does
to the state, and that the text that is made of the results leaves out those that are absent,
false or equal to the empty text, and no others.
-/

namespace HtmlTemplate

variable {σ : Type}

/-- A callback is called for entries in turn, up to the last one or the first for which it
fails: the entries it is called for, and the results or the fault. -/
inductive Visits (callback : Value × Value → Run σ Value) :
    List (Value × Value) → σ → List (Value × Value) → Except Fault (List Value) → σ → Prop where
  | done (s : σ) : Visits callback [] s [] (.ok []) s
  | failing {entry : Value × Value} {entries : List (Value × Value)} {fault : Fault} {s s' : σ}
      (h : callback entry s = (.error fault, s')) :
      Visits callback (entry :: entries) s [entry] (.error fault) s'
  | next {entry : Value × Value} {entries visited : List (Value × Value)} {result : Value}
      {outcome : Except Fault (List Value)} {s t s' : σ} (h : callback entry s = (.ok result, t))
      (hentries : Visits callback entries t visited outcome s') :
      Visits callback (entry :: entries) s (entry :: visited) ((result :: ·) <$> outcome) s'

theorem exists_visits (callback : Value × Value → Run σ Value) (entries : List (Value × Value))
    (s : σ) :
  ∃ visited outcome s', Visits callback entries s visited outcome s'
  := by
  induction entries generalizing s with
  | nil => use [], .ok [], s, .done s
  | cons entry entries ih =>
    rcases h : callback entry s with ⟨fault | result, t⟩
    · use [entry], .error fault, t, .failing h
    · obtain ⟨visited, outcome, s', hentries⟩ := ih t
      use entry :: visited, (result :: ·) <$> outcome, s', .next h hentries

namespace Visits

variable {callback : Value × Value → Run σ Value} {entries visited : List (Value × Value)}
  {outcome : Except Fault (List Value)} {s s' : σ}

theorem mapM_eq (h : Visits callback entries s visited outcome s') :
  entries.mapM callback s = (outcome, s')
  := by
  induction h with
  | done s => rfl
  | failing h =>
    rw [List.mapM_cons]
    apply Run.bind_of_error h
  | @next entry entries visited result outcome s t s' h hentries ih =>
    rw [List.mapM_cons, Run.bind_of_ok h]
    cases outcome with
    | ok results => apply Run.bind_of_ok ih
    | error fault => apply Run.bind_of_error ih

/-- If no call fails, all entries are visited. -/
theorem visited_eq {results : List Value} (h : Visits callback entries s visited outcome s')
    (hresults : outcome = .ok results) :
  visited = entries
  := by
  induction h generalizing results with
  | done s => rfl
  | failing h => cases hresults
  | @next entry entries visited result outcome s t s' h hentries ih =>
    cases outcome with
    | ok rest => rw [ih rfl]
    | error fault => cases hresults

theorem visitListed_eq (h : Visits callback entries s visited outcome s') :
  visitListed callback "" entries s = (joinedResults <$> outcome, s')
  := by
  rw [HtmlTemplate.visitListed_eq, map_eq_pure_bind]
  cases outcome with
  | ok results =>
    rw [Run.bind_of_ok h.mapM_eq, String.empty_append]
    rfl
  | error fault => apply Run.bind_of_error h.mapM_eq

end Visits

/-- The call of a callback for an entry. -/
def entryCall (callback : Value) (entry : Value × Value) : Call :=
  ⟨callback, if callback.takesTwo then [entry.1, entry.2] else [entry.1]⟩

theorem Visits.recorded {host : Host σ} {callback : Value} {entries visited : List (Value × Value)}
    {outcome : Except Fault (List Value)} {s s' : σ}
    (h : Visits (host.callEntry callback) entries s visited outcome s') (calls : List Call) :
  Visits (host.recorded.callEntry callback) entries (s, calls) visited outcome
    (s', calls ++ visited.map (entryCall callback))
  := by
  induction h generalizing calls with
  | done s =>
    rw [List.map_nil, List.append_nil]
    apply done
  | failing h => apply failing (Host.recorded_call h calls)
  | @next entry entries visited result outcome s t s' h hentries ih =>
    rw [List.map_cons, List.append_cons]
    apply next (Host.recorded_call h calls) (ih _)

/-- A result is left out if it is absent, false or equal to the empty text. -/
theorem Value.isSkipped_iff (result : Value) :
  result.isSkipped = true
    ↔ result = .absent ∨ result = .bool false ∨ result.beq (.plain "") = true
  := by
  cases result with
  | absent => simp [isSkipped]
  | bool b => cases b <;> simp [isSkipped, beq, beqNumber, plain, number?]
  | number n => simp [isSkipped, beq, beqNumber, plain, number?]
  | text mark s => simp [isSkipped, beq, plain]
  | _ => simp [isSkipped, beq, plain]

/-- Iterating calls the callback for the entries of a collection in turn, up to the last one or
the first for which it fails, and makes no other call.  A fault is passed on as it is.  Without
any, all entries are visited, and the text is made of the texts of the results that are not left
out: these are the absent ones, the false ones and those that equal the empty text. -/
theorem each_visits (host : Host σ) (collection callback : Value) (s : σ) :
  (∃ entries visited outcome s', collection.HasEntries entries
      ∧ Visits (host.callEntry callback) entries s visited outcome s'
      ∧ (∀ results, outcome = .ok results → visited = entries)
      ∧ host.each collection callback s = (joinedResults <$> outcome, s')
      ∧ host.recorded.each collection callback (s, [])
        = (joinedResults <$> outcome, s', visited.map (entryCall callback)))
    ∧ ∀ result : Value, result.isSkipped = true
      ↔ result = .absent ∨ result = .bool false ∨ result.beq (.plain "") = true
  := by
  constructor
  · obtain ⟨entries, hentries, heach⟩ := exists_hasEntries collection
    obtain ⟨visited, outcome, s', h⟩ := exists_visits (host.callEntry callback) entries s
    use entries, visited, outcome, s', hentries, h, fun results => h.visited_eq
    rw [heach, heach]
    use h.visitListed_eq, (h.recorded []).visitListed_eq
  · apply Value.isSkipped_iff

end HtmlTemplate
