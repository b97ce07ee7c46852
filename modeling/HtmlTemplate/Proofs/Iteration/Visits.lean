import HtmlTemplate.Iteration

/-!
# Visits

Visiting a row of entries is calling the callback for each of them in turn and joining the
texts of the results that are not left out, `joinedResults`.  With a callback that gives
back the value of every entry, the result of `Host.each` for a list is the joined items.
-/

namespace HtmlTemplate

variable {σ : Type}

/-- The texts of the results that are not left out, joined. -/
def joinedResults (results : List Value) : String :=
  String.join ((results.filter fun result => !result.isSkipped).map Value.display)

theorem joinedResults_cons (result : Value) (results : List Value) :
  joinedResults (result :: results)
    = (if result.isSkipped then "" else result.display) ++ joinedResults results
  := by
  cases h : result.isSkipped with
  | true => simp [joinedResults, h]
  | false => simp [joinedResults, h]

/-- Visiting entries is calling the callback for each in turn. -/
theorem visitListed_eq (callback : Value × Value → Run σ Value) (before : String)
    (entries : List (Value × Value)) :
  visitListed callback before entries
    = (fun results => before ++ joinedResults results) <$> entries.mapM callback
  := by
  induction entries generalizing before with
  | nil => simp [visitListed, joinedResults]
  | cons entry entries ih =>
    have hjoined (result : Value) (results : List Value) :
        (if result.isSkipped then before else before ++ result.display)
            ++ joinedResults results
          = before ++ joinedResults (result :: results) := by
      rw [joinedResults_cons]
      split
      · rw [String.empty_append]
      · rw [String.append_assoc]
    simp only [visitListed, visit, ih, List.mapM_cons, bind_assoc, pure_bind, hjoined,
      map_eq_pure_bind]

/-- A callback gives back the value of every entry, and changes nothing. -/
def Host.IsIdentity (host : Host σ) (callback : Value) : Prop :=
  ∀ entry, host.callEntry callback entry = pure entry.1

/-- The results for a list are its items if the callback gives them back. -/
theorem Host.IsIdentity.each_list {host : Host σ} {callback : Value}
    (h : host.IsIdentity callback) (items : List Value) :
  host.each (.list items) callback = pure (joinedResults items)
  := by
  have hcallback : host.callEntry callback = fun entry => pure entry.1 := funext h
  show visitListed (host.callEntry callback) "" (items.zipIdx.map _) = _
  rw [visitListed_eq, hcallback, List.mapM_pure, map_pure, List.map_map, String.empty_append]
  show pure (joinedResults (items.zipIdx.map Prod.fst)) = _
  rw [List.zipIdx_map_fst]

end HtmlTemplate
