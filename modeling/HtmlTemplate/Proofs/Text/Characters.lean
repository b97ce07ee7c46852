import HtmlTemplate.Proofs.Text.Escaped
import HtmlTemplate.Value.Sum

/-!
# Escaping character by character

`entityOf` writes a character by the row of the special characters and their entities.  A
text is searched for the characters of this row (`isSpecial_iff_mem_specials`), and these
are what is replaced in it (`toList_entityOf`), so that a text in which none is found is the
same as the text with every character replaced.  Escaping thus joins what is written for
each character, and goes over sums (`escape_plain_eq_join`).
-/

namespace HtmlTemplate.Entity

variable {σ : Type}

/-- The special characters, in the order of their entities. -/
def specials : List Char := ['"', '&', '\'', '<', '>']

/-- What is written for a character: the entity of a special one, and else itself. -/
def entityOf (c : Char) : String :=
  ((specials.zip entities).lookup c).getD (String.singleton c)

theorem isSpecial_iff_mem_specials (c : Char) :
  isSpecial c = true ↔ c ∈ specials
  := by
  simp [isSpecial, specials, or_assoc]

theorem entityOf_eq_singleton {c : Char} (h : c ∉ specials) :
  entityOf c = String.singleton c
  := by
  have hnone : (specials.zip entities).lookup c = none := by
    rw [List.lookup_eq_none_iff]
    intro row hrow
    have hmem := (List.of_mem_zip hrow).1
    rw [bne_iff_ne]
    rintro rfl
    exact h hmem
  rw [entityOf, hnone, Option.getD_none]

theorem toList_entityOf (c : Char) :
  (entityOf c).toList = ofChar c
  := by
  obtain rfl | rfl | rfl | rfl | rfl | h := special_or_ofChar_eq c
  · rfl
  · rfl
  · rfl
  · rfl
  · rfl
  · have hmem : c ∉ specials := by
      rw [← isSpecial_iff_mem_specials, h]
      exact Bool.false_ne_true
    rw [ofChar_eq_singleton h, entityOf_eq_singleton hmem, String.toList_singleton]

/-- A text with every character replaced joins what is written for the characters. -/
theorem ofList_flatMap_ofChar (s : String) :
  String.ofList (s.toList.flatMap ofChar) = String.join (s.toList.map entityOf)
  := by
  apply String.toList_inj.mp
  rw [String.toList_ofList, String.toList_join, List.flatMap_map]
  simp only [toList_entityOf]

theorem escape_eq_join (s : String) :
  escape s = String.join (s.toList.map entityOf)
  := by
  rw [← ofList_flatMap_ofChar, ← toList_escape, String.ofList_toList]

/-- The escaped sum of two texts is the sum of the escaped texts. -/
theorem add_bind_escape (host : Host σ) (s t : String) :
  host.add (.plain s) (.plain t) >>= host.escape = (do
    host.add (← host.escape (.plain s)) (← host.escape (.plain t)))
  := by
  show (pure (.plain (escape (s ++ t))) : Run σ Value) = _
  rw [escape_append]
  rfl

/-- A plain text is escaped to what is written for its characters, one behind the other, as
is the text with every character replaced, whether there is a special one or not.  So the
escaped sum of two plain texts is the sum of the escaped ones, and a plain text is escaped
to itself exactly if it holds no special character. -/
theorem escape_plain_eq_join (host : Host σ) (s t : String) :
  host.escape (.plain s) = pure (.plain (String.join (s.toList.map entityOf)))
    ∧ String.ofList (s.toList.flatMap ofChar) = String.join (s.toList.map entityOf)
    ∧ (host.add (.plain s) (.plain t) >>= host.escape = (do
      host.add (← host.escape (.plain s)) (← host.escape (.plain t))))
    ∧ ∀ state, host.escape (.plain s) state = (.ok (.plain s), state)
      ↔ ∀ c ∈ s.toList, c ∉ specials
  := by
  refine ⟨?_, ofList_flatMap_ofChar s, add_bind_escape host s t, ?_⟩
  · rw [← escape_eq_join]
    rfl
  · intro state
    -- Escaping a plain text keeps the state, so that only the results are to be compared.
    have hself : host.escape (.plain s) state = (.ok (.plain s), state) ↔ escape s = s := by
      show (Except.ok (Value.plain (escape s)), state) = (.ok (.plain s), state) ↔ _
      simp [Value.plain]
    rw [hself, escape_eq_self_iff]
    simp only [← isSpecial_iff_mem_specials, Bool.not_eq_true]

end HtmlTemplate.Entity
