/-!
# Character entities

The five characters that HTML text cannot hold as themselves are `isSpecial`, and
`ofChar` is the entity written for each of them.  `escape` writes a whole text so;
`escapeNumeric` is the variant of markupsafe, in which the double quote has a numeric entity.
`toList_escape` says that a text is escaped character by character, whether or not
it holds anything to escape.
-/

namespace HtmlTemplate.Entity

/-- The characters that HTML text cannot hold as themselves. -/
def isSpecial (c : Char) : Bool :=
  c = '"' || c = '&' || c = '\'' || c = '<' || c = '>'

/-- The entity of a special character; any other character stands for itself. -/
def ofChar (c : Char) : List Char :=
  if c = '"' then ['&', 'q', 'u', 'o', 't', ';']
  else if c = '&' then ['&', 'a', 'm', 'p', ';']
  else if c = '\'' then ['&', '#', '3', '9', ';']
  else if c = '<' then ['&', 'l', 't', ';']
  else if c = '>' then ['&', 'g', 't', ';']
  else [c]

/-- The entity that markupsafe writes for a special character: both quotes by their numbers,
and the others by name. -/
def numericOfChar (c : Char) : List Char :=
  if c = '"' then ['&', '#', '3', '4', ';'] else ofChar c

/-- A text with every special character replaced by its entity.  A text without any
is returned as it is. -/
def escape (s : String) : String :=
  if s.toList.any isSpecial then String.ofList (s.toList.flatMap ofChar) else s

/-- A text with every special character replaced by its entity, quotes by number, as
`markupsafe.escape` is documented to replace them. -/
def escapeNumeric (s : String) : String :=
  String.ofList (s.toList.flatMap numericOfChar)

theorem ofChar_eq_singleton {c : Char} (h : isSpecial c = false) :
  ofChar c = [c]
  := by
  simp only [isSpecial, Bool.or_eq_false_iff, decide_eq_false_iff_not] at h
  obtain ⟨⟨⟨⟨h₁, h₂⟩, h₃⟩, h₄⟩, h₅⟩ := h
  simp [ofChar, h₁, h₂, h₃, h₄, h₅]

private theorem flatMap_ofChar_eq_self {s : List Char} (h : s.any isSpecial = false) :
  s.flatMap ofChar = s
  := by
  induction s with
  | nil => rfl
  | cons c s ih =>
    rw [List.any_cons, Bool.or_eq_false_iff] at h
    rw [List.flatMap_cons, ofChar_eq_singleton h.1, ih h.2, List.singleton_append]

/-- Escaping goes character by character. -/
theorem toList_escape (s : String) :
  (escape s).toList = s.toList.flatMap ofChar
  := by
  unfold escape
  split
  · exact String.toList_ofList
  · rename_i h
    rw [flatMap_ofChar_eq_self (by simpa using h)]

end HtmlTemplate.Entity
