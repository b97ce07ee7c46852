import HtmlTemplate.Escape
import Mathlib.Data.Set.Function
import Mathlib.Tactic.ByContra
import Mathlib.Tactic.Use

/-!
# Escaped texts

The language `IsEscaped` of the texts in which no significant character stands and every
ampersand begins an entity, and `unescape`, which replaces the entities of a text in one
pass from left to right.  `escape_bijOn` says that escaping is a bijection from all texts
onto this language, with `unescape` as its inverse.
-/

namespace HtmlTemplate.Entity

/-- The characters that open or close a tag or the value of an attribute. -/
def isSignificant (c : Char) : Bool :=
  c = '<' || c = '>' || c = '"' || c = '\''

/-- The significant characters of a text, in order. -/
def significant (s : String) : List Char := s.toList.filter isSignificant

/-- The five entities. -/
def entities : List String := ["&quot;", "&amp;", "&#39;", "&lt;", "&gt;"]

/-- A row of characters holds no significant one, and every ampersand in it is the first
character of an entity. -/
structure IsEscaped (t : List Char) : Prop where
  insignificant : ∀ c ∈ t, isSignificant c = false
  ampersand : ∀ before after, t = before ++ '&' :: after →
    ∃ e ∈ entities, e.toList <+: '&' :: after

/-- The characters with each entity replaced by the character it stands for, in one pass
from left to right. -/
def decode : List Char → List Char
  | '&' :: 'q' :: 'u' :: 'o' :: 't' :: ';' :: rest => '"' :: decode rest
  | '&' :: 'a' :: 'm' :: 'p' :: ';' :: rest => '&' :: decode rest
  | '&' :: '#' :: '3' :: '9' :: ';' :: rest => '\'' :: decode rest
  | '&' :: 'l' :: 't' :: ';' :: rest => '<' :: decode rest
  | '&' :: 'g' :: 't' :: ';' :: rest => '>' :: decode rest
  | c :: rest => c :: decode rest
  | [] => []

/-- A text with its entities replaced by the characters they stand for. -/
def unescape (t : String) : String := String.ofList (decode t.toList)

/-! ### Characters and their entities -/

theorem isSpecial_eq (c : Char) :
  isSpecial c = (isSignificant c || c = '&')
  := by
  simp only [isSpecial, isSignificant]
  grind

/-- A character is one of the five special ones, or stands for itself. -/
theorem special_or_ofChar_eq (c : Char) :
  c = '"' ∨ c = '&' ∨ c = '\'' ∨ c = '<' ∨ c = '>' ∨ isSpecial c = false
  := by
  simp only [isSpecial]
  grind

theorem decode_cons {c : Char} (h : c ≠ '&') (t : List Char) :
  decode (c :: t) = c :: decode t
  := by
  rw [decode]
  all_goals grind

theorem ofChar_length_pos (c : Char) :
  0 < (ofChar c).length
  := by
  unfold ofChar
  grind

/-- An entity is longer than the character it stands for. -/
theorem one_lt_length_ofChar {c : Char} (h : isSpecial c = true) :
  1 < (ofChar c).length
  := by
  obtain rfl | rfl | rfl | rfl | rfl | hc := special_or_ofChar_eq c
  · decide
  · decide
  · decide
  · decide
  · decide
  · rw [h] at hc
    cases hc

theorem length_le_flatMap_ofChar (s : List Char) :
  s.length ≤ (s.flatMap ofChar).length
  := by
  induction s with
  | nil => apply Nat.le_refl
  | cons c s ih =>
    have := ofChar_length_pos c
    rw [List.flatMap_cons, List.length_append, List.length_cons]
    omega

/-- A row of characters without special ones is the only one that is written as itself. -/
theorem flatMap_ofChar_eq_self_iff (s : List Char) :
  s.flatMap ofChar = s ↔ ∀ c ∈ s, isSpecial c = false
  := by
  induction s with
  | nil => simp
  | cons c s ih =>
    rw [List.forall_mem_cons, ← ih, List.flatMap_cons]
    constructor
    · intro h
      -- What is behind the first character is not shorter than before, so there is no entity.
      have hc : isSpecial c = false := by
        by_contra hspecial
        have hlength := congrArg List.length h
        have := one_lt_length_ofChar (Bool.not_eq_false _ ▸ hspecial)
        have := length_le_flatMap_ofChar s
        rw [List.length_append, List.length_cons] at hlength
        omega
      rw [ofChar_eq_singleton hc] at h
      use hc, List.tail_eq_of_cons_eq h
    · rintro ⟨hc, hs⟩
      rw [ofChar_eq_singleton hc, hs, List.singleton_append]

/-- Decoding takes an entity at the beginning for its character. -/
theorem decode_ofChar_append (c : Char) (t : List Char) :
  decode (ofChar c ++ t) = c :: decode t
  := by
  obtain rfl | rfl | rfl | rfl | rfl | h := special_or_ofChar_eq c
  · rfl
  · rfl
  · rfl
  · rfl
  · rfl
  · rw [ofChar_eq_singleton h]
    apply decode_cons
    rintro rfl
    contradiction

/-- Decoding undoes the entities of all characters. -/
theorem decode_flatMap_ofChar (s : List Char) :
  decode (s.flatMap ofChar) = s
  := by
  induction s with
  | nil => rfl
  | cons c s ih => rw [List.flatMap_cons, decode_ofChar_append, ih]

/-! ### The language of escaped texts -/

theorem isEscaped_nil :
  IsEscaped []
  := by
  constructor
  · simp
  · simp

/-- A row of characters is escaped when its first character may stand there and the rest
is escaped. -/
theorem isEscaped_cons {c : Char} {t : List Char} :
  IsEscaped (c :: t) ↔ isSignificant c = false
    ∧ (c = '&' → ∃ e ∈ entities, e.toList <+: c :: t) ∧ IsEscaped t
  := by
  constructor
  · rintro ⟨hs, ha⟩
    refine ⟨hs c List.mem_cons_self, ?_, ?_, ?_⟩
    · rintro rfl
      apply ha []
      rfl
    · intro d hd
      apply hs d (List.mem_cons_of_mem c hd)
    · intro before after h
      apply ha (c :: before) after
      rw [h, List.cons_append]
  · rintro ⟨hc, ha, ht⟩
    constructor
    · intro d hd
      obtain rfl | hd := List.mem_cons.mp hd
      · apply hc
      · apply ht.insignificant d hd
    · intro before after h
      cases before with
      | nil =>
        obtain ⟨rfl, rfl⟩ := List.cons.inj h
        apply ha rfl
      | cons b before =>
        obtain ⟨rfl, hrest⟩ := List.cons.inj h
        apply ht.ampersand before after hrest

/-- Escaped rows stay escaped behind the entity of any character. -/
theorem IsEscaped.ofChar_append (c : Char) {t : List Char} (h : IsEscaped t) :
  IsEscaped (ofChar c ++ t)
  := by
  obtain rfl | rfl | rfl | rfl | rfl | hc := special_or_ofChar_eq c
  · simp [ofChar, isEscaped_cons, h, isSignificant, entities]
  · simp [ofChar, isEscaped_cons, h, isSignificant, entities]
  · simp [ofChar, isEscaped_cons, h, isSignificant, entities]
  · simp [ofChar, isEscaped_cons, h, isSignificant, entities]
  · simp [ofChar, isEscaped_cons, h, isSignificant, entities]
  · rw [ofChar_eq_singleton hc, List.singleton_append, isEscaped_cons]
    rw [isSpecial_eq, Bool.or_eq_false_iff, decide_eq_false_iff_not] at hc
    use hc.1
    constructor
    · intro hamp
      apply absurd hamp hc.2
    · apply h

theorem isEscaped_flatMap_ofChar (s : List Char) :
  IsEscaped (s.flatMap ofChar)
  := by
  induction s with
  | nil => apply isEscaped_nil
  | cons c s ih =>
    rw [List.flatMap_cons]
    apply ih.ofChar_append

theorem IsEscaped.of_append {s t : List Char} (h : IsEscaped (s ++ t)) :
  IsEscaped t
  := by
  induction s with
  | nil => apply h
  | cons c s ih => apply ih (isEscaped_cons.mp h).2.2

theorem exists_ofChar_eq {e : String} (h : e ∈ entities) :
  ∃ c, ofChar c = e.toList
  := by
  simp only [entities, List.mem_cons, List.not_mem_nil, or_false] at h
  obtain rfl | rfl | rfl | rfl | rfl := h
  · use '"'
    simp [ofChar]
  · use '&'
    simp [ofChar]
  · use '\''
    simp [ofChar]
  · use '<'
    simp [ofChar]
  · use '>'
    simp [ofChar]

/-- An escaped row begins with what one character is escaped to, and the rest is escaped. -/
theorem IsEscaped.exists_ofChar_append {c : Char} {t : List Char}
    (h : IsEscaped (c :: t)) :
  ∃ d rest, c :: t = ofChar d ++ rest ∧ IsEscaped rest
  := by
  obtain ⟨hc, ha, ht⟩ := isEscaped_cons.mp h
  by_cases hamp : c = '&'
  · obtain ⟨e, he, rest, hrest⟩ := ha hamp
    obtain ⟨d, hd⟩ := exists_ofChar_eq he
    rw [← hrest, ← hd] at h ⊢
    use d, rest, rfl
    apply h.of_append
  · use c, t
    rw [ofChar_eq_singleton (by simp [isSpecial_eq, hc, hamp])]
    use rfl

/-- An escaped row is what the characters it is decoded to are escaped to. -/
theorem IsEscaped.flatMap_decode {t : List Char} (h : IsEscaped t) :
  (decode t).flatMap ofChar = t
  := by
  -- The recursion is on the row without its first unit, which may be a whole entity.
  induction hn : t.length using Nat.strong_induction_on generalizing t with
  | _ n ih =>
    subst hn
    cases t with
    | nil => rfl
    | cons c t =>
      obtain ⟨d, rest, heq, hrest⟩ := h.exists_ofChar_append
      have hlength : rest.length < (c :: t).length := by
        rw [heq, List.length_append]
        have := ofChar_length_pos d
        omega
      rw [heq, decode_ofChar_append, List.flatMap_cons, ih rest.length hlength hrest rfl]

/-! ### Escaping texts -/

/-- The escaped form of a text is in the language. -/
theorem isEscaped_escape (s : String) :
  IsEscaped (escape s).toList
  := by
  rw [toList_escape]
  apply isEscaped_flatMap_ofChar

theorem not_mem_escape {c : Char} (hc : isSignificant c = true) (s : String) :
  c ∉ (escape s).toList
  := by
  intro hmem
  have hinsignificant := (isEscaped_escape s).insignificant c hmem
  rw [hc] at hinsignificant
  cases hinsignificant

theorem unescape_escape (s : String) :
  unescape (escape s) = s
  := by
  rw [unescape, toList_escape, decode_flatMap_ofChar, String.ofList_toList]

theorem escape_unescape {t : String} (h : IsEscaped t.toList) :
  escape (unescape t) = t
  := by
  apply String.toList_inj.mp
  rw [toList_escape, unescape, String.toList_ofList, h.flatMap_decode]

/-- The text that an escaped text comes from is the one it is decoded to. -/
theorem escape_eq_iff (s t : String) :
  escape s = t ↔ IsEscaped t.toList ∧ s = unescape t
  := by
  constructor
  · rintro rfl
    use isEscaped_escape s
    rw [unescape_escape]
  · rintro ⟨ht, rfl⟩
    apply escape_unescape ht

/-- A text that has nothing to escape is the only one that is escaped to itself. -/
theorem escape_eq_self_iff (s : String) :
  escape s = s ↔ ∀ c ∈ s.toList, isSpecial c = false
  := by
  rw [← String.toList_inj, toList_escape, flatMap_ofChar_eq_self_iff]

/-- Texts are escaped one behind the other. -/
theorem escape_append (s t : String) :
  escape (s ++ t) = escape s ++ escape t
  := by
  apply String.toList_inj.mp
  rw [toList_escape, String.toList_append, List.flatMap_append, String.toList_append,
    toList_escape, toList_escape]

/-- Joined texts are escaped one by one, as is what joins them. -/
theorem escape_intercalate (separator : String) (texts : List String) :
  escape (separator.intercalate texts) = (escape separator).intercalate (texts.map escape)
  := by
  induction texts with
  | nil =>
    rw [String.intercalate_nil, List.map_nil, String.intercalate_nil]
    rfl
  | cons text texts ih =>
    cases texts with
    | nil =>
      rw [String.intercalate_singleton, List.map_singleton, String.intercalate_singleton]
    | cons next texts =>
      rw [String.intercalate_cons_cons, escape_append, escape_append, ih]
      simp only [List.map_cons, String.intercalate_cons_cons]

/-! ### Significant characters -/

theorem significant_append (s t : String) :
  significant (s ++ t) = significant s ++ significant t
  := by
  rw [significant, String.toList_append, List.filter_append]
  rfl

/-- Nothing in an escaped text is significant. -/
theorem significant_escape (s : String) :
  significant (escape s) = []
  := by
  rw [significant, List.filter_eq_nil_iff]
  intro c hc
  simp [(isEscaped_escape s).insignificant c hc]

/-- Escaping a plain text is a bijection onto the escaped texts: its result is always
escaped, no two texts have the same, and an escaped text is the result for exactly one
text, the one it is decoded to. -/
theorem escape_bijOn {σ : Type} (host : Host σ) :
  (∀ s, host.escape (.plain s) = pure (.plain (escape s)))
    ∧ Set.BijOn escape Set.univ {t | IsEscaped t.toList}
    ∧ ∀ s t, escape s = t ↔ IsEscaped t.toList ∧ s = unescape t
  := by
  refine ⟨fun _ => rfl, ⟨?_, ?_, ?_⟩, escape_eq_iff⟩
  · intro s _
    apply isEscaped_escape
  · intro s _ t _ h
    rw [← unescape_escape s, h, unescape_escape]
  · intro t ht
    use unescape t, Set.mem_univ _
    apply escape_unescape ht

end HtmlTemplate.Entity
