import HtmlTemplate.Element
import HtmlTemplate.Proofs.Text.Escaped
import Mathlib.Data.List.Forall2

/-!
# The boundaries of an element

The text of an element tells where each of its parts ends if the name holds no space and no closing
bracket, the keys hold no equals sign and the values of the attributes are escaped: the name ends
at the first space or bracket, a key at the first equals sign behind it and a value at the first
quote.  Hence the text determines the name, the attributes in order and the content, whatever
these look like (`element_text_eq_iff`).
-/

namespace HtmlTemplate.Element

open Entity (escape)

/-- A name that ends where the attributes or the content begin. -/
structure IsName (name : String) : Prop where
  space : ' ' ∉ name.toList
  bracket : '>' ∉ name.toList

/-- A key that is a text without an equals sign, and a value that is an escaped text. -/
structure IsAttribute (entry : Value × Value) (pair : String × String) : Prop where
  key : ∃ mark, entry.1 = .text mark pair.1
  equals : '=' ∉ pair.1.toList
  value : entry.2 = .plain (escape pair.2)

/-- Attributes with escaped values, given as nothing, as a class or as a mapping, and the keys with
the values before they were escaped. -/
inductive HasAttributes : Value → List (String × String) → Prop where
  | absent : HasAttributes .absent []
  | className (mark : Mark) (value : String) :
      HasAttributes (.text mark (escape value)) [("class", value)]
  | mapping (kind : MappingKind) {entries : List (Value × Value)}
      {pairs : List (String × String)} (h : List.Forall₂ IsAttribute entries pairs) :
      HasAttributes (.mapping kind entries) pairs

/-- The characters of attributes, each with a space before it. -/
def written (pairs : List (String × String)) : List Char :=
  pairs.flatMap fun pair =>
    ' ' :: (pair.1.toList ++ '=' :: '"' :: ((escape pair.2).toList ++ ['"']))

theorem written_cons_append (pair : String × String) (pairs : List (String × String))
    (rest : List Char) :
  written (pair :: pairs) ++ rest
    = ' ' :: (pair.1.toList ++ '=' :: '"' :: ((escape pair.2).toList
      ++ '"' :: (written pairs ++ rest)))
  := by
  simp [written]

/-- Parts that hold no delimiter and have one behind them end at the same place. -/
theorem append_cons_inj {P : Char → Prop} {part part' rest rest' : List Char} {d d' : Char}
    (hpart : ∀ c ∈ part, ¬ P c) (hpart' : ∀ c ∈ part', ¬ P c) (hd : P d) (hd' : P d')
    (h : part ++ d :: rest = part' ++ d' :: rest') :
  part = part' ∧ d = d' ∧ rest = rest'
  := by
  induction part generalizing part' with
  | nil =>
    cases part' with
    | nil => use rfl, (List.cons.inj h).1, (List.cons.inj h).2
    | cons c part' =>
      rw [(List.cons.inj h).1] at hd
      apply absurd hd (hpart' c List.mem_cons_self)
  | cons c part ih =>
    cases part' with
    | nil =>
      rw [← (List.cons.inj h).1] at hd'
      apply absurd hd' (hpart c List.mem_cons_self)
    | cons c' part' =>
      rw [List.forall_mem_cons] at hpart hpart'
      obtain ⟨rfl, heq⟩ := List.cons.inj h
      obtain ⟨rfl, hrest⟩ := ih hpart.2 hpart'.2 heq
      use rfl, hrest.1, hrest.2

section Attributes

variable {attributes : Value} {pairs pairs' : List (String × String)}

theorem HasAttributes.toList_attributes (h : HasAttributes attributes pairs) :
  (Element.attributes attributes).toList = written pairs
  := by
  cases h with
  | absent => rfl
  | className mark value => simp [Element.attributes, written]
  | mapping kind h =>
    rw [Element.attributes]
    induction h with
    | nil => rfl
    | @cons entry pair entries pairs hentry _ ih =>
      obtain ⟨⟨mark, hkey⟩, -, hvalue⟩ := hentry
      rw [List.map_cons, String.join_cons, String.toList_append, ih, hkey, hvalue]
      simp [written, Value.display, Value.plain]

theorem HasAttributes.equals (h : HasAttributes attributes pairs) :
  ∀ pair ∈ pairs, '=' ∉ pair.1.toList
  := by
  cases h with
  | absent => simp
  | className mark value => simp
  | mapping kind h =>
    induction h with
    | nil => simp
    | cons hentry _ ih =>
      rw [List.forall_mem_cons]
      use hentry.equals

/-- Written attributes are told apart, and from what follows the bracket behind them. -/
theorem written_append_inj {rest rest' : List Char} (h : ∀ pair ∈ pairs, '=' ∉ pair.1.toList)
    (h' : ∀ pair ∈ pairs', '=' ∉ pair.1.toList)
    (heq : written pairs ++ '>' :: rest = written pairs' ++ '>' :: rest') :
  pairs = pairs' ∧ rest = rest'
  := by
  have hequals {key : String} (hkey : '=' ∉ key.toList) : ∀ c ∈ key.toList, ¬ c = '=' := by
    rintro c hc rfl
    contradiction
  have hquote (value : String) : ∀ c ∈ (escape value).toList, ¬ c = '"' := by
    rintro c hc rfl
    apply Entity.not_mem_escape rfl value hc
  induction pairs generalizing pairs' with
  | nil =>
    cases pairs' with
    | nil =>
      use rfl
      apply (List.cons.inj heq).2
    | cons pair' pairs' =>
      rw [written_cons_append] at heq
      cases heq
  | cons pair pairs ih =>
    cases pairs' with
    | nil =>
      rw [written_cons_append] at heq
      cases heq
    | cons pair' pairs' =>
      rw [List.forall_mem_cons] at h h'
      rw [written_cons_append, written_cons_append] at heq
      obtain ⟨hkey, -, hrest⟩ := append_cons_inj (hequals h.1) (hequals h'.1) rfl rfl
        (List.cons.inj heq).2
      obtain ⟨hvalue, -, hpairs⟩ := append_cons_inj (hquote pair.2) (hquote pair'.2) rfl rfl
        (List.cons.inj hrest).2
      obtain ⟨rfl, rfl⟩ := ih h.2 h'.2 hpairs
      have hpair : pair = pair' := by
        apply Prod.ext
        · apply String.toList_inj.mp hkey
        · rw [← Entity.unescape_escape pair.2, String.toList_inj.mp hvalue,
            Entity.unescape_escape]
      rw [hpair]
      use rfl

/-- Behind a name stands a space or a bracket. -/
theorem exists_written_append (pairs : List (String × String)) (rest : List Char) :
  ∃ d rest', written pairs ++ '>' :: rest = d :: rest' ∧ (d = ' ' ∨ d = '>')
  := by
  cases pairs with
  | nil => use '>', rest, rfl, .inr rfl
  | cons pair pairs =>
    rw [written_cons_append]
    refine ⟨' ', _, rfl, .inl rfl⟩

end Attributes

/-- A class is written like a mapping with this one key. -/
theorem attributes_class (mark : Mark) (kind : MappingKind) (s : String) :
  Element.attributes (.text mark s)
    = Element.attributes (.mapping kind [(.plain "class", .text mark s)])
  := by
  apply String.toList_inj.mp
  simp [Element.attributes, Value.display, Value.plain]

/-- A name ends where the attributes or the bracket behind it begin. -/
theorem IsName.append_inj {name name' : String} (h : IsName name) (h' : IsName name')
    {pairs pairs' : List (String × String)} {rest rest' : List Char}
    (heq : name.toList ++ (written pairs ++ '>' :: rest)
      = name'.toList ++ (written pairs' ++ '>' :: rest')) :
  name = name' ∧ written pairs ++ '>' :: rest = written pairs' ++ '>' :: rest'
  := by
  have hne {name : String} (h : IsName name) : ∀ c ∈ name.toList, ¬ (c = ' ' ∨ c = '>') := by
    rintro c hc (rfl | rfl)
    · apply h.space hc
    · apply h.bracket hc
  obtain ⟨d, behind, hbehind, hd⟩ := exists_written_append pairs rest
  obtain ⟨d', behind', hbehind', hd'⟩ := exists_written_append pairs' rest'
  rw [hbehind, hbehind'] at heq ⊢
  obtain ⟨hname, rfl, rfl⟩ := append_cons_inj (hne h) (hne h') hd hd' heq
  use String.toList_inj.mp hname

theorem HasAttributes.toList_text {attributes : Value} {pairs : List (String × String)}
    (h : HasAttributes attributes pairs) (mark mark' : Mark) (name content : String) :
  (text (.text mark name) attributes (.text mark' content)).toList
    = '<' :: (name.toList ++ (written pairs
      ++ '>' :: (content.toList ++ ('<' :: '/' :: (name.toList ++ ['>'])))))
  := by
  simp [text, h.toList_attributes, Element.content, Value.display]

/-- The text of an element with a name, attributes whose values are escaped and a content that is a
text determines all three, the attributes in order and with the values before they were escaped.
A class is written like a mapping with this one key, an empty one too, and an empty mapping like
none: this is all that different attributes can have in common. -/
theorem element_text_eq_iff {name name' : String} (hname : IsName name) (hname' : IsName name')
    {attributes attributes' : Value} {pairs pairs' : List (String × String)}
    (h : HasAttributes attributes pairs) (h' : HasAttributes attributes' pairs')
    (mark mark' contentMark contentMark' : Mark) (content content' : String) :
  (text (.text mark name) attributes (.text contentMark content)
      = text (.text mark' name') attributes' (.text contentMark' content')
    ↔ name = name' ∧ pairs = pairs' ∧ content = content')
    ∧ (∀ (name content : Value) (mark : Mark) (kind : MappingKind) (s : String),
      text name (.text mark s) content
        = text name (.mapping kind [(.plain "class", .text mark s)]) content)
    ∧ ∀ (name content : Value) (kind : MappingKind),
      text name (.mapping kind []) content = text name .absent content
  := by
  refine ⟨?_, ?_, ?_⟩
  · rw [← String.toList_inj, h.toList_text, h'.toList_text]
    constructor
    · intro heq
      obtain ⟨rfl, hbehind⟩ := hname.append_inj hname' (List.cons.inj heq).2
      obtain ⟨hpairs, hcontents⟩ := written_append_inj h.equals h'.equals hbehind
      use rfl, hpairs, String.toList_inj.mp (List.append_cancel_right hcontents)
    · rintro ⟨rfl, rfl, rfl⟩
      rfl
  · intro name content mark kind s
    rw [text, text, attributes_class mark kind]
  · intro name content kind
    rfl

/-- The end of an attribute is no content that looks like it. -/
theorem element_text_eq_iff_lookalike :
  let attributes := Value.mapping .plain
    [(.plain "k", .plain (escape "1")), (.plain "l", .plain (escape ">"))]
  let attributes' := Value.mapping .plain [(.plain "k", .plain (escape "1"))]
  IsName "a" ∧ HasAttributes attributes [("k", "1"), ("l", ">")]
    ∧ HasAttributes attributes' [("k", "1")]
    ∧ text (.plain "a") attributes (.plain "x")
      ≠ text (.plain "a") attributes' (.plain " l=\"&gt;\">x")
  := by
  intro attributes attributes'
  have hname : IsName "a" := by
    constructor
    · decide
    · decide
  have hk : IsAttribute (.plain "k", .plain (escape "1")) ("k", "1") :=
    ⟨⟨.plain, rfl⟩, by decide, rfl⟩
  have hl : IsAttribute (.plain "l", .plain (escape ">")) ("l", ">") :=
    ⟨⟨.plain, rfl⟩, by decide, rfl⟩
  have h : HasAttributes attributes [("k", "1"), ("l", ">")] :=
    .mapping .plain (.cons hk (.cons hl .nil))
  have h' : HasAttributes attributes' [("k", "1")] := .mapping .plain (.cons hk .nil)
  use hname, h, h'
  intro heq
  have hparts := (element_text_eq_iff hname hname h h' .plain .plain .plain .plain "x"
    " l=\"&gt;\">x").1.mp heq
  cases hparts.2.1

end HtmlTemplate.Element
