import HtmlTemplate.Attribute
import Mathlib.Data.List.Forall2
import Mathlib.Data.List.TakeWhile
import Mathlib.Tactic.ByContra
import Mathlib.Tactic.Use

/-!
# Pairs and entries

A text is a pair if it holds an equals sign behind a key (`IsPair`), and a pair is the
text of exactly one entry, a key and a value.  The mapping of a row of pairs is made by
inserting the entries one after another, `insertAll`; with a text that is no pair in the
row, the first such text is the fault (`ofPairs_of_refused`).
-/

namespace HtmlTemplate.Attribute

/-- A text with an equals sign that does not begin with one. -/
structure IsPair (pair : String) : Prop where
  mem : '=' ∈ pair.toList
  key : pair.toList.head? ≠ some '='

/-- A key that can be told from what follows the equals sign, and a value. -/
structure IsEntry (entry : String × String) : Prop where
  key_ne : entry.1 ≠ ""
  not_mem : '=' ∉ entry.1.toList

/-- The pair of an entry. -/
def pairOf (entry : String × String) : String := entry.1 ++ "=" ++ entry.2

/-- Entries with a value under a key. -/
def insert (key value : String) : List (String × String) → List (String × String)
  | [] => [(key, value)]
  | (k, v) :: entries =>
    if k = key then (k, value) :: entries else (k, v) :: insert key value entries

/-- The entries before, with others inserted one after another. -/
def insertAll (before entries : List (String × String)) : List (String × String) :=
  entries.foldl (fun before entry => insert entry.1 entry.2 before) before

/-- An entry of plain texts. -/
def plainEntry (entry : String × String) : Value × Value := (.plain entry.1, .plain entry.2)

/-- Entries of texts as a mapping. -/
def toMapping (entries : List (String × String)) : Value :=
  .mapping .plain (entries.map plainEntry)

variable {entry : String × String} {entries : List (String × String)} {pair : String}

theorem toList_pairOf (entry : String × String) :
  (pairOf entry).toList = entry.1.toList ++ '=' :: entry.2.toList
  := by
  simp [pairOf]

/-! ### Cutting a pair -/

theorem IsEntry.split?_pairOf (h : IsEntry entry) :
  split? (pairOf entry) = some entry
  := by
  have hbefore : ∀ c ∈ entry.1.toList, decide (c ≠ '=') = true := by
    intro c hc
    apply decide_eq_true
    rintro rfl
    apply h.not_mem hc
  rw [split?, toList_pairOf, List.takeWhile_append_of_pos hbefore,
    List.dropWhile_append_of_pos hbefore]
  simp [h.key_ne]

/-- Every pair is the text of an entry. -/
theorem IsPair.exists_entry (h : IsPair pair) :
  ∃ entry, IsEntry entry ∧ pairOf entry = pair
  := by
  obtain ⟨key, value, heq, hkey⟩ := List.eq_append_cons_of_mem h.mem
  use (String.ofList key, String.ofList value)
  constructor
  · constructor
    · intro hempty
      have hnil : key = [] := String.ofList_eq_empty_iff.mp hempty
      apply h.key
      rw [heq, hnil]
      rfl
    · rwa [String.toList_ofList]
  · apply String.toList_inj.mp
    rw [toList_pairOf, heq, String.toList_ofList, String.toList_ofList]

theorem split?_eq_none (h : ¬ IsPair pair) :
  split? pair = none
  := by
  by_cases hmem : '=' ∈ pair.toList
  · have hhead : pair.toList.head? = some '=' := by
      by_contra hkey
      apply h ⟨hmem, hkey⟩
    obtain ⟨value, hvalue⟩ := List.head?_eq_some_iff.mp hhead
    simp [split?, hvalue]
  · have hdrop : pair.toList.dropWhile (· ≠ '=') = [] := by
      rw [List.dropWhile_eq_nil_iff]
      intro c hc
      apply decide_eq_true
      rintro rfl
      apply hmem hc
    rw [split?, hdrop]

/-! ### Reading a row of pairs -/

theorem IsEntry.read_pairOf (h : IsEntry entry) (mark : Mark) :
  read (.text mark (pairOf entry)) = .ok (.text mark.ofPart entry.1, .text mark.ofPart entry.2)
  := by
  rw [read, h.split?_pairOf]

theorem read_of_not_isPair (h : ¬ IsPair pair) (mark : Mark) :
  read (.text mark pair) = .error (.malformedAttribute (Value.text mark pair).inspect)
  := by
  rw [read, split?_eq_none h]

theorem read_eq_malformed (h : ¬ IsPair pair) :
  read (.plain pair) = .error (.malformedAttribute (Quoted.quote pair))
  := by
  rw [Value.plain, read_of_not_isPair h, Value.inspect]
  · simp

/-- Texts with their marks, as values. -/
def markedTexts (texts : List (Mark × String)) : List Value := texts.map fun t => .text t.1 t.2

/-- The pair of an entry, marked as the entry is. -/
def markedPair (entry : Mark × String × String) : Mark × String := (entry.1, pairOf entry.2)

/-- An entry of a mapping holds the texts of an entry, each with one of some marks. -/
structure ShowsEntry (marks : List Mark) (held : Value × Value) (entry : String × String) :
    Prop where
  key : ∃ mark ∈ marks, held.1 = .text mark entry.1
  value : ∃ mark ∈ marks, held.2 = .text mark entry.2

theorem markedTexts_plain (texts : List String) :
  markedTexts (texts.map (Mark.plain, ·)) = texts.map .plain
  := by
  rw [markedTexts, List.map_map]
  rfl

section Marked

variable {marks : List Mark} {texts : List (Mark × String)}
  {marked : List (Mark × String × String)} {held : List (Value × Value)}

theorem eq_map_plainEntry (h : List.Forall₂ (ShowsEntry [.plain]) held entries) :
  held = entries.map plainEntry
  := by
  induction h with
  | nil => rfl
  | @cons first entry _ _ hfirst _ ih =>
    obtain ⟨⟨_, hmark, hkey⟩, ⟨_, hmark', hvalue⟩⟩ := hfirst
    rw [List.mem_singleton.mp hmark] at hkey
    rw [List.mem_singleton.mp hmark'] at hvalue
    have hplain : first = plainEntry entry := Prod.ext hkey hvalue
    rw [List.map_cons, ← ih, hplain]

/-- Where an entry is inserted does not depend on the marks of the keys. -/
theorem shows_insert (h : List.Forall₂ (ShowsEntry marks) held entries) {mark : Mark}
    (hmark : mark ∈ marks) (entry : String × String) :
  List.Forall₂ (ShowsEntry marks)
    (Entries.insert (.text mark entry.1) (.text mark entry.2) held)
    (insert entry.1 entry.2 entries)
  := by
  have hvalue : ∃ m ∈ marks, Value.text mark entry.2 = .text m entry.2 := ⟨mark, hmark, rfl⟩
  induction h with
  | nil =>
    apply List.Forall₂.cons _ .nil
    use ⟨mark, hmark, rfl⟩
  | @cons first _ _ _ hfirst hheld ih =>
    obtain ⟨key, value⟩ := first
    obtain ⟨m, hm, rfl⟩ := hfirst.key
    simp only [Entries.insert, insert, Value.beq, decide_eq_true_eq]
    split
    · apply List.Forall₂.cons _ hheld
      use ⟨m, hm, rfl⟩
    · apply List.Forall₂.cons hfirst ih

/-- Pairs of entries are read, and the entries inserted one after another. -/
theorem exists_foldlM_insertPair (h : ∀ e ∈ marked, IsEntry e.2)
    (hmarks : ∀ e ∈ marked, e.1.ofPart ∈ marks) {shown : List (String × String)}
    (hheld : List.Forall₂ (ShowsEntry marks) held shown) :
  ∃ mapping, (markedTexts (marked.map markedPair)).foldlM insertPair held = .ok mapping
    ∧ List.Forall₂ (ShowsEntry marks) mapping (insertAll shown (marked.map Prod.snd))
  := by
  induction marked generalizing held shown with
  | nil =>
    use held, rfl
    apply hheld
  | cons entry marked ih =>
    rw [List.forall_mem_cons] at h hmarks
    rw [List.map_cons, markedTexts, List.map_cons, List.foldlM_cons, markedPair, insertPair,
      h.1.read_pairOf]
    apply ih h.2 hmarks.2
    apply shows_insert hheld hmarks.1

/-- Texts that are pairs are the pairs of entries. -/
theorem exists_marked (h : ∀ t ∈ texts, IsPair t.2) :
  ∃ marked : List (Mark × String × String), (∀ e ∈ marked, IsEntry e.2)
    ∧ texts = marked.map markedPair
  := by
  induction texts with
  | nil =>
    use []
    simp
  | cons text texts ih =>
    rw [List.forall_mem_cons] at h
    obtain ⟨entry, hentry, hpair⟩ := h.1.exists_entry
    obtain ⟨marked, hmarked, rfl⟩ := ih h.2
    use (text.1, entry) :: marked
    rw [List.forall_mem_cons, List.map_cons, markedPair, hpair]
    use ⟨hentry, hmarked⟩

/-- The fault of the first item that is refused is the fault of a row, whatever follows. -/
theorem ofPairs_of_refused {item : Value} {fault : Fault} (htexts : ∀ t ∈ texts, IsPair t.2)
    (hitem : read item = .error fault) (rest : List Value) :
  ofPairs (markedTexts texts ++ item :: rest) = .error fault
  := by
  obtain ⟨marked, hmarked, rfl⟩ := exists_marked htexts
  have hmarks : ∀ e ∈ marked, e.1.ofPart ∈ marked.map (·.1.ofPart) := fun e he =>
    List.mem_map_of_mem he
  obtain ⟨mapping, hmapping, -⟩ := exists_foldlM_insertPair hmarked hmarks .nil
  rw [ofPairs, List.foldlM_append, hmapping]
  show List.foldlM insertPair mapping (item :: rest) = _
  rw [List.foldlM_cons, insertPair, hitem]
  rfl

end Marked

/-- The pairs of entries have the mapping that the entries make when they are inserted one
after another. -/
theorem ofPairs_eq_insertAll (h : ∀ e ∈ entries, IsEntry e) :
  ofPairs (entries.map fun e => .plain (pairOf e)) = .ok ((insertAll [] entries).map plainEntry)
  := by
  have hmarked : ∀ e ∈ entries.map (Mark.plain, ·), IsEntry e.2 := by
    rwa [List.forall_mem_map]
  have hmarks : ∀ e ∈ entries.map (Mark.plain, ·), e.1.ofPart ∈ [Mark.plain] := by
    rw [List.forall_mem_map]
    intro _ _
    apply List.mem_singleton_self
  obtain ⟨mapping, hmapping, hshown⟩ := exists_foldlM_insertPair hmarked hmarks .nil
  have hentries : (entries.map (Mark.plain, ·)).map Prod.snd = entries := by
    rw [List.map_map]
    apply List.map_id
  have hpairs : (entries.map (Mark.plain, ·)).map markedPair
      = (entries.map pairOf).map (Mark.plain, ·) := by
    rw [List.map_map, List.map_map]
    rfl
  rw [hentries] at hshown
  rw [hpairs, markedTexts_plain, List.map_map] at hmapping
  rw [← eq_map_plainEntry hshown]
  apply hmapping

end HtmlTemplate.Attribute
