import HtmlTemplate.Proofs.Text.CommentDecomposition
import Mathlib.Data.List.Basic
import Mathlib.Data.Sum.Basic

/-!
# Comments around places

An `Outline` is a row of characters with places for values between them, and `spell` is
its text when the places have texts.  A place is apart from the delimiters of comments
(`IsApart`) if the beginning of an opener does not stand before it, nor the end of a
closer behind it.  If all places are, and no angle bracket stands in the texts of the
places, then the comments of the text are those of the outline: stripping the text is
stripping the outline (`outside_spell`).
-/

namespace HtmlTemplate

/-- A row of characters, with places that are named by `ι` between them. -/
abbrev Outline (ι : Type) : Type := List (Char ⊕ ι)

namespace Outline

open Comment (opener closer StandsAt)

variable {ι : Type}

/-- The text of an outline whose places have the given texts. -/
def spell (f : ι → List Char) (cells : Outline ι) : List Char :=
  cells.flatMap (Sum.elim (fun c => [c]) f)

/-- The places of an outline, in order. -/
def places (cells : Outline ι) : List ι := cells.filterMap Sum.getRight?

/-- Whether an outline holds the end of a comment with no place inside: `Comment.closes`
for outlines. -/
def closes : Outline ι → Bool
  | .inl '-' :: .inl '-' :: .inl '>' :: _ => true
  | _ :: rest => closes rest
  | [] => false

/-- The part of an outline outside comments: `Comment.outside` for outlines.  Places are
kept and dropped like characters.  The flag says whether the outline starts inside a
comment. -/
def outside : Bool → Outline ι → Outline ι
  | false, .inl '<' :: .inl '!' :: .inl '-' :: .inl '-' :: rest =>
    if closes rest then outside true rest
    else .inl '<' :: .inl '!' :: .inl '-' :: .inl '-' :: rest
  | false, cell :: rest => cell :: outside false rest
  | true, .inl '-' :: .inl '-' :: .inl '>' :: rest => outside false rest
  | true, _ :: rest => outside true rest
  | _, [] => []

/-- No place has the beginning of an opener before it, or the end of a closer behind it. -/
structure IsApart (cells : Outline ι) : Prop where
  begun : ∀ before i after, cells = before ++ .inr i :: after →
    ∀ u v, opener = u ++ v → u ≠ [] → v ≠ [] → ¬ u.map .inl <:+ before
  ended : ∀ before i after, cells = before ++ .inr i :: after →
    ∀ u v, closer = u ++ v → u ≠ [] → v ≠ [] → ¬ v.map .inl <+: after

section Spell

variable {f : ι → List Char} {c : Char} {i : ι} {cells : Outline ι}

@[simp]
theorem spell_nil :
  spell f [] = []
  := rfl

@[simp]
theorem spell_inl_cons :
  spell f (.inl c :: cells) = c :: spell f cells
  := rfl

@[simp]
theorem spell_inr_cons :
  spell f (.inr i :: cells) = f i ++ spell f cells
  := rfl

@[simp]
theorem places_inl_cons :
  places (.inl c :: cells) = places cells
  := rfl

@[simp]
theorem places_inr_cons :
  places (.inr i :: cells) = i :: places cells
  := rfl

/-- A row of characters in front of an outline is a part of its text. -/
theorem spell_map_inl_append (s : List Char) (cells : Outline ι) :
  spell f (s.map .inl ++ cells) = s ++ spell f cells
  := by
  induction s with
  | nil => rfl
  | cons c s ih => rw [List.map_cons, List.cons_append, spell_inl_cons, ih, List.cons_append]

theorem places_map_inl_append (s : List Char) (cells : Outline ι) :
  places (s.map .inl ++ cells) = places cells
  := by
  induction s with
  | nil => rfl
  | cons c s ih => rw [List.map_cons, List.cons_append, places_inl_cons, ih]

/-- A word at the beginning of an outline whose first place stands behind `s`, or that has
none. -/
theorem prefix_of_map_prefix_append {v s : List Char} {t : Outline ι}
    (ht : ∀ c cells, t ≠ .inl c :: cells) (h : v.map .inl <+: s.map .inl ++ t) :
  v <+: s
  := by
  induction v generalizing s with
  | nil => apply List.nil_prefix
  | cons c v ih =>
    cases s with
    | nil =>
      obtain ⟨after, hafter⟩ := h
      apply absurd hafter.symm (ht c _)
    | cons d s =>
      obtain ⟨hc, hprefix⟩ := List.cons_prefix_cons.mp h
      rw [List.cons_prefix_cons]
      use Sum.inl_injective hc
      apply ih hprefix

/-- What is outside comments has lost some cells and kept the others in order. -/
theorem outside_sublist (inside : Bool) (cells : Outline ι) :
  List.Sublist (outside inside cells) cells
  := by
  fun_induction outside inside cells with
  | case1 rest hcloses ih =>
    apply ih.trans
    apply List.sublist_append_right (opener.map .inl) rest
  | case2 rest hcloses => apply List.Sublist.refl
  | case3 cell rest hopener ih => apply ih.cons_cons
  | case4 rest ih =>
    apply ih.trans
    apply List.sublist_append_right (closer.map .inl) rest
  | case5 cell rest hcloser ih => apply ih.cons
  | case6 inside => apply List.Sublist.refl

end Spell

/-! ### Delimiters -/

theorem IsApart.of_append (before : Outline ι) {cells : Outline ι}
    (h : IsApart (before ++ cells)) :
  IsApart cells
  := by
  constructor
  · rintro before' i after rfl u v huv hu hv hsuffix
    apply h.begun (before ++ before') i after (List.append_assoc ..).symm u v huv hu hv
    apply hsuffix.trans (List.suffix_append ..)
  · rintro before' i after rfl
    apply h.ended (before ++ before') i after (List.append_assoc ..).symm

theorem IsApart.tail {cell : Char ⊕ ι} {cells : Outline ι} (h : IsApart (cell :: cells)) :
  IsApart cells
  := IsApart.of_append [cell] h

/-- An outline without places. -/
theorem isApart_map_inl (s : List Char) :
  IsApart (s.map .inl : Outline ι)
  := by
  have hplace : ∀ before i after, (s.map .inl : Outline ι) ≠ before ++ .inr i :: after := by
    intro before i after heq
    have hmem : .inr i ∈ (s.map .inl : Outline ι) := by
      rw [heq]
      apply List.mem_append_right _ List.mem_cons_self
    simp at hmem
  constructor
  · intro before i after heq
    apply absurd heq (hplace before i after)
  · intro before i after heq
    apply absurd heq (hplace before i after)

/-- A place of an outline is the first one, or it stands behind that. -/
theorem eq_or_exists_of_append_inr_cons {s : List Char} {i j : ι} {before after cells : Outline ι}
    (h : s.map .inl ++ .inr j :: cells = before ++ .inr i :: after) :
  (before = s.map .inl ∧ after = cells)
    ∨ ∃ between, before = s.map .inl ++ .inr j :: between ∧ cells = between ++ .inr i :: after
  := by
  induction s generalizing before with
  | nil =>
    cases before with
    | nil =>
      left
      use rfl
      exact (List.cons.inj h).2.symm
    | cons cell before =>
      obtain ⟨rfl, hcells⟩ := List.cons.inj h
      right
      use before, rfl, hcells
  | cons c s ih =>
    cases before with
    | nil => cases h
    | cons cell before =>
      obtain ⟨rfl, hrest⟩ := List.cons.inj h
      obtain ⟨rfl, hafter⟩ | ⟨between, rfl, hcells⟩ := ih hrest
      · left
        use rfl, hafter
      · right
        use between, rfl, hcells

/-- An outline with another place in front, and characters before that. -/
theorem IsApart.append_inr_cons {s : List Char} {j : ι} {cells : Outline ι} (h : IsApart cells)
    (hbefore : ∀ u v, opener = u ++ v → u ≠ [] → v ≠ [] → ¬ u <:+ s)
    (hbehind : ∀ u v, closer = u ++ v → u ≠ [] → v ≠ [] → ¬ v.map .inl <+: cells) :
  IsApart (s.map .inl ++ .inr j :: cells)
  := by
  constructor
  · intro before i after heq u v huv hu hv hsuffix
    obtain ⟨rfl, -⟩ | ⟨between, rfl, hcells⟩ := eq_or_exists_of_append_inr_cons heq
    · obtain ⟨u', hu', hmap⟩ := List.suffix_map_iff.mp hsuffix
      obtain rfl := List.map_injective_iff.mpr Sum.inl_injective hmap
      apply hbefore u v huv hu hv hu'
    · apply h.begun between i after hcells u v huv hu hv
      -- The place in front is no character, so the word stands behind it.
      obtain hword | hplace := List.suffix_or_suffix_of_suffix hsuffix (List.suffix_append _ _)
      · obtain heq | hword := List.suffix_cons_iff.mp hword
        · have hmem : .inr j ∈ (u.map .inl : Outline ι) := by
            rw [heq]
            apply List.mem_cons_self
          simp at hmem
        · apply hword
      · have hmem := hplace.mem List.mem_cons_self
        simp at hmem
  · intro before i after heq
    obtain ⟨-, rfl⟩ | ⟨between, -, hcells⟩ := eq_or_exists_of_append_inr_cons heq
    · apply hbehind
    · apply h.ended between i after hcells

/-- A word at the beginning of a text that begins with `r`, but holds a character that `r`
does not hold, ends behind `r`. -/
theorem exists_prefix_of_append {r t w : List Char} {c : Char} (h : w <+: r ++ t)
    (hw : c ∈ w) (hr : c ∉ r) :
  ∃ v, w = r ++ v ∧ v ≠ [] ∧ v <+: t
  := by
  obtain ⟨after, hafter⟩ := h
  obtain ⟨v, rfl, -⟩ | ⟨v, rfl, rfl⟩ := List.append_eq_append_iff.mp hafter
  · apply absurd (List.mem_append_left v hw) hr
  · use v, rfl
    constructor
    · rintro rfl
      rw [List.append_nil] at hw
      apply hr hw
    · apply List.prefix_append

theorem mem_of_closer {u v : List Char} (h : closer = u ++ v) (hv : v ≠ []) :
  '>' ∈ v
  := by
  apply List.mem_of_getLast?
  rw [← List.getLast?_append_of_ne_nil u hv, ← h]
  rfl

section Delimiters

variable {f : ι → List Char} {c : Char} {i : ι} {cells : Outline ι}

/-- An opener that begins with characters of an outline ends with such characters. -/
theorem IsApart.prefix_of_opener {u v : List Char} (huv : opener = u ++ v) (hu : u ≠ [])
    (h : IsApart (u.map .inl ++ cells)) (hv : v <+: spell f cells) :
  v.map .inl <+: cells
  := by
  induction v generalizing u cells with
  | nil => apply List.nil_prefix
  | cons c v ih =>
    cases cells with
    | nil =>
      rw [spell_nil, List.prefix_nil] at hv
      cases hv
    | cons cell cells =>
      cases cell with
      | inl d =>
        rw [spell_inl_cons, List.cons_prefix_cons] at hv
        obtain ⟨rfl, hv⟩ := hv
        rw [List.map_cons, List.cons_prefix_cons]
        use rfl
        apply ih (u := u ++ [c])
        · rw [huv, List.append_assoc, List.singleton_append]
        · simp
        · simpa using h
        · apply hv
      | inr i =>
        apply absurd (List.suffix_refl _)
        apply h.begun (u.map .inl) i cells rfl u (c :: v) huv hu (List.cons_ne_nil c v)

/-- A closer that ends in an outline ends there with characters of the outline. -/
theorem IsApart.prefix_of_closer (hf : ∀ i, '>' ∉ f i) {u v : List Char}
    (huv : closer = u ++ v) (hu : u ≠ []) (h : IsApart cells) (hv : v <+: spell f cells) :
  v.map .inl <+: cells
  := by
  induction cells generalizing u v with
  | nil =>
    rw [spell_nil, List.prefix_nil] at hv
    rw [hv]
    apply List.nil_prefix
  | cons cell cells ih =>
    cases v with
    | nil => apply List.nil_prefix
    | cons c v =>
      cases cell with
      | inl d =>
        rw [spell_inl_cons, List.cons_prefix_cons] at hv
        obtain ⟨rfl, hv⟩ := hv
        rw [List.map_cons, List.cons_prefix_cons]
        use rfl
        apply ih (u := u ++ [c])
        · rw [huv, List.append_assoc, List.singleton_append]
        · simp
        · apply h.tail
        · apply hv
      | inr i =>
        -- The closer would go on behind the place, which it must not.
        exfalso
        obtain ⟨w, hw, hne, hprefix⟩ := exists_prefix_of_append hv
          (mem_of_closer huv (List.cons_ne_nil c v)) (hf i)
        rw [hw, ← List.append_assoc] at huv
        have hu' : u ++ f i ≠ [] := by
          simp [hu]
        apply h.ended [] i cells rfl (u ++ f i) w huv hu' hne
        apply ih huv hu' h.tail hprefix

/-- No opener begins with a character of the outline unless all of it stands there. -/
theorem IsApart.not_standsAt_opener_cons (h : IsApart (.inl c :: cells))
    (hcells : ∀ rest, (.inl c : Char ⊕ ι) = .inl '<' →
      cells = .inl '!' :: .inl '-' :: .inl '-' :: rest → False) :
  ¬ StandsAt opener (c :: spell f cells) 0
  := by
  intro hstands
  obtain ⟨rfl, hprefix⟩ := List.cons_prefix_cons.mp hstands
  obtain ⟨rest, hrest⟩ := h.prefix_of_opener (u := ['<']) rfl (List.cons_ne_nil _ _) hprefix
  apply hcells rest rfl hrest.symm

/-- No closer begins with a character of the outline unless all of it stands there. -/
theorem IsApart.not_standsAt_closer_cons (hf : ∀ i, '>' ∉ f i) (h : IsApart (.inl c :: cells))
    (hcells : ∀ rest, (.inl c : Char ⊕ ι) = .inl '-' →
      cells = .inl '-' :: .inl '>' :: rest → False) :
  ¬ StandsAt closer (c :: spell f cells) 0
  := by
  intro hstands
  obtain ⟨rfl, hprefix⟩ := List.cons_prefix_cons.mp hstands
  obtain ⟨rest, hrest⟩ :=
    h.tail.prefix_of_closer hf (u := ['-']) rfl (List.cons_ne_nil _ _) hprefix
  apply hcells rest rfl hrest.symm

/-- No opener begins in the text of a place. -/
theorem not_standsAt_opener (hf : '<' ∉ f i) {t : List Char} :
  ∀ m < (f i).length, ¬ StandsAt opener (f i ++ t) m
  := by
  intro m hm hstands
  rw [StandsAt, List.drop_append_of_le_length (Nat.le_of_lt hm), List.drop_eq_getElem_cons hm,
    List.cons_append, opener, List.cons_prefix_cons] at hstands
  apply hf
  rw [hstands.1]
  apply List.getElem_mem

/-- No closer begins in the text of a place. -/
theorem IsApart.not_standsAt_closer (hf : ∀ i, '>' ∉ f i) (h : IsApart (.inr i :: cells)) :
  ∀ m < (f i).length, ¬ StandsAt closer (f i ++ spell f cells) m
  := by
  intro m hm hstands
  rw [StandsAt, List.drop_append_of_le_length (Nat.le_of_lt hm)] at hstands
  have hend : '>' ∉ (f i).drop m := by
    intro hmem
    apply hf i (List.mem_of_mem_drop hmem)
  obtain ⟨v, hv, hne, hprefix⟩ := exists_prefix_of_append hstands (by simp [closer]) hend
  have hbegun : (f i).drop m ≠ [] := by
    rw [← List.length_pos_iff, List.length_drop]
    omega
  apply h.ended [] i cells rfl _ v hv hbegun hne
  apply h.tail.prefix_of_closer hf hv hbegun hprefix

end Delimiters

/-! ### Stripping -/

section Stripping

variable {f : ι → List Char} {cells : Outline ι}

/-- Whether a closer stands in the text is told by the outline. -/
theorem closes_spell (hf : ∀ i, '>' ∉ f i) (h : IsApart cells) :
  Comment.closes (spell f cells) = closes cells
  := by
  fun_induction closes cells with
  | case1 rest => rfl
  | case2 cell rest hcell ih =>
    cases cell with
    | inl c =>
      rw [spell_inl_cons, Comment.closes_cons, ih h.tail]
      apply h.not_standsAt_closer_cons hf hcell
    | inr i =>
      rw [spell_inr_cons, Comment.closes_append, ih h.tail]
      apply h.not_standsAt_closer hf
  | case3 => rfl

/-- Stripping the text of an outline is stripping the outline, when its places are apart
from the delimiters and their texts hold no angle brackets. -/
theorem outside_spell (hopen : ∀ i, '<' ∉ f i) (hclose : ∀ i, '>' ∉ f i) (h : IsApart cells)
    (kept : List Char) (inside : Bool) :
  Comment.outside kept inside (spell f cells)
    = kept.reverse ++ spell f (outside inside cells)
  := by
  -- By the cases of the scanner of outlines.  Where it takes one cell, the scanner of texts
  -- takes that character, or all characters of that place.
  fun_induction outside inside cells generalizing kept with
  | case1 rest hcloses ih =>
    have hrest := IsApart.of_append (opener.map .inl) h
    rw [← closes_spell hclose hrest] at hcloses
    simp only [spell_inl_cons, Comment.outside, hcloses, if_true, ih hrest]
  | case2 rest hcloses =>
    have hrest := IsApart.of_append (opener.map .inl) h
    rw [← closes_spell hclose hrest] at hcloses
    simp only [spell_inl_cons, Comment.outside, hcloses, List.reverseAux_eq]
    rfl
  | case3 cell rest hcell ih =>
    cases cell with
    | inl c =>
      rw [spell_inl_cons, spell_inl_cons, Comment.outside_cons, ih h.tail, List.reverse_cons,
        List.append_assoc, List.singleton_append]
      apply h.not_standsAt_opener_cons hcell
    | inr i =>
      rw [spell_inr_cons, spell_inr_cons, Comment.outside_before, ih h.tail,
        List.reverse_append, List.reverse_reverse, List.append_assoc]
      apply not_standsAt_opener (hopen i)
  | case4 rest ih =>
    have hrest := IsApart.of_append (closer.map .inl) h
    simp only [spell_inl_cons, Comment.outside, ih hrest]
  | case5 cell rest hcell ih =>
    cases cell with
    | inl c =>
      rw [spell_inl_cons, Comment.outside_comment_cons, ih h.tail]
      apply h.not_standsAt_closer_cons hclose hcell
    | inr i =>
      rw [spell_inr_cons, Comment.outside_comment_before, ih h.tail]
      apply h.not_standsAt_closer hclose
  | case6 inside =>
    rw [spell_nil, Comment.outside, List.append_nil]

end Stripping

end Outline

end HtmlTemplate
