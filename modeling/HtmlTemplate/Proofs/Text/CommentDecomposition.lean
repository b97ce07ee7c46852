import HtmlTemplate.Escape
import Mathlib.Data.Nat.Find
import Mathlib.Tactic.Use

/-!
# The comments of a text

A `Decomposition` cuts a row of characters into stretches of text with a comment behind
each, and a rest.  It is leftmost (`IsLeftmost`) if no opener stands before a comment's
own, every comment ends with its first closer, and the rest holds no complete comment.
Every text has exactly one leftmost decomposition, and `Comment.strip` keeps what stands
outside its comments (`existsUnique_leftmost_strip`).
-/

namespace HtmlTemplate.Comment

/-! ### Where words stand -/

/-- What a comment begins with. -/
def opener : List Char := ['<', '!', '-', '-']

/-- What a comment ends with. -/
def closer : List Char := ['-', '-', '>']

/-- The word `w` stands in `t` at the position `n`. -/
def StandsAt (w t : List Char) (n : Nat) : Prop := w <+: t.drop n

/-- The first place where the word `w` stands in `t` is the position `n`. -/
def FirstAt (w t : List Char) (n : Nat) : Prop :=
  StandsAt w t n ∧ ∀ m < n, ¬ StandsAt w t m

section StandsAt

variable {w s t : List Char} {m n : Nat}

theorem standsAt_zero :
  StandsAt w t 0 ↔ ∃ rest, t = w ++ rest
  := exists_congr fun _ => eq_comm

/-- Where a word stands behind a text, counted from the beginning of that text. -/
theorem standsAt_append_add :
  StandsAt w (s ++ t) (s.length + n) ↔ StandsAt w t n
  := by
  rw [StandsAt, List.drop_append, List.drop_eq_nil_of_le (by omega)]
  simp [StandsAt]

/-- A word ends before the text does. -/
theorem StandsAt.le_length (h : StandsAt w t n) (hw : w ≠ []) :
  n + w.length ≤ t.length
  := by
  have hlength := h.length_le
  have hpos := List.length_pos_iff.mpr hw
  rw [List.length_drop] at hlength
  omega

/-- Whether a word stands somewhere is told by the text up to its end. -/
theorem standsAt_append_of_le (h : n + w.length ≤ s.length) :
  StandsAt w (s ++ t) n ↔ StandsAt w s n
  := by
  rw [StandsAt, StandsAt, List.drop_append_of_le_length (by omega)]
  constructor
  · intro hw
    apply List.prefix_of_prefix_length_le hw (List.prefix_append _ t)
    rw [List.length_drop]
    omega
  · intro hw
    apply hw.trans (List.prefix_append _ t)

theorem FirstAt.unique (h : FirstAt w t m) (h' : FirstAt w t n) :
  m = n
  := by
  obtain hlt | heq | hgt := Nat.lt_trichotomy m n
  · apply absurd h.1 (h'.2 m hlt)
  · apply heq
  · apply absurd h'.1 (h.2 n hgt)

/-- A first place stays the first when more text follows. -/
theorem FirstAt.append (h : FirstAt w s n) (hw : w ≠ []) (t : List Char) :
  FirstAt w (s ++ t) n
  := by
  have hle := h.1.le_length hw
  constructor
  · apply (standsAt_append_of_le hle).mpr h.1
  · intro m hm
    rw [standsAt_append_of_le (by omega)]
    apply h.2 m hm

/-- A first place is told by the text up to the end of the word. -/
theorem FirstAt.of_append (h : FirstAt w (s ++ t) n) (hle : n + w.length ≤ s.length) :
  FirstAt w s n
  := by
  constructor
  · apply (standsAt_append_of_le hle).mp h.1
  · intro m hm
    rw [← standsAt_append_of_le (by omega)]
    apply h.2 m hm

/-- The text around a place where a word stands. -/
theorem StandsAt.exists_eq (h : StandsAt w t n) (hw : w ≠ []) :
  ∃ before after, t = before ++ (w ++ after) ∧ before.length = n
  := by
  have hle := h.le_length hw
  obtain ⟨after, hafter⟩ := h
  use t.take n, after
  rw [hafter, List.take_append_drop, List.length_take]
  use rfl
  omega

/-- A word that stands somewhere has a first place. -/
theorem StandsAt.exists_firstAt (h : StandsAt w t n) :
  ∃ m ≤ n, FirstAt w t m
  := by
  classical
  have hex : ∃ m, StandsAt w t m := ⟨n, h⟩
  use Nat.find hex, Nat.find_min' hex h, Nat.find_spec hex
  intro m hm
  apply Nat.find_min hex hm

end StandsAt

/-! ### Decompositions -/

/-- A comment: an opener, a body and a closer, where no closer stands in the body and the
closer behind it but that one. -/
def IsComment (c : List Char) : Prop :=
  ∃ body, c = opener ++ body ++ closer
    ∧ ∀ n, StandsAt closer (body ++ closer) n → n = body.length

/-- Somewhere in a text stands an opener, and a closer begins behind it. -/
def HoldsComment (t : List Char) : Prop :=
  ∃ i j, StandsAt opener t i ∧ StandsAt closer t j ∧ i + opener.length ≤ j

/-- Stretches of text with a comment behind each, and the rest of the text. -/
structure Decomposition where
  pieces : List (List Char × List Char)
  rest : List Char

namespace Decomposition

/-- The text that is decomposed. -/
def text (d : Decomposition) : List Char :=
  d.pieces.flatMap (fun p => p.1 ++ p.2) ++ d.rest

/-- What stands outside the comments. -/
def kept (d : Decomposition) : List Char := d.pieces.flatMap (·.1) ++ d.rest

/-- The comments are the leftmost ones: the first opener of a stretch and its comment is
the comment's own, and the rest holds no complete comment. -/
structure IsLeftmost (d : Decomposition) : Prop where
  comment : ∀ p ∈ d.pieces, IsComment p.2
  first : ∀ p ∈ d.pieces, FirstAt opener (p.1 ++ p.2) p.1.length
  rest : ¬ HoldsComment d.rest

end Decomposition

theorem opener_ne_nil :
  opener ≠ []
  := by
  simp [opener]

theorem closer_ne_nil :
  closer ≠ []
  := by
  simp [closer]

/-- A comment ends with the first closer behind its opener. -/
theorem isComment_iff {c : List Char} :
  IsComment c ↔ ∃ body, c = opener ++ body ++ closer
    ∧ FirstAt closer (body ++ closer) body.length
  := by
  constructor
  · rintro ⟨body, hc, hbody⟩
    use body, hc
    constructor
    · apply (standsAt_append_add (n := 0)).mpr
      apply List.prefix_refl
    · intro m hm hstands
      have := hbody m hstands
      omega
  · rintro ⟨body, hc, hbody⟩
    use body, hc
    intro n hstands
    have hle := hstands.le_length closer_ne_nil
    rw [List.length_append] at hle
    by_contra hne
    apply hbody.2 n (by omega) hstands

namespace Decomposition

variable {k c rest : List Char} {pieces : List (List Char × List Char)}

@[simp]
theorem text_nil :
  text ⟨[], rest⟩ = rest
  := rfl

@[simp]
theorem text_cons :
  text ⟨(k, c) :: pieces, rest⟩ = k ++ (c ++ text ⟨pieces, rest⟩)
  := by
  simp [text]

@[simp]
theorem kept_cons :
  kept ⟨(k, c) :: pieces, rest⟩ = k ++ kept ⟨pieces, rest⟩
  := by
  simp [kept]

theorem isLeftmost_nil :
  IsLeftmost ⟨[], rest⟩ ↔ ¬ HoldsComment rest
  := by
  constructor
  · intro h
    apply h.rest
  · intro h
    constructor
    · simp
    · simp
    · apply h

theorem isLeftmost_cons :
  IsLeftmost ⟨(k, c) :: pieces, rest⟩
    ↔ IsComment c ∧ FirstAt opener (k ++ c) k.length ∧ IsLeftmost ⟨pieces, rest⟩
  := by
  constructor
  · rintro ⟨hcomment, hfirst, hrest⟩
    rw [List.forall_mem_cons] at hcomment hfirst
    use hcomment.1, hfirst.1, hcomment.2, hfirst.2
  · rintro ⟨hc, hk, hcomment, hfirst, hrest⟩
    constructor
    · rw [List.forall_mem_cons]
      use hc
    · rw [List.forall_mem_cons]
      use hk
    · apply hrest

end Decomposition

/-! ### The scanner -/

theorem closes_cons {c : Char} {t : List Char} (h : ¬ StandsAt closer (c :: t) 0) :
  closes (c :: t) = closes t
  := by
  rw [closes]
  rintro rest rfl rfl
  apply h (standsAt_zero.mpr ⟨rest, rfl⟩)

/-- Text in which no closer begins has no part in whether one stands behind it. -/
theorem closes_append {before t : List Char}
    (h : ∀ m < before.length, ¬ StandsAt closer (before ++ t) m) :
  closes (before ++ t) = closes t
  := by
  induction before with
  | nil => rfl
  | cons c before ih =>
    have hc : ¬ StandsAt closer (c :: (before ++ t)) 0 := h 0 (Nat.zero_lt_succ _)
    rw [List.cons_append, closes_cons hc, ih]
    intro m hm
    apply h (m + 1) (Nat.succ_lt_succ hm)

/-- The scanner looks for a closer that stands anywhere. -/
theorem closes_iff (t : List Char) :
  closes t = true ↔ ∃ n, StandsAt closer t n
  := by
  induction t with
  | nil => simp [closes, StandsAt, closer]
  | cons c t ih =>
    by_cases h : StandsAt closer (c :: t) 0
    · obtain ⟨rest, hrest⟩ := standsAt_zero.mp h
      rw [hrest] at h ⊢
      constructor
      · intro _
        use 0
      · intro _
        rfl
    · rw [closes_cons h, ih]
      constructor
      · rintro ⟨n, hn⟩
        use n + 1
        apply hn
      · rintro ⟨_ | n, hn⟩
        · apply absurd hn h
        · use n
          apply hn

section Outside

variable {kept body before t : List Char} {c : Char}

theorem outside_cons (h : ¬ StandsAt opener (c :: t) 0) :
  outside kept false (c :: t) = outside (c :: kept) false t
  := by
  rw [outside]
  rintro rest rfl rfl
  apply h (standsAt_zero.mpr ⟨rest, rfl⟩)

theorem outside_comment_cons (h : ¬ StandsAt closer (c :: t) 0) :
  outside kept true (c :: t) = outside kept true t
  := by
  rw [outside]
  rintro rest rfl rfl
  apply h (standsAt_zero.mpr ⟨rest, rfl⟩)

/-- Text up to the next opener is kept. -/
theorem outside_before (h : ∀ m < before.length, ¬ StandsAt opener (before ++ t) m) :
  outside kept false (before ++ t) = outside (before.reverse ++ kept) false t
  := by
  induction before generalizing kept with
  | nil => rfl
  | cons c before ih =>
    have hc : ¬ StandsAt opener (c :: (before ++ t)) 0 := h 0 (Nat.zero_lt_succ _)
    rw [List.cons_append, outside_cons hc, ih, List.reverse_cons, List.append_assoc]
    · rfl
    · intro m hm
      apply h (m + 1) (Nat.succ_lt_succ hm)

/-- Inside a comment text in which no closer begins is dropped. -/
theorem outside_comment_before (h : ∀ m < before.length, ¬ StandsAt closer (before ++ t) m) :
  outside kept true (before ++ t) = outside kept true t
  := by
  induction before with
  | nil => rfl
  | cons c before ih =>
    have hc : ¬ StandsAt closer (c :: (before ++ t)) 0 := h 0 (Nat.zero_lt_succ _)
    rw [List.cons_append, outside_comment_cons hc, ih]
    intro m hm
    apply h (m + 1) (Nat.succ_lt_succ hm)

/-- Inside a comment everything up to the first closer is dropped. -/
theorem outside_body (h : FirstAt closer (body ++ (closer ++ t)) body.length) :
  outside kept true (body ++ (closer ++ t)) = outside kept false t
  := by
  rw [outside_comment_before h.2]
  show outside kept true ('-' :: '-' :: '>' :: t) = _
  rw [outside]

/-- A comment is dropped. -/
theorem outside_comment {comment : List Char} (h : IsComment comment) :
  outside kept false (comment ++ t) = outside kept false t
  := by
  obtain ⟨body, rfl, hbody⟩ := isComment_iff.mp h
  have hfirst := hbody.append closer_ne_nil t
  rw [List.append_assoc] at hfirst
  have hcloses : closes (body ++ (closer ++ t)) = true := by
    rw [closes_iff]
    use body.length
    apply hfirst.1
  rw [List.append_assoc, List.append_assoc, ← outside_body hfirst]
  show outside kept false ('<' :: '!' :: '-' :: '-' :: (body ++ (closer ++ t))) = _
  rw [outside, if_pos hcloses]

/-- A text that holds no complete comment is kept as it is. -/
theorem outside_of_not_holdsComment (h : ¬ HoldsComment t) :
  outside kept false t = kept.reverse ++ t
  := by
  induction t generalizing kept with
  | nil => simp [outside]
  | cons c t ih =>
    by_cases hc : StandsAt opener (c :: t) 0
    · obtain ⟨rest, hrest⟩ := standsAt_zero.mp hc
      rw [hrest] at h hc ⊢
      have hcloses : closes rest = false := by
        rw [Bool.eq_false_iff]
        intro hcloses
        obtain ⟨n, hn⟩ := (closes_iff rest).mp hcloses
        apply h
        use 0, opener.length + n, hc
        rw [standsAt_append_add]
        use hn
        omega
      show outside kept false ('<' :: '!' :: '-' :: '-' :: rest) = _
      rw [outside, if_neg (by simp [hcloses]), List.reverseAux_eq]
      rfl
    · rw [outside_cons hc, ih, List.reverse_cons, List.append_assoc]
      · rfl
      · rintro ⟨i, j, hi, hj, hij⟩
        apply h
        use i + 1, j + 1, hi, hj
        omega

end Outside

/-! ### The leftmost decomposition -/

/-- The scanner keeps what stands outside the comments of a leftmost decomposition. -/
theorem Decomposition.IsLeftmost.outside_text {pieces : List (List Char × List Char)}
    {rest : List Char} (h : IsLeftmost ⟨pieces, rest⟩) (before : List Char) :
  outside before false (text ⟨pieces, rest⟩) = before.reverse ++ kept ⟨pieces, rest⟩
  := by
  induction pieces generalizing before with
  | nil => apply outside_of_not_holdsComment (isLeftmost_nil.mp h)
  | cons p pieces ih =>
    obtain ⟨k, c⟩ := p
    obtain ⟨hc, hk, hpieces⟩ := isLeftmost_cons.mp h
    have hfirst := hk.append opener_ne_nil (text ⟨pieces, rest⟩)
    rw [List.append_assoc] at hfirst
    rw [text_cons, outside_before hfirst.2, outside_comment hc, ih hpieces, kept_cons,
      List.reverse_append, List.reverse_reverse, List.append_assoc]

/-- A text that holds a complete comment begins with a stretch and a comment whose opener
is the first one. -/
theorem HoldsComment.exists_piece {t : List Char} (h : HoldsComment t) :
  ∃ k c rest, t = k ++ (c ++ rest) ∧ IsComment c ∧ FirstAt opener (k ++ c) k.length
  := by
  obtain ⟨i, j, hi, hj, hij⟩ := h
  obtain ⟨m, hm, hopener⟩ := hi.exists_firstAt
  obtain ⟨k, behind, rfl, rfl⟩ := hopener.1.exists_eq opener_ne_nil
  -- The first opener has a closer behind it, since some later opener has one.
  have hcloser : StandsAt closer behind (j - (k.length + opener.length)) := by
    rw [← standsAt_append_add (s := k ++ opener), List.append_assoc, List.length_append,
      Nat.add_sub_cancel' (by omega)]
    apply hj
  obtain ⟨n, -, hfirst⟩ := hcloser.exists_firstAt
  obtain ⟨body, rest, rfl, rfl⟩ := hfirst.1.exists_eq closer_ne_nil
  use k, opener ++ body ++ closer, rest
  constructor
  · simp only [List.append_assoc]
  constructor
  · rw [isComment_iff]
    use body, rfl
    rw [← List.append_assoc] at hfirst
    apply hfirst.of_append
    rw [List.length_append]
  · apply FirstAt.of_append (t := rest)
    · simpa only [List.append_assoc] using hopener
    · simp only [List.length_append]
      omega

/-- Every text has a leftmost decomposition. -/
theorem exists_leftmost (t : List Char) :
  ∃ d : Decomposition, d.text = t ∧ d.IsLeftmost
  := by
  induction hn : t.length using Nat.strong_induction_on generalizing t with
  | _ n ih =>
    by_cases h : HoldsComment t
    · obtain ⟨k, c, rest, rfl, hc, hk⟩ := h.exists_piece
      have hlength : rest.length < n := by
        obtain ⟨body, rfl, -⟩ := hc
        simp only [← hn, List.length_append, opener, List.length_cons]
        omega
      obtain ⟨⟨pieces, last⟩, hd, hleftmost⟩ := ih rest.length hlength rest rfl
      use ⟨(k, c) :: pieces, last⟩
      rw [Decomposition.text_cons, hd, Decomposition.isLeftmost_cons]
      use rfl, hc, hk
    · use ⟨[], t⟩, rfl
      apply Decomposition.isLeftmost_nil.mpr h

/-- A text in which a comment stands holds a complete comment. -/
theorem IsComment.holdsComment {c : List Char} (h : IsComment c) (k rest : List Char) :
  HoldsComment (k ++ (c ++ rest))
  := by
  obtain ⟨body, rfl, -⟩ := h
  use k.length, k.length + (opener.length + body.length)
  constructor
  · rw [← Nat.add_zero k.length, standsAt_append_add]
    apply standsAt_zero.mpr
    use body ++ closer ++ rest
    simp only [List.append_assoc]
  constructor
  · rw [standsAt_append_add, ← List.length_append, ← Nat.add_zero (List.length _),
      List.append_assoc, standsAt_append_add]
    apply standsAt_zero.mpr
    use rest
  · omega

/-- A comment at the beginning of a text is told by the text. -/
theorem IsComment.append_inj {c c' rest rest' : List Char} (hc : IsComment c)
    (hc' : IsComment c') (h : c ++ rest = c' ++ rest') :
  c = c' ∧ rest = rest'
  := by
  obtain ⟨body, rfl, hbody⟩ := isComment_iff.mp hc
  obtain ⟨body', rfl, hbody'⟩ := isComment_iff.mp hc'
  have hfirst := hbody.append closer_ne_nil rest
  have hfirst' := hbody'.append closer_ne_nil rest'
  simp only [List.append_assoc, List.append_cancel_left_eq] at h hfirst hfirst'
  rw [h] at hfirst
  obtain ⟨rfl, hrest⟩ := List.append_inj h (hfirst.unique hfirst')
  use rfl
  apply List.append_cancel_left hrest

/-- A text has no two leftmost decompositions. -/
theorem Decomposition.IsLeftmost.unique {pieces pieces' : List (List Char × List Char)}
    {rest rest' : List Char} (h : IsLeftmost ⟨pieces, rest⟩)
    (h' : IsLeftmost ⟨pieces', rest'⟩) (heq : text ⟨pieces, rest⟩ = text ⟨pieces', rest'⟩) :
  Decomposition.mk pieces rest = ⟨pieces', rest'⟩
  := by
  induction pieces generalizing pieces' with
  | nil =>
    cases pieces' with
    | nil =>
      rw [text_nil, text_nil] at heq
      rw [heq]
    | cons p' pieces' =>
      obtain ⟨hc', -, -⟩ := isLeftmost_cons.mp h'
      rw [text_nil, text_cons] at heq
      apply absurd _ (isLeftmost_nil.mp h)
      rw [heq]
      apply hc'.holdsComment
  | cons p pieces ih =>
    obtain ⟨k, c⟩ := p
    obtain ⟨hc, hk, hpieces⟩ := isLeftmost_cons.mp h
    cases pieces' with
    | nil =>
      rw [text_nil, text_cons] at heq
      apply absurd _ (isLeftmost_nil.mp h')
      rw [← heq]
      apply hc.holdsComment
    | cons p' pieces' =>
      obtain ⟨k', c'⟩ := p'
      obtain ⟨hc', hk', hpieces'⟩ := isLeftmost_cons.mp h'
      rw [text_cons, text_cons] at heq
      have hfirst := hk.append opener_ne_nil (text ⟨pieces, rest⟩)
      have hfirst' := hk'.append opener_ne_nil (text ⟨pieces', rest'⟩)
      rw [List.append_assoc, heq] at hfirst
      rw [List.append_assoc] at hfirst'
      obtain ⟨rfl, hbehind⟩ := List.append_inj heq (hfirst.unique hfirst')
      obtain ⟨rfl, htext⟩ := hc.append_inj hc' hbehind
      obtain ⟨rfl, rfl⟩ := Decomposition.mk.inj (ih hpieces hpieces' htext)
      rfl

/-- Every text has exactly one leftmost decomposition, and without its comments it is what
that decomposition keeps. -/
theorem existsUnique_leftmost_strip (mark : Mark) (t : String) :
  ∃ d : Decomposition, (∀ d' : Decomposition, d'.text = t.toList ∧ d'.IsLeftmost ↔ d' = d)
    ∧ withoutComments (.text mark t) = .ok (.plain (String.ofList d.kept))
  := by
  obtain ⟨d, htext, hd⟩ := exists_leftmost t.toList
  use d
  constructor
  · intro d'
    constructor
    · rintro ⟨htext', hd'⟩
      apply Decomposition.IsLeftmost.unique hd' hd
      rw [htext', htext]
    · rintro rfl
      use htext
  · rw [withoutComments, strip, ← htext, hd.outside_text]
    rfl

/-- The ends of comments are not taken from their openers, and an opener without an end
stays, together with all that follows it. -/
example :
  strip "a<!--\n-->b<!--->c<!-- d -->e<!-->f<!-- g" = "abe<!-->f<!-- g"
  := by
  cbv

end HtmlTemplate.Comment
