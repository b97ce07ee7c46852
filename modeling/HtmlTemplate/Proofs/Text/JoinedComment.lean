import HtmlTemplate.Proofs.Text.CommentDecomposition

/-!
# Comments that stripping leaves

A text may hold a comment even when its comments are removed: what stands on both sides
of a removed comment is joined, and an opener may come together there.
`Decomposition.JoinsComment` says when it does with a closer behind it, and
`holdsComment_stripped_iff` that a stripped text holds a comment, and changes when it is
stripped again, exactly then.
-/

namespace HtmlTemplate.Comment

/-- An opener begins at the end of `k` and ends in `t`, and a closer stands behind it. -/
def Straddles (k t : List Char) : Prop :=
  ∃ u v after, u ≠ [] ∧ v ≠ [] ∧ opener = u ++ v ∧ u <:+ k ∧ t = v ++ after
    ∧ ∃ n, StandsAt closer after n

/-- The stretch before some comment and what is kept behind that comment make an opener
together, and a closer stands behind it. -/
def Decomposition.JoinsComment (d : Decomposition) : Prop :=
  ∃ before k c behind, d.pieces = before ++ (k, c) :: behind
    ∧ Straddles k (kept ⟨behind, d.rest⟩)

section Append

variable {k t : List Char}

theorem HoldsComment.append_left (h : HoldsComment t) (k : List Char) :
  HoldsComment (k ++ t)
  := by
  obtain ⟨i, j, hi, hj, hij⟩ := h
  use k.length + i, k.length + j
  rw [standsAt_append_add, standsAt_append_add]
  use hi, hj
  omega

theorem Straddles.holdsComment (h : Straddles k t) :
  HoldsComment (k ++ t)
  := by
  obtain ⟨u, v, after, -, -, huv, ⟨before, rfl⟩, rfl, n, hn⟩ := h
  have htext : before ++ u ++ (v ++ after) = before ++ (opener ++ after) := by
    rw [huv, List.append_assoc, List.append_assoc]
  rw [htext]
  apply HoldsComment.append_left
  use 0, opener.length + n, standsAt_zero.mpr ⟨after, rfl⟩
  rw [standsAt_append_add]
  use hn
  omega

/-- A comment that begins in `k`, where no whole opener stands, straddles its end. -/
theorem straddles_of_standsAt (hk : ∀ n, ¬ StandsAt opener k n) {i j : Nat}
    (hi : StandsAt opener (k ++ t) i) (hj : StandsAt closer (k ++ t) j)
    (hij : i + opener.length ≤ j) (hlt : i < k.length) :
  Straddles k t
  := by
  have hend : k.length < i + opener.length := by
    by_contra hle
    apply hk i
    apply (standsAt_append_of_le (by omega)).mp hi
  rw [StandsAt, List.drop_append_of_le_length (Nat.le_of_lt hlt)] at hi
  have hu : k.drop i <+: opener := by
    apply List.prefix_of_prefix_length_le (List.prefix_append _ t) hi
    rw [List.length_drop]
    omega
  obtain ⟨v, hv⟩ := hu
  obtain ⟨after, hafter⟩ := hi
  rw [← hv, List.append_assoc, List.append_cancel_left_eq] at hafter
  have hlength : k.length + v.length = i + opener.length := by
    rw [← hv, List.length_append, List.length_drop]
    omega
  use k.drop i, v, after
  refine ⟨?_, ?_, hv.symm, List.drop_suffix i k, hafter.symm, ?_⟩
  · rw [← List.length_pos_iff, List.length_drop]
    omega
  · rw [← List.length_pos_iff]
    omega
  · use j - (k.length + v.length)
    rw [← standsAt_append_add (s := k ++ v), List.append_assoc, hafter, List.length_append,
      Nat.add_sub_cancel' (by omega)]
    apply hj

/-- Text without an opener in front of other text adds a comment to it only across the
place where they meet. -/
theorem holdsComment_append (hk : ∀ n, ¬ StandsAt opener k n) :
  HoldsComment (k ++ t) ↔ Straddles k t ∨ HoldsComment t
  := by
  constructor
  · rintro ⟨i, j, hi, hj, hij⟩
    obtain hlt | hle := Nat.lt_or_ge i k.length
    · left
      apply straddles_of_standsAt hk hi hj hij hlt
    · right
      obtain ⟨m, rfl⟩ := Nat.exists_eq_add_of_le hle
      obtain ⟨n, rfl⟩ := Nat.exists_eq_add_of_le (show k.length ≤ j by omega)
      rw [standsAt_append_add] at hi hj
      use m, n, hi, hj
      omega
  · rintro (h | h)
    · apply h.holdsComment
    · apply h.append_left

end Append

namespace Decomposition

variable {k c rest : List Char} {pieces : List (List Char × List Char)}

theorem not_joinsComment_nil :
  ¬ JoinsComment ⟨[], rest⟩
  := by
  rintro ⟨before, k, c, behind, hpieces, -⟩
  simp at hpieces

theorem joinsComment_cons :
  JoinsComment ⟨(k, c) :: pieces, rest⟩
    ↔ Straddles k (kept ⟨pieces, rest⟩) ∨ JoinsComment ⟨pieces, rest⟩
  := by
  constructor
  · rintro ⟨before, k', c', behind, hpieces, h⟩
    obtain ⟨rfl, hcons⟩ | ⟨before, rfl, hbehind⟩ := List.cons_eq_append_iff.mp hpieces
    · obtain ⟨hpiece, rfl⟩ := List.cons.inj hcons
      obtain ⟨rfl, -⟩ := Prod.mk.inj hpiece
      left
      apply h
    · right
      use before, k', c', behind
  · rintro (h | ⟨before, k', c', behind, hpieces, h⟩)
    · use [], k, c, pieces, rfl
    · obtain rfl : pieces = _ := hpieces
      use (k, c) :: before, k', c', behind, rfl

/-- No opener stands in the stretch before a comment. -/
theorem not_standsAt_opener (h : FirstAt opener (k ++ c) k.length) (n : Nat) :
  ¬ StandsAt opener k n
  := by
  intro hn
  have hle := hn.le_length opener_ne_nil
  apply h.2 n
  · have := List.length_pos_iff.mpr opener_ne_nil
    omega
  · apply (standsAt_append_of_le hle).mpr hn

/-- What is kept holds a comment exactly if one comes together where comments were
removed. -/
theorem IsLeftmost.holdsComment_kept (h : IsLeftmost ⟨pieces, rest⟩) :
  HoldsComment (kept ⟨pieces, rest⟩) ↔ JoinsComment ⟨pieces, rest⟩
  := by
  induction pieces with
  | nil => exact iff_of_false (isLeftmost_nil.mp h) not_joinsComment_nil
  | cons p pieces ih =>
    obtain ⟨k, c⟩ := p
    obtain ⟨-, hk, hpieces⟩ := isLeftmost_cons.mp h
    rw [kept_cons, holdsComment_append (not_standsAt_opener hk), ih hpieces, joinsComment_cons]

theorem length_kept_le (pieces : List (List Char × List Char)) (rest : List Char) :
  (kept ⟨pieces, rest⟩).length ≤ (text ⟨pieces, rest⟩).length
  := by
  induction pieces with
  | nil => rfl
  | cons p pieces ih =>
    obtain ⟨k, c⟩ := p
    simp only [kept_cons, text_cons, List.length_append]
    omega

/-- A text with a comment is longer than what is kept of it. -/
theorem length_kept_lt (hc : IsComment c) :
  (kept ⟨(k, c) :: pieces, rest⟩).length < (text ⟨(k, c) :: pieces, rest⟩).length
  := by
  obtain ⟨body, rfl, -⟩ := hc
  have := length_kept_le pieces rest
  have := List.length_pos_iff.mpr opener_ne_nil
  simp only [kept_cons, text_cons, List.length_append]
  omega

end Decomposition

/-- Stripping changes exactly the texts that hold a comment. -/
theorem strip_eq_self_iff (t : String) :
  strip t = t ↔ ¬ HoldsComment t.toList
  := by
  obtain ⟨⟨pieces, rest⟩, htext, hd⟩ := exists_leftmost t.toList
  rw [← String.toList_inj, strip, String.toList_ofList]
  constructor
  · rw [← htext, hd.outside_text, List.reverse_nil, List.nil_append]
    intro hkept
    cases pieces with
    | nil => apply Decomposition.isLeftmost_nil.mp hd
    | cons p pieces =>
      obtain ⟨hc, -, -⟩ := Decomposition.isLeftmost_cons.mp hd
      have hlt : (Decomposition.kept ⟨p :: pieces, rest⟩).length
          < (Decomposition.text ⟨p :: pieces, rest⟩).length := Decomposition.length_kept_lt hc
      rw [hkept] at hlt
      apply absurd hlt (Nat.lt_irrefl _)
  · intro h
    rw [outside_of_not_holdsComment h, List.reverse_nil, List.nil_append]

/-- A stripped text holds a comment, and changes when it is stripped again, exactly if an
opener comes together where comments were removed, with a closer behind it. -/
theorem holdsComment_stripped_iff (mark : Mark) (t : String) :
  ∃ (d : Decomposition) (s : String), d.text = t.toList ∧ d.IsLeftmost
    ∧ withoutComments (.text mark t) = .ok (.plain s)
    ∧ (HoldsComment s.toList ↔ d.JoinsComment)
    ∧ (withoutComments (.plain s) = .ok (.plain s) ↔ ¬ d.JoinsComment)
  := by
  obtain ⟨d, htext, hd⟩ := exists_leftmost t.toList
  have hstrip : (strip t).toList = d.kept := by
    rw [strip, ← htext, hd.outside_text, List.reverse_nil, List.nil_append,
      String.toList_ofList]
  have hholds : HoldsComment (strip t).toList ↔ d.JoinsComment := by
    rw [hstrip]
    apply hd.holdsComment_kept
  use d, strip t, htext, hd, rfl, hholds
  rw [← hholds, ← strip_eq_self_iff]
  simp [withoutComments, Value.plain]

/-- A comment inside an opener: with the one removed, the other is complete. -/
theorem stripped_holdsComment :
  withoutComments (.plain "<!<!-- -->-- x -->") = .ok (.plain "<!-- x -->")
    ∧ HoldsComment "<!-- x -->".toList
    ∧ withoutComments (.plain "<!-- x -->") = .ok (.plain "")
  := by
  have hstrip : strip "<!<!-- -->-- x -->" = "<!-- x -->" := by
    cbv
  have hagain : strip "<!-- x -->" = "" := by
    cbv
  refine ⟨?_, ⟨0, 7, ?_, ?_, ?_⟩, ?_⟩
  · rw [Value.plain, withoutComments, hstrip]
  · simp [StandsAt, opener]
  · simp [StandsAt, closer]
  · simp [opener]
  · rw [Value.plain, withoutComments, hagain]

end HtmlTemplate.Comment
