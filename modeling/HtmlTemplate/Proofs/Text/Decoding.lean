import HtmlTemplate.Text.Encoding
import HtmlTemplate.Text.Newline
import Mathlib.Tactic.Use

/-!
# Decoding bytes

Bytes are the UTF-8 form of at most one text, which is the one that they are read as
(`utf8?_eq_some_iff`).  Unifying line ends is replacing a carriage return together with
the line feed behind it by a line feed, and then every other carriage return
(`unify_eq`).
-/

namespace HtmlTemplate

namespace Encoding

/-- The UTF-8 form of a text. -/
def bytesOf (s : String) : List UInt8 := s.toUTF8.data.toList

theorem utf8?_eq_some_iff {data : List UInt8} {s : String} :
  utf8? data = some s ↔ bytesOf s = data
  := by
  rw [utf8?, String.fromUTF8?]
  constructor
  · intro h
    split at h
    · cases h
      rfl
    · cases h
  · rintro rfl
    have hvalid : (ByteArray.mk (bytesOf s).toArray).IsValidUTF8 := s.isValidUTF8
    rw [dif_pos hvalid]
    rfl

theorem utf8?_bytesOf (s : String) :
  utf8? (bytesOf s) = some s
  := utf8?_eq_some_iff.mpr rfl

/-- Bytes without a text are the UTF-8 form of none. -/
theorem utf8?_eq_none_iff {data : List UInt8} :
  utf8? data = none ↔ ∀ s, bytesOf s ≠ data
  := by
  rw [Option.eq_none_iff_forall_ne_some]
  apply forall_congr'
  intro s
  rw [ne_eq, utf8?_eq_some_iff]

end Encoding

namespace Newline

/-- The characters of a text without the carriage returns in front of a line feed. -/
def mergePairs : List Char → List Char
  | '\r' :: '\n' :: rest => '\n' :: mergePairs rest
  | c :: rest => c :: mergePairs rest
  | [] => []

/-- A line feed for a carriage return, and any other character for itself. -/
def lineFeed (c : Char) : Char := if c = '\r' then '\n' else c

theorem unifyAfter_eq (read s : List Char) :
  unifyAfter read s = read.reverse ++ (mergePairs s).map lineFeed
  := by
  fun_induction unifyAfter read s with
  | case1 read rest ih =>
    rw [ih, mergePairs, List.reverse_cons, List.append_assoc]
    rfl
  | case2 read rest hrest ih =>
    -- A carriage return with something else behind it, or at the end.
    rw [ih, mergePairs, List.reverse_cons, List.append_assoc]
    · rfl
    · intro rest' _
      apply hrest
  | case3 read c rest hpair hreturn ih =>
    rw [ih, mergePairs, List.reverse_cons, List.append_assoc, List.map_cons, lineFeed,
      if_neg hreturn]
    · rfl
    · apply hpair
  | case4 read => rw [mergePairs, List.map_nil, List.append_nil]

theorem unify_eq (s : String) :
  unify s = String.ofList ((mergePairs s.toList).map lineFeed)
  := by
  rw [unify, unifyAfter_eq, List.reverse_nil, List.nil_append]

end Newline

end HtmlTemplate
