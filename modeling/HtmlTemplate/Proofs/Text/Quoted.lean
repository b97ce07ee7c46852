import HtmlTemplate.Text.Quoted
import Mathlib.Tactic.SplitIfs

/-!
# Quoted texts

A quoted text stands on one line, whatever the text is: `newline_not_mem_quote`.
-/

namespace HtmlTemplate.Quoted

theorem newline_not_mem_toDigits (n : Nat) :
  '\n' ∉ Nat.toDigits 16 n
  := by
  have hdigit : ∀ d < 16, '\n' ≠ Nat.digitChar d := by
    decide
  induction n using Nat.strongRecOn with
  | ind n ih =>
    rw [Nat.toDigits_eq_if (by decide)]
    split
    · rename_i hn
      rw [List.mem_singleton]
      apply hdigit n hn
    · rename_i hn
      rw [List.mem_append, List.mem_singleton, not_or]
      constructor
      · apply ih
        omega
      · apply hdigit
        omega

theorem newline_not_mem_hex (width n : Nat) :
  '\n' ∉ hex width n
  := by
  rw [hex, List.mem_append, not_or]
  constructor
  · intro h
    cases List.eq_of_mem_replicate h
  · apply newline_not_mem_toDigits

/-- A line feed is written by its letter, and nothing else is written as a line feed. -/
theorem newline_not_mem_escapeChar {d : Char} {shown : Char → Bool} (hd : d ≠ '\n')
    (c : Char) :
  '\n' ∉ escapeChar d shown c
  := by
  by_cases hc : c = '\n'
  · rw [hc]
    simp [escapeChar, hd.symm]
  · rw [escapeChar]
    split_ifs
    all_goals simp [newline_not_mem_hex, Ne.symm hc]

theorem delimiter_ne_newline (s : List Char) :
  delimiter s ≠ '\n'
  := by
  rw [delimiter]
  split_ifs
  all_goals decide

theorem newline_not_mem_quote (s : String) :
  '\n' ∉ (quote s).toList
  := by
  have hd := delimiter_ne_newline s.toList
  show '\n' ∉ (String.ofList (delimiter s.toList :: (s.toList.flatMap
    (escapeChar (delimiter s.toList) Printable.isPrintable) ++ [delimiter s.toList]))).toList
  simp [hd.symm, newline_not_mem_escapeChar hd]

end HtmlTemplate.Quoted
