import HtmlTemplate.Proofs.CommandLine.Elements
import HtmlTemplate.Proofs.Text.Quoted

/-!
# Output and exit codes

A run writes complete lines if it ends well, and nothing otherwise.  It ends with exit code
one exactly if the command has a fault that is reported; of an element that is the first
value given for an attribute pair that is none, and the last line of the log quotes it
(`output_of_run`).
-/

namespace HtmlTemplate.CommandLine

open Program

/-- The last line of a text, without the line feed behind it. -/
structure IsLastLine (s line : String) : Prop where
  endsWithLine : EndsWithLine s line
  single : '\n' ∉ line.toList

theorem endsLine_line (s : String) :
  EndsLine (line s)
  := by
  rw [line]
  split
  · rename_i h
    exact h
  · apply endsLine_newline.append

theorem newline_not_mem_malformed (pair : String) :
  '\n' ∉ ("Error: Malformed attribute " ++ Quoted.quote pair
    ++ ", expected KEY=VALUE").toList
  := by
  simp [Quoted.newline_not_mem_quote]

theorem error_append_malformed (pair : String) :
  "Error: " ++ ("Malformed attribute " ++ Quoted.quote pair ++ ", expected KEY=VALUE")
    = "Error: Malformed attribute " ++ Quoted.quote pair ++ ", expected KEY=VALUE"
  := by
  rw [← String.append_assoc, ← String.append_assoc]
  rfl

/-- A run that ends well writes complete lines, and any other run writes nothing.  A run
ends with exit code one exactly if the command line can be read and asks for a command with
a fault that is reported.  The values given for attribute pairs are told in their order on
the command line, and the last line of the log quotes the first that is no pair, unless a
value before it was dropped, whatever follows. -/
theorem output_of_run (env : Environment) (words : List String) :
  ((run env words).ending = .exit 0 → EndsLine (run env words).output)
  ∧ ((run env words).ending ≠ .exit 0 → (run env words).output = "")
  ∧ ((run env words).ending = .exit 1
    ↔ ∃ verbose command, Request.read words = .run verbose command
      ∧ ∃ message, Reported env command message)
  ∧ ∀ verbose element className pairs escapes content,
    Request.read words = .run verbose (.tag element className pairs escapes content) →
    (∃ own, .positional () ("tag" :: own) ∈ generalSyntax.events words
      ∧ pairs = givenPairs (tagSyntax.events own))
    ∧ ∀ (before : List String) (pair : String) (rest : List (Option String)),
      (∀ p ∈ before, Attribute.IsPair p) → ¬ Attribute.IsPair pair →
      pairs = before.map some ++ some pair :: rest →
      (run env words).ending = .exit 1
        ∧ IsLastLine (run env words).log
          ("Error: Malformed attribute " ++ Quoted.quote pair ++ ", expected KEY=VALUE")
  := by
  rw [run]
  cases hread : Request.read words with
  | misuse => simp [answer]
  | text s =>
    have hs : EndsLine s := Request.endsLine_of_read hread
    simp [answer, hs]
  | run verbose command =>
    have hcommand := Request.isExclusive_of_read hread
    refine ⟨?_, ?_, ?_, ?_⟩
    · intro hending
      obtain ⟨s, h⟩ | ⟨message, h⟩ | ⟨kind, h⟩ := perform_cases env command
      · rw [answer_of_ok h]
        apply endsLine_line
      · rw [answer_of_reported h hcommand] at hending
        cases hending
      · rw [answer_of_uncaught h hcommand] at hending
        cases hending
    · intro hending
      obtain ⟨s, h⟩ | ⟨message, h⟩ | ⟨kind, h⟩ := perform_cases env command
      · rw [answer_of_ok h] at hending
        contradiction
      · rw [answer_of_reported h hcommand]
      · rw [answer_of_uncaught h hcommand]
    · rw [ending_eq_one_iff hcommand, ← hread]
      apply (exists_read_iff hread).symm
    · rintro _ element className pairs escapes content ⟨⟩
      use Request.pairs_of_read hread
      rintro before pair rest hbefore hpair rfl
      have h : Reported env _ _ := .malformed hbefore hpair rest element className escapes content
      use (ending_eq_one_iff hcommand verbose).mpr ⟨_, h⟩
      constructor
      · rw [← error_append_malformed]
        apply endsWithLine_of_reported h hcommand
      · apply newline_not_mem_malformed

/-- A value that is no pair is not told of behind one that was dropped. -/
theorem malformed_behind_dropped :
  Request.read ["tag", "--attr=--", "--attr", "bad", "p"]
      = .run false (.tag "p" none [none, some "bad"] false [])
    ∧ ¬ Attribute.IsPair "bad"
    ∧ run bare ["tag", "--attr=--", "--attr", "bad", "p"] = ⟨.fault .attribute, "", ""⟩
  := by
  have hname : IsArgument "p" := isArgument_of_not_beginsWithDash (by decide)
  have hbad : IsArgument "bad" := isArgument_of_not_beginsWithDash (by decide)
  have htold : tagSyntax.Says ["--attr", "bad", "p"]
      (.option .pair ["bad"] :: elementEvents false "p" []) :=
    (says_element hname (List.forall_mem_nil _) false).value (by decide) rfl rfl hbad
  have hword : tagSyntax.kind? "--attr=--" = some (.option .pair false (some ['-', '-'])) := rfl
  -- The value behind the equals sign is a separator, which is dropped.
  have hdropped : tagSyntax.Says ["--attr=--", "--attr", "bad", "p"]
      (.option .pair [] :: .option .pair ["bad"] :: elementEvents false "p" []) :=
    htold.attached (by decide) hword rfl
  have hread : Request.read ["tag", "--attr=--", "--attr", "bad", "p"]
      = .run false (.tag "p" none [none, some "bad"] false []) := by
    apply Request.read_tag (by decide +kernel)
    rw [hdropped.events_eq]
    rfl
  have hpair : ¬ Attribute.IsPair "bad" := by
    rintro ⟨hmem, -⟩
    revert hmem
    decide
  use hread, hpair
  rw [run, hread]
  have huncaught : Uncaught bare (.tag "p" none [none, some "bad"] false []) .attribute :=
    @Uncaught.dropped bare [] (by simp) [some "bad"] "p" none false []
  apply answer_of_uncaught huncaught (.inl rfl)

end HtmlTemplate.CommandLine
