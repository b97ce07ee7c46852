import HtmlTemplate.Proofs.CommandLine.Filters

/-!
# Sources of a filter

What a filter writes depends on the bytes that it reads and not on where it finds them: in
a named file, or at the standard input, with no word or with a dash for it
(`run_filter_eq`).
-/

namespace HtmlTemplate.CommandLine

open Program

/-- There is a file under a name, and the name holds no zero character. -/
structure HoldsFile (env : Environment) (name : String) (data : List UInt8) : Prop where
  zero : '\x00' ∉ name.toList
  found : env.files (Path.normalize name) = .ok data

variable {name : String} {data : List UInt8}

theorem HoldsFile.reads {env : Environment} (h : HoldsFile env name data)
    (hname : ¬ BeginsWithDash name) :
  Reads env (some name) (.ok data)
  := by
  apply Reads.file _ h.zero h.found
  rintro rfl
  apply hname rfl

/-- A filter writes the text that it reads, with line ends unified, after its change. -/
theorem run_filter_of_reads (filter : Filter) {env : Environment} {file : Option String}
    {s : String} (hreads : Reads env file (.ok (Encoding.bytesOf s)))
    (hfile : ∀ name ∈ file, IsArgument name) :
  run env (filter.name :: file.toList)
    = ⟨.exit 0, line (filter.apply (Newline.unify s)), ""⟩
  := by
  have hperform : perform env (filter.command file) = .ok (filter.apply (Newline.unify s)) := by
    rw [filter.perform_command, hreads.contents_ok, decode_bytesOf]
    rfl
  rw [run, Request.read_filter filter file hfile, answer]
  simp [hperform]

/-- A filter ends well and writes the same for the same bytes, from a named file and from
the standard input: the text with line ends unified, changed, and with a line feed behind
it unless it ends with one. -/
theorem run_filter_eq (filter : Filter) {named piped : Environment} {s : String}
    (hname : ¬ BeginsWithDash name) (hnamed : HoldsFile named name (Encoding.bytesOf s))
    (hpiped : piped.input = Encoding.bytesOf s) :
  let text := String.ofList ((Newline.mergePairs s.toList).map Newline.lineFeed)
  let changed := filter.apply text
  let report : Report :=
    ⟨.exit 0, if changed.toList.getLast? = some '\n' then changed else changed ++ "\n", ""⟩
  run named [filter.name, name] = report
    ∧ run piped [filter.name] = report
    ∧ run piped [filter.name, "-"] = report
  := by
  have hdash : ∀ word ∈ some "-", IsArgument word := by
    simpa using isArgument_dash
  have hword : ∀ word ∈ some name, IsArgument word := by
    simpa using isArgument_of_not_beginsWithDash hname
  have hinput : Reads piped none (.ok (Encoding.bytesOf s)) := by
    rw [← hpiped]
    apply Reads.input
  have hinput' : Reads piped (some "-") (.ok (Encoding.bytesOf s)) := by
    rw [← hpiped]
    apply Reads.dash
  intro text changed report
  have hreport : report = ⟨.exit 0, line (filter.apply (Newline.unify s)), ""⟩ := by
    rw [Newline.unify_eq, line]
  rw [hreport]
  refine ⟨?_, ?_, ?_⟩
  · apply run_filter_of_reads filter (hnamed.reads hname) hword
  · apply run_filter_of_reads filter hinput
    simp
  · apply run_filter_of_reads filter hinput' hdash

/-- Every file, and the standard input, with the same text. -/
def everywhere (s : String) : Environment where
  logger := "log"
  input := Encoding.bytesOf s
  files _ := .ok (Encoding.bytesOf s)

/-- A text that ends with a comment behind its last line. -/
theorem run_filter_eq_commented :
  ¬ BeginsWithDash "in"
    ∧ HoldsFile (everywhere "<\r\n\r<!---->") "in" (Encoding.bytesOf "<\r\n\r<!---->")
    ∧ run (everywhere "<\r\n\r<!---->") ["strip-comments", "in"] = ⟨.exit 0, "<\n\n", ""⟩
    ∧ run (everywhere "<\r\n\r<!---->") ["strip-comments"] = ⟨.exit 0, "<\n\n", ""⟩
    ∧ run (everywhere "<\r\n\r<!---->") ["strip-comments", "-"] = ⟨.exit 0, "<\n\n", ""⟩
  := by
  have hname : ¬ BeginsWithDash "in" := by
    decide
  have hfile : HoldsFile (everywhere "<\r\n\r<!---->") "in"
      (Encoding.bytesOf "<\r\n\r<!---->") := by
    constructor
    · decide
    · rfl
  use hname, hfile
  apply run_filter_eq .stripComments hname hfile rfl

end HtmlTemplate.CommandLine
