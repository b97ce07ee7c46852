import HtmlTemplate.Proofs.CommandLine.Events
import HtmlTemplate.Proofs.Text.Decoding

/-!
# Commands that read

A `Filter` is a command that writes what it reads after a change.  `Reads` says what is
found where a filter reads: at the standard input, or in a file whose name holds no zero
character.
-/

namespace HtmlTemplate.CommandLine

open Program

/-- The commands that read a text and write it changed. -/
inductive Filter where
  | escape
  | stripComments

namespace Filter

/-- The word for a filter. -/
def name : Filter → String
  | .escape => "escape"
  | .stripComments => "strip-comments"

/-- The command of a filter for a file. -/
def command : Filter → Option String → Command
  | .escape => .escape
  | .stripComments => .stripComments

/-- The change that a filter makes. -/
def apply : Filter → String → String
  | .escape => Entity.escape
  | .stripComments => Comment.strip

variable (filter : Filter)

theorem not_beginsWithDash_name :
  ¬ BeginsWithDash filter.name
  := by
  cases filter with
  | escape => decide
  | stripComments => decide

theorem readCommand_name (words : List String) :
  readCommand filter.name words
    = (readFile filter.command none false (readingSyntax.events words), Help.reading filter.name)
  := by
  cases filter with
  | escape => rfl
  | stripComments => rfl

theorem perform_command (env : Environment) (file : Option String) :
  perform env (filter.command file) = filter.apply <$> contents env file
  := by
  cases filter with
  | escape => rfl
  | stripComments => rfl

end Filter

/-! ### What is asked for -/

theorem readingEvents_nil :
  readingSyntax.events [] = [.positional () []]
  := by
  rw [CommandSyntax.events, CommandSyntax.tokens?]
  show readingSyntax.tokenEvents _ _ = _
  rw [CommandSyntax.tokenEvents]
  rfl

theorem readingEvents_singleton {file : String} (h : IsArgument file) :
  readingSyntax.events [file] = [.positional () [file]]
  := by
  have htokens : readingSyntax.tokens? [file] = some [⟨file, .argument⟩] :=
    readingSyntax.tokens?_arguments (by simpa using h)
  have htaken : CommandSyntax.take readingSyntax.positionals
      [(⟨file, .argument⟩ : Token ReadingOption)] = [((), [file])] := by
    rfl
  have hwithout : CommandSyntax.withoutSeparator [file] = [file] :=
    CommandSyntax.withoutSeparator_arguments (by simpa using h)
  rw [CommandSyntax.events, htokens]
  show readingSyntax.tokenEvents _ _ = _
  rw [CommandSyntax.tokenEvents_of_take htaken rfl, CommandSyntax.positionalEvents]
  simp only [readingSyntax, List.zip_cons_cons, List.zip_nil_right, List.map_cons, List.map_nil,
    reduceCtorEq, if_false, hwithout]
  rfl

/-- Of a filter with at most one word behind it, which is an argument, that word names the
file. -/
theorem Request.read_filter (filter : Filter) (file : Option String)
    (h : ∀ name ∈ file, IsArgument name) :
  Request.read (filter.name :: file.toList) = .run false (filter.command file)
  := by
  have hname := isArgument_of_not_beginsWithDash filter.not_beginsWithDash_name
  cases file with
  | none =>
    apply Request.read_command hname (by simp)
    rw [filter.readCommand_name, Option.toList_none, readingEvents_nil]
    rfl
  | some file =>
    have hfile : IsArgument file := h file rfl
    apply Request.read_command hname
    · simp [generalSyntax.isSome_kind? hfile]
    · rw [filter.readCommand_name, Option.toList_some, readingEvents_singleton hfile]
      rfl

/-! ### What is read -/

/-- What is found where a filter reads: the standard input if no file is named or a dash
is, and else what is found under the usual form of the name. -/
inductive Reads (env : Environment) : Option String → Except FileFault (List UInt8) → Prop where
  | input : Reads env none (.ok env.input)
  | dash : Reads env (some "-") (.ok env.input)
  | file {name : String} {found : Except FileFault (List UInt8)} (hdash : name ≠ "-")
      (hzero : '\x00' ∉ name.toList) (hfound : env.files (Path.normalize name) = found) :
      Reads env (some name) found

/-- Nothing on the standard input, and no files. -/
def bare : Environment where
  logger := "log"
  input := []
  files _ := .error .missing

variable {env : Environment} {file : Option String} {name : String} {data : List UInt8}

/-- There is something to be read unless a name holds a zero character. -/
theorem exists_reads (env : Environment) (file : Option String) :
  (∃ found, Reads env file found) ∨ ∃ name, file = some name ∧ '\x00' ∈ name.toList
  := by
  cases file with
  | none => exact .inl ⟨_, .input⟩
  | some name =>
    by_cases hdash : name = "-"
    · rw [hdash]
      exact .inl ⟨_, .dash⟩
    · by_cases hzero : '\x00' ∈ name.toList
      · exact .inr ⟨name, rfl, hzero⟩
      · exact .inl ⟨_, .file hdash hzero rfl⟩

theorem contents_named (hdash : name ≠ "-") (hzero : '\x00' ∉ name.toList) :
  contents env (some name) = match env.files (Path.normalize name) with
    | .ok data => decode data
    | .error fault => .error (.file (Path.normalize name) fault)
  := by
  have hcontains : name.contains '\x00' = false := by
    rw [String.contains_char_eq]
    simpa using hzero
  have hinput : Program.readsInput (some name) = false := by
    simp [Program.readsInput, hdash]
  rw [contents, hinput, hcontains]
  rfl

theorem Reads.contents_ok (h : Reads env file (.ok data)) :
  contents env file = decode data
  := by
  cases h with
  | input => rfl
  | dash => rfl
  | file hdash hzero hfound => rw [contents_named hdash hzero, hfound]

theorem Reads.contents_error {fault : FileFault} (h : Reads env (some name) (.error fault)) :
  contents env (some name) = .error (.file (Path.normalize name) fault)
  := by
  cases h with
  | file hdash hzero hfound => rw [contents_named hdash hzero, hfound]

theorem contents_zero (h : '\x00' ∈ name.toList) :
  contents env (some name) = .error (.library (.basic .value))
  := by
  have hdash : name ≠ "-" := by
    rintro rfl
    revert h
    decide
  have hcontains : name.contains '\x00' = true := by
    rw [String.contains_char_eq]
    simpa using h
  have hinput : Program.readsInput (some name) = false := by
    simp [Program.readsInput, hdash]
  rw [contents, hinput, hcontains]
  rfl

theorem decode_bytesOf (s : String) :
  decode (Encoding.bytesOf s) = .ok (Newline.unify s)
  := by
  rw [decode, Encoding.utf8?_bytesOf]

theorem decode_eq_error (h : ∀ s, Encoding.bytesOf s ≠ data) :
  decode data = .error (.library (.basic .undecodable))
  := by
  rw [decode, Encoding.utf8?_eq_none_iff.mpr h]

end HtmlTemplate.CommandLine
