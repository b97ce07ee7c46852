import HtmlTemplate.Proofs.CommandLine.Faults

/-!
# Verbosity

The option for a log changes nothing but the log.  In front of a command line it asks for
what the line asks for, `Request.verbosely` (`Request.read_verbose`), and of a request that
is answered verbosely only the log is another one, with records in front
(`answer_verbosely`).  `run_verbose` says so of whole runs.
-/

namespace HtmlTemplate.CommandLine

open Program

/-! ### What is told -/

/-- The word for a command. -/
def Command.name : Command → String
  | .escape _ => "escape"
  | .stripComments _ => "strip-comments"
  | .tag .. => "tag"

/-- The source that a command reads, if it reads one. -/
def Command.source? : Command → Option String
  | .escape file | .stripComments file => some (source file)
  | .tag .. => none

/-- The messages of a command: that it is run, and what it reads. -/
def Command.messages (command : Command) : List String :=
  ("Running " ++ command.name) :: command.source?.toList

/-- The records of a request in the log, one for each message. -/
def records (env : Environment) : Request → String
  | .run _ command => String.join (command.messages.map (debug env))
  | _ => ""

theorem log_eq_records (env : Environment) (verbose : Bool) (command : Command) :
  log env command = records env (.run verbose command)
  := by
  cases command with
  | escape file => simp [log, records, Command.messages, Command.name, Command.source?]
  | stripComments file => simp [log, records, Command.messages, Command.name, Command.source?]
  | tag element className pairs escapes content =>
    simp [log, records, Command.messages, Command.name, Command.source?]

/-! ### What is asked for -/

/-- An option without a value in front of words is told before what they say.  If they are
no row of tokens, that is all that is told with and without it. -/
theorem CommandSyntax.events_flag_cons {κ ρ : Type} {s : CommandSyntax κ ρ} {word : String}
    {key : κ} {single : Bool} (hne : word ≠ "--")
    (hword : s.kind? word = some (.option key single none)) (hkey : s.takesValue key = false)
    (words : List String) :
  s.events (word :: words) = .option key [] :: s.events words
    ∨ s.events (word :: words) = [.failure] ∧ s.events words = [.failure]
  := by
  cases htokens : s.tokens? words with
  | some tokens =>
    left
    have hwords : s.Says words (s.events words) := ⟨tokens, htokens, by rw [events, htokens]⟩
    apply (hwords.flag hne hword hkey).events_eq
  | none =>
    right
    have hcons : s.tokens? (word :: words) = none := by
      rw [tokens?, if_neg hne, hword, htokens]
      rfl
    rw [events, events, hcons, htokens]
    use rfl

namespace Request

/-- Whether a request asks for a log. -/
def isVerbose : Request → Bool
  | .run verbose _ => verbose
  | _ => false

/-- The same request with a log. -/
def verbosely : Request → Request
  | .run _ command => .run true command
  | request => request

/-- Reading events with the log turned on before gives the same request with a log. -/
theorem ofEvents_true (verbose hasExtra : Bool) (events : List (Event GeneralOption Unit)) :
  ofEvents true hasExtra events = (ofEvents verbose hasExtra events).verbosely
  := by
  induction events generalizing verbose hasExtra with
  | nil =>
    rw [ofEvents, ofEvents]
    split
    · rfl
    · rfl
  | cons event events ih =>
    cases event with
    | option key values =>
      cases key with
      | help => rfl
      | version => rfl
      | verbose => apply ih
    | positional _ values =>
      cases values with
      | nil => rfl
      | cons name words =>
        -- The words of a command are read without regard to the log.
        rw [ofEvents, ofEvents]
        split
        · rfl
        · rfl
        · split
          · rfl
          · rfl
    | extra => apply ih
    | failure => rfl

/-- The option for a log in front of words asks for what they ask for, with a log. -/
theorem read_verbose (words : List String) :
  read ("-v" :: words) = (read words).verbosely
  := by
  have hword : generalSyntax.kind? "-v" = some (.option .verbose true none) := rfl
  rw [read, read]
  -- Words that are not even a row of tokens are refused with the option and without it.
  obtain h | ⟨h, hwords⟩ := CommandSyntax.events_flag_cons (by decide) hword rfl words
  · rw [h, ofEvents, ofEvents_true]
  · rw [h, hwords]
    rfl

end Request

/-! ### What is answered -/

/-- A log that is asked for opens what is told of a command anyway, and nothing else depends
on it. -/
theorem answer_run (env : Environment) (verbose : Bool) (command : Command) :
  let plain := answer env (.run false command)
  answer env (.run verbose command)
    = ⟨plain.ending, plain.output, opening env verbose command ++ plain.log⟩
  := by
  simp only [answer, opening]
  cases perform env command with
  | ok s => simp
  | error fault =>
    cases hfault : explain fault with
    | ok message => simp [hfault, String.append_assoc]
    | error kind => simp [hfault]

/-- A request with a log is answered like the request itself, but for the records in front of
the log if that has none yet. -/
theorem answer_verbosely (env : Environment) (request : Request) :
  let plain := answer env request
  answer env request.verbosely = ⟨plain.ending, plain.output,
    (if request.isVerbose then "" else records env request) ++ plain.log⟩
  := by
  cases request with
  | misuse => simp [Request.verbosely, Request.isVerbose, records, answer]
  | text s => simp [Request.verbosely, Request.isVerbose, records, answer]
  | run verbose command =>
    cases verbose with
    | true => simp [Request.verbosely, Request.isVerbose]
    | false =>
      rw [← log_eq_records]
      apply answer_run

/-- A run with the option for a log put in front ends in the same way and writes the same as
the run without it.  The log is the same too if the words ask for one themselves, and else
the records of the command that is run and of the source that it reads stand in front of
it. -/
theorem run_verbose (env : Environment) (words : List String) :
  let plain := run env words
  let verbose := run env ("-v" :: words)
  verbose.ending = plain.ending ∧ verbose.output = plain.output
    ∧ ((Request.read words).isVerbose = true → verbose.log = plain.log)
    ∧ ((Request.read words).isVerbose = false →
      verbose.log = records env (Request.read words) ++ plain.log)
  := by
  intro plain verbose
  have hverbose : verbose = ⟨plain.ending, plain.output,
      (if (Request.read words).isVerbose then "" else records env (Request.read words))
        ++ plain.log⟩ := by
    show answer env (Request.read ("-v" :: words)) = _
    rw [Request.read_verbose]
    apply answer_verbosely
  rw [hverbose]
  refine ⟨rfl, rfl, ?_, ?_⟩
  · intro h
    simp only [h, if_true, String.empty_append]
  · intro h
    simp only [h, Bool.false_eq_true, if_false]

/-- That a file is missing is told behind the records, and these are not told twice. -/
theorem run_verbose_missing :
  let words := ["escape", "./in"]
  let error := "Error: [Errno 2] No such file or directory: 'in'\n"
  let told := "DEBUG log: Running escape\nDEBUG log: Reading ./in\n"
  (Request.read words).isVerbose = false
    ∧ run bare words = ⟨.exit 1, "", error⟩
    ∧ (run bare ("-v" :: words)).ending = .exit 1
    ∧ (run bare ("-v" :: words)).output = ""
    ∧ (run bare ("-v" :: words)).log = told ++ error
    ∧ (Request.read ("-v" :: words)).isVerbose = true
    ∧ (run bare ("-v" :: "-v" :: words)).log = told ++ error
  := by
  intro words error told
  have hfile : ∀ name ∈ some "./in", IsArgument name := by
    simpa using isArgument_of_not_beginsWithDash (by decide)
  have hread : Request.read words = .run false (.escape (some "./in")) :=
    Request.read_filter .escape (some "./in") hfile
  have hplain : (Request.read words).isVerbose = false := by
    rw [hread]
    rfl
  have hagain : (Request.read ("-v" :: words)).isVerbose = true := by
    rw [Request.read_verbose, hread]
    rfl
  have hmissing : Reads bare (some "./in") (.error .missing) :=
    .file (by decide) (by decide) rfl
  have hrun : run bare words = ⟨.exit 1, "", error⟩ := by
    rw [run, hread]
    apply answer_of_reported (.unreadable .escape hmissing) trivial
  obtain ⟨hending, houtput, -, hlog⟩ := run_verbose bare words
  obtain ⟨-, -, hsame, -⟩ := run_verbose bare ("-v" :: words)
  have htold : (run bare ("-v" :: words)).log = told ++ error := by
    rw [hlog hplain, hrun, hread]
    rfl
  rw [hrun] at hending houtput
  use hplain, hrun, hending, houtput, htold, hagain
  rw [hsame hagain, htold]

end HtmlTemplate.CommandLine
