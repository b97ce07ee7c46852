import HtmlTemplate.Proofs.Attribute.Pairs
import HtmlTemplate.Proofs.CommandLine.Filters
import HtmlTemplate.Proofs.CommandLine.Requests

/-!
# Faults of commands

A command that gives no text has a fault that is `Reported`, with its message, or one that
is `Uncaught`, of some kind.  The program ends with exit code one and the message for the
former (`answer_of_reported`), and is ended by the latter (`answer_of_uncaught`).
`fault_iff_uncaught` says which command lines end so, and that all others end well or with
a message.
-/

namespace HtmlTemplate.CommandLine

open Program

/-! ### Attributes -/

section Attributes

open Attribute

/-- The values given for pairs are all pairs, or there is a first that is none. -/
theorem exists_refused (pairs : List (Option String)) :
  (∃ entries : List (String × String), (∀ e ∈ entries, IsEntry e)
      ∧ pairs = entries.map fun e => some (pairOf e))
    ∨ ∃ (before : List String) (pair : Option String) (rest : List (Option String)),
      (∀ p ∈ before, IsPair p) ∧ (∀ p ∈ pair, ¬ IsPair p)
        ∧ pairs = before.map some ++ pair :: rest
  := by
  induction pairs with
  | nil => exact .inl ⟨[], by simp, rfl⟩
  | cons pair pairs ih =>
    -- A value that was dropped is not a pair either.
    by_cases hpair : ∃ p ∈ pair, IsPair p
    · obtain ⟨p, rfl, hp⟩ := hpair
      obtain ⟨entry, hentry, rfl⟩ := hp.exists_entry
      obtain ⟨entries, hentries, rfl⟩ | ⟨before, pair, rest, hbefore, hpair, rfl⟩ := ih
      · left
        use entry :: entries, List.forall_mem_cons.mpr ⟨hentry, hentries⟩
        rfl
      · right
        use pairOf entry :: before, pair, rest, List.forall_mem_cons.mpr ⟨hp, hbefore⟩, hpair
        rfl
    · right
      use [], pair, pairs, by simp, by simpa using hpair
      rfl

theorem attributesOfPairs_entries {entries : List (String × String)}
    (h : ∀ e ∈ entries, IsEntry e) :
  attributesOfPairs (entries.map fun e => some (pairOf e))
    = .ok (toMapping (insertAll [] entries))
  := by
  rw [attributesOfPairs, List.map_map]
  show Value.mapping .plain <$> ofPairs (entries.map fun e => .plain (pairOf e)) = _
  rw [ofPairs_eq_insertAll h]
  rfl

/-- A class that is not empty stands for the attributes; otherwise the pairs do. -/
theorem attributesOf_entries {entries : List (String × String)} (h : ∀ e ∈ entries, IsEntry e)
    (className : Option String) :
  attributesOf className (entries.map fun e => some (pairOf e))
    = .ok (if className.getD "" = "" then toMapping (insertAll [] entries)
      else .plain (className.getD ""))
  := by
  cases className with
  | none => apply attributesOfPairs_entries h
  | some s =>
    rw [attributesOf, attributesOfPairs_entries h, Option.getD_some]
    split
    · rfl
    · rfl

theorem attributesOfPairs_refused {before : List String} (pair : Option String) {fault : Fault}
    (hbefore : ∀ p ∈ before, IsPair p)
    (hpair : Attribute.read (pair.elim (.list []) .plain) = .error fault)
    (rest : List (Option String)) :
  attributesOfPairs (before.map some ++ pair :: rest) = .error fault
  := by
  have htexts : ∀ t ∈ before.map (Mark.plain, ·), IsPair t.2 := by
    rwa [List.forall_mem_map]
  rw [attributesOfPairs, List.map_append, List.map_map, List.map_cons]
  show Value.mapping .plain <$> ofPairs (before.map .plain ++ _ :: _) = _
  rw [← markedTexts_plain, ofPairs_of_refused htexts hpair]
  rfl

end Attributes

/-! ### Faults -/

/-- The faults of a command that are reported, with their messages: a named file cannot be
read, or a value given for an attribute pair is none, and those before it are pairs. -/
inductive Reported (env : Environment) : Command → String → Prop where
  | unreadable (filter : Filter) {name : String} {fault : FileFault}
      (h : Reads env (some name) (.error fault)) :
      Reported env (filter.command (some name)) ("[Errno " ++ toString fault.code ++ "] "
        ++ fault.reason ++ ": " ++ Quoted.quote (Path.normalize name))
  | malformed {before : List String} {pair : String}
      (hbefore : ∀ p ∈ before, Attribute.IsPair p) (hpair : ¬ Attribute.IsPair pair)
      (rest : List (Option String)) (element : String) (className : Option String)
      (escapes : Bool) (content : List String) :
      Reported env (.tag element className (before.map some ++ some pair :: rest) escapes content)
        ("Malformed attribute " ++ Quoted.quote pair ++ ", expected KEY=VALUE")

/-- The faults of a command that nothing catches, by their kinds: the bytes that are read
are the UTF-8 form of no text, the name of the file holds a zero character, or the value
given for an attribute pair was dropped, and those before it are pairs. -/
inductive Uncaught (env : Environment) : Command → FaultKind → Prop where
  | undecodable (filter : Filter) {file : Option String} {data : List UInt8}
      (h : Reads env file (.ok data)) (hdata : ∀ s, Encoding.bytesOf s ≠ data) :
      Uncaught env (filter.command file) .undecodable
  | zero (filter : Filter) {name : String} (h : '\x00' ∈ name.toList) :
      Uncaught env (filter.command (some name)) .value
  | dropped {before : List String} (hbefore : ∀ p ∈ before, Attribute.IsPair p)
      (rest : List (Option String)) (element : String) (className : Option String)
      (escapes : Bool) (content : List String) :
      Uncaught env (.tag element className (before.map some ++ none :: rest) escapes content)
        .attribute

variable {env : Environment} {command : Command} {message : String} {kind : FaultKind}

theorem perform_tag_ok {className : Option String} {pairs : List (Option String)}
    {attributes : Value} (h : attributesOf className pairs = .ok attributes)
    (env : Environment) (element : String) (escapes : Bool) (content : List String) :
  perform env (.tag element className pairs escapes content)
    = .ok (Element.text (.plain element) attributes (.plain
      (if escapes then Entity.escape (" ".intercalate content) else " ".intercalate content)))
  := by
  rw [perform, h]
  rfl

theorem perform_tag_error {pairs : List (Option String)} {fault : Fault}
    (h : attributesOfPairs pairs = .error fault) {className : Option String}
    (hexclusive : className = none ∨ pairs = []) (env : Environment) (element : String)
    (escapes : Bool) (content : List String) :
  perform env (.tag element className pairs escapes content) = .error (.library fault)
  := by
  -- Next to a class the pairs are not looked at, but then there are none.
  obtain rfl | rfl := hexclusive
  · rw [perform, attributesOf, h]
    rfl
  · cases h

theorem Reported.perform_eq (h : Reported env command message) (hcommand : command.IsExclusive) :
  ∃ fault, perform env command = .error fault ∧ explain fault = .ok message
  := by
  cases h with
  | unreadable filter h =>
    rw [filter.perform_command, h.contents_error]
    exact ⟨_, rfl, rfl⟩
  | malformed hbefore hpair rest element className escapes content =>
    have hrefused := attributesOfPairs_refused (some _) hbefore
      (Attribute.read_eq_malformed hpair) rest
    rw [perform_tag_error hrefused hcommand]
    exact ⟨_, rfl, rfl⟩

theorem Uncaught.perform_eq (h : Uncaught env command kind) (hcommand : command.IsExclusive) :
  perform env command = .error (.library (.basic kind))
  := by
  cases h with
  | undecodable filter h hdata =>
    rw [filter.perform_command, h.contents_ok, decode_eq_error hdata]
    rfl
  | zero filter h =>
    rw [filter.perform_command, contents_zero h]
    rfl
  | dropped hbefore rest element className escapes content =>
    have hrefused := attributesOfPairs_refused none hbefore rfl rest
    rw [perform_tag_error hrefused hcommand]

theorem Filter.perform_cases (filter : Filter) (env : Environment) (file : Option String) :
  (∃ s, perform env (filter.command file) = .ok s)
    ∨ (∃ message, Reported env (filter.command file) message)
    ∨ ∃ kind, Uncaught env (filter.command file) kind
  := by
  obtain ⟨found, hreads⟩ | ⟨name, rfl, hzero⟩ := exists_reads env file
  · cases found with
    | error fault =>
      cases hreads with
      | file hdash hzero hfound =>
        exact .inr (.inl ⟨_, .unreadable filter (.file hdash hzero hfound)⟩)
    | ok data =>
      by_cases hdata : ∃ s, Encoding.bytesOf s = data
      · obtain ⟨s, rfl⟩ := hdata
        left
        rw [filter.perform_command, hreads.contents_ok, decode_bytesOf]
        exact ⟨_, rfl⟩
      · exact .inr (.inr ⟨_, .undecodable filter hreads (by simpa using hdata)⟩)
  · exact .inr (.inr ⟨_, .zero filter hzero⟩)

/-- A command gives a text or has one of the two sorts of faults. -/
theorem perform_cases (env : Environment) (command : Command) :
  (∃ s, perform env command = .ok s) ∨ (∃ message, Reported env command message)
    ∨ ∃ kind, Uncaught env command kind
  := by
  cases command with
  | escape file => apply Filter.perform_cases .escape
  | stripComments file => apply Filter.perform_cases .stripComments
  | tag element className pairs escapes content =>
    obtain ⟨entries, hentries, rfl⟩ | ⟨before, pair, rest, hbefore, hpair, rfl⟩ :=
      exists_refused pairs
    · left
      exact ⟨_, perform_tag_ok (attributesOf_entries hentries className) env element escapes
        content⟩
    · cases pair with
      | none => exact .inr (.inr ⟨_, .dropped hbefore rest element className escapes content⟩)
      | some pair =>
        exact .inr (.inl ⟨_, .malformed hbefore (hpair pair rfl) rest element className escapes
          content⟩)

/-! ### Reports -/

/-- What the log holds before a fault is reported. -/
def opening (env : Environment) (verbose : Bool) (command : Command) : String :=
  if verbose then log env command else ""

/-- The last line of a text, complete with its line feed and behind complete lines. -/
def EndsWithLine (s line : String) : Prop :=
  ∃ before, (before = "" ∨ EndsLine before) ∧ s = before ++ line ++ "\n"

theorem EndsLine.append {s : String} (h : EndsLine s) (t : String) :
  EndsLine (t ++ s)
  := by
  rw [EndsLine, String.toList_append, List.getLast?_append, h]
  rfl

theorem endsLine_newline :
  EndsLine "\n"
  := rfl

theorem endsLine_debug (env : Environment) (message : String) :
  EndsLine (debug env message)
  := endsLine_newline.append _

theorem opening_eq_empty_or_endsLine (env : Environment) (verbose : Bool) (command : Command) :
  opening env verbose command = "" ∨ EndsLine (opening env verbose command)
  := by
  cases verbose with
  | false => exact .inl rfl
  | true =>
    right
    cases command with
    | escape file => apply (endsLine_debug env (source file)).append
    | stripComments file => apply (endsLine_debug env (source file)).append
    | tag element className pairs escapes content => apply endsLine_debug

theorem answer_of_ok {s : String} (h : perform env command = .ok s) (verbose : Bool) :
  answer env (.run verbose command) = ⟨.exit 0, line s, opening env verbose command⟩
  := by
  rw [answer, h]
  rfl

theorem answer_of_reported (h : Reported env command message) (hcommand : command.IsExclusive)
    (verbose : Bool) :
  answer env (.run verbose command)
    = ⟨.exit 1, "", opening env verbose command ++ "Error: " ++ message ++ "\n"⟩
  := by
  obtain ⟨fault, hfault, hmessage⟩ := h.perform_eq hcommand
  simp only [answer, hfault, hmessage]
  rfl

theorem answer_of_uncaught (h : Uncaught env command kind) (hcommand : command.IsExclusive)
    (verbose : Bool) :
  answer env (.run verbose command) = ⟨.fault kind, "", opening env verbose command⟩
  := by
  rw [answer, h.perform_eq hcommand]
  rfl

theorem ending_eq_fault_iff (hcommand : command.IsExclusive) (verbose : Bool) :
  (answer env (.run verbose command)).ending = .fault kind ↔ Uncaught env command kind
  := by
  constructor
  · intro hending
    obtain ⟨s, h⟩ | ⟨message, h⟩ | ⟨kind', h⟩ := perform_cases env command
    · rw [answer_of_ok h] at hending
      cases hending
    · rw [answer_of_reported h hcommand] at hending
      cases hending
    · rw [answer_of_uncaught h hcommand] at hending
      cases hending
      exact h
  · intro h
    rw [answer_of_uncaught h hcommand]

theorem ending_eq_one_iff (hcommand : command.IsExclusive) (verbose : Bool) :
  (answer env (.run verbose command)).ending = .exit 1 ↔ ∃ message, Reported env command message
  := by
  constructor
  · intro hending
    obtain ⟨s, h⟩ | h | ⟨kind, h⟩ := perform_cases env command
    · rw [answer_of_ok h] at hending
      cases hending
    · exact h
    · rw [answer_of_uncaught h hcommand] at hending
      cases hending
  · rintro ⟨message, h⟩
    rw [answer_of_reported h hcommand]

theorem endsWithLine_of_reported (h : Reported env command message)
    (hcommand : command.IsExclusive) (verbose : Bool) :
  EndsWithLine (answer env (.run verbose command)).log ("Error: " ++ message)
  := by
  rw [answer_of_reported h hcommand]
  use opening env verbose command, opening_eq_empty_or_endsLine env verbose command
  simp only [String.append_assoc]

/-- What is said of the command of a command line that asks for one is said of that
command. -/
theorem exists_read_iff {words : List String} {verbose : Bool} {p : Command → Prop}
    (h : Request.read words = .run verbose command) :
  (∃ verbose' command', Request.read words = .run verbose' command' ∧ p command') ↔ p command
  := by
  constructor
  · rintro ⟨verbose', command', hread, hp⟩
    rw [h] at hread
    cases hread
    exact hp
  · intro hp
    exact ⟨verbose, command, h, hp⟩

/-- A run is ended by a fault exactly if the command has one that nothing catches.  Every
other run of a command line that can be read ends well or with a message, and a fault that
is reported ends it with its message. -/
theorem fault_iff_uncaught (env : Environment) (words : List String) :
  (∀ kind, (run env words).ending = .fault kind
    ↔ ∃ verbose command, Request.read words = .run verbose command ∧ Uncaught env command kind)
  ∧ (Request.read words ≠ .misuse → (∀ kind, (run env words).ending ≠ .fault kind) →
    (run env words).ending = .exit 0 ∨ ((run env words).ending = .exit 1
      ∧ ∃ message, EndsWithLine (run env words).log ("Error: " ++ message)))
  ∧ ∀ verbose command message, Request.read words = .run verbose command →
    Reported env command message → (run env words).ending = .exit 1
      ∧ EndsWithLine (run env words).log ("Error: " ++ message)
  := by
  rw [run]
  cases hread : Request.read words with
  | misuse => simp [answer]
  | text s => simp [answer]
  | run verbose command =>
    have hcommand := Request.isExclusive_of_read hread
    refine ⟨?_, ?_, ?_⟩
    · intro kind
      rw [ending_eq_fault_iff hcommand, ← hread]
      apply (exists_read_iff hread).symm
    · intro _ hending
      obtain ⟨s, h⟩ | ⟨message, h⟩ | ⟨kind, h⟩ := perform_cases env command
      · left
        rw [answer_of_ok h]
      · right
        use (ending_eq_one_iff hcommand verbose).mpr ⟨message, h⟩, message
        apply endsWithLine_of_reported h hcommand
      · apply absurd ((ending_eq_fault_iff hcommand verbose).mpr h) (hending kind)
    · rintro _ _ message ⟨⟩ h
      use (ending_eq_one_iff hcommand verbose).mpr ⟨message, h⟩
      apply endsWithLine_of_reported h hcommand

/-- A standard input that begins like a character and breaks off. -/
def broken : Environment where
  logger := "log"
  input := [0xc3]
  files _ := .error .missing

/-- Input that cannot be decoded ends the program by a fault. -/
theorem broken_uncaught :
  Request.read ["escape"] = .run false (.escape none)
    ∧ run broken ["escape"] = ⟨.fault .undecodable, "", ""⟩
  := by
  have hread : Request.read ["escape"] = .run false (.escape none) :=
    Request.read_filter .escape none (by simp)
  have hdata : ∀ s, Encoding.bytesOf s ≠ broken.input := by
    apply Encoding.utf8?_eq_none_iff.mp
    decide +kernel
  use hread
  rw [run, hread]
  apply answer_of_uncaught (.undecodable .escape .input hdata) trivial

end HtmlTemplate.CommandLine
