import HtmlTemplate.Proofs.CommandLine.Events

/-!
# What requests hold

A text that a command line asks for ends with a line feed (`Request.endsLine_of_read`).
An element that it asks for has no attribute pairs if it has a class
(`Request.isExclusive_of_read`), and its pairs are the values of the pair options among the
words of the command, in their order (`Request.pairs_of_read`).
-/

namespace HtmlTemplate.CommandLine

/-- A text with a line feed at its end. -/
def EndsLine (s : String) : Prop := s.toList.getLast? = some '\n'

/-- An element has a class or attribute pairs, and not both. -/
def Command.IsExclusive : Command → Prop
  | .escape _ | .stripComments _ => True
  | .tag _ className pairs _ _ => className = none ∨ pairs = []

/-- A class among the words read so far excludes attribute pairs. -/
structure TagReading.IsExclusive (r : TagReading) : Prop where
  className : r.hasClass = false → r.className = none
  pairs : r.hasClass = true → r.pairs = []

/-- The values of the pair options, in the order of the events. -/
def givenPairs (events : List (Event TagOption TagArgument)) : List (Option String) :=
  events.filterMap fun
    | .option .pair values => some values.head?
    | _ => none

/-- Reading goes on behind an event with its pair, if it gives one, behind the others, and
does not join a class and pairs. -/
theorem readTag_cons {r : TagReading} {event : Event TagOption TagArgument}
    {events : List (Event TagOption TagArgument)} {command : Command} {hasExtra : Bool}
    (h : readTag r (event :: events) = .command command hasExtra) :
  ∃ r', readTag r' events = .command command hasExtra
    ∧ r'.pairs = r.pairs ++ givenPairs [event] ∧ (r.IsExclusive → r'.IsExclusive)
  := by
  cases event with
  | option key values =>
    cases key with
    | help => cases h
    | className =>
      -- A class is refused behind pairs, so there are none yet, and none are let in later.
      rw [readTag] at h
      split at h
      · rename_i hpairs
        refine ⟨_, h, by simp [givenPairs], ?_⟩
        intro hr
        constructor
        · rintro ⟨⟩
        · intro _
          exact List.isEmpty_iff.mp hpairs
      · cases h
    | pair =>
      rw [readTag] at h
      split at h
      · cases h
      · rename_i hclass
        refine ⟨_, h, by simp [givenPairs], ?_⟩
        intro hr
        constructor
        · exact hr.className
        · intro hclass'
          apply absurd hclass' hclass
    | escape => exact ⟨_, h, by simp [givenPairs], fun hr => ⟨hr.className, hr.pairs⟩⟩
  | positional argument values =>
    cases argument with
    | name => exact ⟨_, h, by simp [givenPairs], fun hr => ⟨hr.className, hr.pairs⟩⟩
    | content => exact ⟨_, h, by simp [givenPairs], fun hr => ⟨hr.className, hr.pairs⟩⟩
  | extra => exact ⟨_, h, by simp [givenPairs], fun hr => ⟨hr.className, hr.pairs⟩⟩
  | failure => cases h

/-- The command that is read has the pairs of all events, and a class only without any. -/
theorem readTag_eq_command {r : TagReading} {events : List (Event TagOption TagArgument)}
    {command : Command} {hasExtra : Bool} (hr : r.IsExclusive)
    (h : readTag r events = .command command hasExtra) :
  ∃ name className escapes words,
    command = .tag name className (r.pairs ++ givenPairs events) escapes words
      ∧ command.IsExclusive
  := by
  induction events generalizing r with
  | nil =>
    cases h
    refine ⟨_, _, _, _, by rw [givenPairs, List.filterMap_nil, List.append_nil], ?_⟩
    cases hclass : r.hasClass with
    | false => exact .inl (hr.className hclass)
    | true => exact .inr (hr.pairs hclass)
  | cons event events ih =>
    obtain ⟨r', h', hpairs, hexclusive⟩ := readTag_cons h
    have hgiven : givenPairs [event] ++ givenPairs events = givenPairs (event :: events) := by
      rw [givenPairs, givenPairs, ← List.filterMap_append]
      rfl
    obtain ⟨name, className, escapes, words, hcommand⟩ := ih (hexclusive hr) h'
    use name, className, escapes, words
    rwa [hpairs, List.append_assoc, hgiven] at hcommand

theorem readFile_eq_command {make : Option String → Command} {file : Option String}
    {hasExtra : Bool} {events : List (Event ReadingOption Unit)} {command : Command}
    {hasExtra' : Bool} (h : readFile make file hasExtra events = .command command hasExtra') :
  ∃ file', command = make file'
  := by
  induction events generalizing file hasExtra with
  | nil =>
    cases h
    exact ⟨file, rfl⟩
  | cons event events ih =>
    cases event with
    | option key values => cases h
    | positional _ values => apply ih h
    | extra => apply ih h
    | failure => cases h

/-- A command that is read reads a file, or makes an element with the pairs of the events. -/
theorem readCommand_eq_command {name : String} {words : List String} {command : Command}
    {hasExtra : Bool} {shown : String}
    (h : readCommand name words = (.command command hasExtra, shown)) :
  (∃ file, command = .escape file ∨ command = .stripComments file)
    ∨ (name = "tag" ∧ command.IsExclusive ∧ ∃ element className escapes content,
      command = .tag element className (givenPairs (tagSyntax.events words)) escapes content)
  := by
  rw [readCommand.eq_def] at h
  split at h
  · obtain ⟨file, hfile⟩ := readFile_eq_command (Prod.mk.inj h).1
    exact .inl ⟨file, .inl hfile⟩
  · obtain ⟨file, hfile⟩ := readFile_eq_command (Prod.mk.inj h).1
    exact .inl ⟨file, .inr hfile⟩
  · right
    have hstart : TagReading.start.IsExclusive := ⟨fun _ => rfl, fun _ => rfl⟩
    obtain ⟨element, className, escapes, content, hcommand, hexclusive⟩ :=
      readTag_eq_command hstart (Prod.mk.inj h).1
    use rfl, hexclusive, element, className, escapes, content
    exact hcommand
  · cases h

theorem endsLine_of_readCommand {name : String} {words : List String} {shown : String}
    (h : readCommand name words = (.help, shown)) :
  EndsLine shown
  := by
  rw [readCommand.eq_def] at h
  split at h
  · rw [← (Prod.mk.inj h).2]
    apply Help.getLast?_reading
  · rw [← (Prod.mk.inj h).2]
    apply Help.getLast?_reading
  · rw [← (Prod.mk.inj h).2]
    apply Help.getLast?_tag
  · cases h

/-! ### Requests -/

namespace Request

variable {verbose hasExtra : Bool} {events : List (Event GeneralOption Unit)}
  {words : List String} {command : Command}

theorem ofEvents_eq_text {s : String} (h : ofEvents verbose hasExtra events = .text s) :
  EndsLine s
  := by
  induction events generalizing verbose hasExtra with
  | nil =>
    rw [ofEvents] at h
    split at h
    · cases h
    · cases h
      apply Help.getLast?_overview
  | cons event events ih =>
    cases event with
    | option key values =>
      cases key with
      | help =>
        cases h
        apply Help.getLast?_overview
      | version =>
        cases h
        apply Help.getLast?_version
      | verbose => apply ih h
    | positional _ values =>
      cases values with
      | nil => cases h
      | cons name words =>
        rw [ofEvents] at h
        split at h
        · cases h
        · rename_i shown hread
          cases h
          apply endsLine_of_readCommand hread
        · split at h
          · cases h
          · cases h
    | extra => apply ih h
    | failure => cases h

/-- A command is asked for by a positional argument, as its words are read. -/
theorem ofEvents_eq_run {verbose' : Bool}
    (h : ofEvents verbose hasExtra events = .run verbose' command) :
  ∃ name own hasExtra' shown, .positional () (name :: own) ∈ events
    ∧ readCommand name own = (.command command hasExtra', shown)
  := by
  induction events generalizing verbose hasExtra with
  | nil =>
    rw [ofEvents] at h
    split at h
    · cases h
    · cases h
  | cons event events ih =>
    have hbehind {verbose hasExtra : Bool}
        (h : ofEvents verbose hasExtra events = .run verbose' command) :
        ∃ name own hasExtra' shown, .positional () (name :: own) ∈ event :: events
          ∧ readCommand name own = (.command command hasExtra', shown) := by
      obtain ⟨name, own, hasExtra', shown, hmem, hread⟩ := ih h
      use name, own, hasExtra', shown, List.mem_cons_of_mem event hmem
    cases event with
    | option key values =>
      cases key with
      | help => cases h
      | version => cases h
      | verbose => apply hbehind h
    | positional _ values =>
      cases values with
      | nil => cases h
      | cons name own =>
        rw [ofEvents] at h
        split at h
        · cases h
        · cases h
        · rename_i command' hasExtra' shown hread
          split at h
          · cases h
          · cases h
            use name, own, hasExtra', shown, List.mem_cons_self
    | extra => apply hbehind h
    | failure => cases h

/-- A text that is asked for ends with a line feed. -/
theorem endsLine_of_read {s : String} (h : read words = .text s) :
  EndsLine s
  := ofEvents_eq_text h

/-- A command that is asked for does not join a class and attribute pairs. -/
theorem isExclusive_of_read (h : read words = .run verbose command) :
  command.IsExclusive
  := by
  obtain ⟨name, own, hasExtra, shown, -, hread⟩ := ofEvents_eq_run h
  obtain ⟨file, rfl | rfl⟩ | ⟨-, hexclusive, -⟩ := readCommand_eq_command hread
  · exact trivial
  · exact trivial
  · exact hexclusive

/-- The attribute pairs of an element that is asked for are those that the words of the
command give, in their order. -/
theorem pairs_of_read {element : String} {className : Option String}
    {pairs : List (Option String)} {escapes : Bool} {content : List String}
    (h : read words = .run verbose (.tag element className pairs escapes content)) :
  ∃ own, .positional () ("tag" :: own) ∈ generalSyntax.events words
    ∧ pairs = givenPairs (tagSyntax.events own)
  := by
  obtain ⟨name, own, hasExtra, shown, hmem, hread⟩ := ofEvents_eq_run h
  obtain ⟨file, hfile | hfile⟩ | ⟨rfl, -, _, _, _, _, hcommand⟩ := readCommand_eq_command hread
  · cases hfile
  · cases hfile
  · cases hcommand
    exact ⟨own, hmem, rfl⟩

end Request

end HtmlTemplate.CommandLine
