import HtmlTemplate.Proofs.CommandLine.Faults
import HtmlTemplate.Proofs.Text.Escaped

/-!
# Elements on the command line

The command that makes an element writes the text of the element with the name, the class
or the attribute pairs, and the content that its words give (`run_tag_eq`).  An empty class
makes a difference to an element, and is as good as none on the command line
(`emptyClass_dropped`).
-/

namespace HtmlTemplate.CommandLine

open Program Attribute

/-- The words that ask for escaped content, if it is asked for. -/
def escapeWords (escapes : Bool) : List String := if escapes then ["--escape"] else []

/-- The words that give the pairs of entries. -/
def pairWords (entries : List (String × String)) : List String :=
  entries.flatMap fun entry => ["--attr", pairOf entry]

variable {element className : String} {content words : List String}
  {entries : List (String × String)} {escapes : Bool}
  {events : List (Event TagOption TagArgument)}

/-! ### What the words say -/

/-- What the name and the content words say, behind what asks for escaped content. -/
def elementEvents (escapes : Bool) (element : String) (content : List String) :
    List (Event TagOption TagArgument) :=
  (if escapes then [.option .escape []] else [])
    ++ [.positional .name [element], .positional .content content]

theorem says_element (helement : IsArgument element) (hcontent : ∀ w ∈ content, IsArgument w)
    (escapes : Bool) :
  tagSyntax.Says (escapeWords escapes ++ element :: content)
    (elementEvents escapes element content)
  := by
  have hname := CommandSyntax.withoutSeparator_arguments
    (List.forall_mem_singleton.mpr helement)
  -- The name takes the first word, and the content takes all others, even if there are none.
  have htaken : CommandSyntax.take tagSyntax.positionals
      (CommandSyntax.arguments (element :: content) : List (Token TagOption))
      = [(.name, [element]), (.content, content)] := by
    rw [tagSyntax, CommandSyntax.take_one_arguments, CommandSyntax.take_many_arguments]
  have htold : tagSyntax.Says (element :: content) (elementEvents false element content) := by
    refine ⟨_, tagSyntax.tokens?_arguments (List.forall_mem_cons.mpr ⟨helement, hcontent⟩), ?_⟩
    rw [CommandSyntax.arguments, List.map_cons] at htaken ⊢
    rw [CommandSyntax.tokenEvents_of_take htaken (by simp)]
    simp only [CommandSyntax.positionalEvents, tagSyntax, List.zip_cons_cons, List.zip_nil_right,
      List.map_cons, List.map_nil, reduceCtorEq, if_false, hname,
      CommandSyntax.withoutSeparator_arguments hcontent]
    rfl
  cases escapes with
  | false => exact htold
  | true => exact htold.flag (by decide) rfl rfl

theorem says_pairs (hentries : ∀ e ∈ entries, ¬ BeginsWithDash (pairOf e))
    (h : tagSyntax.Says words events) :
  tagSyntax.Says (pairWords entries ++ words)
    ((entries.map fun e => .option .pair [pairOf e]) ++ events)
  := by
  induction entries with
  | nil => exact h
  | cons entry entries ih =>
    rw [List.forall_mem_cons] at hentries
    apply (ih hentries.2).value (by decide) rfl rfl
    apply isArgument_of_not_beginsWithDash hentries.1

/-! ### What is read -/

theorem readTag_elementEvents {r : TagReading} (hescapes : r.escapes = false) :
  readTag r (elementEvents escapes element content)
    = .command (.tag element r.className r.pairs escapes content) r.hasExtra
  := by
  cases escapes with
  | false =>
    show Reading.command (.tag element r.className r.pairs r.escapes content) r.hasExtra = _
    rw [hescapes]
  | true => rfl

theorem readTag_pairs {r : TagReading} (hclass : r.hasClass = false)
    (entries : List (String × String)) :
  readTag r ((entries.map fun e => .option .pair [pairOf e]) ++ events)
    = readTag { r with pairs := r.pairs ++ entries.map fun e => some (pairOf e) } events
  := by
  induction entries generalizing r with
  | nil => simp
  | cons entry entries ih =>
    rw [List.map_cons, List.cons_append, readTag, hclass]
    simp [ih]

/-! ### What is written -/

/-- The text of an element ends with a bracket, so that a line feed is put behind it. -/
theorem line_text (name attributes contentOf : Value) :
  line (Element.text name attributes contentOf)
    = Element.text name attributes contentOf ++ "\n"
  := by
  rw [line, if_neg]
  rw [Element.text, String.toList_append, List.getLast?_append]
  rintro ⟨⟩

/-- The content that words give, each of them escaped if that is asked for. -/
def joinedContent (escapes : Bool) (content : List String) : String :=
  " ".intercalate (if escapes then content.map Entity.escape else content)

theorem joinedContent_eq (escapes : Bool) (content : List String) :
  joinedContent escapes content
    = if escapes then Entity.escape (" ".intercalate content) else " ".intercalate content
  := by
  cases escapes with
  | false => rfl
  | true =>
    show " ".intercalate (content.map Entity.escape) = Entity.escape (" ".intercalate content)
    rw [Entity.escape_intercalate]
    rfl

/-- The report of a command that has written an element. -/
def written (element : String) (attributes : Value) (content : String) : Report :=
  ⟨.exit 0, Element.text (.plain element) attributes (.plain content) ++ "\n", ""⟩

/-- No pairs, which an empty class leaves, are written like no attributes. -/
theorem written_class (element className contentOf : String) :
  written element (if className = "" then toMapping [] else .plain className) contentOf
    = written element (if className = "" then .absent else .plain className) contentOf
  := by
  split
  · rfl
  · rfl

/-! ### Words that the general syntax can tell apart -/

theorem isSome_element (helement : IsArgument element) (hcontent : ∀ w ∈ content, IsArgument w)
    (escapes : Bool) :
  ∀ w ∈ escapeWords escapes ++ element :: content, (generalSyntax.kind? w).isSome
  := by
  intro w hw
  obtain hw | hw := List.mem_append.mp hw
  · cases escapes with
    | false => cases hw
    | true =>
      rw [List.mem_singleton.mp hw]
      rfl
  · apply generalSyntax.isSome_kind?
    apply List.forall_mem_cons.mpr ⟨helement, hcontent⟩ w hw

theorem isSome_class (hclass : IsArgument className)
    (hwords : ∀ w ∈ words, (generalSyntax.kind? w).isSome) :
  ∀ w ∈ "--class" :: className :: words, (generalSyntax.kind? w).isSome
  := by
  refine List.forall_mem_cons.mpr ⟨rfl, List.forall_mem_cons.mpr ⟨?_, hwords⟩⟩
  apply generalSyntax.isSome_kind? hclass

theorem isSome_pairs (hentries : ∀ e ∈ entries, ¬ BeginsWithDash (pairOf e))
    (hwords : ∀ w ∈ words, (generalSyntax.kind? w).isSome) :
  ∀ w ∈ pairWords entries ++ words, (generalSyntax.kind? w).isSome
  := by
  induction entries with
  | nil => exact hwords
  | cons entry entries ih =>
    rw [List.forall_mem_cons] at hentries
    have hentry := isArgument_of_not_beginsWithDash hentries.1
    refine List.forall_mem_cons.mpr ⟨rfl, List.forall_mem_cons.mpr ⟨?_, ih hentries.2⟩⟩
    apply generalSyntax.isSome_kind? hentry

/-! ### Runs -/

/-- A command that makes an element, as its words are read, writes it. -/
theorem run_tag_of_events (env : Environment) {pairs : List (Option String)} {given : Option String}
    {attributes : Value} (htold : tagSyntax.Says words events)
    (hwords : ∀ w ∈ words, (generalSyntax.kind? w).isSome)
    (hread : readTag .start events = .command (.tag element given pairs escapes content) false)
    (hattributes : attributesOf given pairs = .ok attributes) :
  run env ("tag" :: words) = written element attributes (joinedContent escapes content)
  := by
  rw [← htold.events_eq] at hread
  rw [run, Request.read_tag hwords hread,
    answer_of_ok (perform_tag_ok hattributes env element escapes content), line_text,
    ← joinedContent_eq]
  rfl

/-- The command that makes an element writes it with the class, with the mapping of the
pairs, or without attributes, as its words give them, and with its content words joined by
spaces, each of them escaped if that is asked for; only an empty class is none. -/
theorem run_tag_eq (env : Environment) (escapes : Bool) (helement : ¬ BeginsWithDash element)
    (hcontent : ∀ w ∈ content, ¬ BeginsWithDash w) (hclass : ¬ BeginsWithDash className)
    (hentries : ∀ e ∈ entries, IsEntry e ∧ ¬ BeginsWithDash (pairOf e)) :
  let words := escapeWords escapes ++ element :: content
  let joined := joinedContent escapes content
  run env ("tag" :: "--class" :: className :: words)
      = written element (if className = "" then .absent else .plain className) joined
    ∧ run env ("tag" :: pairWords entries ++ words)
      = written element (toMapping (insertAll [] entries)) joined
    ∧ run env ("tag" :: words) = written element .absent joined
  := by
  have helement' := isArgument_of_not_beginsWithDash helement
  have hcontent' : ∀ w ∈ content, IsArgument w := fun w hw =>
    isArgument_of_not_beginsWithDash (hcontent w hw)
  have htold := says_element helement' hcontent' escapes
  have hwords := isSome_element helement' hcontent' escapes
  intro words joined
  refine ⟨?_, ?_, ?_⟩
  · have hclass' := isArgument_of_not_beginsWithDash hclass
    rw [← written_class]
    apply run_tag_of_events env (htold.value (by decide) rfl rfl hclass')
      (isSome_class hclass' hwords) (readTag_elementEvents rfl)
    apply attributesOf_entries (List.forall_mem_nil _) (some className)
  · have hpairs : ∀ e ∈ entries, ¬ BeginsWithDash (pairOf e) := fun e he => (hentries e he).2
    apply run_tag_of_events env (says_pairs hpairs htold) (isSome_pairs hpairs hwords)
    · rw [readTag_pairs rfl, readTag_elementEvents rfl]
      rfl
    · apply attributesOf_entries (fun e he => (hentries e he).1) none
  · apply run_tag_of_events env htold hwords (readTag_elementEvents rfl) rfl

/-- A paragraph with an empty class, or with a name that is given twice. -/
theorem run_tag_eq_paragraph :
  let content := ["a", "", "<"]
  let entries := [("k", "1"), ("k", "a=b")]
  ¬ BeginsWithDash "p"
    ∧ (∀ w ∈ content, ¬ BeginsWithDash w)
    ∧ ¬ BeginsWithDash ""
    ∧ (∀ e ∈ entries, IsEntry e ∧ ¬ BeginsWithDash (pairOf e))
    ∧ run bare ("tag" :: "--class" :: "" :: "--escape" :: "p" :: content)
      = ⟨.exit 0, "<p>a  &lt;</p>\n", ""⟩
    ∧ run bare ("tag" :: "--attr" :: "k=1" :: "--attr" :: "k=a=b" :: "--escape" :: "p" :: content)
      = ⟨.exit 0, "<p k=\"a=b\">a  &lt;</p>\n", ""⟩
    ∧ run bare ("tag" :: "--escape" :: "p" :: content) = ⟨.exit 0, "<p>a  &lt;</p>\n", ""⟩
  := by
  intro content entries
  have hname : ¬ BeginsWithDash "p" := by
    decide
  have hcontent : ∀ w ∈ content, ¬ BeginsWithDash w := by
    decide
  have hclass : ¬ BeginsWithDash "" := by
    decide
  have hentries : ∀ e ∈ entries, IsEntry e ∧ ¬ BeginsWithDash (pairOf e) := by
    have hkey : ∀ e ∈ entries, e.1 ≠ "" ∧ '=' ∉ e.1.toList ∧ ¬ BeginsWithDash (pairOf e) := by
      decide
    exact fun e he => ⟨⟨(hkey e he).1, (hkey e he).2.1⟩, (hkey e he).2.2⟩
  use hname, hcontent, hclass, hentries
  exact run_tag_eq bare true hname hcontent hclass hentries

/-- An element with an empty class is not the one that the command with that class writes. -/
theorem emptyClass_dropped :
  Element.text (.plain "p") (.plain "") (.plain "x") = "<p class=\"\">x</p>"
    ∧ run bare ["tag", "--class", "", "p", "x"] = ⟨.exit 0, "<p>x</p>\n", ""⟩
  := by
  have hname : IsArgument "p" := isArgument_of_not_beginsWithDash (by decide)
  have hcontent : ∀ w ∈ ["x"], IsArgument w :=
    List.forall_mem_singleton.mpr (isArgument_of_not_beginsWithDash (by decide))
  have hclass : IsArgument "" := isArgument_of_not_beginsWithDash (by decide)
  have htold : tagSyntax.Says ["--class", "", "p", "x"]
      (.option .className [""] :: elementEvents false "p" ["x"]) :=
    (says_element hname hcontent false).value (by decide) rfl rfl hclass
  constructor
  · decide +kernel
  · apply run_tag_of_events bare htold (isSome_class hclass (isSome_element hname hcontent false))
      (readTag_elementEvents rfl) rfl

end HtmlTemplate.CommandLine
