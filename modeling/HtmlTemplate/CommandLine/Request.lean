import HtmlTemplate.CommandLine.Help
import HtmlTemplate.CommandLine.Syntax

/-!
# Requests

A `Request` is what a command line asks for: a text about the program, or a `Command` to
be run.  `Request.read` takes the events of a command line one by one, so that a help text
asked for early is given even if the rest of the line cannot be read.
-/

namespace HtmlTemplate.CommandLine

/-- A command: to escape a file, to strip one of its comments, or to make an element with
a class or else attribute pairs.  A value that was dropped is missing. -/
inductive Command where
  | escape (file : Option String)
  | stripComments (file : Option String)
  | tag (name : String) (className : Option String) (pairs : List (Option String))
      (escapes : Bool) (words : List String)

/-- What a command line asks for. -/
inductive Request where
  | misuse
  | text (s : String)
  | run (verbose : Bool) (command : Command)

/-- The options before the command. -/
inductive GeneralOption where
  | help
  | version
  | verbose
deriving DecidableEq

/-- The options of a command that reads a file. -/
inductive ReadingOption where
  | help
deriving DecidableEq

/-- The options of the command that makes an element. -/
inductive TagOption where
  | help
  | className
  | pair
  | escape
deriving DecidableEq

/-- The positional arguments of the command that makes an element. -/
inductive TagArgument where
  | name
  | content
deriving DecidableEq

/-- The words before a command, and the command with its own words. -/
def generalSyntax : CommandSyntax GeneralOption Unit where
  options :=
    [("-h", .help), ("--help", .help), ("--version", .version), ("-v", .verbose),
      ("--verbose", .verbose)]
  takesValue _ := false
  positionals := [((), .command)]

/-- The words of a command that reads a file. -/
def readingSyntax : CommandSyntax ReadingOption Unit where
  options := [("-h", .help), ("--help", .help)]
  takesValue _ := false
  positionals := [((), .optional)]

/-- The words of the command that makes an element. -/
def tagSyntax : CommandSyntax TagOption TagArgument where
  options :=
    [("-h", .help), ("--help", .help), ("--class", .className), ("--attr", .pair),
      ("--escape", .escape)]
  takesValue key := key = .className || key = .pair
  positionals := [(.name, .one), (.content, .many)]

/-- What the words of a command ask for: a help text, a failure, or the command, with a
flag for words that fit nowhere. -/
inductive Reading where
  | misuse
  | help
  | command (command : Command) (hasExtra : Bool)

/-- A command that reads a file, from the events of its words. -/
def readFile (make : Option String → Command) (file : Option String) (hasExtra : Bool) :
    List (Event ReadingOption Unit) → Reading
  | [] => .command (make file) hasExtra
  | .option .help _ :: _ => .help
  | .positional () values :: events => readFile make values.head? hasExtra events
  | .extra :: events => readFile make file true events
  | .failure :: _ => .misuse

/-- What was read so far of the words that make an element.  Of a class only the last
counts; `hasClass` says whether there was one, which excludes attribute pairs. -/
structure TagReading where
  name : String
  hasClass : Bool
  className : Option String
  pairs : List (Option String)
  escapes : Bool
  words : List String
  hasExtra : Bool

/-- The command that makes an element, from the events of its words. -/
def readTag (r : TagReading) : List (Event TagOption TagArgument) → Reading
  | [] => .command (.tag r.name r.className r.pairs r.escapes r.words) r.hasExtra
  | .option .help _ :: _ => .help
  | .option .className values :: events =>
    if r.pairs.isEmpty then
      readTag { r with hasClass := true, className := values.head? } events
    else .misuse
  | .option .pair values :: events =>
    if r.hasClass then .misuse
    else readTag { r with pairs := r.pairs ++ [values.head?] } events
  | .option .escape _ :: events => readTag { r with escapes := true } events
  | .positional .name values :: events =>
    readTag { r with name := values.headD "" } events
  | .positional .content values :: events => readTag { r with words := values } events
  | .extra :: events => readTag { r with hasExtra := true } events
  | .failure :: _ => .misuse

/-- What a command with its words asks for, and its help text. -/
def readCommand (name : String) (words : List String) : Reading × String :=
  match name with
  | "escape" => (readFile .escape none false (readingSyntax.events words), Help.reading name)
  | "strip-comments" =>
    (readFile .stripComments none false (readingSyntax.events words), Help.reading name)
  | "tag" =>
    (readTag ⟨"", false, none, [], false, [], false⟩ (tagSyntax.events words), Help.tag)
  | _ => (.misuse, "")

/-- What a command line asks for, from its events.  Without a command the program is
described. -/
def Request.ofEvents (verbose hasExtra : Bool) :
    List (Event GeneralOption Unit) → Request
  | [] => if hasExtra then .misuse else .text Help.overview
  | .option .help _ :: _ => .text Help.overview
  | .option .version _ :: _ => .text Help.version
  | .option .verbose _ :: events => Request.ofEvents true hasExtra events
  | .positional () words :: _ =>
    match words with
    | [] => .misuse
    | name :: words =>
      match readCommand name words with
      | (.misuse, _) => .misuse
      | (.help, shown) => .text shown
      | (.command command extra, _) =>
        if extra || hasExtra then .misuse else .run verbose command
  | .extra :: events => Request.ofEvents verbose true events
  | .failure :: _ => .misuse

/-- What a command line asks for. -/
def Request.read (words : List String) : Request :=
  Request.ofEvents false false (generalSyntax.events words)

end HtmlTemplate.CommandLine
