import HtmlTemplate.CommandLine.Path
import HtmlTemplate.CommandLine.Request
import HtmlTemplate.Element
import HtmlTemplate.Attribute
import HtmlTemplate.Text.Encoding
import HtmlTemplate.Text.Newline

/-!
# The program

`Program.run` is what the program does, as a function: from the words of the command line,
the bytes of its standard input and the contents of files to a `Report` of how it ends and
what it writes.
-/

namespace HtmlTemplate.CommandLine

/-- How the program ends: with an exit code, or by a fault that it does not catch. -/
inductive Ending where
  | exit (code : Nat)
  | fault (kind : FaultKind)
deriving DecidableEq

/-- How the program ends and what it writes. -/
structure Report where
  ending : Ending
  output : String
  log : String

/-- Why a command gives no text. -/
inductive CommandFault where
  | file (name : String) (fault : FileFault)
  | library (fault : Fault)

/-- The surroundings of the program: the name under which it logs, its standard input, and
the files. -/
structure Environment where
  logger : String
  input : List UInt8
  files : String → Except FileFault (List UInt8)

namespace Program

/-- A line of the log. -/
def debug (env : Environment) (message : String) : String :=
  "DEBUG " ++ env.logger ++ ": " ++ message ++ "\n"

/-- Whether a command reads the standard input: no file is named, or a dash is. -/
def readsInput (file : Option String) : Bool := file = none || file = some "-"

/-- The source that a command reads, for the log. -/
def source (file : Option String) : String :=
  if readsInput file then "Reading stdin" else "Reading " ++ file.getD ""

/-- The text of some bytes, which are well-formed UTF-8, with line ends as line feeds.  Of a
named file this is what reading it as text means; that the standard input is read in the
same way is an assumption on the surroundings, some of which take another encoding for it,
or leave its carriage returns as they are. -/
def decode (data : List UInt8) : Except CommandFault String :=
  match Encoding.utf8? data with
  | some s => .ok (Newline.unify s)
  | none => .error (.library (.basic .undecodable))

/-- The text that a command reads, from the standard input under the assumption of `decode`. -/
def contents (env : Environment) (file : Option String) : Except CommandFault String :=
  match file with
  | some name =>
    if readsInput file then decode env.input
    else if name.contains '\x00' then .error (.library (.basic .value))
    else
      let path := Path.normalize name
      match env.files path with
      | .ok data => decode data
      | .error fault => .error (.file path fault)
  | none => decode env.input

/-- The attributes of a row of pairs.  A dropped value stands for a list without items,
which is no pair. -/
def attributesOfPairs (pairs : List (Option String)) : Except Fault Value :=
  .mapping .plain <$> Attribute.ofPairs (pairs.map fun pair => pair.elim (.list []) .plain)

/-- The class or the attributes of an element.  An empty class counts as none. -/
def attributesOf (className : Option String) (pairs : List (Option String)) :
    Except Fault Value :=
  match className with
  | some s => if s = "" then attributesOfPairs pairs else .ok (.plain s)
  | none => attributesOfPairs pairs

/-- The text that a command writes. -/
def perform (env : Environment) : Command → Except CommandFault String
  | .escape file => Entity.escape <$> contents env file
  | .stripComments file => Comment.strip <$> contents env file
  | .tag name className pairs escapes words => do
    let attributes ← (attributesOf className pairs).mapError .library
    let content := " ".intercalate words
    let content := if escapes then Entity.escape content else content
    return Element.text (.plain name) attributes (.plain content)

/-- The log of a command. -/
def log (env : Environment) : Command → String
  | .escape file => debug env "Running escape" ++ debug env (source file)
  | .stripComments file => debug env "Running strip-comments" ++ debug env (source file)
  | .tag .. => debug env "Running tag"

/-- The wording of a fault that the program reports, or else the kind of the fault. -/
def explain : CommandFault → Except FaultKind String
  | .file name fault =>
    .ok ("[Errno " ++ toString fault.code ++ "] " ++ fault.reason ++ ": " ++ Quoted.quote name)
  | .library (.basic kind) => .error kind
  | .library fault => .ok (fault.message?.getD "")

/-- A text with a line feed at its end. -/
def line (s : String) : String := if s.toList.getLast? = some '\n' then s else s ++ "\n"

/-- The report of a request.  Of a command line that cannot be read the log tells only how
the program is used: that the usage of the command concerned stands there instead, and the
line behind it that names the mistake, are left out. -/
def answer (env : Environment) : Request → Report
  | .misuse => ⟨.exit 2, "", Help.usage⟩
  | .text s => ⟨.exit 0, s, ""⟩
  | .run verbose command =>
    let log := if verbose then log env command else ""
    match perform env command with
    | .ok s => ⟨.exit 0, line s, log⟩
    | .error fault =>
      match explain fault with
      | .ok message => ⟨.exit 1, "", log ++ "Error: " ++ message ++ "\n"⟩
      | .error kind => ⟨.fault kind, "", log⟩

/-- What the program does for the words of a command line. -/
def run (env : Environment) (words : List String) : Report :=
  answer env (Request.read words)

end Program

end HtmlTemplate.CommandLine
