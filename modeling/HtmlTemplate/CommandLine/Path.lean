/-!
# File names

`Path.normalize` is the usual form of a file name: without empty components and those that
are a single dot.  A `FileFault` says why a file cannot be read.
-/

namespace HtmlTemplate.CommandLine

/-- Why a file cannot be read. -/
inductive FileFault where
  | missing
  | notDirectory
  | isDirectory
  | nameTooLong
  | other (code : Nat) (reason : String)
deriving DecidableEq

namespace FileFault

/-- The number of a file fault. -/
def code : FileFault → Nat
  | .missing => 2
  | .notDirectory => 20
  | .isDirectory => 21
  | .nameTooLong => 36
  | .other code _ => code

/-- The reason of a file fault in words. -/
def reason : FileFault → String
  | .missing => "No such file or directory"
  | .notDirectory => "Not a directory"
  | .isDirectory => "Is a directory"
  | .nameTooLong => "File name too long"
  | .other _ reason => reason

end FileFault

namespace Path

/-- The components of a file name, without those that go nowhere. -/
def components (name : String) : List String :=
  ((name.toList.splitOn '/').map String.ofList).filter fun c => c ≠ "" && c ≠ "."

/-- The root that a file name starts from.  Two slashes are kept, more count as one. -/
def root (name : String) : String :=
  match name.toList with
  | '/' :: '/' :: '/' :: _ => "/"
  | '/' :: '/' :: _ => "//"
  | '/' :: _ => "/"
  | _ => ""

/-- The usual form of a file name.  The name that goes nowhere is a dot. -/
def normalize (name : String) : String :=
  let path := root name ++ "/".intercalate (components name)
  if path = "" then "." else path

end Path

end HtmlTemplate.CommandLine
