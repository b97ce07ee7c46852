import HtmlTemplate.CommandLine.Program

/-!
# The executable

Reads the standard input and files for `Program.run`, and writes what it reports.
-/

namespace HtmlTemplate.CommandLine

/-- Why a file could not be read. -/
private def fileFaultOf : IO.Error → FileFault
  | .noFileOrDirectory .. => .missing
  | .inappropriateType _ code reason =>
    if code = 20 then .notDirectory else if code = 21 then .isDirectory
    else .other code.toNat reason
  | error => .other 5 error.toString

/-- The contents of a file. -/
private def contentsOf (name : String) : IO (Except FileFault (List UInt8)) := do
  try
    return .ok (← IO.FS.readBinFile name).toList
  catch error => return .error (fileFaultOf error)

/-- The file that a request reads, if it reads one. -/
private def fileOf? : Request → Option String
  | .run _ (.escape file) | .run _ (.stripComments file) =>
    if Program.readsInput file then none else file.map Path.normalize
  | _ => none

/-- Whether a request reads the standard input. -/
private def readsInput : Request → Bool
  | .run _ (.escape file) | .run _ (.stripComments file) => Program.readsInput file
  | _ => false

end HtmlTemplate.CommandLine

open HtmlTemplate.CommandLine in
/-- Runs the program. -/
def main (words : List String) : IO UInt32 := do
  let request := Request.read words
  let input ← if readsInput request then (← IO.getStdin).readBinToEnd else pure .empty
  let contents ← match fileOf? request with
    | some name => contentsOf name
    | none => pure (.error .missing)
  let report := Program.answer ⟨"hyperstr._cli", input.toList, fun _ => contents⟩ request
  IO.print report.output
  (← IO.getStdout).flush
  IO.eprint report.log
  match report.ending with
  | .exit code => return code.toUInt32
  | .fault _ => return 1
