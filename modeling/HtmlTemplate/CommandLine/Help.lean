/-!
# Help texts

The texts that describe the program and its commands, laid out for eighty columns.  Each
ends with a line feed.
-/

namespace HtmlTemplate.CommandLine.Help

private def lines (texts : List String) : String :=
  String.join (texts.map (· ++ "\n"))

/-- The program and its version. -/
def version : String := lines ["hyperstr 0.1.0"]

/-- How the program is used. -/
def usage : String :=
  lines ["usage: hyperstr [-h] [--version] [-v] \x7bescape,strip-comments,tag\x7d ..."]

/-- The description of the program. -/
def overview : String := usage ++ lines [
  "",
  "HTML string helpers",
  "",
  "positional arguments:",
  "  \x7bescape,strip-comments,tag\x7d",
  "                        Available commands",
  "    escape              Escape HTML special characters",
  "    strip-comments      Remove <!-- --> comments",
  "    tag                 Render a single HTML element",
  "",
  "options:",
  "  -h, --help            show this help message and exit",
  "  --version             show program's version number and exit",
  "  -v, --verbose         Enable debug logging"]

/-- The description of a command that reads a file. -/
def reading (command : String) : String := lines [
  "usage: hyperstr " ++ command ++ " [-h] [file]",
  "",
  "positional arguments:",
  "  file        Input file (default: stdin)",
  "",
  "options:",
  "  -h, --help  show this help message and exit"]

/-- The description of the command that makes an element. -/
def tag : String := lines [
  "usage: hyperstr tag [-h] [--class CLASS_NAME | --attr KEY=VALUE] [--escape]",
  "                    name [content ...]",
  "",
  "positional arguments:",
  "  name                Tag name, e.g. div",
  "  content             Content, joined with spaces",
  "",
  "options:",
  "  -h, --help          show this help message and exit",
  "  --class CLASS_NAME  Class attribute",
  "  --attr KEY=VALUE    Attribute (repeatable)",
  "  --escape            Escape the content"]

private theorem getLast?_lines {texts : List String} (h : texts ≠ []) :
  (lines texts).toList.getLast? = some '\n'
  := by
  rw [← List.dropLast_concat_getLast h, lines, List.map_append, String.join_append,
    String.toList_append, List.getLast?_append]
  simp

theorem getLast?_version :
  version.toList.getLast? = some '\n'
  := getLast?_lines (by simp)

theorem getLast?_overview :
  overview.toList.getLast? = some '\n'
  := by
  rw [overview, String.toList_append, List.getLast?_append, getLast?_lines (by simp)]
  rfl

theorem getLast?_reading (command : String) :
  (reading command).toList.getLast? = some '\n'
  := getLast?_lines (by simp)

theorem getLast?_tag :
  tag.toList.getLast? = some '\n'
  := getLast?_lines (by simp)

end HtmlTemplate.CommandLine.Help
