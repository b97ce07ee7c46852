/-!
# Line ends

`Newline.unify` reads a carriage return, alone or before a line feed, as a line feed.
-/

namespace HtmlTemplate.Newline

/-- The characters of a text with every line end written as a line feed, after those
already `read`, which stand in reverse order. -/
def unifyAfter (read : List Char) : List Char → List Char
  | '\r' :: '\n' :: rest => unifyAfter ('\n' :: read) rest
  | '\r' :: rest => unifyAfter ('\n' :: read) rest
  | c :: rest => unifyAfter (c :: read) rest
  | [] => read.reverse

/-- A text with every line end written as a line feed. -/
def unify (s : String) : String :=
  String.ofList (unifyAfter [] s.toList)

end HtmlTemplate.Newline
