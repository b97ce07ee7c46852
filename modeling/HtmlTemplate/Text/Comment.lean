/-!
# Comments

A comment runs from `<!--` to the first `-->` after it.  `strip` removes the comments
of a text from left to right; an opener that is never closed stays, together with all
that follows it.
-/

namespace HtmlTemplate.Comment

/-- Whether a text holds the end of a comment. -/
def closes : List Char → Bool
  | '-' :: '-' :: '>' :: _ => true
  | _ :: rest => closes rest
  | [] => false

/-- The characters outside comments, after those already `kept`, which stand in reverse
order.  The flag says whether the text starts inside a comment. -/
def outside (kept : List Char) : Bool → List Char → List Char
  | false, '<' :: '!' :: '-' :: '-' :: rest =>
    if closes rest then outside kept true rest
    else kept.reverseAux ('<' :: '!' :: '-' :: '-' :: rest)
  | false, c :: rest => outside (c :: kept) false rest
  | true, '-' :: '-' :: '>' :: rest => outside kept false rest
  | true, _ :: rest => outside kept true rest
  | _, [] => kept.reverse

/-- A text without its comments. -/
def strip (s : String) : String :=
  String.ofList (outside [] false s.toList)

end HtmlTemplate.Comment
