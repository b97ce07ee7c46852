import HtmlTemplate.Text.Printable

/-!
# Quoted text

A text is quoted by single quotes, or by double quotes when it holds a single quote and
no double one.  The quoting character and the backslash are written after a backslash;
line feed, carriage return and tab by their letters; every other character that is not
shown as itself by the hexadecimal number of its code point, with two, four or eight
digits.  `quote` shows the printable characters, `toAscii` writes those outside ASCII by
their numbers, and `quoteBytes` is the notation of a sequence of bytes.
-/

namespace HtmlTemplate.Quoted

/-- The lower-case hexadecimal digits of a number, at least `width` of them. -/
def hex (width n : Nat) : List Char :=
  let digits := Nat.toDigits 16 n
  List.replicate (width - digits.length) '0' ++ digits

/-- The quoting character of a text. -/
def delimiter (s : List Char) : Char :=
  if s.contains '\'' && !s.contains '"' then '"' else '\''

/-- A character inside quotes, where `shown` says which characters stand as they are. -/
def escapeChar (delimiter : Char) (shown : Char → Bool) (c : Char) : List Char :=
  if c = delimiter || c = '\\' then ['\\', c]
  else if c = '\n' then ['\\', 'n']
  else if c = '\r' then ['\\', 'r']
  else if c = '\t' then ['\\', 't']
  else if shown c then [c]
  else if c.toNat < 0x100 then '\\' :: 'x' :: hex 2 c.toNat
  else if c.toNat < 0x10000 then '\\' :: 'u' :: hex 4 c.toNat
  else '\\' :: 'U' :: hex 8 c.toNat

/-- A text in quotes, with its printable characters shown. -/
def quote (s : String) : String :=
  let d := delimiter s.toList
  String.ofList (d :: (s.toList.flatMap (escapeChar d Printable.isPrintable) ++ [d]))

private def isVisibleAscii (c : Char) : Bool := ' ' ≤ c && c ≤ '~'

/-- A text with every character outside ASCII written by its number. -/
def toAscii (s : String) : String :=
  String.ofList (s.toList.flatMap fun c =>
    if c.toNat < 0x80 then [c] else escapeChar '\x00' (fun _ => false) c)

/-- A sequence of bytes in quotes, with those that are visible ASCII shown. -/
def quoteBytes (bytes : List UInt8) : String :=
  let s := bytes.map fun b => Char.ofNat b.toNat
  let d := delimiter s
  String.ofList ('b' :: d :: (s.flatMap (escapeChar d isVisibleAscii) ++ [d]))

example : quote "it's \"é\"" = "'it\\'s \"é\"'" := by decide +kernel

end HtmlTemplate.Quoted
