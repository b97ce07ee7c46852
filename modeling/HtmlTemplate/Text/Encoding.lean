/-!
# Text encodings

`Encoding.utf8?` reads a text from its UTF-8 form, which has to be well formed.  A named
encoding cuts a row of bytes into `Piece`s, which are characters and bytes that stand for
none; a `Repair` says what becomes of the latter.  `Encoding.named?` finds an encoding by
one of its names, in which only letters, digits and full stops count.
-/

namespace HtmlTemplate

/-- A part of a row of bytes: a character, or bytes that stand for none. -/
inductive Piece where
  | char (c : Char)
  | bad (data : List UInt8)

/-- Whether a piece is a character. -/
def Piece.isChar : Piece → Bool
  | .char _ => true
  | .bad _ => false

/-- What becomes of bytes that stand for no character. -/
inductive Repair where
  | ignore
  | replace
  | escape

namespace Encoding

/-- The text with a given UTF-8 form. -/
def utf8? (data : List UInt8) : Option String := String.fromUTF8? ⟨data.toArray⟩

/-- The beginning of a character in UTF-8: its bits so far, how many bytes are to come, the
bounds of the next one, and the bytes read, the last one first. -/
structure Begun where
  bits : Nat
  left : Nat
  lower : Nat
  upper : Nat
  data : List UInt8

/-- What the first byte of a character begins.  The bounds of the second byte exclude
surrogates, numbers that are too great, and numbers that have a shorter form. -/
def begin? (b : UInt8) : Option Begun :=
  let n := b.toNat
  if n < 0xc2 then none
  else if n < 0xe0 then some ⟨n - 0xc0, 1, 0x80, 0xbf, [b]⟩
  else if n < 0xf0 then
    some ⟨n - 0xe0, 2, if n = 0xe0 then 0xa0 else 0x80, if n = 0xed then 0x9f else 0xbf, [b]⟩
  else if n < 0xf5 then
    some ⟨n - 0xf0, 3, if n = 0xf0 then 0x90 else 0x80, if n = 0xf4 then 0x8f else 0xbf, [b]⟩
  else none

/-- The pieces of bytes in UTF-8 behind the beginning of a character, if there is one.  The
longest beginning of a character that is not finished is one piece. -/
def utf8After : Option Begun → List UInt8 → List Piece
  | none, [] => []
  | some begun, [] => [.bad begun.data.reverse]
  | begun, b :: bytes =>
    let continued := begun.filter fun c => c.lower ≤ b.toNat && b.toNat ≤ c.upper
    match continued with
    | some c =>
      let bits := 0x40 * c.bits + (b.toNat - 0x80)
      if c.left = 1 then .char (Char.ofNat bits) :: utf8After none bytes
      else utf8After (some ⟨bits, c.left - 1, 0x80, 0xbf, b :: c.data⟩) bytes
    | none =>
      let broken := match begun with
        | some c => [Piece.bad c.data.reverse]
        | none => []
      if b.toNat < 0x80 then broken ++ .char (Char.ofNat b.toNat) :: utf8After none bytes
      else match begin? b with
        | some c => broken ++ utf8After (some c) bytes
        | none => broken ++ .bad [b] :: utf8After none bytes

/-- The pieces of bytes in UTF-8. -/
def utf8 (data : List UInt8) : List Piece := utf8After none data

/-- The pieces of bytes in UTF-8 behind its signature, if that is there. -/
def signedUtf8 (data : List UInt8) : List Piece :=
  match data with
  | 0xef :: 0xbb :: 0xbf :: rest => utf8 rest
  | data => utf8 data

/-- The pieces of bytes each of which is the number of a character below a limit. -/
def singleByte (limit : Nat) (data : List UInt8) : List Piece :=
  data.map fun b => if b.toNat < limit then .char (Char.ofNat b.toNat) else .bad [b]

/-- The number of two bytes, the greater part first or last. -/
private def pair (bigEndian : Bool) (a b : UInt8) : Nat :=
  if bigEndian then 0x100 * a.toNat + b.toNat else 0x100 * b.toNat + a.toNat

/-- The pieces of bytes in UTF-16. -/
def utf16 (bigEndian : Bool) : List UInt8 → List Piece
  | a :: b :: c :: d :: rest =>
    let high := pair bigEndian a b
    let low := pair bigEndian c d
    if high < 0xd800 || 0xe000 ≤ high then
      .char (Char.ofNat high) :: utf16 bigEndian (c :: d :: rest)
    else if high < 0xdc00 && 0xdc00 ≤ low && low < 0xe000 then
      .char (Char.ofNat (0x10000 + 0x400 * (high - 0xd800) + (low - 0xdc00)))
        :: utf16 bigEndian rest
    else .bad [a, b] :: utf16 bigEndian (c :: d :: rest)
  | a :: b :: rest =>
    let n := pair bigEndian a b
    let odd : List Piece := if rest.isEmpty then [] else [.bad rest]
    if n < 0xd800 || 0xe000 ≤ n then .char (Char.ofNat n) :: odd
    else if n < 0xdc00 then [.bad (a :: b :: rest)]
    else .bad [a, b] :: odd
  | [] => []
  | rest => [.bad rest]

/-- The pieces of bytes in UTF-32. -/
def utf32 (bigEndian : Bool) : List UInt8 → List Piece
  | a :: b :: c :: d :: rest =>
    let p := pair bigEndian a b
    let q := pair bigEndian c d
    let n := if bigEndian then 0x10000 * p + q else 0x10000 * q + p
    (if n.isValidChar then .char (Char.ofNat n) else .bad [a, b, c, d]) :: utf32 bigEndian rest
  | [] => []
  | rest => [.bad rest]

/-- The pieces of bytes in UTF-16 whose order is told by a mark at the start.  Without one
the greater part of each number comes last. -/
def markedUtf16 : List UInt8 → List Piece
  | 0xfe :: 0xff :: rest => utf16 true rest
  | 0xff :: 0xfe :: rest => utf16 false rest
  | data => utf16 false data

/-- The pieces of bytes in UTF-32 whose order is told by a mark at the start. -/
def markedUtf32 : List UInt8 → List Piece
  | 0 :: 0 :: 0xfe :: 0xff :: rest => utf32 true rest
  | 0xff :: 0xfe :: 0 :: 0 :: rest => utf32 false rest
  | data => utf32 false data

/-- The characters of the bytes from 80 to 9f of the western code page.  A byte without a
character has the number zero. -/
def westernCharacters : List Nat := [
  0x20ac, 0, 0x201a, 0x192, 0x201e, 0x2026, 0x2020, 0x2021,
  0x2c6, 0x2030, 0x160, 0x2039, 0x152, 0, 0x17d, 0,
  0, 0x2018, 0x2019, 0x201c, 0x201d, 0x2022, 0x2013, 0x2014,
  0x2dc, 0x2122, 0x161, 0x203a, 0x153, 0, 0x17e, 0x178]

/-- The pieces of bytes of the western code page. -/
def western (data : List UInt8) : List Piece :=
  data.map fun b =>
    let n := if b.toNat < 0x80 || 0xa0 ≤ b.toNat then b.toNat
      else westernCharacters.getD (b.toNat - 0x80) 0
    if n = 0 && b ≠ 0 then .bad [b] else .char (Char.ofNat n)

/-- The pieces of bytes of the ninth Latin alphabet, which differs from the first in eight
characters. -/
def latin9 (data : List UInt8) : List Piece :=
  data.map fun b =>
    let n := match b.toNat with
      | 0xa4 => 0x20ac
      | 0xa6 => 0x160
      | 0xa8 => 0x161
      | 0xb4 => 0x17d
      | 0xb8 => 0x17e
      | 0xbc => 0x152
      | 0xbd => 0x153
      | 0xbe => 0x178
      | n => n
    .char (Char.ofNat n)

/-- The words of a name, in lower case. -/
private def wordsOf (word : List Char) : List Char → List (List Char)
  | [] => if word.isEmpty then [] else [word.reverse]
  | c :: rest =>
    if c.isAlphanum || c = '.' then wordsOf (c.toLower :: word) rest
    else if word.isEmpty then wordsOf [] rest
    else word.reverse :: wordsOf [] rest

/-- The usual form of the name of an encoding. -/
def normalName (name : String) : String :=
  String.ofList (['_'].intercalate (wordsOf [] name.toList))

/-- The names of the encodings of characters by single bytes. -/
private def singleByte? (name : String) : Option (List UInt8 → List Piece) :=
  if ["ascii", "646", "ansi_x3.4_1968", "ansi_x3_4_1968", "ansi_x3.4_1986", "cp367", "csascii",
      "ibm367", "iso646_us", "iso_646.irv_1991", "iso_ir_6", "us", "us_ascii"].contains name then
    some (singleByte 0x80)
  else if ["latin_1", "8859", "cp819", "csisolatin1", "ibm819", "iso8859", "iso8859_1",
      "iso_8859_1", "iso_8859_1_1987", "iso_ir_100", "l1", "latin", "latin1"].contains name then
    some (singleByte 0x100)
  else if ["cp1252", "1252", "windows_1252"].contains name then some western
  else if ["iso8859_15", "iso_8859_15", "l9", "latin9"].contains name then some latin9
  else none

/-- The encoding with a name. -/
def named? (name : String) : Option (List UInt8 → List Piece) :=
  match normalName name with
  | "utf_8" | "u8" | "utf" | "utf8" | "utf8_ucs2" | "utf8_ucs4" | "cp65001" => some utf8
  | "utf_8_sig" => some signedUtf8
  | "utf_16" | "u16" | "utf16" => some markedUtf16
  | "utf_16_be" | "utf_16be" | "unicodebigunmarked" => some (utf16 true)
  | "utf_16_le" | "utf_16le" | "unicodelittleunmarked" => some (utf16 false)
  | "utf_32" | "u32" | "utf32" => some markedUtf32
  | "utf_32_be" | "utf_32be" => some (utf32 true)
  | "utf_32_le" | "utf_32le" => some (utf32 false)
  | name => singleByte? name

/-- The bytes that stand for no character, each by its hexadecimal number. -/
private def escaped (data : List UInt8) : List Char :=
  data.flatMap fun b =>
    ['\\', 'x', Nat.digitChar (b.toNat / 16), Nat.digitChar (b.toNat % 16)]

/-- The characters of pieces, where bad bytes are repaired. -/
def repaired (repair : Repair) (pieces : List Piece) : List Char :=
  pieces.flatMap fun piece =>
    match piece, repair with
    | .char c, _ => [c]
    | .bad _, .ignore => []
    | .bad _, .replace => ['\ufffd']
    | .bad data, .escape => escaped data

example : normalName " ISO--8859_1 " = "iso_8859_1" := by decide +kernel

end Encoding

end HtmlTemplate
