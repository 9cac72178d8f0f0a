import FieldPattern.Text.Utf8

/-! # Texts of bytes

A shell knows no characters beyond bytes: it measures, cuts and compares bytes.  In this
folder a text is therefore a string whose characters stand for bytes, those from `U+0000` to
`U+00FF`.

* `encode` gives the bytes of a text in this form, and `decode` reads them again.
* `toBytes` goes from this form to bytes. -/

namespace FieldPattern.Shell

/-- The byte that a character stands for. -/
def byteOf (c : Char) : UInt8 := UInt8.ofNat c.toNat

/-- The character that stands for a byte. -/
def charOf (b : UInt8) : Char := Char.ofNat b.toNat

/-- The bytes of a text, each as a character. -/
def encode (s : String) : String := String.ofList (s.toUTF8.toList.map charOf)

/-- The bytes that the characters stand for. -/
def toBytes (s : List Char) : ByteArray := ⟨(s.map byteOf).toArray⟩

/-- The text that the bytes encode, with `U+FFFD` where they encode none. -/
def decode (s : String) : String := Text.lossy (toBytes s.toList)

/-- The three blanks at which a shell cuts words. -/
def isBlank (c : Char) : Bool := c == ' ' || c == '\t' || c == '\n'

/-- Whether `c` is one of the blanks that may stand around a number. -/
def isSpace (c : Char) : Bool := c == ' ' || ('\t' ≤ c && c ≤ '\r')

/-- Whether `c` may stand in a name. -/
def isNameChar (c : Char) : Bool := c.isAlphanum || c == '_'

/-- Whether `c` may start a name. -/
def isNameStart (c : Char) : Bool := c.isAlpha || c == '_'

/-- Whether the text is a name: letters, digits and underscores, no digit first. -/
def isName (s : String) : Bool :=
  match s.toList with
  | [] => false
  | c :: rest => isNameStart c && rest.all isNameChar

/-- The lines of a text without their newlines; a newline at the end starts no line. -/
def linesOf (s : List Char) : List (List Char) :=
  let parts := s.foldr (fun c ls =>
    match c, ls with
    | '\n', ls => [] :: ls
    | c, l :: ls => (c :: l) :: ls
    | c, [] => [[c]]) [[]]
  if parts.getLast? = some [] then parts.dropLast else parts

end FieldPattern.Shell
