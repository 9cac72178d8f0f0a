/-! # What is wrong with a JSON text, and where

A reader of JSON works on the characters that are still unread.  When it stops it hands over a
`Fault`: the cause, the unread characters at that point, and how many bytes beyond that point
are to blame.

A reader of the report wants a line and a column.  `Fault.locate` finds them from the whole
text: the line counts newlines from `1`, and the column counts the bytes of the UTF-8 encoding
since the last newline.  A place never lies beyond the end of the text.

`Remaining s` and `Shorter s` are the unread characters of `s`: no longer than `s`, or shorter
than `s`.  They are the results of readers, and what makes their loops end. -/

namespace FieldPattern.Json

/-- A value that stands where one of another type is wanted. -/
inductive Found where
  | null
  | flag (value : Bool)
  | integer (value : Int)
  /-- A number with a fraction or an exponent, or one that no 64 bits hold; by its text. -/
  | fraction (digits : String)
  /-- A string, by its quoted text. -/
  | text (quoted : String)
  | list
  | map
deriving DecidableEq, Repr

namespace Found

/-- The value in words. -/
def message : Found → String
  | null => "null"
  | flag value => "boolean `" ++ (if value then "true" else "false") ++ "`"
  | integer value => "integer `" ++ toString value ++ "`"
  | fraction digits => "floating point `" ++ digits ++ "`"
  | text quoted => "string " ++ quoted
  | list => "sequence"
  | map => "map"

end Found

/-- The type that is wanted. -/
inductive Wanted where
  | record
  | list
  | map
  | text
deriving DecidableEq, Repr

namespace Wanted

/-- The type in words. -/
def message : Wanted → String
  | record => "struct FieldConfig"
  | list => "a sequence"
  | map => "a map"
  | text => "a string"

end Wanted

/-- Why a text cannot be read. -/
inductive Cause where
  | endInList
  | endInMap
  | endInText
  | endInValue
  | expectedColon
  | expectedCommaOrListEnd
  | expectedCommaOrMapEnd
  | expectedWord
  | expectedValue
  | invalidEscape
  | invalidNumber
  | numberOutOfRange
  | controlCharacter
  | keyNotText
  | loneSurrogate
  | trailingComma
  | trailingCharacters
  | unfinishedPair
  | wrongType (found : Found) (wanted : Wanted)
  | repeatedField (name : String)
deriving DecidableEq, Repr

/-- The three sorts of causes: the text ends too early, it is no JSON, or it is JSON of
another shape. -/
inductive Category where
  | ending
  | form
  | shape
deriving DecidableEq, Repr

namespace Cause

/-- The cause in words. -/
def message : Cause → String
  | endInList => "EOF while parsing a list"
  | endInMap => "EOF while parsing an object"
  | endInText => "EOF while parsing a string"
  | endInValue => "EOF while parsing a value"
  | expectedColon => "expected `:`"
  | expectedCommaOrListEnd => "expected `,` or `]`"
  | expectedCommaOrMapEnd => "expected `,` or `\x7d`"
  | expectedWord => "expected ident"
  | expectedValue => "expected value"
  | invalidEscape => "invalid escape"
  | invalidNumber => "invalid number"
  | numberOutOfRange => "number out of range"
  | controlCharacter =>
      "control character (\\u0000-\\u001F) found while parsing a string"
  | keyNotText => "key must be a string"
  | loneSurrogate => "lone leading surrogate in hex escape"
  | trailingComma => "trailing comma"
  | trailingCharacters => "trailing characters"
  | unfinishedPair => "unexpected end of hex escape"
  | wrongType found wanted =>
      "invalid type: " ++ found.message ++ ", expected " ++ wanted.message
  | repeatedField name => "duplicate field `" ++ name ++ "`"

/-- The sort of a cause. -/
def category : Cause → Category
  | endInList | endInMap | endInText | endInValue => .ending
  | wrongType .. | repeatedField _ => .shape
  | _ => .form

end Cause

/-- A cause with its place: `ahead` bytes after the start of the unread characters. -/
structure Fault where
  cause : Cause
  unread : List Char
  ahead : Nat
deriving DecidableEq, Repr

/-- A cause with its place in the text, for the reader of the report. -/
structure Error where
  cause : Cause
  line : Nat
  column : Nat
deriving DecidableEq, Repr

namespace Error

/-- The error in words. -/
def message (e : Error) : String :=
  e.cause.message ++ " at line " ++ toString e.line ++ " column " ++ toString e.column

end Error

/-- The number of bytes of the UTF-8 encoding. -/
def byteCount : List Char → Nat
  | [] => 0
  | c :: rest => c.utf8Size + byteCount rest

/-- The line and column `index` bytes into a text, counted on from `line` and `column`. -/
def placeOf (line column : Nat) : Nat → List Char → Nat × Nat
  | _, [] => (line, column)
  | index, c :: rest =>
      if index < c.utf8Size then (line, column + index)
      else if c = '\n' then placeOf (line + 1) 0 (index - c.utf8Size) rest
      else placeOf line (column + c.utf8Size) (index - c.utf8Size) rest

namespace Fault

/-- A fault at the next unread character itself. -/
def before (cause : Cause) (unread : List Char) : Fault := ⟨cause, unread, 0⟩

/-- A fault after the first byte of the next unread character. -/
def after (cause : Cause) (unread : List Char) : Fault := ⟨cause, unread, 1⟩

/-- The fault with its place in the whole text. -/
def locate (f : Fault) (text : List Char) : Error :=
  let (line, column) := placeOf 1 0 (byteCount text - byteCount f.unread + f.ahead) text
  ⟨f.cause, line, column⟩

end Fault

/-- Unread characters of `s`. -/
abbrev Remaining (s : List Char) := { r : List Char // r.length ≤ s.length }

/-- Unread characters of `s` after at least one was read. -/
abbrev Shorter (s : List Char) := { r : List Char // r.length < s.length }

/-- What is left after the first character. -/
def Shorter.tail (c : Char) (rest : List Char) : Shorter (c :: rest) :=
  ⟨rest, Nat.lt_succ_self rest.length⟩

/-- Unread characters of what is left after the first character. -/
def Shorter.after {rest : List Char} (c : Char) (r : Remaining rest) : Shorter (c :: rest) :=
  ⟨r.val, Nat.lt_succ_of_le r.property⟩

/-- Unread characters of unread characters. -/
def Shorter.again {s : List Char} (r : Shorter s) (r' : Shorter r.val) : Shorter s :=
  ⟨r'.val, Nat.lt_trans r'.property r.property⟩

/-- Forget that a character was read. -/
def Shorter.remaining {s : List Char} (r : Shorter s) : Remaining s :=
  ⟨r.val, Nat.le_of_lt r.property⟩

/-- The four characters that may stand between the parts of a JSON text. -/
def isBlank (c : Char) : Bool := c == ' ' || c == '\n' || c == '\t' || c == '\r'

theorem length_dropWhile_le (p : Char → Bool) (s : List Char) :
    (s.dropWhile p).length ≤ s.length :=
  (List.dropWhile_sublist p).length_le

/-- Skip blanks. -/
def skipBlank (s : List Char) : Remaining s := ⟨s.dropWhile isBlank, length_dropWhile_le _ s⟩

end FieldPattern.Json
