/-! # Styled text

What the program shows is made of spans.  A span has a text, a style, and a width: if the text
is shorter than that, it is followed by blanks.

A terminal is told about styles by control sequences.  One stands before the text, and another
one, which ends all styles, after it.  Where the text itself ends all styles, the style of the
span can be started again.  If colours are not wanted, no control sequences are written
(`Rendering`). -/

namespace FieldPattern.Text

/-- The colours in use. -/
inductive Colour where
  | red
  | green
  | yellow
  | blue
  | magenta
  | cyan
deriving DecidableEq, Repr

namespace Colour

/-- The number of a colour in control sequences. -/
def code : Colour → Nat
  | red => 31
  | green => 32
  | yellow => 33
  | blue => 34
  | magenta => 35
  | cyan => 36

end Colour

/-- How a span is to look: the numbers in each of the control sequences that start the style. -/
structure Style where
  sequences : List (List Nat)
deriving DecidableEq, Repr

namespace Style

/-- No change. -/
def plain : Style := ⟨[]⟩

/-- Bold letters. -/
def bold : Style := ⟨[[1]]⟩

/-- Faint letters. -/
def dim : Style := ⟨[[2]]⟩

/-- Letters in a colour. -/
def tinted (colour : Colour) : Style := ⟨[[colour.code]]⟩

/-- Bold letters in a colour. -/
def boldTinted (colour : Colour) : Style := ⟨[[1, colour.code]]⟩

/-- Bold letters in a colour, by two control sequences. -/
def boldThenTinted (colour : Colour) : Style := ⟨[[1], [colour.code]]⟩

/-- A control sequence. -/
def sequence (numbers : List Nat) : List Char :=
  ['\x1b', '['] ++ List.intercalate [';'] (numbers.map (Nat.toDigits 10)) ++ ['m']

/-- The control sequences that start a style. -/
def start (s : Style) : List Char := (s.sequences.map sequence).flatten

/-- The control sequence that ends all styles. -/
def stop : List Char := ['\x1b', '[', '0', 'm']

end Style

/-- How styles are written. -/
inductive Rendering where
  /-- Not at all. -/
  | bare
  /-- Around the text of a span. -/
  | around
  /-- Around the text of a span, and again where the text itself ends all styles. -/
  | restarted
deriving DecidableEq, Repr

/-- A text, how it is to look, and how wide it is at least. -/
structure Span where
  text : String
  style : Style
  width : Nat
deriving DecidableEq, Repr

namespace Span

/-- A plain span. -/
def plain (text : String) : Span := ⟨text, .plain, 0⟩

/-- A span in a style. -/
def styled (style : Style) (text : String) : Span := ⟨text, style, 0⟩

/-- A span in a colour. -/
def tinted (colour : Colour) (text : String) : Span := ⟨text, .tinted colour, 0⟩

/-- A plain span with a width. -/
def padded (width : Nat) (text : String) : Span := ⟨text, .plain, width⟩

instance : Coe String Span := ⟨plain⟩

/-- A text with blanks after it up to a width. -/
def fill (width : Nat) (s : List Char) : List Char := s ++ List.replicate (width - s.length) ' '

/-- A text in which `start` follows each end of all styles. -/
def restart (start : List Char) : List Char → List Char
  | [] => []
  | '\x1b' :: '[' :: '0' :: 'm' :: rest =>
      '\x1b' :: '[' :: '0' :: 'm' :: (start ++ restart start rest)
  | c :: rest => c :: restart start rest

/-- The characters of a span. -/
def render (way : Rendering) (s : Span) : List Char :=
  let start := s.style.start
  if way = .bare ∨ start.isEmpty then fill s.width s.text.toList
  else
    let text := if way = .restarted then restart start s.text.toList else s.text.toList
    start ++ fill s.width text ++ Style.stop

/-- The text of spans. -/
def renderAll (way : Rendering) (spans : List Span) : String :=
  String.ofList (spans.flatMap (render way))

end Span

/-- A numeral with blanks before it up to a width. -/
def alignRight (width : Nat) (text : String) : String :=
  String.ofList (List.replicate (width - text.length) ' ' ++ text.toList)

end FieldPattern.Text
