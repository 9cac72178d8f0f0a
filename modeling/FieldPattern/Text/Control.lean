/-! # Control sequences

A text for a terminal may hold control sequences.  Each starts with an escape character, and
the next character says how it goes on:

* `[`: a *command*, which ends with the next character from `@` to `~`;
* `]`: a *title*, which ends with a bell;
* `P`: a *device string*, with a header before its body;
* `X`, `^` or `_`: a *string*, which is a body only;
* any other sequence ends with its first character from `0` to `~`.

A body ends with a character whose encoding has the byte 0x9C.  The controls 0x18 and 0x1A
break off any sequence, and an escape character starts the next one.

`visible` gives what is left of a text when the sequences and all controls other than blanks
are taken out.  A blank control (tab, newline, form feed or carriage return) is left also
inside a sequence that is no title and no string, and it is followed there by a stretch of
plain text, which lasts up to the next control that is not blank.  A character that is not
ASCII ends the sequence for good; after a stretch without one the sequence goes on as if the
stretch were not there. -/

namespace FieldPattern.Text

/-- The part of a control sequence that a character stands in. -/
inductive Mode where
  /-- Outside of sequences. -/
  | plain
  /-- After the escape character. -/
  | started
  /-- In a sequence that ends with its first character from `0` to `~`. -/
  | short
  | command
  | title
  /-- At the start of a device string. -/
  | header
  /-- Among the numbers of a device string. -/
  | headerNumbers
  /-- Among the signs after them. -/
  | headerSigns
  | body
deriving DecidableEq, Repr

namespace Mode

/-- Whether `c` is a control that counts as a blank. -/
def isBlankControl (c : Char) : Bool := c == '\t' || c == '\n' || c == '\x0c' || c == '\r'

/-- Whether blank controls are left in this mode. -/
def showsBlanks : Mode → Bool
  | plain | started | short | command => true
  | title | header | headerNumbers | headerSigns | body => false

/-- Whether `c` ends a body. -/
def endsBody (c : Char) : Bool := (String.utf8EncodeChar c).contains 0x9C

/-- The mode after `c`, which is a printable ASCII character. -/
def afterPrinted (m : Mode) (c : Char) : Mode :=
  match m with
  | plain => plain
  | started =>
      if c = '[' then command
      else if c = ']' then title
      else if c = 'P' then header
      else if c = 'X' ∨ c = '^' ∨ c = '_' then body
      else if '0' ≤ c then plain
      else short
  | short => if '0' ≤ c then plain else short
  | command => if '@' ≤ c then plain else command
  | title => title
  | header => if '@' ≤ c then body else if '0' ≤ c then headerNumbers else headerSigns
  | headerNumbers =>
      if '<' ≤ c then body else if '0' ≤ c then headerNumbers else headerSigns
  | headerSigns => if '0' ≤ c then body else headerSigns
  | body => body

end Mode

/-- Where a character stands: in which part of which sequence, and whether in a stretch of
plain text inside of it. -/
structure Place where
  mode : Mode
  inStretch : Bool
deriving DecidableEq, Repr

namespace Place

/-- Outside of sequences. -/
def outside : Place := ⟨.plain, false⟩

/-- Whether plain text is left here. -/
def shows (p : Place) : Bool := p.inStretch || p.mode == .plain

/-- The place after a control, and whether the control is left. -/
def afterControl (p : Place) (c : Char) : Place × Bool :=
  if c = '\x1b' then (⟨.started, false⟩, false)
  else if c = '\x18' ∨ c = '\x1a' then (outside, false)
  else if Mode.isBlankControl c && p.mode.showsBlanks then (⟨p.mode, true⟩, true)
  else if c = '\x07' ∧ p.mode = .title then (outside, false)
  else (⟨p.mode, false⟩, false)

/-- The place after a character that is not ASCII, and whether the character is left. -/
def afterWide (p : Place) (c : Char) : Place × Bool :=
  if p.shows then (outside, true)
  else if p.mode = .body ∧ Mode.endsBody c then (outside, false)
  else (p, false)

/-- The place after a character, and whether the character is left. -/
def step (p : Place) (c : Char) : Place × Bool :=
  if c < ' ' ∨ c = '\x7f' then p.afterControl c
  else if '\x7f' < c then p.afterWide c
  else if p.shows then (p, true)
  else (⟨p.mode.afterPrinted c, false⟩, false)

end Place

/-- The characters that are left, from this place on. -/
def visibleFrom (p : Place) : List Char → List Char
  | [] => []
  | c :: rest =>
      let (p', kept) := p.step c
      if kept then c :: visibleFrom p' rest else visibleFrom p' rest

/-- A text without control sequences and controls. -/
def visible (s : List Char) : List Char := visibleFrom .outside s

end FieldPattern.Text
