import FieldPattern.Shell.Bytes

/-! # Patterns of a shell

A pattern is a text in which some characters have a meaning of their own, unless they are
quoted: `*` matches any text, `?` any byte, and `[...]` any byte of a set.  A set lists bytes,
ranges `a-z` and classes `[:digit:]`; after a `!` it matches the bytes that are not listed.  A
`[` that starts no set matches itself.

`matches` tells whether a pattern matches a whole text. -/

namespace FieldPattern.Shell

/-- A character of a pattern, and whether it is quoted. -/
abbrev Mark := Char × Bool

namespace Pattern

/-- Whether `c` belongs to the class `name`. -/
def classHas (name : String) (c : Char) : Bool :=
  if name == "alpha" then c.isAlpha
  else if name == "digit" then c.isDigit
  else if name == "alnum" then c.isAlphanum
  else if name == "upper" then c.isUpper
  else if name == "lower" then c.isLower
  else if name == "space" then isSpace c
  else if name == "blank" then c == ' ' || c == '\t'
  else if name == "punct" then '!' ≤ c && c ≤ '~' && !c.isAlphanum
  else if name == "xdigit" then
    c.isDigit || ('a' ≤ c && c ≤ 'f') || ('A' ≤ c && c ≤ 'F')
  else if name == "cntrl" then c < ' ' || c == '\x7f'
  else if name == "print" then ' ' ≤ c && c ≤ '~'
  else if name == "graph" then '!' ≤ c && c ≤ '~'
  else false

/-- The names of the classes. -/
def classNames : List String :=
  ["alpha", "digit", "alnum", "upper", "lower", "space", "blank", "punct", "xdigit", "cntrl",
    "print", "graph"]

/-- The name of a class and what follows its `:]`, after a `[:`. -/
def class? (marks : List Mark) : Option (String × List Mark) :=
  let name := marks.takeWhile fun m => m.1.isAlpha
  match marks.drop name.length with
  | (':', _) :: (']', _) :: rest =>
      let name := String.ofList (name.map Prod.fst)
      if classNames.contains name then some (name, rest) else none
  | _ => none

/-- Whether the set that goes on here has `c`, and what follows the set; nothing if it has no
end.  `first` says that a `]` is a member here, `found` that `c` has been found already. -/
def set? (c : Char) : Nat → Bool → Bool → List Mark → Option (Bool × List Mark)
  | 0, _, _, _ => none
  | n + 1, first, found, marks =>
      match marks with
      | [] => none
      | (']', false) :: rest =>
          if first then member n found (']', false) rest else some (found, rest)
      | ('[', false) :: (':', false) :: rest =>
          match class? rest with
          | some (name, rest) => set? c n false (found || classHas name c) rest
          | none => member n found ('[', false) ((':', false) :: rest)
      | ('\\', false) :: m :: rest => member n found (m.1, true) rest
      | m :: rest => member n found m rest
where
  /-- Go on after a member, which may start a range. -/
  member (n : Nat) (found : Bool) (m : Mark) (rest : List Mark) : Option (Bool × List Mark) :=
    match rest with
    | ('-', false) :: (']', false) :: _ => set? c n false (found || m.1 == c) rest
    | ('-', false) :: ('\\', false) :: last :: rest =>
        set? c n false (found || (m.1 ≤ c && c ≤ last.1)) rest
    | ('-', false) :: last :: rest => set? c n false (found || (m.1 ≤ c && c ≤ last.1)) rest
    | rest => set? c n false (found || m.1 == c) rest

/-- Whether the set after a `[` has `c`, and what follows the set. -/
def bracket? (c : Char) (marks : List Mark) : Option (Bool × List Mark) :=
  match marks with
  | ('!', false) :: rest =>
      (set? c rest.length.succ true false rest).map fun (found, rest) => (!found, rest)
  | marks => set? c marks.length.succ true false marks

/-- Whether the pattern matches the text.  The first argument bounds the length of both
together. -/
def matchesWithin : Nat → List Mark → List Char → Bool
  | 0, _, _ => false
  | n + 1, marks, s =>
      match marks with
      | [] => s.isEmpty
      | ('*', false) :: rest =>
          matchesWithin n rest s ||
            match s with
            | [] => false
            | _ :: s => matchesWithin n marks s
      | ('?', false) :: rest =>
          match s with
          | [] => false
          | _ :: s => matchesWithin n rest s
      | ('[', false) :: rest =>
          match s with
          | [] => false
          | c :: s =>
              match bracket? c rest with
              | some (found, rest) => found && matchesWithin n rest s
              | none => c == '[' && matchesWithin n rest s
      | ('\\', false) :: (d, _) :: rest =>
          match s with
          | [] => false
          | c :: s => c == d && matchesWithin n rest s
      | (d, _) :: rest =>
          match s with
          | [] => false
          | c :: s => c == d && matchesWithin n rest s

/-- Whether the pattern matches the whole text. -/
def accepts (marks : List Mark) (s : List Char) : Bool :=
  matchesWithin (marks.length + s.length + 1) marks s

/-- Whether a character of the pattern has a meaning of its own. -/
def isActive (marks : List Mark) : Bool :=
  marks.any fun m => !m.2 && (m.1 == '*' || m.1 == '?' || m.1 == '[')

/-- The text without the shortest or longest start that the pattern matches, if it matches one. -/
def trimStart? (longest : Bool) (marks : List Mark) (s : List Char) : Option (List Char) :=
  let sizes := List.range (s.length + 1)
  let sizes := if longest then sizes.reverse else sizes
  (sizes.find? fun k => accepts marks (s.take k)).map s.drop

/-- The text without the shortest or longest end that the pattern matches, if it matches one. -/
def trimEnd? (longest : Bool) (marks : List Mark) (s : List Char) : Option (List Char) :=
  let sizes := List.range (s.length + 1)
  let sizes := if longest then sizes else sizes.reverse
  (sizes.find? fun k => accepts marks (s.drop k)).map s.take

/-- A list of texts without the start that the pattern matches. A match lies in the first text; the
longest start takes all the texts if the pattern matches the whole of the first one. -/
def trimStarts (longest : Bool) (marks : List Mark) : List (List Char) → List (List Char)
  | [] => []
  | s :: rest =>
      if longest && !rest.isEmpty && accepts marks s then [[]]
      else (trimStart? longest marks s).getD s :: rest

/-- A list of texts without its shortest end: the end begins in the last text that has an end which
the pattern matches, and takes all the texts after it. -/
def trimLast? (marks : List Mark) : List (List Char) → Option (List (List Char))
  | [] => none
  | s :: rest =>
      match trimLast? marks rest with
      | some kept => some (s :: kept)
      | none => (trimEnd? false marks s).map ([·])

/-- A list of texts without the end that the pattern matches. The longest end begins in the first
text or is not there, and takes all the texts after it. -/
def trimEnds (longest : Bool) (marks : List Mark) (texts : List (List Char)) :
    List (List Char) :=
  (if longest then texts.head?.bind fun s => (trimEnd? true marks s).map ([·])
    else trimLast? marks texts).getD texts

end Pattern

end FieldPattern.Shell
