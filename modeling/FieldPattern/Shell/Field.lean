import FieldPattern.Machine.Disk
import FieldPattern.Shell.Pattern

/-! # Fields

What the expansions of a word give is cut into fields, which become the arguments of a command.

* A field ends at a separator, but only in text that an expansion outside of quotation marks
  has given (`split`).  Blanks among the separators count together with the blanks around them,
  and not at the start; any other separator ends a field even if that is empty.
* Then a field that is a pattern is replaced by the paths that it matches, if there are any
  (`paths`). -/

namespace FieldPattern.Shell

/-- A part of an expanded word. -/
inductive Item where
  /-- A character; `quoted` if it has no meaning of its own, `splits` if it may end a field. -/
  | char (c : Char) (quoted splits : Bool)
  /-- A quotation, which makes a field even of nothing. -/
  | mark
  /-- The border between two arguments. -/
  | gap
deriving DecidableEq, Repr

namespace Item

/-- A text as items. -/
def ofText (quoted splits : Bool) (s : List Char) : List Item :=
  s.map fun c => .char c quoted splits

/-- Texts with borders between them. -/
def ofTexts (quoted splits : Bool) : List String → List Item
  | [] => []
  | [s] => (if quoted then [.mark] else []) ++ ofText quoted splits s.toList
  | s :: rest =>
      (if quoted then [.mark] else []) ++ ofText quoted splits s.toList
        ++ .gap :: ofTexts quoted splits rest

/-- The items as one text, with a blank at each border. -/
def marks (items : List Item) : List Mark :=
  items.filterMap fun i =>
    match i with
    | .char c quoted _ => some (c, quoted)
    | .gap => some (' ', true)
    | .mark => none

/-- The characters of the items as one text. -/
def text (items : List Item) : String := String.ofList ((marks items).map Prod.fst)

end Item

/-- What stands before the next item: characters of a field, or separators. -/
inductive Before where
  /-- Inside a field, or before the first one: its characters, last one first, and whether it
  counts even if it has none. -/
  | field (marks : List Mark) (counts : Bool)
  /-- After blanks that have ended a field. -/
  | blanks
  /-- After another separator that has ended a field. -/
  | separator
deriving DecidableEq, Repr

namespace Before

/-- The field that ends here, if there is one. -/
def ended : Before → List (List Mark)
  | field marks counts => if counts || !marks.isEmpty then [marks.reverse] else []
  | blanks => []
  | separator => []

/-- The characters of the field that goes on here. -/
def marks : Before → List Mark
  | field marks _ => marks
  | blanks => []
  | separator => []

end Before

/-- Cut items into fields. -/
def splitFrom (separators : List Char) (b : Before) : List Item → List (List Mark)
  | [] => b.ended
  | .gap :: rest => b.ended ++ splitFrom separators (.field [] false) rest
  | .mark :: rest => splitFrom separators (.field b.marks true) rest
  | .char c quoted splits :: rest =>
      if splits && separators.contains c then
        if isBlank c then
          match b with
          | .field [] false => splitFrom separators b rest
          | .field .. => b.ended ++ splitFrom separators .blanks rest
          | b => splitFrom separators b rest
        else
          match b with
          | .field marks _ => marks.reverse :: splitFrom separators .separator rest
          | .blanks => splitFrom separators .separator rest
          | .separator => [] :: splitFrom separators .separator rest
      else
        let counts := match b with
          | .field _ counts => counts
          | _ => false
        splitFrom separators (.field ((c, quoted) :: b.marks) counts) rest

/-- Cut items into fields. -/
def split (separators : List Char) (items : List Item) : List (List Mark) :=
  splitFrom separators (.field [] false) items

/-! ### Paths -/

/-- The parts of a pattern between its slashes. -/
def partsOf (marks : List Mark) : List (List Mark) :=
  marks.foldr (fun m ps =>
    if m.1 = '/' then [] :: ps
    else
      match ps with
      | p :: ps => (m :: p) :: ps
      | [] => [[m]]) [[]]

/-- The names in a directory that a part of a pattern matches.  A point at the start has to be
written. -/
def namesMatching (host : Machine.Host) (directory : String) (part : List Mark) : List String :=
  let path := if directory.isEmpty then "." else decode directory
  let names := "." :: ".." :: (host.list path).map fun p => encode p.1
  names.filter fun name =>
    (name.toList.head? != some '.' || part.head?.any fun m => m.1 == '.')
      && Pattern.accepts part name.toList

/-- The paths below `directory` that the parts match. -/
def pathsFrom (host : Machine.Host) (directory : String) : List (List Mark) → List String
  | [] => []
  | [part] =>
      if Pattern.isActive part then (namesMatching host directory part).map (directory ++ ·)
      else
        let path := directory ++ String.ofList (part.map Prod.fst)
        if host.pathExists (decode path) then [path] else []
  | part :: rest =>
      let names := if Pattern.isActive part then namesMatching host directory part
        else [String.ofList (part.map Prod.fst)]
      names.flatMap fun name => pathsFrom host (directory ++ name ++ "/") rest

/-- Whether a text comes before another one, byte by byte. -/
def bytesBefore (a b : String) : Bool := a < b

/-- The paths that a field stands for: those that it matches, or the field itself. -/
def paths (host : Machine.Host) (marks : List Mark) : List String :=
  let found := if Pattern.isActive marks then pathsFrom host "" (partsOf marks) else []
  if found.isEmpty then [String.ofList (marks.map Prod.fst)]
  else found.mergeSort fun a b => !bytesBefore b a

end FieldPattern.Shell
