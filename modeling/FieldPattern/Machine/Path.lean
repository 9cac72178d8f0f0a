/-! # Paths

A path is written as names with slashes between them.  It starts at the root directory if it
starts with a slash, and otherwise at a directory that is known from elsewhere.  Several slashes
in a row count as one, and so does one at the end, except that it asks for a directory.

* `join` puts a path after the path of a directory, with a slash between them where one is
  needed; a path that starts at the root replaces the directory.
* `parent?` leaves out the last name; `.` at the end and after a slash does not count as one.
* `hasExtension` compares what follows the last point of a name; a point at the start of the
  name does not count. -/

namespace FieldPattern.Machine.Path

/-- The parts of a text between its slashes. -/
def parts (s : List Char) : List (List Char) :=
  s.foldr (fun c ps =>
    match c, ps with
    | '/', ps => [] :: ps
    | c, p :: ps => (c :: p) :: ps
    | c, [] => [[c]]) [[]]

/-- Whether the path starts at the root directory. -/
def isAbsolute (path : String) : Bool := path.toList.head? == some '/'

/-- Whether the path ends with a slash. -/
def endsWithSlash (path : String) : Bool := path.toList.getLast? == some '/'

/-- The names of a path from left to right. -/
def names (path : String) : List String :=
  ((parts path.toList).filter fun p => !p.isEmpty).map String.ofList

/-- The path `path`, seen from the directory `directory`. -/
def join (directory path : String) : String :=
  if isAbsolute path || directory.isEmpty then path
  else if endsWithSlash directory then directory ++ path
  else directory ++ "/" ++ path

/-- The parts of a path without the empty parts and the points at its end, last one first; the
part before the first slash stays. -/
def dropVoid : List (List Char) → List (List Char)
  | [] => []
  | [p] => [p]
  | p :: rest => if p = [] ∨ p = ['.'] then dropVoid rest else p :: rest

/-- The path without its last name. -/
def parent? (path : String) : Option String :=
  match dropVoid (parts path.toList).reverse with
  | [] => none
  | [p] => if p = [] then none else some ""
  | _ :: rest =>
      let kept := (dropVoid rest).reverse
      if kept = [[]] then some "/"
      else some (String.ofList (List.intercalate ['/'] kept))

/-- Whether `name` has a part after its last point that equals `extension`. -/
def hasExtension (name extension : String) : Bool :=
  let reversed := name.toList.reverse
  let ending := reversed.takeWhile (· != '.')
  match reversed.drop ending.length with
  | _ :: before => name != ".." && !before.isEmpty && ending.reverse == extension.toList
  | [] => false

end FieldPattern.Machine.Path
