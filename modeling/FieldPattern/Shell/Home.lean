import FieldPattern.Shell.Script

/-! # Home directories

A `~` at the start of a word, or at the start or after a colon of the value of an assignment,
stands for a home directory: that of the person whose name follows, or the value of the
variable `HOME` if no name follows (`Word.homes`).  It has to be written without quotation. -/

namespace FieldPattern.Shell.Word

/-- The parts of a text between its colons. -/
def colonParts (s : List Char) : List (List Char) :=
  s.foldr (fun c ps =>
    if c = ':' then [] :: ps
    else
      match ps with
      | p :: ps => (c :: p) :: ps
      | [] => [[c]]) [[]]

/-- A part of a word with a home directory in the place of the `~` at its start, if there is
one.  What stands between the `~` and the next slash, or the end if `ends` says that this is
one, names a person. -/
def homeOf (home : Option String) (ends : Bool) (part : List Char) : Word :=
  match part with
  | '~' :: rest =>
      let person := String.ofList (rest.takeWhile (· != '/'))
      let path := rest.drop person.length
      let place := if person.isEmpty then home else if person == "root" then some "/root" else none
      match place with
      | some place =>
          if ends || !path.isEmpty then
            (if place.isEmpty then [] else [.text place.toList true]) ++ [.text path false]
          else [.text part false]
      | none => [.text part false]
  | part => [.text part false]

/-- A word with home directories in the places of the `~` at its start and, if `colons` says so,
after colons. -/
def homes (home : Option String) (colons : Bool) : Bool → Word → Word
  | _, [] => []
  | start, .text s false :: rest =>
      let parts := if colons then colonParts s else [s]
      let last := parts.length - 1
      let one (part : List Char) (k : Nat) : Word :=
        if k = 0 ∧ !start then [.text part false]
        else homeOf home (k < last || rest.isEmpty) part
      let joined := parts.zipIdx.flatMap fun (part, k) =>
        if k = 0 then one part k else .text [':'] false :: one part k
      joined ++ homes home colons false rest
  | _, p :: rest => p :: homes home colons false rest

end FieldPattern.Shell.Word
