import FieldPattern.Shell.Bytes

/-! # Scripts

A script is made of commands, and a command of words.  A word is a list of pieces: text,
quoted or not, and expansions.  An expansion is written after a `$` and stands for the value of
a parameter, the value of an arithmetic expression, or the output of a script.

* *Simple commands* have assignments, words and redirections.
* *Compound commands* are lists, chains with `&&` and `||`, pipelines, negations, loops,
  branches, choices by pattern, groups and definitions of functions.

A command keeps the number of the line on which it stands, for reports.  The text that a `<<`
redirection reads stands further down in a script; it is kept apart, by number. -/

namespace FieldPattern.Shell

/-- What a redirection does to its stream. -/
inductive Arrow where
  | input
  /-- Write to a file; it must not be there if the shell has the option `C`. -/
  | output
  /-- Write to a file, whether it is there or not. -/
  | replace
  | append
  | both
  /-- Make the stream the same as another one. -/
  | copy
  /-- Read the text of this number. -/
  | document (number : Nat)
deriving DecidableEq, Repr

mutual

/-- A piece of a word. -/
inductive Piece where
  | text (s : List Char) (quoted : Bool)
  | parameter (name : String) (use : Use) (quoted : Bool)
  | arithmetic (source : List Piece) (quoted : Bool)
  | output (script : Script) (quoted : Bool)

/-- What an expansion makes of a parameter.  `orEmpty` says that an empty value counts as
none. -/
inductive Use where
  | value
  | length
  /-- The word, if there is no value. -/
  | fallback (orEmpty : Bool) (word : List Piece)
  /-- The word, if there is no value; it becomes the value. -/
  | assign (orEmpty : Bool) (word : List Piece)
  /-- An error, if there is no value. -/
  | require (orEmpty : Bool) (word : List Piece)
  /-- The word, if there is a value. -/
  | alternative (orEmpty : Bool) (word : List Piece)
  /-- The value without what the pattern matches at its start or end. -/
  | trim (atEnd longest : Bool) (pattern : List Piece)
  /-- Not an expansion at all. -/
  | bad

/-- A redirection of a stream. -/
inductive Redirection where
  | mk (stream : Nat) (arrow : Arrow) (target : List Piece)

/-- A script. -/
inductive Script where
  | skip
  | simple (line : Nat) (assignments : List (String × List Piece)) (words : List (List Piece))
      (redirections : List Redirection)
  | pipeline (commands : List Script)
  | negate (script : Script)
  | both (first second : Script)
  | either (first second : Script)
  | sequence (first second : Script)
  | background (script : Script)
  | inner (line : Nat) (script : Script) (redirections : List Redirection)
  | redirected (line : Nat) (script : Script) (redirections : List Redirection)
  | branch (condition yes no : Script)
  /-- Repeat the body as long as the condition succeeds, or as long as it fails. -/
  | loop (whileFails : Bool) (condition body : Script)
  | each (line : Nat) (name : String) (words : List (List Piece)) (body : Script)
  | choice (line : Nat) (word : List Piece) (cases : List (List (List Piece) × Script))
  | define (name : String) (body : Script)

end

instance : Inhabited Piece := ⟨.text [] false⟩
instance : Inhabited Script := ⟨.skip⟩

/-- Whether there is nothing to be done. -/
def Script.isSkip : Script → Bool
  | .skip => true
  | _ => false

/-- The pieces of a word, one after the other. -/
abbrev Word := List Piece

namespace Piece

/-- A character before a word; it is joined to text of the same kind. -/
def cons (c : Char) (quoted : Bool) : Word → Word
  | .text s q :: rest =>
      if q = quoted then .text (c :: s) quoted :: rest else .text [c] quoted :: .text s q :: rest
  | rest => .text [c] quoted :: rest

end Piece

namespace Word

/-- The text of a word that is written without quotation and expansions. -/
def plain? : Word → Option String
  | [.text s false] => some (String.ofList s)
  | _ => none

/-- The characters of the text in a word. -/
def text (w : Word) : List Char :=
  w.flatMap fun p =>
    match p with
    | .text s _ => s
    | _ => []

/-- Whether a part of the word is quoted. -/
def isQuoted (w : Word) : Bool :=
  w.any fun p =>
    match p with
    | .text _ quoted => quoted
    | _ => false

/-- An assignment, if the word is one: the name and the word after the `=`. -/
def assignment? (w : Word) : Option (String × Word) :=
  match w with
  | .text s false :: rest =>
      let name := s.takeWhile isNameChar
      match s.drop name.length with
      | '=' :: value =>
          if name.head?.any isNameStart then
            some (String.ofList name, if value.isEmpty then rest else .text value false :: rest)
          else none
      | _ => none
  | _ => none

end Word

end FieldPattern.Shell
