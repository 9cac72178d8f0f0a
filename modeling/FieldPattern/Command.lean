import FieldPattern.TokenList

/-! # Edit commands

A script edits a token list by commands, each written on its own:

* `append:C` adds the component `C`, which is not empty;
* `remove:I` takes out the token with number `I`;
* `move:I:J` moves the token with number `I` to the place with number `J`;
* `set:I=V` gives the token with number `I` the text `V`, which may be empty.

The name ends at the first `:`, the first index of `move` at the next `:`, and that of `set` at
the first `=`; all that follows a separator belongs to the argument.  An index is a numeral
with blanks around it allowed (`Text.Numeral.read`).

`read` and `render` go between commands and texts, and `apply` runs a command on a list.  A
command that is refused leaves no new list, so the old one stays. -/

namespace FieldPattern

open Text (trimmed)

/-- An edit command. -/
inductive Command where
  | append (component : String)
  | remove (index : Nat)
  | move (source target : Nat)
  | set (index : Nat) (value : String)
deriving DecidableEq, Repr

/-- What a command did to the list. -/
inductive Outcome where
  | appended (report : Added)
  | removed (index : Nat) (value : String)
  | moved (source target : Nat)
  | edited (index : Nat) (verdict : Verdict)
deriving DecidableEq, Repr

namespace Command

/-- The four names of commands. -/
inductive Name where
  | append
  | remove
  | move
  | set
deriving DecidableEq, Repr

namespace Name

/-- The name as it is written. -/
def text : Name → String
  | append => "append"
  | remove => "remove"
  | move => "move"
  | set => "set"

/-- The command with exactly this name. -/
def ofText? (s : String) : Option Name := [append, remove, move, set].find? fun n => n.text == s

end Name

/-- What is wrong with the argument of a command. -/
inductive Defect where
  | missingComponent
  | notAnIndex (text : String)
  | missingTarget
  | missingValue
deriving DecidableEq, Repr

namespace Defect

/-- The defect in words. -/
def message : Defect → String
  | missingComponent => "missing component"
  | notAnIndex text => "'" ++ text ++ "' is not a token index"
  | missingTarget => "expected move:<from>:<to>"
  | missingValue => "expected set:<index>=<value>"

end Defect

/-- Why a text is no command. -/
inductive ReadError where
  /-- No name of a command stands before a `:`. -/
  | unknown (text : String)
  | malformed (name : Name) (defect : Defect)
deriving DecidableEq, Repr

namespace ReadError

/-- The error in words. -/
def message : ReadError → String
  | unknown text =>
      "unknown edit command '" ++ text ++ "' (expected append:, remove:, move: or set:)"
  | malformed name defect => "malformed '" ++ name.text ++ "' command: " ++ defect.message

end ReadError

/-- What stands before and after the first `separator`. -/
def splitAt? (separator : Char) : List Char → Option (List Char × List Char)
  | [] => none
  | c :: rest =>
      if c = separator then some ([], rest)
      else (splitAt? separator rest).map fun (before, after) => (c :: before, after)

/-- Read an index of the command `name`. -/
def readIndex (name : Name) (text : List Char) : Except ReadError Nat :=
  match Text.Numeral.read (trimmed text) with
  | .ok n => .ok n
  | .error _ => .error (.malformed name (.notAnIndex (String.ofList text)))

/-- Read the argument of the command `name`. -/
def readArgument (name : Name) (argument : List Char) : Except ReadError Command :=
  match name with
  | .append =>
      if argument.isEmpty then .error (.malformed .append .missingComponent)
      else .ok (.append (String.ofList argument))
  | .remove => do return .remove (← readIndex .remove argument)
  | .move =>
      match splitAt? ':' argument with
      | none => .error (.malformed .move .missingTarget)
      | some (source, target) => do
          return .move (← readIndex .move source) (← readIndex .move target)
  | .set =>
      match splitAt? '=' argument with
      | none => .error (.malformed .set .missingValue)
      | some (index, value) => do return .set (← readIndex .set index) (String.ofList value)

/-- Read a command. -/
def read (text : String) : Except ReadError Command :=
  match splitAt? ':' text.toList with
  | none => .error (.unknown text)
  | some (name, argument) =>
      match Name.ofText? (String.ofList name) with
      | none => .error (.unknown text)
      | some name => readArgument name argument

/-- The name of a command. -/
def name : Command → Name
  | append _ => .append
  | remove _ => .remove
  | move _ _ => .move
  | set _ _ => .set

/-- The numbers of tokens that a command names, in order. -/
def indices : Command → List Nat
  | append _ => []
  | remove index => [index]
  | move source target => [source, target]
  | set index _ => [index]

/-- The argument of a command as it is written. -/
def argument : Command → String
  | append component => component
  | remove index => Text.Numeral.render index
  | move source target => Text.Numeral.render source ++ ":" ++ Text.Numeral.render target
  | set index value => Text.Numeral.render index ++ "=" ++ value

/-- The text of a command. -/
def render (c : Command) : String := c.name.text ++ ":" ++ c.argument

/-! ### Running commands -/

/-- Why a command is refused. -/
inductive Refusal where
  | indexOutOfRange (index length : Nat)
  | rejected (index : Nat) (misfit : Misfit)
deriving DecidableEq, Repr

namespace Refusal

/-- What is said of a value that token `index` may not have. -/
def rejectedMessage (index : Nat) (misfit : Misfit) : String :=
  "edit rejected for token " ++ Text.Numeral.render index ++ ": " ++ misfit.message

/-- The refusal in words. -/
def message : Refusal → String
  | indexOutOfRange index length =>
      "token index " ++ Text.Numeral.render index ++ " out of range for "
        ++ Text.Numeral.render length ++ " tokens"
  | rejected index misfit => rejectedMessage index misfit

end Refusal

/-- The position of `l` with number `i`. -/
def position (l : TokenList) (i : Nat) : Except Refusal (Fin l.length) :=
  if h : i < l.length then .ok ⟨i, h⟩ else .error (.indexOutOfRange i l.length)

/-- Run a command: what it did and the new list, or why it is refused. -/
def apply (c : Command) (l : TokenList) : Except Refusal (Outcome × TokenList) :=
  match c with
  | append component =>
      let (report, l') := l.add component
      .ok (.appended report, l')
  | remove index => do
      let i ← position l index
      let (token, l') := l.removeAt i
      return (.removed index token.value, l')
  | move source target => do
      let i ← position l source
      let j ← position l target
      return (.moved source target, l.move i j)
  | set index value => do
      let i ← position l index
      match l.edit i value with
      | .error misfit => .error (.rejected index misfit)
      | .ok (verdict, l') => return (.edited index verdict, l')

/-- Run commands one after the other until one is refused: what each did, the list that is
left, and the first refusal. -/
def runAll : List Command → TokenList → List Outcome × TokenList × Option Refusal
  | [], l => ([], l, none)
  | c :: rest, l =>
      match c.apply l with
      | .error refusal => ([], l, some refusal)
      | .ok (outcome, l') =>
          let (outcomes, last, refusal) := runAll rest l'
          (outcome :: outcomes, last, refusal)

end Command

end FieldPattern
