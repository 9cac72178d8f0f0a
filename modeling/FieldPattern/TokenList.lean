import FieldPattern.Catalog
import FieldPattern.Grammar
import FieldPattern.Scan
import FieldPattern.Text.Numeral

/-! # Editing a sequence of tokens

A pattern under edit is a list of tokens.  Five operations act on it:

* `add` puts the tokens of a component at the end and reports where they are;
* `removeAt` takes one token out;
* `move` takes a token out and puts it back so that it stands at the target;
* `edit` gives a token a new text, keeping its kind;
* `spell` reads the pattern off the list.

Positions are of type `Fin`, so an operation cannot meet a position outside the list.  A number
becomes a position through `position`, which reports the operation and the length when the
number is too large. -/

namespace FieldPattern

/-- The tokens of a pattern under edit. -/
abbrev TokenList := List Token

/-- What a position is wanted for. -/
inductive Purpose where
  | removal
  | moveSource
  | moveTarget
  | editing
deriving DecidableEq, Repr

namespace Purpose

/-- The name under which a purpose is reported. -/
def name : Purpose → String
  | removal => "remove_at"
  | moveSource => "reorder source"
  | moveTarget => "reorder target"
  | editing => "edit_value"

end Purpose

/-- A number that is no position of a list. -/
structure OutOfRange where
  purpose : Purpose
  index : Nat
  length : Nat
deriving DecidableEq, Repr

namespace OutOfRange

/-- The fault in words. -/
def message (e : OutOfRange) : String :=
  e.purpose.name ++ ": index " ++ Text.Numeral.render e.index ++ " out of range for "
    ++ Text.Numeral.render e.length ++ " tokens"

end OutOfRange

/-- Where the tokens of an added component stand. -/
structure Added where
  /-- The position of the first new token. -/
  first : Nat
  /-- The number of new tokens. -/
  count : Nat
  /-- The token to open for editing. -/
  opened : Option Nat
deriving DecidableEq, Repr

/-- How an edit that is not refused ends. -/
inductive Verdict where
  /-- The token has the new text. -/
  | applied
  /-- The new text is blank or already shown, and the token stays. -/
  | cancelled
deriving DecidableEq, Repr

namespace TokenList

/-- Put the tokens of `component` at the end. -/
def add (l : TokenList) (component : String) : Added × TokenList :=
  let fresh := tokens component
  let opened := if !fresh.isEmpty && Catalog.isTemplate component then some l.length else none
  (⟨l.length, fresh.length, opened⟩, l ++ fresh)

/-- The position with number `i`. -/
def position (l : TokenList) (purpose : Purpose) (i : Nat) : Except OutOfRange (Fin l.length) :=
  if h : i < l.length then .ok ⟨i, h⟩ else .error ⟨purpose, i, l.length⟩

/-- Take out the token at `i`. -/
def removeAt (l : TokenList) (i : Fin l.length) : Token × TokenList := (l[i], l.eraseIdx i)

/-- Take out the token at `source` and put it back so that it stands at `target`. -/
def move (l : TokenList) (source target : Fin l.length) : TokenList :=
  (l.eraseIdx source).insertIdx target l[source]

/-- Give the token at `i` the text `value`.  A blank text, or the text that is shown already,
leaves everything as it is; a text that does not follow the grammar of the token's kind is
refused. -/
def edit (l : TokenList) (i : Fin l.length) (value : String) :
    Except Misfit (Verdict × TokenList) :=
  if (Text.trimmed value.toList).isEmpty || value == l[i].display then .ok (.cancelled, l)
  else
    match l[i].kind.check value with
    | .error misfit => .error misfit
    | .ok () => .ok (.applied, l.set i (l[i].setText value))

/-- Take out the token with number `i`. -/
def removeAt? (l : TokenList) (i : Nat) : Except OutOfRange (Token × TokenList) :=
  (l.position .removal i).map l.removeAt

/-- Move the token with number `source` to the place with number `target`. -/
def move? (l : TokenList) (source target : Nat) : Except OutOfRange TokenList := do
  let source ← l.position .moveSource source
  let target ← l.position .moveTarget target
  return l.move source target

/-- Give the token with number `i` the text `value`. -/
def edit? (l : TokenList) (i : Nat) (value : String) :
    Except OutOfRange (Except Misfit (Verdict × TokenList)) :=
  (l.position .editing i).map fun i => l.edit i value

end TokenList

end FieldPattern
