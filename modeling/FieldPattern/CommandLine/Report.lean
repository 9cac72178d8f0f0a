import FieldPattern.Difference.Changes
import FieldPattern.Preview
import FieldPattern.Session
import FieldPattern.Store
import FieldPattern.Text.Style
import FieldPattern.Token.Writer

/-! # What the program shows

Each report is a list of spans (`Text.Span`), newlines included.  A check mark stands before
what went well, a cross before what did not, and a ring before what is not complete. -/

namespace FieldPattern.CommandLine

open Text (Span alignRight)

/-- Spans and a newline. -/
def line (spans : List Span) : List Span := spans ++ [.plain "\n"]

/-- An empty line. -/
def emptyLine : List Span := ["\n"]

/-- The number of something as it is shown. -/
def count (n : Nat) : String := Text.Numeral.render n

/-- The mark before what went well. -/
def checkMark : Span := .tinted .green "✓"

/-- The mark before what did not go well. -/
def cross : Span := .tinted .red "✗"

/-- The mark before what is not complete. -/
def ring : Span := .tinted .yellow "⊙"

/-- A remark. -/
def dim (text : String) : Span := .styled .dim text

/-- A text that stands out. -/
def bold (text : String) : Span := .styled .bold text

/-! ### Tokens -/

/-- The style in which a kind of token is named. -/
def kindStyle : Kind → Text.Style
  | .literal => .plain
  | .escape => .tinted .magenta
  | .characterClass => .tinted .blue
  | .quantifier => .tinted .yellow
  | .alternation => .tinted .green
  | .anyChar => .tinted .cyan

/-- The line of the token with number `index`. -/
def tokenLine (t : Token) (index : Nat) : List Span :=
  let kind : Span := ⟨t.kind.name, kindStyle t.kind, 15⟩
  let mark : Span := if t.negated then dim " (negated)" else ""
  line ["  ", alignRight 3 (count index), "  ", kind, "  ", t.display, mark]

/-- The table of tokens. -/
def tokenTable (ts : List Token) : List Span :=
  (ts.zipIdx.map fun (t, index) => tokenLine t index).flatten

/-- The tokens of a pattern, as a table or as JSON. -/
def tokensReport (pattern : String) (json : Bool) : List Span :=
  let ts := tokens pattern
  if json then line [Token.renderAll ts]
  else if ts.isEmpty then line [dim "No tokens (empty pattern)"]
  else tokenTable ts

/-- The verdict on a text for a kind of token. -/
def checkReport (kind : Kind) (value : String) : List Span :=
  match kind.check value with
  | .ok () => line [checkMark, " ", value, " accepted as ", kind.name]
  | .error misfit => line [cross, " ", misfit.message]

/-- The catalog of components. -/
def paletteReport : List Span :=
  (Catalog.components.map fun c =>
    line ["  ", .padded 8 c.pattern, " ", .padded 24 c.label, " ",
      if c.template then .tinted .cyan "editable" else ""]).flatten

/-! ### Records -/

/-- The line of the record `name` of a store. -/
def configLine (s : Store) (h : Machine.Host) (name : String) : List Span :=
  match s.load h name with
  | .error e => line [cross, " ", .padded 24 name, " ", e.message]
  | .ok r =>
      let size := count r.headers.length ++ " field(s)"
      match r.readiness with
      | .ok () => line [checkMark, " ", .padded 24 name, " ", size]
      | .error u =>
          line [ring, " ", .padded 24 name, " ", size, ", ", count u.issues.length, " issue(s)"]

/-- The records of a store. -/
def configsReport (s : Store) (h : Machine.Host) : List Span :=
  let names := s.list h
  if names.isEmpty then line ["No configurations in ", s.root]
  else (names.map (configLine s h)).flatten

/-- The line of a field. -/
def fieldLine (name pattern : String) : List Span :=
  line ["  ", ⟨name, .bold, 20⟩, " ", if pattern.isEmpty then dim "(no pattern)" else pattern]

/-- The fields of a record and whether it is ready. -/
def fieldsReport (r : Record) : List Span :=
  (if r.headers.isEmpty then line [.tinted .yellow "No fields defined"] else [])
  ++ (r.fields.map fun (name, pattern) => fieldLine name pattern).flatten
  ++ emptyLine
  ++ match r.readiness with
    | .ok () => line [checkMark, " Ready for generation"]
    | .error u => (u.issues.map fun i => line [.tinted .yellow "⚠", " ", i.message]).flatten

/-! ### Editing -/

/-- What a command did, in words. -/
def outcomeText : Outcome → String
  | .appended a =>
      "appended " ++ count a.count ++ " token(s) at " ++ count a.first
        ++ match a.opened with
          | some index => ", token " ++ count index ++ " is ready to edit"
          | none => ""
  | .removed index value => "removed token " ++ count index ++ " (" ++ value ++ ")"
  | .moved source target => "moved token " ++ count source ++ " to " ++ count target
  | .edited index .applied => "edited token " ++ count index
  | .edited index .cancelled => "left token " ++ count index ++ " unchanged"

/-- The head of a report on an edit. -/
def editHead (s : Session) : List Span :=
  line ["Field: ", bold s.field] ++ line ["Pattern: ", s.before] ++ emptyLine

/-- The lines of commands that were carried out. -/
def outcomeLines (script : List Command) (outcomes : List Outcome) : List Span :=
  (List.zipWith (fun c o => line [checkMark, " ", c.render, ": ", outcomeText o])
    script outcomes).flatten

/-- The lines of a command that was refused. -/
def refusalLines (c : Command) (r : Command.Refusal) : List Span :=
  line [cross, " ", c.render, ": ", r.message]
    ++ line [.tinted .yellow "Session cancelled, nothing saved"]

/-- The tokens and the pattern after an edit. -/
def editResult (s : Session) : List Span :=
  emptyLine ++ tokenTable s.list ++ line ["\nResult: ", bold s.pattern]

/-- The samples, if there are any. -/
def previewLines : Except GeneratorError Preview → List Span
  | .ok .empty => line [dim "Add some pattern components to see examples"]
  | .ok (.samples texts) =>
      line ["Samples:"] ++ (texts.map fun text => line ["  ", .plain text]).flatten
  | .error _ => []

/-- The warning, if there are no samples for a reason. -/
def previewWarning : Except GeneratorError Preview → List Span
  | .ok _ => []
  | .error e => line [.tinted .yellow ("Warning: preview failed: " ++ e.message)]

/-! ### The difference that an edit makes -/

/-- The text in which two token lists are compared: one line for each token. -/
def tokenLines (ts : List Token) : List Char :=
  (ts.map fun t => t.kind.name.toList ++ ' ' :: t.value.toList ++ ['\n']).flatten

/-- The line of a change, with its own newline. -/
def changeSpan : Difference.Change × List Char → Span
  | (.kept, text) => String.ofList (' ' :: text)
  | (.removed, text) => .tinted .red (String.ofList ('-' :: text))
  | (.added, text) => .tinted .green (String.ofList ('+' :: text))

/-- The changes from one token list to another, by lines. -/
def tokenChanges (before after : List Token) : List (Difference.Change × List Char) :=
  let old := Text.pieces (tokenLines before)
  let new := Text.pieces (tokenLines after)
  Difference.ofLists old new

/-- The difference between the tokens of the pattern before and after an edit. -/
def differenceReport (s : Session) : List Span :=
  emptyLine ++ line [dim ("--- " ++ s.field ++ " (original)")]
    ++ line [dim ("+++ " ++ s.field ++ " (edited)")]
    ++ (tokenChanges (tokens s.before) s.list).map changeSpan

end FieldPattern.CommandLine
