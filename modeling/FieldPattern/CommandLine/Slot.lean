import FieldPattern.CommandLine.Request
import FieldPattern.Preview
import FieldPattern.Text.Style

/-! # Arguments of the subcommands

Each subcommand has *slots* for arguments.  Positional slots are filled in order by arguments
that are no options, and the last slot of `edit` takes any number of them.  Two slots are
options, which are named and followed by a value.  *Switches* are named and have no value.

A `Draft` holds what the slots and switches have received so far.  `Draft.put` reads a text into
a slot, and `Draft.request` makes the request once nothing is missing. -/

namespace FieldPattern.CommandLine

open Text (Span)

/-- A place for arguments. -/
inductive Slot where
  | pattern
  | kind
  | value
  | directory
  | config
  | fieldName
  | field
  | commands
  | sampler
  | samples
deriving DecidableEq, Repr

/-- An argument without a value. -/
inductive Switch where
  | json
  | dryRun
  | diff
deriving DecidableEq, Repr

namespace Slot

/-- How a slot is shown. -/
def shown : Slot → String
  | pattern => "<PATTERN>"
  | kind => "<KIND>"
  | value => "<VALUE>"
  | directory => "<DIR>"
  | config => "<CONFIG>"
  | fieldName => "<NAME>"
  | field => "<FIELD>"
  | commands => "<COMMANDS>..."
  | sampler => "--preview <PREVIEW>"
  | samples => "--samples <SAMPLES>"

/-- Whether a positional slot takes all arguments that follow. -/
def takesAll (s : Slot) : Bool := s == commands

end Slot

namespace Switch

/-- How a switch is shown. -/
def shown : Switch → String
  | json => "--json"
  | dryRun => "--dry-run"
  | diff => "--diff"

end Switch

namespace Verb

/-- The positional slots in order. -/
def positionals : Verb → List Slot
  | tokenize => [.pattern]
  | check => [.kind, .value]
  | palette => []
  | configs => [.directory]
  | fields => [.config]
  | addField | removeField => [.config, .fieldName]
  | edit => [.config, .field, .commands]

/-- The option with a long name. -/
def option? (v : Verb) (name : String) : Option Slot :=
  if v ≠ edit then none
  else if name == "preview" then some .sampler
  else if name == "samples" then some .samples
  else none

/-- The switch with a long name. -/
def switch? : Verb → String → Option Switch
  | tokenize, "json" => some .json
  | edit, "dry-run" => some .dryRun
  | edit, "diff" => some .diff
  | _, _ => none

/-- The switch with a letter. -/
def letter? : Verb → Char → Option Switch
  | edit, 'n' => some .dryRun
  | edit, 'd' => some .diff
  | _, _ => none

end Verb

/-! ### What is wrong with a call -/

/-- Why a call is not understood. -/
inductive UsageError where
  /-- Nothing is asked for. -/
  | nothingAsked
  | subcommandMissing
  | subcommandUnknown (word : String)
  | unexpected (argument : String)
  | incomplete
  | repeated (argument : String)
  /-- An argument that has no value is given one. -/
  | surplusValue (value argument : String)
  | valueMissing (argument : String)
  | valueInvalid (value argument reason : String)
deriving DecidableEq, Repr

namespace UsageError

/-- What was given wrongly, as it is shown. -/
def given (text : String) : Span := .tinted .yellow text

/-- What was expected, as it is shown. -/
def expected (text : String) : Span := .styled .bold text

/-- What is said about a call without a subcommand. -/
def about : String := "Token-level editor for synthetic-data field patterns"

/-- What is wrong, in words. -/
def words : UsageError → List Span
  | nothingAsked => [about]
  | subcommandMissing =>
      ["'", given "pattern-editor", "' requires a subcommand but one was not provided"]
  | subcommandUnknown word => ["unrecognized subcommand '", given word, "'"]
  | unexpected argument => ["unexpected argument '", given argument, "' found"]
  | incomplete => ["the following required arguments were not provided:"]
  | repeated argument => ["the argument '", given argument, "' cannot be used multiple times"]
  | surplusValue value argument =>
      ["unexpected value '", given value, "' for '", expected argument,
        "' found; no more were expected"]
  | valueMissing argument =>
      ["a value is required for '", given argument, "' but none was supplied"]
  | valueInvalid value argument reason =>
      ["invalid value '", given value, "' for '", expected argument, "': ", reason]

/-- Where to look for help. -/
def advice : List Span :=
  ["\n\nFor more information, try '", expected "--help", "'.\n"]

/-- The report of an error: what is wrong, and where to look for help. -/
def report (e : UsageError) : List Span :=
  match e with
  | nothingAsked => e.words ++ [Span.plain "\n"]
  | _ => Span.styled (.boldThenTinted .red) "error:" :: Span.plain " " :: (e.words ++ advice)

end UsageError

/-! ### Filling the slots -/

/-- What the slots and switches have received. -/
structure Draft where
  pattern : Option String := none
  kind : Option Kind := none
  value : Option String := none
  directory : Option String := none
  config : Option String := none
  fieldName : Option String := none
  field : Option String := none
  script : List Command := []
  sampler : Option String := none
  samples : Option Nat := none
  switches : List Switch := []

namespace Draft

/-- A path that may stand in a slot: one that is not empty. -/
def path (slot : Slot) (text : String) : Except UsageError String :=
  if text.isEmpty then .error (.valueMissing slot.shown) else .ok text

/-- Read a text into a slot. -/
def put (d : Draft) (slot : Slot) (text : String) : Except UsageError Draft :=
  let invalid (reason : String) := UsageError.valueInvalid text slot.shown reason
  match slot with
  | .pattern => .ok { d with pattern := some text }
  | .kind =>
      match Kind.ofName? text with
      | some kind => .ok { d with kind := some kind }
      | none => .error (invalid (Kind.unknownMessage text))
  | .value => .ok { d with value := some text }
  | .directory => do return { d with directory := some (← path slot text) }
  | .config => do return { d with config := some (← path slot text) }
  | .fieldName => .ok { d with fieldName := some text }
  | .field => .ok { d with field := some text }
  | .commands =>
      match Command.read text with
      | .ok command => .ok { d with script := d.script ++ [command] }
      | .error e => .error (invalid e.message)
  | .sampler => do return { d with sampler := some (← path slot text) }
  | .samples =>
      match Text.Numeral.read text.toList with
      | .ok count => .ok { d with samples := some count }
      | .error fault => .error (invalid fault.message)

/-- Whether an option has its value already. -/
def has (d : Draft) : Slot → Bool
  | .sampler => d.sampler.isSome
  | .samples => d.samples.isSome
  | _ => false

/-- Turn a switch on, once. -/
def turnOn (d : Draft) (s : Switch) : Except UsageError Draft :=
  if d.switches.contains s then .error (.repeated s.shown)
  else .ok { d with switches := s :: d.switches }

/-- The request, if no argument is missing. -/
def request? (d : Draft) : Verb → Option Request
  | .tokenize => return .tokenize (← d.pattern) (d.switches.contains .json)
  | .check => return .check (← d.kind) (← d.value)
  | .palette => some .palette
  | .configs => return .configs (← d.directory)
  | .fields => return .fields (← d.config)
  | .addField => return .addField (← d.config) (← d.fieldName)
  | .removeField => return .removeField (← d.config) (← d.fieldName)
  | .edit => do
      let config ← d.config
      let field ← d.field
      if d.script.isEmpty then none
      else
        return .edit ⟨config, field, d.script, d.switches.contains .dryRun,
          d.switches.contains .diff, d.sampler, d.samples.getD usualSampleCount⟩

/-- The request, unless an argument is missing. -/
def request (d : Draft) (v : Verb) : Except UsageError Request :=
  match d.request? v with
  | some r => .ok r
  | none => .error .incomplete

end Draft

end FieldPattern.CommandLine
