import FieldPattern.Command
import FieldPattern.Grammar

/-! # Requests to the program

The program is called with a subcommand and its arguments.  A request is what such a call asks
for, after all arguments have been read:

* `tokenize` shows the tokens of a pattern, as a table or as JSON;
* `check` tells whether a text follows the grammar of a kind of token;
* `palette` shows the catalog of components;
* `configs` shows the records in a directory;
* `fields` shows the fields of a record and whether it is ready;
* `addField` and `removeField` change the fields of a record;
* `edit` runs commands on the pattern of a field. -/

namespace FieldPattern.CommandLine

/-- A request to edit the pattern of a field. -/
structure Edit where
  /-- The path of the record. -/
  config : String
  field : String
  script : List Command
  /-- Leave the record as it is. -/
  dryRun : Bool
  /-- Show what has changed. -/
  diff : Bool
  /-- The program to ask for samples. -/
  sampler : Option String
  samples : Nat
deriving DecidableEq, Repr

/-- A request. -/
inductive Request where
  | tokenize (pattern : String) (json : Bool)
  | check (kind : Kind) (value : String)
  | palette
  | configs (directory : String)
  | fields (config : String)
  | addField (config name : String)
  | removeField (config name : String)
  | edit (e : Edit)
deriving DecidableEq, Repr

/-- The subcommands. -/
inductive Verb where
  | tokenize
  | check
  | palette
  | configs
  | fields
  | addField
  | removeField
  | edit
deriving DecidableEq, Repr

namespace Verb

/-- All subcommands. -/
def all : List Verb :=
  [tokenize, check, palette, configs, fields, addField, removeField, edit]

/-- The name of a subcommand. -/
def name : Verb → String
  | tokenize => "tokenize"
  | check => "check"
  | palette => "palette"
  | configs => "configs"
  | fields => "fields"
  | addField => "add-field"
  | removeField => "remove-field"
  | edit => "edit"

/-- The subcommand with exactly this name. -/
def ofName? (text : String) : Option Verb := all.find? fun v => v.name == text

end Verb

end FieldPattern.CommandLine
