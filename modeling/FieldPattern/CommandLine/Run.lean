import FieldPattern.CommandLine.Reader
import FieldPattern.CommandLine.Report
import FieldPattern.Text.Control

/-! # Running a call

A call is answered with an exit status and what is written to the two output streams, and
leaves the disk of the machine changed or as it was.  The exit status is

* `0` if the request was carried out;
* `1` if it was refused or cannot be carried out; then the disk is as it was;
* `2` if the call is not understood.

Programs that make samples are started by a `Machine.Launcher`: `callWith` is given one, and `call`
uses that of the machine.

Two things are not told in full.  A call for help is answered with a short account of the program
(`helpReport`), in place of the text on each command, argument and option.  What the program writes to
its log, beside the report of a call, is left out; so the option that asks for more of it is read and
has no effect. -/

namespace FieldPattern.CommandLine

open Machine (Host Launcher)
open Text (Span)

/-- The answer to a call. -/
structure Answer where
  status : Nat
  output : List Span
  errors : List Span
deriving DecidableEq, Repr

namespace Answer

/-- The answer if all went well. -/
def success (output : List Span) : Answer := ⟨0, output, []⟩

/-- The answer to a refused request. -/
def refused (output : List Span) : Answer := ⟨1, output, []⟩

/-- The answer to a request that cannot be carried out. -/
def failure (output : List Span) (message : String) : Answer :=
  ⟨1, output, line [.styled (.boldTinted .red) "Error:", " ", message]⟩

/-- How the styles of a report are written. -/
def rendering (colours : Bool) : Text.Rendering := if colours then .restarted else .bare

/-- What is written to the output. -/
def outputText (a : Answer) (colours : Bool) : String :=
  Span.renderAll (rendering colours) a.output

/-- What is written to the stream for errors.  A report on a call that is not understood shows
the arguments as they are if colours are wanted; otherwise it shows no control sequences, also
none that the arguments hold: they are taken out of the whole report, so a string that an
argument begins goes on up to the next sequence of the report. -/
def errorText (a : Answer) (colours : Bool) : String :=
  if a.status = 2 then
    let text := Span.renderAll .around a.errors
    if colours then text else String.ofList (Text.visible text.toList)
  else Span.renderAll (rendering colours) a.errors

end Answer

/-- A record error in words, with its cause told once more. -/
def recordFailure (e : RecordError) : String := e.message ++ ": " ++ e.cause

/-- Put a changed record into its file, and report it. -/
def saved (h : Host) (config : String) (r : Record) (before after : List Span) :
    Answer × Host :=
  match r.save h config with
  | .error e => (.failure before (recordFailure e), h)
  | .ok h => (.success (before ++ after), h)

/-- Show the fields of a record. -/
def runFields (h : Host) (config : String) : Answer :=
  match Record.load h config with
  | .error e => .failure [] (recordFailure e)
  | .ok r =>
      match r.readiness with
      | .ok () => .success (fieldsReport r)
      | .error _ => .refused (fieldsReport r)

/-- The record in a file; if there is nothing at the path, the record without fields. -/
def loadOrEmpty (h : Host) (config : String) : Except RecordError Record :=
  if h.pathExists config then Record.load h config else .ok .empty

/-- Add a field to a record. -/
def runAddField (h : Host) (config name : String) : Answer × Host :=
  match loadOrEmpty h config with
  | .error e => (.failure [] (recordFailure e), h)
  | .ok r =>
      match r.addField name with
      | .error e => (.failure [] e.message, h)
      | .ok (name, r) =>
          saved h config r [] (line [checkMark, " Added field ", bold name, " to ", config])

/-- Remove a field from a record. -/
def runRemoveField (h : Host) (config name : String) : Answer × Host :=
  match Record.load h config with
  | .error e => (.failure [] (recordFailure e), h)
  | .ok r =>
      match r.removeField name with
      | .error e => (.failure [] e.message, h)
      | .ok r =>
          saved h config r [] (line [checkMark, " Removed field ", bold name, " from ", config])

/-- Ask for samples, if a sampler is named: what is shown on the two streams, and the machine
after it. -/
def runPreview (launch : Launcher) (h : Host) (e : Edit) (s : Session) :
    (List Span × List Span) × Host :=
  match e.sampler with
  | none => (([], []), h)
  | some program =>
      let sampler : Sampler := ⟨program, []⟩
      let (result, h) := (preview s.list (sampler.generate launch) e.samples).run h
      ((previewLines result, previewWarning result), h)

/-- Finish an edit whose commands have been carried out, after the report `before`. -/
def finishEdit (h : Host) (e : Edit) (r : Record) (s : Session) (before : List Span) :
    Answer × Host :=
  if !s.isModified then (.success (before ++ line [dim "No changes"]), h)
  else
    let before := before ++ if e.diff then differenceReport s else []
    match s.commit r with
    | .error error => (.failure before error.message, h)
    | .ok (_, r) =>
        if e.dryRun then
          (.success (before ++ line [.tinted .cyan "[DRY RUN - configuration not saved]"]), h)
        else saved h e.config r before (line [checkMark, " Saved ", e.config])

/-- Run commands on the pattern of a field. -/
def runEdit (launch : Launcher) (h : Host) (e : Edit) : Answer × Host :=
  match Record.load h e.config with
  | .error error => (.failure [] (recordFailure error), h)
  | .ok r =>
      match Session.ofField r e.field with
      | .error error => (.failure [] error.message, h)
      | .ok s =>
          let (outcomes, s, refusal) := s.runAll e.script
          let report := editHead s ++ outcomeLines e.script outcomes
          match refusal, e.script.drop outcomes.length with
          | some refusal, c :: _ => (.refused (report ++ refusalLines c refusal), h)
          | _, _ =>
              let ((samples, warning), h) := runPreview launch h e s
              let (answer, h) := finishEdit h e r s (report ++ editResult s ++ samples)
              ({ answer with errors := warning ++ answer.errors }, h)

/-- Carry out a request. -/
def run (launch : Launcher) (h : Host) : Request → Answer × Host
  | .tokenize pattern json => (.success (tokensReport pattern json), h)
  | .check kind value =>
      let report := checkReport kind value
      match kind.check value with
      | .ok () => (.success report, h)
      | .error _ => (.refused report, h)
  | .palette => (.success paletteReport, h)
  | .configs directory => (.success (configsReport ⟨directory⟩ h), h)
  | .fields config => (runFields h config, h)
  | .addField config name => runAddField h config name
  | .removeField config name => runRemoveField h config name
  | .edit e => runEdit launch h e

/-- A short account of the program, in place of the full text on its commands and options. -/
def helpReport : List Span :=
  line [UsageError.about] ++ emptyLine
    ++ line ["Usage: pattern-editor [OPTIONS] <COMMAND>"] ++ emptyLine
    ++ line ["Commands: ", ", ".intercalate (Verb.all.map Verb.name)]

/-- Answer a call, with a way to start programs. -/
def callWith (launch : Launcher) (h : Host) (arguments : List String) : Answer × Host :=
  match Call.read arguments with
  | .error e => (⟨2, [], e.report⟩, h)
  | .ok .help => (.success helpReport, h)
  | .ok .version => (.success (line ["pattern-editor 0.1.0"]), h)
  | .ok (.request r) => run launch h r

/-- Answer a call. -/
def call (h : Host) (arguments : List String) : Answer × Host :=
  callWith Machine.launch h arguments

end FieldPattern.CommandLine
