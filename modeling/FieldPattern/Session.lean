import FieldPattern.Command
import FieldPattern.Record.Basic

/-! # Edit sessions

A session holds the token list of one field of a record while it is edited.

* `Session.ofField` opens a listed field; a field without a pattern has an empty token list.
* `run` applies a command to the token list.  A command that is refused leaves the session as
  it was, and `step` goes on with it.
* `commit` writes the pattern that the tokens spell into a record, and touches nothing else.

The record is an argument of opening and of committing only.  Between the two, neither the
session nor the record has an effect on the other. -/

namespace FieldPattern

/-- One field under edit. -/
structure Session where
  field : String
  /-- The pattern of the field when the session was opened. -/
  before : String
  list : TokenList
deriving DecidableEq

/-- Why a session cannot be opened or committed. -/
inductive SessionError where
  /-- No such field is listed. -/
  | unknown (field : String)
  /-- The record does not take the pattern. -/
  | field (error : FieldError)
deriving DecidableEq, Repr

namespace SessionError

/-- The error in words. -/
def message : SessionError → String
  | unknown name => "field not found in configuration: " ++ name
  | field error => error.message

end SessionError

namespace Session

/-- Open a listed field. -/
def ofField (r : Record) (field : String) : Except SessionError Session :=
  match r.pattern? field with
  | some pattern => .ok ⟨field, pattern, tokens pattern⟩
  | none => .error (.unknown field)

/-- The pattern that the tokens spell. -/
def pattern (s : Session) : String := spell s.list

/-- Whether the pattern differs from the one that the session was opened with. -/
def isModified (s : Session) : Bool := s.pattern != s.before

/-- Apply a command to the token list. -/
def run (s : Session) (c : Command) : Except Command.Refusal (Outcome × Session) :=
  (c.apply s.list).map fun (outcome, l) => (outcome, { s with list := l })

/-- Take a command: its outcome, or why it is refused, and the session after it. -/
def step (c : Command) (s : Session) : Except Command.Refusal Outcome × Session :=
  match s.run c with
  | .ok (outcome, s') => (.ok outcome, s')
  | .error refusal => (.error refusal, s)

/-- Apply commands one after the other until one is refused. -/
def runAll (s : Session) (script : List Command) :
    List Outcome × Session × Option Command.Refusal :=
  let (outcomes, l, refusal) := Command.runAll script s.list
  (outcomes, { s with list := l }, refusal)

/-- Write the pattern into a record: the pattern and the new record. -/
def commit (s : Session) (r : Record) : Except SessionError (String × Record) :=
  match r.setPattern s.field s.pattern with
  | .ok r => .ok (s.pattern, r)
  | .error e => .error (.field e)

end Session

end FieldPattern
