import FieldPattern.Machine.Search
import FieldPattern.Machine.Standard
import FieldPattern.Shell.Run

/-! # Programs

A program is started by name, with arguments.  It ends with an exit status or by a signal, and
leaves what it has written to its two streams.  A name with a slash is a path; any other name is
looked for in the usual directories.

Results about calls, edits and previews take the way to start programs, a `Launcher`, as a parameter,
and ask of it no more than they say.  None of them rests on the shell, on its tools or on the
standard disk: `launch`, which starts these, serves to run the program only. -/

namespace FieldPattern.Machine

/-- How a program ended. -/
inductive Ending where
  | status (code : Nat)
  | signal (number : Nat)
deriving DecidableEq, Repr

/-- What a program left behind. -/
structure Finished where
  ending : Ending
  output : ByteArray
  errors : ByteArray

namespace Finished

/-- Whether the program reported success. -/
def succeeded (f : Finished) : Bool := f.ending == .status 0

end Finished

/-- Why a program could not be started. -/
inductive LaunchFault where
  /-- The name or an argument has a NUL in it. -/
  | nul
  /-- The operating system refused, with an error number. -/
  | os (code : Nat)
deriving DecidableEq, Repr

namespace LaunchFault

/-- The fault in words. -/
def message : LaunchFault → String
  | nul => "nul byte found in provided data"
  | os code => osErrorMessage code

end LaunchFault

/-- A way to start programs, which may change the disk of the machine: what is left of one, or
why it did not start. -/
abbrev Launcher := String → List String → StateM Host (Except LaunchFault Finished)

/-- Run the shell. -/
def runShell (name : String) (arguments : List String) : StateM Host Finished := do
  let ended := Shell.start (← get) name arguments
  set ended.host
  let ending := match ended.signal with
    | some number => .signal number
    | none => .status ended.status
  return ⟨ending, Shell.toBytes ended.output, Shell.toBytes ended.errors⟩

/-- Run a tool that has no input. -/
def runTool (tool : Shell.Tool) (name : String) (arguments : List String) :
    StateM Host Finished := do
  let streams := Shell.Streams.start (← get)
  let result := tool ⟨Shell.encode name, arguments.map Shell.encode, streams⟩
  set result.host
  return ⟨.status result.status, Shell.toBytes (result.textOf 1), Shell.toBytes (result.textOf 2)⟩

/-- Start a program. -/
def launch : Launcher := fun name arguments => do
  if (name :: arguments).any fun a => a.toList.contains '\x00' then return .error .nul
  else
    match (← get).program name with
    | .error cause => return .error (.os (cause.code?.getD 2))
    | .ok program =>
        if (name :: arguments).any fun a => maxArgumentBytes < a.utf8ByteSize then
          return .error (.os ((FileCause.argumentsTooLong).code?.getD 0))
        else
          match Shell.Tool.ofName? program with
          | some tool => return .ok (← runTool tool name arguments)
          | none => return .ok (← runShell name arguments)

end FieldPattern.Machine
