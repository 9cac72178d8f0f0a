import FieldPattern.Shell.Arithmetic
import FieldPattern.Shell.Background
import FieldPattern.Shell.Script
import FieldPattern.Shell.Signal
import FieldPattern.Shell.Stream
import FieldPattern.Machine.Search

/-! # The state of a shell

A shell has variables and functions, the arguments it was started with, its streams, and the
status of the last command, `0` for success.  Something may keep it from going on with the next
command (`Stop`).

A shell may start another one inside of it, which has a copy of its state, and shares its
streams and its disk; at its end the outer shell goes on (`inside`, `absorb`).  A shell inside
of another one has the same number as that, so a signal to this number is for the outermost shell
with it.

Reports of a shell start with its name and the number of the line; a command of its own that
reports adds its name. -/

namespace FieldPattern.Shell

open Machine (Host)

/-- A variable. -/
structure Variable where
  value : Option String
  /-- Programs that are started get it too. -/
  exported : Bool
  /-- Its value stays. -/
  fixed : Bool
deriving DecidableEq, Repr

/-- What keeps a shell from going on with the next command. -/
inductive Stop where
  | leaveLoops (count : Nat)
  | nextRound (count : Nat)
  /-- Leave a function or a script; `given` if the status has been given. -/
  | leaveFunction (given : Bool)
  | exit
  /-- An error that ends the shell, but not the one around it. -/
  | fault
  /-- Nobody reads what it writes. -/
  | brokenPipe
  | signal (number : Nat)
  /-- It has taken too many steps. -/
  | exhausted
deriving DecidableEq, Repr

/-- What a function gives back at its end: the variables that are local to it with the values that
they had before, and the options if they are local to it. -/
structure Frame where
  bindings : List (String × Option Variable)
  switches : Option (List Char)

/-- The frame of a function at its start. -/
def Frame.empty : Frame := ⟨[], none⟩

/-- How far the options among arguments have been looked at: the number of the next argument, and
how much has been read of the one before it if there is more in that. -/
structure OptionSpot where
  next : Nat
  read : Option Nat
deriving DecidableEq, Repr

/-- No option has been looked at. -/
def OptionSpot.first : OptionSpot := ⟨1, none⟩

/-- The state of a shell. -/
structure State where
  bindings : List (String × Variable)
  functions : List (String × Script)
  /-- What the functions being run give back, the innermost one first. -/
  frames : List Frame
  name : String
  arguments : List String
  /-- The letters of the options that are on. -/
  switches : List Char
  status : Nat
  /-- The status of the last script whose output was taken. -/
  innerStatus : Nat
  stop : Option Stop
  streams : Streams
  /-- The texts that redirections read, and the number of the next one. -/
  documents : List (Nat × Word)
  nextDocument : Nat
  /-- The scripts to be run on signals, by the name of the signal. -/
  traps : List (String × String)
  /-- The names of signals that have come in and are to be caught. -/
  caught : List String
  line : Nat
  /-- The line that the script has been read up to. -/
  reached : Nat
  /-- The command of the shell's own that is being run. -/
  running : Option String
  /-- Whether that command could not write all that it had to say. -/
  unwritten : Bool
  /-- The number of loops being run. -/
  loops : Nat
  /-- The number of the last job that has been started. -/
  lastJob : Option Nat
  jobs : Jobs
  /-- How far the options among the arguments have been looked at. -/
  optionSpot : OptionSpot
  /-- The number of commands that may still be run. -/
  budget : Nat
  /-- The number of the shell among the programs being run, and those of the shells around it. -/
  numbers : List Nat
  /-- The number of shells around it with the same number. -/
  depth : Nat
  /-- The signals that it has sent to shells around it, each with the number of the shell. -/
  sent : List (Nat × Nat)
  /-- The permissions that new files do not get. -/
  mask : Nat
  /-- The names of programs that have been found, with their paths. -/
  found : List (String × String)
  /-- The aliases with their texts. -/
  aliases : List (String × String)

namespace State

/-- The number of commands that a shell may run. -/
def maxCommands : Nat := 3000000

/-- The number of functions that may be run inside of each other. -/
def maxCalls : Nat := 1000

/-- The blanks at which a shell cuts the values of expansions if it is not told others. -/
def usualSeparators : String := " \t\n"

/-- The number of the shell among the programs being run. -/
def number (sh : State) : Nat := sh.numbers.headD 0

/-- The number of the next job. -/
def nextJob (sh : State) : Nat :=
  match sh.lastJob with
  | some number => number + 1
  | none => 1000 * sh.number + 1

/-- The variables that a shell sets at its start, whatever it is given. -/
def ownVariables (host : Host) (parent : Nat) : List (String × Variable) := [
  ("IFS", ⟨some usualSeparators, false, false⟩),
  ("OPTIND", ⟨some "1", false, false⟩),
  ("PPID", ⟨some (toString parent), false, false⟩),
  ("PWD", ⟨some (encode host.homePath), true, false⟩)]

/-- The variables that a shell sets at its start if it is not given others. -/
def usualVariables : List (String × Variable) := [
  ("PS1", ⟨some "# ", false, false⟩),
  ("PS2", ⟨some "> ", false, false⟩),
  ("PS4", ⟨some "+ ", false, false⟩)]

/-- A shell at its start, which the shells with these numbers have started. -/
def start (name : String) (arguments : List String) (switches : List Char)
    (given : List (String × Variable)) (streams : Streams) (around : List Nat) (mask : Nat) :
    State :=
  let own := ownVariables streams.host (around.headD 0)
  let given := given.filter fun v => (own.lookup v.1).isNone
  { bindings := own ++ given ++ usualVariables.filter fun v => (given.lookup v.1).isNone
    functions := []
    frames := []
    name := name
    arguments := arguments
    switches := switches
    status := 0
    innerStatus := 0
    stop := none
    streams := streams
    documents := []
    nextDocument := 0
    traps := []
    caught := []
    line := 0
    reached := 1
    running := none
    unwritten := false
    loops := 0
    lastJob := none
    jobs := []
    optionSpot := .first
    budget := maxCommands
    numbers := (around.headD 0 + 2) :: around
    depth := 0
    sent := []
    mask := mask
    found := []
    aliases := [] }

/-- End a command with a status. -/
def done (sh : State) (status : Nat) : State := { sh with status := status }

/-- What still stops the shell around a function or script that has been left. -/
def stopAround (sh : State) : Option Stop :=
  match sh.stop with
  | some (.leaveFunction _) => none
  | stop => stop

/-- Whether an option is on. -/
def has (sh : State) (switch : Char) : Bool := sh.switches.contains switch

/-- Get a signal, and catch it or end. -/
def receive (sh : State) (signal : Nat) : State :=
  match sh.traps.lookup (Signal.name signal) with
  | some _ =>
      if signal = 9 then { sh with stop := some (.signal signal) }
      else { sh with caught := sh.caught ++ [Signal.name signal] }
  | none => if Signal.isDeadly signal then { sh with stop := some (.signal signal) } else sh

/-- Send a signal to a shell by its number: to this one, or to one around it. -/
def send (sh : State) (number signal : Nat) : State :=
  if number = sh.number ∧ sh.depth = 0 then sh.receive signal
  else { sh with sent := sh.sent ++ [(number, signal)] }

/-- The state in which a shell inside of it starts. -/
def inside (sh : State) : State :=
  { sh with
    traps := sh.traps.filter fun t => t.2.isEmpty
    jobs := []
    caught := []
    sent := []
    reached := 1
    depth := sh.depth + 1 }

/-! ### Writing -/

/-- Write to a stream, if it can be written to. -/
def write (sh : State) (stream : Nat) (text : List Char) : State :=
  if text.isEmpty then sh
  else
    match sh.streams.write stream text with
    | .done streams => { sh with streams := streams }
    | .refused _ => sh
    | .broken => { sh with stop := some .brokenPipe }

/-- A report. -/
def report (sh : State) (message : String) : State :=
  let line := toString sh.line ++ ": "
  let running := match sh.running with
    | some name => name ++ ": "
    | none => ""
  sh.write 2 (sh.name ++ ": " ++ line ++ running ++ message ++ "\n").toList

/-- Write what a command of the shell's own has to say. -/
def put (sh : State) (text : List Char) : State :=
  match text.isEmpty, sh.streams.write 1 text with
  | true, _ => sh
  | false, .done streams => { sh with streams := streams }
  | false, .refused _ => { sh with unwritten := true }
  | false, .broken => { sh with stop := some .brokenPipe }

/-- Report an error that ends the command of the shell's own, or the shell. -/
def fail (sh : State) (message : String) : State :=
  { sh.report message with status := 2, stop := some .fault }

/-- The state after a shell that was started inside of it.  If a signal has ended that one, this
is told, unless the inner shell was run in the place of the outer one. -/
def absorb (sh inner : State) (replaced : Bool) : State :=
  let host := { sh.streams.host with disk := inner.streams.host.disk }
  let channels := inner.streams.channels.take sh.streams.channels.size
  let after := { sh with
    streams := ⟨channels, sh.streams.table, host⟩
    budget := inner.budget
    jobs := sh.jobs.pass
    status := inner.status % 256
    stop := none }
  let after := match inner.stop with
    | some .exhausted => { after with stop := some .exhausted }
    | some (.signal k) =>
        if replaced then { after with stop := some (.signal k) }
        else (after.write 2 (Signal.notice k).toList).done (128 + k)
    | _ => after
  inner.sent.foldl (fun sh (number, signal) => sh.send number signal) after

/-! ### Variables -/

/-- The value of a variable, if it has one. -/
def value? (sh : State) (name : String) : Option String :=
  (sh.bindings.lookup name).bind Variable.value

/-- The value of a variable, or nothing. -/
def valueOf (sh : State) (name : String) : String := (sh.value? name).getD ""

/-- Put a variable in the place of the one with its name. -/
def setVariable (sh : State) (name : String) (v : Option Variable) : State :=
  let others := sh.bindings.filter fun p => p.1 != name
  { sh with
    bindings := match v with
      | some v => (name, v) :: others
      | none => others
    found := if name == "PATH" then [] else sh.found
    optionSpot := if name == "OPTIND" then
        ⟨max 1 ((v.bind Variable.value).bind Integer.count? |>.getD 1), none⟩
      else sh.optionSpot }

/-- Give variables the values that they had before. -/
def giveBack (sh : State) (old : List (String × Option Variable)) : State :=
  old.foldl (fun sh (name, v) => sh.setVariable name v) sh

/-- Give a variable a value.  The value of `OPTIND` is a number. -/
def assign (sh : State) (name value : String) : State :=
  let old := (sh.bindings.lookup name).getD ⟨none, sh.has 'a', false⟩
  if old.fixed then sh.fail (name ++ ": is read only")
  else if name == "OPTIND" && (Integer.count? value).isNone then
    sh.fail ("Illegal number: " ++ value)
  else sh.setVariable name (some { old with value := some value })

/-- Give a shell other arguments. -/
def setArguments (sh : State) (arguments : List String) : State :=
  { sh with arguments := arguments, optionSpot := .first }

/-- Give variables values, up to the first one whose value stays. -/
def assignAll (sh : State) (values : List (String × String)) : State :=
  values.foldl (fun sh (name, value) =>
    if sh.stop.isSome then sh else sh.assign name value) sh

/-- The separators at which the values of expansions are cut. -/
def separators (sh : State) : List Char :=
  ((sh.value? "IFS").getD usualSeparators).toList

/-- The paths at which a name without slashes is looked for. -/
def placesOf (sh : State) (name : String) : List String :=
  ((sh.valueOf "PATH").splitOn ":").map fun directory => Machine.pathIn directory name

/-- The path of the script of this name, and the streams with the script opened as stream `10`, or
why it cannot be opened.  A name without slashes is looked for in the directories of the search
path. -/
def openScript (sh : State) (name : String) : Except String (String × Streams) :=
  if name.toList.contains '/' then
    match sh.streams.openInput 10 name with
    | .ok opened => .ok (name, opened)
    | .error message => .error ("cannot open " ++ name ++ ": " ++ message)
  else
    let opened := (sh.placesOf name).findSome? fun path =>
      if sh.streams.host.isFile (decode path) then
        (sh.streams.openInput 10 path).toOption.map fun opened => (path, opened)
      else none
    match opened with
    | some opened => .ok opened
    | none => .error (name ++ ": not found")

/-- The path of the program with this name, and the program, or why there is none.  A name without
slashes is looked for in the directories of the search path; what may not be run is passed by. -/
def program (sh : State) (name : String) : Except Machine.FileCause (String × String) :=
  let host := sh.streams.host
  if name.toList.contains '/' then
    (host.programAt (decode name)).map fun program => (name, program)
  else
    (sh.placesOf name).foldr (fun path others =>
      match host.programAt (decode path), others with
      | .ok program, _ => .ok (path, program)
      | .error cause, .error .notFound =>
          .error (if cause = .notADirectory then .notFound else cause)
      | .error _, others => others) (.error .notFound)

/-- Whether arguments, or variables that are given to programs, are too long for a program. -/
def exceeds (sh : State) (arguments : List String) : Bool :=
  let given := sh.bindings.any fun (name, v) =>
    v.exported && v.value.any fun value =>
      Machine.maxArgumentBytes < name.length + 1 + value.length
  given || arguments.any fun a => Machine.maxArgumentBytes < a.length

/-- The value of a parameter, if it has one. -/
def parameter? (sh : State) (name : String) : Option String :=
  if name == "#" then some (toString sh.arguments.length)
  else if name == "?" then some (toString sh.status)
  else if name == "$" then some (toString sh.number)
  else if name == "!" then sh.lastJob.map toString
  else if name == "-" then some (String.ofList sh.switches)
  else if name == "0" then some sh.name
  else if name == "@" || name == "*" then
    let between := match sh.value? "IFS" with
      | some ifs => String.ofList (ifs.toList.take 1)
      | none => " "
    some (between.intercalate sh.arguments)
  else if name.toList.head?.any Char.isDigit then
    sh.arguments[numberIn 10 name.toList - 1]?
  else sh.value? name

end State

end FieldPattern.Shell
