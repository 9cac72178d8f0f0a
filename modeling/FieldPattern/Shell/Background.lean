import FieldPattern.Shell.Number
import FieldPattern.Shell.Signal

/-! # Jobs in the background

What a shell runs in the background is a job (`Background`).  It has a number among the programs
being run, and a place in the table of the shell (`Jobs`), by which `%1` names it.

By the time a shell goes on, a job has come to its end; but the shell learns of this only when it
waits for it, and up to then a signal can still end the job.  A job that has been waited for stays
in its place until something else is started. -/

namespace FieldPattern.Shell

/-- Something that has been run in the background. -/
structure Background where
  number : Nat
  status : Nat
  /-- The signal that has ended it. -/
  signal : Option Nat
  /-- The shell knows that it has ended. -/
  known : Bool
  /-- The shell has waited for it. -/
  waited : Bool
deriving DecidableEq, Repr

namespace Background

/-- The job, ended by a signal if this is a deadly one. -/
def struck (b : Background) (signal : Nat) : Background :=
  if Signal.isDeadly signal then
    { b with signal := some signal, status := 128 + signal, known := false }
  else b

/-- How the job is, as far as the shell knows. -/
def spell (b : Background) : String :=
  match b.known, b.signal with
  | false, _ => "Running"
  | true, some signal => Signal.spell signal
  | true, none => if b.status = 0 then "Done" else "Done(" ++ toString b.status ++ ")"

end Background

/-- The jobs of a shell by place, from place `1` on; a place may be free. -/
abbrev Jobs := List (Option Background)

namespace Jobs

/-- Put a job into the first place that is free or whose job has been waited for. -/
def insert (job : Background) : Jobs → Jobs
  | [] => [some job]
  | none :: rest => some job :: rest
  | some other :: rest =>
      if other.waited then some job :: rest else some other :: insert job rest

/-- Free the place that a program in the foreground takes, and gives back at its end.  After such
a program the shell knows which jobs have ended. -/
def pass (jobs : Jobs) : Jobs :=
  let rec free : Jobs → Jobs
    | [] => []
    | none :: rest => none :: rest
    | some job :: rest => if job.waited then none :: rest else some job :: free rest
  (free jobs).map fun job => job.map fun b => { b with known := true }

/-- The jobs with their places, the newest one first. -/
def newest (jobs : Jobs) : List (Nat × Background) :=
  let placed := jobs.zipIdx.filterMap fun (job, k) => job.map fun b => (k + 1, b)
  placed.mergeSort fun a b => b.2.number ≤ a.2.number

/-- Change the job at a place, or free the place. -/
def change (jobs : Jobs) (place : Nat) (f : Background → Option Background) : Jobs :=
  jobs.modify (place - 1) fun job => job.bind f

/-- The job with a number among the programs. -/
def numbered? (jobs : Jobs) (number : Nat) : Option (Nat × Background) :=
  jobs.newest.find? fun b => b.2.number = number

/-- The job that a name stands for, or why there is none. -/
def named (jobs : Jobs) (name : String) : Except String (Nat × Background) :=
  let orMissing (message : String) : Option (Nat × Background) → Except String (Nat × Background)
    | some found => .ok found
    | none => .error message
  if name == "%" || name == "%%" || name == "%+" then
    orMissing "No current job" jobs.newest.head?
  else if name == "%-" then orMissing "No previous job" jobs.newest[1]?
  else
    let place? := if name.startsWith "%" then Integer.digits? (String.ofList (name.toList.drop 1))
      else none
    orMissing ("No such job: " ++ name) (place?.bind fun k => jobs.newest.lookup k |>.map (k, ·))

/-- A line on a job; `full` lines show its number among the programs. -/
def line (jobs : Jobs) (full : Bool) (place : Nat) (b : Background) : String :=
  let mark := match jobs.newest.map Prod.fst with
    | first :: others =>
        if first = place then "+" else if others.head? = some place then "-" else " "
    | [] => " "
  let start := "[" ++ toString place ++ "] " ++ mark ++ " "
    ++ (if full then toString b.number ++ " " else "") ++ b.spell
  start ++ String.ofList (List.replicate (33 - start.length) ' ') ++ "\n"

end Jobs

end FieldPattern.Shell
