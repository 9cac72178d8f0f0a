import FieldPattern.Shell.Number

/-! # Signals

A signal has a number and a name, and words that tell of a program which it has ended.  The
number `0` stands for the end of a shell. -/

namespace FieldPattern.Shell.Signal

/-- The signals by number, from `1` on. -/
def names : List String :=
  ["HUP", "INT", "QUIT", "ILL", "TRAP", "ABRT", "BUS", "FPE", "KILL", "USR1", "SEGV", "USR2",
    "PIPE", "ALRM", "TERM", "16", "CHLD", "CONT", "STOP", "TSTP", "TTIN", "TTOU", "URG",
    "XCPU", "XFSZ", "VTALRM", "PROF", "WINCH", "IO", "PWR", "SYS", "32", "33", "RTMIN"]
    ++ ((List.range 15).map fun k => "RTMIN+" ++ toString (k + 1))
    ++ ((List.range 14).map fun k => "RTMAX-" ++ toString (14 - k)) ++ ["RTMAX"]

/-- The number of a signal, by name or number. -/
def ofText? (s : String) : Option Nat :=
  match Integer.digits? s with
  | some n => if n < 65 then some n else none
  | none =>
      let name := s.map Char.toUpper
      let name := if name.startsWith "SIG" then String.ofList (name.toList.drop 3) else name
      if name == "EXIT" then some 0 else (names.idxOf? name).map (· + 1)

/-- The name of a signal. -/
def name (n : Nat) : String := if n = 0 then "EXIT" else names.getD (n - 1) (toString n)

/-- Whether a signal that is not caught ends a program. -/
def isDeadly (n : Nat) : Bool := !([0, 17, 18, 19, 20, 21, 22, 23, 28].contains n)

/-- The signals with words of their own. -/
def words : List (Nat × String) := [
  (1, "Hangup"), (2, "Interrupt"), (3, "Quit"), (4, "Illegal instruction"),
  (5, "Trace/breakpoint trap"), (6, "Aborted"), (7, "Bus error"), (8, "Floating point exception"),
  (9, "Killed"), (10, "User defined signal 1"), (11, "Segmentation fault"),
  (12, "User defined signal 2"), (13, "Broken pipe"), (14, "Alarm clock"), (15, "Terminated"),
  (16, "Stack fault"), (24, "CPU time limit exceeded"), (25, "File size limit exceeded"),
  (26, "Virtual timer expired"), (27, "Profiling timer expired"), (29, "I/O possible"),
  (30, "Power failure"), (31, "Bad system call")]

/-- The words for a program that a signal has ended. -/
def spell (n : Nat) : String :=
  match words.lookup n with
  | some text => text
  | none =>
      if 34 ≤ n then "Real-time signal " ++ toString (n - 34)
      else "Unknown signal " ++ toString n

/-- What a shell says about a program that a signal has ended: nothing if the program was
interrupted, or if nobody read what it wrote. -/
def notice (n : Nat) : String := if n = 2 ∨ n = 13 then "" else spell n ++ "\n"

end FieldPattern.Shell.Signal
