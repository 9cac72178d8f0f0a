import FieldPattern.Machine.Disk

/-! # Finding programs

A program is named by its path, or by a bare name without slashes.  A bare name is looked for in
the directories of a search path, from the first one on.

`programAt` gives the program at a path, and `programNamed` the one with a bare name.  Otherwise
they give the cause for which nothing can be run: there is nothing, or what is there is no
program. -/

namespace FieldPattern.Machine

/-- The directories in which programs usually stand. -/
def searchPath : List String :=
  ["/usr/local/sbin", "/usr/local/bin", "/usr/sbin", "/usr/bin", "/sbin", "/bin"]

/-- The search path as a text. -/
def searchPathText : String := ":".intercalate searchPath

/-- The path of a bare name in a directory; no name stands for the working directory. -/
def pathIn (directory name : String) : String :=
  if directory.isEmpty then name else directory ++ "/" ++ name

namespace Host

/-- The program at a path. -/
def programAt (h : Host) (path : String) : Except FileCause String := do
  match (← h.find path).node with
  | some (.program name) => .ok name
  | some _ => .error .denied
  | none => .error .notFound

/-- The program with a bare name in directories.  One that cannot be entered is passed by, and so
is what is no program; the last one of these is reported if there is no program at all. -/
def programNamed (h : Host) (name : String) : List String → Except FileCause String
  | [] => .error .notFound
  | directory :: rest =>
      match h.programAt (pathIn directory name) with
      | .ok program => .ok program
      | .error .denied =>
          match h.programNamed name rest with
          | .error .notFound => .error .denied
          | found => found
      | .error .notFound | .error .notADirectory => h.programNamed name rest
      | .error cause => .error cause

/-- The program that a name or a path stands for. -/
def program (h : Host) (name : String) : Except FileCause String :=
  if name.isEmpty then .error .notFound
  else if name.toList.contains '/' then h.programAt name
  else h.programNamed name searchPath

end Host

end FieldPattern.Machine
