import FieldPattern.Shell.Stream
import FieldPattern.Shell.Tool.Quoted

/-! # Tools

A tool is a small program that a script uses: it reads its input, or the files that its
arguments name, and writes to its output.  `Tool` is what a tool does with its arguments, its
input and the machine. -/

namespace FieldPattern.Shell

open Machine (Host)

/-- What a tool is given. -/
structure Job where
  /-- The name by which the tool has been called. -/
  name : String
  arguments : List String
  /-- The streams from which it reads, and the machine. -/
  streams : Streams

/-- What a tool leaves behind. -/
structure ToolResult where
  /-- What it has written, in order, each text with its stream. -/
  written : List (Nat × List Char)
  status : Nat
  /-- The tool has read its input to the end. -/
  reads : Bool
  host : Host

namespace ToolResult

/-- What it has written to a stream. -/
def textOf (r : ToolResult) (stream : Nat) : List Char :=
  (r.written.filter fun w => w.1 == stream).flatMap Prod.snd

end ToolResult

/-- A tool. -/
abbrev Tool := Job → ToolResult

namespace Job

/-- The machine on which the tool runs. -/
def host (j : Job) : Host := j.streams.host

/-- What is left to read of the input. -/
def input (j : Job) : List Char := j.streams.left 0

/-- The tool writes this, and has not read its input. -/
def writes (j : Job) (output : List Char) : ToolResult := ⟨[(1, output)], 0, false, j.host⟩

/-- The tool writes this after it has read its input. -/
def filters (j : Job) (output : List Char) : ToolResult := ⟨[(1, output)], 0, true, j.host⟩

/-- The tool writes this after its reports. -/
def shows (j : Job) (output : List Char) (errors : String) (status : Nat) (reads : Bool) :
    ToolResult :=
  ⟨[(2, errors.toList), (1, output)], status, reads, j.host⟩

/-- The tool only reports. -/
def fails (j : Job) (message : String) (status : Nat) : ToolResult :=
  j.shows [] (j.name ++ ": " ++ message ++ "\n") status false

/-- The tool only reports that it has been called in a wrong way. -/
def misused (j : Job) (message : String) (status : Nat) : ToolResult :=
  j.fails (message ++ "\nTry '" ++ j.name ++ " --help' for more information.") status

/-- The stream that a path stands for. -/
def streamOf? (j : Job) (path : String) : Option Nat :=
  if path == "-" then some 0
  else (j.host.find (decode path)).toOption.bind fun place => Machine.streamAt? place.location

/-- The content of a file, or why it cannot be read. -/
def content (j : Job) (path : String) : Except Machine.FileCause (List Char) :=
  match j.streamOf? path with
  | some 0 =>
      match j.streams.unreadable? 0 with
      | some cause => .error cause
      | none => .ok j.input
  | some k =>
      match j.streams.whole? k with
      | some s => .ok s
      | none => .error .notFound
  | none => (j.host.readFile (decode path)).map fun bytes => bytes.toList.map charOf

/-- Whether the output has been closed. -/
def isMute (j : Job) : Bool := (j.streams.channel? 1).isNone

/-- Whether one of these files is the input. -/
def readsInput (j : Job) (paths : List String) : Bool :=
  paths.any fun path => j.streamOf? path == some 0

/-- The contents of files in their order, or why they cannot be read. The input is there only
once. -/
def contentsOf (j : Job) : List String → List (String × Except Machine.FileCause (List Char))
  | [] => []
  | path :: rest =>
      let after := if j.readsInput [path] then { j with streams := j.streams.skipLeft 0 } else j
      (path, j.content path) :: after.contentsOf rest

/-- How a tool reports that a file cannot be read: its path, and the cause. -/
abbrev Complaint := String → Machine.FileCause → String

/-- The cause for which a file cannot be read, in words. -/
def causeWords (cause : Machine.FileCause) : String :=
  Streams.causeText "No such file or directory" cause

/-- A report that names the file before the cause. -/
def plainComplaint : Complaint := fun path cause =>
  Tool.Quoted.word false path ++ ": " ++ causeWords cause

/-- The contents of files, the input if there are none, and the reports on those that cannot be
read. -/
def contents (j : Job) (complaint : Complaint) (paths : List String) :
    List (String × List Char) × String :=
  let paths := if paths.isEmpty then ["-"] else paths
  (j.contentsOf paths).foldl (fun (read, errors) (path, content) =>
    match content with
    | .ok s => (read ++ [(path, s)], errors)
    | .error cause =>
        (read, errors ++ j.name ++ ": " ++ complaint path cause ++ "\n")) ([], "")

/-- Write what becomes of the contents of files, taken together. -/
def mapContents (j : Job) (complaint : Complaint) (paths : List String)
    (f : List Char → List Char) : ToolResult :=
  let (read, errors) := j.contents complaint paths
  let status := if errors.isEmpty then 0 else 1
  j.shows (f (read.flatMap Prod.snd)) errors status (paths.isEmpty || j.readsInput paths)

end Job

/-- What is wrong with options. -/
inductive OptionFault where
  /-- A letter that is no option. -/
  | unknown (letter : Char)
  /-- A letter without its value. -/
  | noValue (letter : Char)
  /-- An option that is no letter but a name. -/
  | named (argument : String)
deriving DecidableEq, Repr

/-- The arguments of a tool: its options, and the others. -/
structure Options where
  /-- The option letters, each with its value if it takes one. -/
  letters : List (Char × String)
  others : List String
  fault : Option OptionFault
deriving Repr

namespace Options

/-- The letters of one argument, and what is wrong with them if the argument is the last one. -/
def ofLetters (known valued : List Char) : List Char → List (Char × String) × Option OptionFault
  | [] => ([], none)
  | c :: rest =>
      if valued.contains c then
        if rest.isEmpty then ([], some (.noValue c)) else ([(c, String.ofList rest)], none)
      else if known.contains c then
        let (letters, fault) := ofLetters known valued rest
        ((c, "") :: letters, fault)
      else ([], some (.unknown c))

/-- Read the options before and between the other arguments; `known` are the letters without a
value, `valued` those with one. -/
def read (known valued : List Char) : List String → Options
  | [] => ⟨[], [], none⟩
  | a :: rest =>
      match a.toList with
      | '-' :: '-' :: [] => ⟨[], rest, none⟩
      | '-' :: '-' :: _ => ⟨[], rest, some (.named a)⟩
      | '-' :: c :: cs =>
          match ofLetters known valued (c :: cs), rest with
          | (letters, none), rest =>
              let o := read known valued rest
              { o with letters := letters ++ o.letters }
          | (letters, some (.noValue c)), value :: rest =>
              let o := read known valued rest
              { o with letters := letters ++ (c, value) :: o.letters }
          | (letters, some fault), rest => ⟨letters, rest, some fault⟩
      | _ =>
          let o := read known valued rest
          { o with others := a :: o.others }

/-- Read the options before the other arguments. -/
def readFirst (known valued : List Char) (arguments : List String) : Options :=
  let isOption (a : String) : Bool := 1 < a.length && a.startsWith "-"
  match arguments with
  | [] => ⟨[], [], none⟩
  | a :: rest =>
      if a == "--" then ⟨[], rest, none⟩
      else if !isOption a then ⟨[], a :: rest, none⟩
      else
        match ofLetters known valued (a.toList.drop 1), rest with
        | (letters, none), rest =>
            let o := readFirst known valued rest
            { o with letters := letters ++ o.letters }
        | (letters, some (.noValue c)), value :: rest =>
            let o := readFirst known valued rest
            { o with letters := letters ++ (c, value) :: o.letters }
        | (letters, some fault), rest => ⟨letters, rest, some fault⟩

/-- Whether a letter is among the options. -/
def has (o : Options) (c : Char) : Bool := o.letters.any fun p => p.1 == c

/-- The last value of a letter. -/
def value? (o : Options) (c : Char) : Option String :=
  (o.letters.filter fun p => p.1 == c).getLast?.map Prod.snd

end Options

/-- What is wrong with options, in the words of a tool. -/
def OptionFault.message : OptionFault → String
  | .unknown c => "invalid option -- '" ++ String.singleton c ++ "'"
  | .noValue c => "option requires an argument -- '" ++ String.singleton c ++ "'"
  | .named a => "unrecognized option '" ++ a ++ "'"

/-- Go on with the options and the other arguments of a tool; wrong options are reported with this
status. -/
def Job.withOptions (j : Job) (known valued : String) (status : Nat)
    (go : Options → ToolResult) : ToolResult :=
  let o := Options.read known.toList valued.toList j.arguments
  match o.fault with
  | some fault => j.misused fault.message status
  | none => go o

end FieldPattern.Shell
