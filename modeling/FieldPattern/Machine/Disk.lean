import FieldPattern.Machine.OsError
import FieldPattern.Machine.Path
import FieldPattern.Text.Quoted
import FieldPattern.Text.Utf8

/-! # Files, directories and links

A disk holds files, directories and links.  Each has a location: the names that lead to it from
the root directory.  A link holds a path, seen from the directory in which the link stands.
Some files are devices, which do not keep what is written to them, and some are programs, which
can be run.  The disk also keeps which nodes have been changed later than others.

A machine is a disk together with the working directory, from which paths are seen, and with
the name that the next temporary file gets.

* `find` follows a path to its end.  Links on the way are followed, at most `maxLinks` of them;
  a link at the end is followed if that is asked for.
* `readText` reads a file as UTF-8.
* `save` replaces a file in one step: it writes a temporary file next to it and gives that the
  name.  A link with the name is replaced itself.  Either the file holds the new content or the
  disk stays as it was.

`FileFault` gives the cause when one of these cannot be done. -/

namespace FieldPattern.Machine

/-- A file that keeps nothing. -/
inductive Device where
  /-- Empty, and what is written is lost. -/
  | null
  /-- Zeros without end, and what is written is lost. -/
  | zeros
  /-- Zeros without end, and there is no room for anything. -/
  | full
  /-- Bytes without order and end, and what is written is lost. -/
  | noise
  /-- The terminal, which cannot be opened where there is none. -/
  | terminal
deriving DecidableEq, Repr

/-- What stands at a location. -/
inductive Node where
  | file (content : ByteArray)
  | directory
  | link (target : String)
  | device (d : Device)
  /-- The program of this name. -/
  | program (name : String)

/-- The names that lead from the root directory to a node. -/
abbrev Location := List String

/-- The location of names, seen from a directory, where no link is on the way. -/
def locate (home : Location) (names : List String) : Location :=
  names.foldl (fun l name =>
    if name = "." then l else if name = ".." then l.dropLast else l ++ [name]) home

/-- The stream that a name in the directory of streams stands for. -/
def streamAt? : Location → Option Nat
  | ["proc", "self", "fd", name] => name.toNat?.filter fun k => toString k == name
  | _ => none

/-- Files, directories and links with their locations.  The root directory is not listed.  Time is
counted in pauses: nothing that happens between two pauses is later than the rest. -/
structure Disk where
  nodes : List (Location × Node)
  /-- The times at which nodes have been changed.  A node without one is older than all others. -/
  changes : List (Location × Nat) := []
  /-- The number of pauses until now. -/
  now : Nat := 0
deriving Inhabited

/-- A disk, the working directory, and the name of the next temporary file. -/
structure Host where
  disk : Disk
  /-- The location of the working directory. -/
  home : Location
  /-- The path of the working directory as it is reported. -/
  homePath : String
  temporaryName : String

/-- Why something cannot be done with a file. -/
inductive FileCause where
  | notFound
  | noDevice
  | closed
  /-- An argument for a program is too long. -/
  | argumentsTooLong
  /-- What is there may not be run. -/
  | denied
  | notADirectory
  | isADirectory
  | busy
  | invalidArgument
  | nameTooLong
  | tooManyLinks
  | nulInName
  | notUtf8
deriving DecidableEq, Repr

namespace FileCause

/-- The error number, if the operating system is the one that refuses. -/
def code? : FileCause → Option Nat
  | notFound => some 2
  | noDevice => some 6
  | closed => some 9
  | argumentsTooLong => some 7
  | denied => some 13
  | busy => some 16
  | notADirectory => some 20
  | isADirectory => some 21
  | invalidArgument => some 22
  | nameTooLong => some 36
  | tooManyLinks => some 40
  | nulInName | notUtf8 => none

/-- The cause without its number. -/
def words (c : FileCause) : String :=
  match c with
  | nulInName => "file name contained an unexpected NUL byte"
  | notUtf8 => "stream did not contain valid UTF-8"
  | c => osErrorWords (c.code?.getD 0)

/-- The cause in words. -/
def message (c : FileCause) : String :=
  match c.code? with
  | some code => osErrorMessage code
  | none => c.words

end FileCause

/-- A cause, and the path of the temporary file if it could not be made. -/
structure FileFault where
  cause : FileCause
  temporary : Option String
deriving DecidableEq, Repr

namespace FileFault

/-- The fault in words. -/
def message (f : FileFault) : String :=
  match f.temporary with
  | none => f.cause.message
  | some path => f.cause.message ++ " at path " ++ Text.quoted path

end FileFault

/-- The number of bytes that a name may have. -/
def maxNameBytes : Nat := 255

/-- The number of bytes that a path may have. -/
def maxPathBytes : Nat := 4095

/-- The number of bytes that an argument for a program may have. -/
def maxArgumentBytes : Nat := 131071

/-- The number of links that may be followed on the way to a node. -/
def maxLinks : Nat := 40

namespace Device

/-- How much is shown of a content without end. -/
def shownBytes : Nat := 65536

/-- The bytes that follow a state of the generator of `noise`. -/
def noiseFrom : Nat → UInt32 → ByteArray → ByteArray
  | 0, _, bytes => bytes
  | n + 1, state, bytes =>
      let state := state * 1664525 + 1013904223
      noiseFrom n state (bytes.push (state >>> 24).toUInt8)

/-- What can be read of a device. -/
def content : Device → Except FileCause ByteArray
  | null => .ok ByteArray.empty
  | zeros | full => .ok ⟨(List.replicate shownBytes 0).toArray⟩
  | noise => .ok (noiseFrom shownBytes 1 ByteArray.empty)
  | terminal => .error .noDevice

end Device

/-- The bytes of a program, of which only the first ones are shown: they are no text. -/
def programBytes : ByteArray := ⟨#[0x7F, 0x45, 0x4C, 0x46, 2, 1, 1, 0, 0xFF]⟩

namespace Disk

/-- What stands at a location. -/
def node? (d : Disk) (l : Location) : Option Node :=
  if l = [] then some .directory else d.nodes.lookup l

/-- Let the node at a location be changed now. -/
def stamp (d : Disk) (l : Location) : Disk :=
  if d.changes.lookup l = some d.now then d
  else { d with changes := (l, d.now) :: d.changes.filter fun c => c.1 != l }

/-- Whether the node at one location has been changed later than the one at another. -/
def isNewer (d : Disk) (l m : Location) : Bool :=
  match d.changes.lookup l, d.changes.lookup m with
  | some a, some b => b < a
  | a, b => a.isSome && b.isNone

/-- Let time pass. -/
def pause (d : Disk) : Disk := { d with now := d.now + 1 }

/-- Put a node at a location, in the place of one that is there already. -/
def place (d : Disk) (l : Location) (n : Node) : Disk :=
  let nodes := if d.nodes.any fun p => p.1 == l then
      d.nodes.map fun p => if p.1 = l then (l, n) else p
    else d.nodes ++ [(l, n)]
  { d with nodes := nodes }.stamp l

/-- Put a node at a location in a directory, which changes if it gets a new name. -/
def put (d : Disk) (l : Location) (n : Node) : Disk :=
  (if (d.node? l).isSome then d else d.stamp l.dropLast).place l n

/-- The disk without what stands at a location and below it. -/
def without (d : Disk) (l : Location) : Disk :=
  { d with
    nodes := d.nodes.filter fun p => !l.isPrefixOf p.1
    changes := d.changes.filter fun c => !l.isPrefixOf c.1 }.stamp l.dropLast

/-- The disk with what stands at one location and below it standing at another as well. -/
def copied (d : Disk) (source target : Location) : Disk :=
  (d.nodes.filter fun p => source.isPrefixOf p.1).foldl (fun d (l, n) =>
    d.put (target ++ l.drop source.length) n) d

/-- The disk with what stands at one location and below it standing at another instead, as old as
before. -/
def moved (d : Disk) (source target : Location) : Disk :=
  let after := (d.copied source target).without source
  let kept := d.changes.filterMap fun (l, time) =>
    if source.isPrefixOf l then some (target ++ l.drop source.length, time) else none
  { after with changes := kept ++ after.changes.filter fun c => !target.isPrefixOf c.1 }

/-- Put a node at a location and make the directories above it. -/
def make (d : Disk) (l : Location) (n : Node) : Disk :=
  let above := (List.range l.length).map l.take
  let d := above.foldl (fun d a => if (d.node? a).isSome then d else d.place a .directory) d
  d.place l n

/-- The names in a directory, each with what stands there. -/
def children (d : Disk) (l : Location) : List (String × Node) :=
  d.nodes.filterMap fun (location, n) =>
    match location.getLast? with
    | some name => if location = l ++ [name] then some (name, n) else none
    | none => none

/-- Where a path ends.  The directory above the location is there; the node may not be. -/
structure Place where
  location : Location
  node : Option Node

/-- Follow names from the directory `here`.  `follow` says whether a link at the end is
followed, `directory` whether the end has to be a directory if it is there. -/
def walk (d : Disk) (follow directory : Bool) (links : Nat) (here : Location)
    (names : List String) : Except FileCause Place :=
  match names with
  | [] => .ok ⟨here, d.node? here⟩
  | name :: rest =>
      if name = "." then d.walk follow directory links here rest
      else if name = ".." then d.walk follow directory links here.dropLast rest
      else if maxNameBytes < name.utf8ByteSize then .error .nameTooLong
      else
        let there := here ++ [name]
        let ends := rest.isEmpty && !directory
        match d.node? there with
        | none => if rest.isEmpty then .ok ⟨there, none⟩ else .error .notFound
        | some .directory => d.walk follow directory links there rest
        | some (.link target) =>
            if ends && !follow then .ok ⟨there, some (.link target)⟩
            else
              match links with
              | 0 => .error .tooManyLinks
              | links + 1 =>
                  d.walk follow (directory || rest.isEmpty && Path.endsWithSlash target) links
                    (if Path.isAbsolute target then [] else here) (Path.names target ++ rest)
        | some n => if ends then .ok ⟨there, some n⟩ else .error .notADirectory
termination_by (links, names.length)

end Disk

namespace Host

/-- The location from which a path is seen. -/
def origin (h : Host) (path : String) : Location := if Path.isAbsolute path then [] else h.home

/-- Refuse a path that is empty or too long. -/
def checkPath (path : String) : Except FileCause Unit :=
  if path.isEmpty then .error .notFound
  else if maxPathBytes < path.utf8ByteSize then .error .nameTooLong
  else .ok ()

/-- Refuse a path with a NUL in it. -/
def checkNul (path : String) : Except FileCause Unit :=
  if path.toList.contains '\x00' then .error .nulInName else .ok ()

/-- Follow a path to its end, through a link at the end as well. -/
def find (h : Host) (path : String) : Except FileCause Disk.Place := do
  checkNul path
  checkPath path
  h.disk.walk true (Path.endsWithSlash path) maxLinks (h.origin path) (Path.names path)

/-- What stands at the end of a path. -/
def node? (h : Host) (path : String) : Option Node :=
  match h.find path with
  | .ok place => place.node
  | .error _ => none

/-- Whether something stands at the end of a path. -/
def pathExists (h : Host) (path : String) : Bool := (h.node? path).isSome

/-- Whether a file stands at the end of a path. -/
def isFile (h : Host) (path : String) : Bool :=
  match h.node? path with
  | some (.file _) | some (.program _) => true
  | _ => false

/-- The content of the file at the end of a path. -/
def readFile (h : Host) (path : String) : Except FileCause ByteArray := do
  match (← h.find path).node with
  | some (.file content) => .ok content
  | some (.device d) => d.content
  | some (.program _) => .ok programBytes
  | some .directory => .error .isADirectory
  | some (.link _) => .error .tooManyLinks
  | none => .error .notFound

/-- The text of the file at the end of a path. -/
def readText (h : Host) (path : String) : Except FileCause String := do
  match Text.strict? (← h.readFile path) with
  | some text => .ok text
  | none => .error .notUtf8

/-- The names in the directory at the end of a path, each with what stands there; none if it
is no directory. -/
def list (h : Host) (path : String) : List (String × Node) :=
  match h.find path with
  | .ok ⟨location, some .directory⟩ => h.disk.children location
  | _ => []

/-- The location of the directory that names lead to. -/
def findDirectory (h : Host) (path : String) (names : List String) : Except FileCause Location := do
  match ← h.disk.walk true true maxLinks (h.origin path) names with
  | ⟨location, some .directory⟩ => .ok location
  | ⟨_, some _⟩ => .error .notADirectory
  | ⟨_, none⟩ => .error .notFound

/-- The path of the directory in which a temporary file for `path` is made. -/
def workshop (path : String) : String :=
  match Path.parent? path with
  | none => "."
  | some parent => if parent.isEmpty then "." else parent

/-- Make a temporary file for `path`, next to it. -/
def makeTemporary (h : Host) (path : String) : Except FileFault Unit :=
  let temporary := Path.join (Path.join h.homePath (workshop path)) h.temporaryName
  let made : Except FileCause Unit := do
    checkNul (workshop path)
    checkPath temporary
    let _ ← h.findDirectory (workshop path) (Path.names (workshop path))
    return ()
  made.mapError fun cause => ⟨cause, some temporary⟩

/-- The location at which a file gets the name `path`. -/
def destination (h : Host) (path : String) : Except FileCause Location := do
  if path.toList.contains '\x00' then .error .invalidArgument
  checkPath path
  let names := Path.names path
  match names.getLast? with
  | none => .error .busy
  | some name =>
      let directory ← h.findDirectory path names.dropLast
      if name = "." ∨ name = ".." then .error .busy
      else if maxNameBytes < name.utf8ByteSize then .error .nameTooLong
      else if Path.endsWithSlash path then .error .notADirectory
      else
        match h.disk.node? (directory ++ [name]) with
        | some .directory => .error .isADirectory
        | _ => .ok (directory ++ [name])

/-- Replace the file at `path`, or make it. -/
def save (h : Host) (path : String) (content : ByteArray) : Except FileFault Host := do
  h.makeTemporary path
  let location ← (h.destination path).mapError fun cause => ⟨cause, none⟩
  return { h with disk := h.disk.put location (.file content) }

end Host

end FieldPattern.Machine
