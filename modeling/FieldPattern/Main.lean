import FieldPattern.CommandLine.Run

/-! # The program

The program takes what its arguments name from the disk, answers the call
(`CommandLine.call`), shows the answer, and writes the files that the answer has changed.
Everything between reading and writing is a function. -/

namespace FieldPattern.Program

open FieldPattern.CommandLine
open FieldPattern.Machine (Disk Host Location Node)

/-- The location of a path. -/
def locatePath (home : Location) (path : String) : Location :=
  Machine.locate (if Machine.Path.isAbsolute path then [] else home) (Machine.Path.names path)

/-- Take a file, if it is one, into the disk of the machine. -/
def takeFile (d : Disk) (l : Location) (path : String) : IO Disk := do
  try
    return d.make l (.file (← IO.FS.readBinFile path))
  catch _ => return d

/-- Take what stands at a path into the disk of the machine: a file, or a directory and the files
in it. -/
def takePath (home : Location) (d : Disk) (path : String) : IO Disk := do
  let l := locatePath home path
  if path.isEmpty then return d
  try
    let entries ← (← IO.FS.realPath path).readDir
    entries.foldlM (fun d entry =>
      takeFile d (l ++ [entry.fileName]) (Machine.Path.join path entry.fileName))
      (d.make l .directory)
  catch _ => takeFile d l path

/-- Take what the arguments name, and the directories around it. -/
def takeAll (home : Location) (arguments : List String) : IO Disk := do
  let d := Machine.Standard.disk.make home .directory
  (arguments.filter fun a => !a.startsWith "-").foldlM (fun d path => do
    let d ← match Machine.Path.parent? path with
      | some parent => takePath home d parent
      | none => pure d
    takePath home d path) d

/-- Write a file in one step, through a temporary file next to it. -/
def writeFile (path temporary : String) (content : ByteArray) : IO Unit := do
  IO.FS.writeBinFile temporary content
  IO.FS.rename temporary path

/-- Whether a node is a file with this content. -/
def holds (content : ByteArray) : Option Node → Bool
  | some (.file old) => old.data == content.data
  | _ => false

/-- Write the files that differ between two disks. -/
def writeChanges (before after : Disk) (temporaryName : String) : IO Unit :=
  after.nodes.forM fun (l, node) =>
    match node with
    | .file content =>
        if holds content (before.node? l) then pure ()
        else
          let directory := "/" ++ "/".intercalate l.dropLast
          writeFile ("/" ++ "/".intercalate l) (Machine.Path.join directory temporaryName) content
    | _ => pure ()

/-- Whether colours are wanted. -/
def wantsColours : IO Bool := do
  if (← IO.getEnv "CLICOLOR_FORCE").any (· != "0") then return true
  if (← IO.getEnv "NO_COLOR").isSome || (← IO.getEnv "CLICOLOR") == some "0" then return false
  (← IO.getStdout).isTty

/-- Answer a call on this computer. -/
def answer (arguments : List String) : IO UInt32 := do
  let homePath := (← IO.currentDir).toString
  let home := Machine.Path.names homePath
  let disk ← takeAll home arguments
  let temporaryName := ".tmp" ++ toString (← IO.rand 100000 999999)
  let (answer, after) := call ⟨disk, home, homePath, temporaryName⟩ arguments
  writeChanges disk after.disk temporaryName
  let colours ← wantsColours
  IO.print (answer.outputText colours)
  IO.eprint (answer.errorText colours)
  return UInt32.ofNat answer.status

end FieldPattern.Program

/-- The program. -/
def main (arguments : List String) : IO UInt32 := FieldPattern.Program.answer arguments
