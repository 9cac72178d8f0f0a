import FieldPattern.Record.File
import FieldPattern.Text.Quoted

/-! # Stores of named records

A store keeps records under names in one directory, its root.  The record with name `n` is in
the file `fileName n`, which is `n` without blanks at its ends and with `.json` at the end.

* `path` gives the path of a name, and rejects a name whose file would have no name of its own
  or would not stand in the root.
* `list` gives the names of the files in the root that end in `.json`, in ascending order; a
  root that is not there holds none.
* `save` takes ready records only, so that what a store holds can be used.  A record that is
  refused leaves the disk as it was.
* `load` reads a record back. -/

namespace FieldPattern

open Machine (Host Node Path.join Path.hasExtension)

/-- A directory of records. -/
structure Store where
  root : String
deriving DecidableEq, Repr

/-- Why a name is rejected. -/
inductive NameFault where
  | blank
  | separator
deriving DecidableEq, Repr

namespace NameFault

/-- The fault in words. -/
def message : NameFault → String
  | blank => "name must not be empty"
  | separator => "name must not contain path separators"

end NameFault

/-- Why a store does not read or save a record. -/
inductive StoreError where
  | rejected (name : String) (fault : NameFault)
  | unready (path : String) (reason : Unready)
  | record (error : RecordError)
deriving DecidableEq

namespace StoreError

/-- The cause of the error in words, if it has one. -/
def cause : StoreError → Option String
  | rejected _ _ => none
  | unready _ reason => some reason.message
  | record error => some error.cause

/-- The error in words. -/
def message : StoreError → String
  | rejected name fault => "invalid config name " ++ Text.quoted name ++ ": " ++ fault.message
  | unready path reason => "refusing to save " ++ path ++ ": " ++ reason.message
  | record error => error.message

end StoreError

namespace Store

/-- The ending of the names of files that hold records. -/
def ending : List Char := ['.', 'j', 's', 'o', 'n']

/-- The name of a record without blanks at its ends and without `.json` at the end. -/
def stem (name : List Char) : List Char :=
  let name := Text.trimmed name
  if ending.isSuffixOf name then name.take (name.length - ending.length) else name

/-- The name of the file that holds the record `name`. -/
def fileName (name : String) : String := String.ofList (stem name.toList ++ ending)

/-- What is wrong with the stem of a name. -/
def nameFault? (stem : List Char) : Option NameFault :=
  if (Text.trimmed stem).isEmpty then some .blank
  else if stem.contains '/' || stem.contains '\\' || stem == ['.'] || stem == ['.', '.'] then
    some .separator
  else none

/-- The path of the file that holds the record `name`. -/
def path (s : Store) (name : String) : Except StoreError String :=
  match nameFault? (stem name.toList) with
  | some fault => .error (.rejected name fault)
  | none => .ok (Path.join s.root (fileName name))

/-- Whether a file holds the record `name`. -/
def contains (s : Store) (h : Host) (name : String) : Bool :=
  match s.path name with
  | .ok path => h.isFile path
  | .error _ => false

/-- The name of a file in the root, if it ends in `.json`. -/
def listed? : String × Node → Option String
  | (name, .file _) => if Path.hasExtension name "json" then some name else none
  | _ => none

/-- The names of the files in the root that end in `.json`, in ascending order. -/
def list (s : Store) (h : Host) : List String :=
  ((h.list s.root).filterMap listed?).mergeSort fun a b => decide (a ≤ b)

/-- Read the record `name`. -/
def load (s : Store) (h : Host) (name : String) : Except StoreError Record := do
  let path ← s.path name
  (Record.load h path).mapError .record

/-- Save a ready record under a name: the path of its file, and what the disk holds then. -/
def save (s : Store) (h : Host) (name : String) (r : Record) :
    Except StoreError (String × Host) := do
  let path ← s.path name
  match r.readiness with
  | .error reason => .error (.unready path reason)
  | .ok () => do
      let h ← (r.save h path).mapError .record
      return (path, h)

end Store

end FieldPattern
