import FieldPattern.Machine.Disk
import FieldPattern.Record.Reader
import FieldPattern.Record.Writer

/-! # Records in files

A file holds one record, as JSON in UTF-8.  `load` reads the record from a file, and `save`
replaces the whole file by a record or leaves the disk as it was.  A record may be saved whether
it is ready or not. -/

namespace FieldPattern

open Machine (Host FileFault)

/-- Why a record cannot be read or saved. -/
inductive RecordError where
  /-- The file cannot be read or written. -/
  | access (path : String) (fault : FileFault)
  /-- The text, or the content of the file, is no record. -/
  | malformed (path : Option String) (error : Json.Error)
deriving DecidableEq

namespace RecordError

/-- The cause of the error in words. -/
def cause : RecordError → String
  | access _ fault => fault.message
  | malformed _ error => error.message

/-- The error in words. -/
def message : RecordError → String
  | access path fault => "failed to access field config at " ++ path ++ ": " ++ fault.message
  | malformed none error => "failed to parse field config JSON: " ++ error.message
  | malformed (some path) error =>
      "failed to parse field config JSON (" ++ path ++ "): " ++ error.message

end RecordError

namespace Record

/-- Read a record from a text that belongs to no file. -/
def parse (text : String) : Except RecordError Record :=
  (read text).mapError fun error => .malformed none error

/-- Read the record in the file at `path`. -/
def load (h : Host) (path : String) : Except RecordError Record :=
  match h.readText path with
  | .error cause => .error (.access path ⟨cause, none⟩)
  | .ok text => (read text).mapError fun error => .malformed (some path) error

/-- Put a record into the file at `path`. -/
def save (r : Record) (h : Host) (path : String) : Except RecordError Host :=
  (h.save path r.render.toUTF8).mapError fun fault => .access path fault

end Record

end FieldPattern
