import FieldPattern.Record.Table
import FieldPattern.Text.Blank

/-! # Configuration records

A record describes the rows that are to be generated: `headers` names the fields in the order
of the columns, and `patterns` gives the pattern of each field.  A record that was read from a
file may list a field twice, may hold patterns for fields that it does not list, and may lack
the pattern of a field that it lists; such a pattern reads as empty.

* `addField` lists a new field, with an empty pattern, under its trimmed name;
* `removeField` takes the first listing of a name out, together with its pattern;
* `setPattern` changes the pattern of a listed field;
* `pattern?` and `fields` read patterns of listed fields only.

A record is *ready* when it has a field and every field has a pattern that is not empty.
`issues` lists what is missing, and `readiness` refuses a record with an issue. -/

namespace FieldPattern

/-- The fields of the rows to generate, and their patterns. -/
structure Record where
  headers : List String
  patterns : Table
deriving DecidableEq, Inhabited

/-- Why a change of a record is refused. -/
inductive FieldError where
  | emptyName
  | duplicate (name : String)
  | unknown (name : String)
deriving DecidableEq, Repr

namespace FieldError

/-- The error in words. -/
def message : FieldError → String
  | emptyName => "field name must not be empty"
  | duplicate name => "field already exists: " ++ name
  | unknown name => "field not found: " ++ name

end FieldError

/-- Something that keeps a record from being used. -/
inductive Issue where
  | noFields
  | missingPattern (field : String)
deriving DecidableEq, Repr

namespace Issue

/-- The issue in words. -/
def message : Issue → String
  | noFields => "configuration must have at least one field"
  | missingPattern field => "field '" ++ field ++ "' has no pattern defined"

/-- The field that lacks a pattern. -/
def missing? : Issue → Option String
  | noFields => none
  | missingPattern field => some field

end Issue

/-- The issues of a record that is not ready. -/
structure Unready where
  issues : List Issue
deriving DecidableEq, Repr

namespace Unready

/-- The issues in words, one a line. -/
def message (u : Unready) : String := "\n".intercalate (u.issues.map Issue.message)

/-- The fields that lack a pattern. -/
def missing (u : Unready) : List String := u.issues.filterMap Issue.missing?

end Unready

namespace Record

/-- The record without fields. -/
def empty : Record := ⟨[], .empty⟩

/-- Whether `name` is listed. -/
def contains (r : Record) (name : String) : Bool := r.headers.contains name

/-- List a new field with an empty pattern; the result holds its trimmed name. -/
def addField (r : Record) (name : String) : Except FieldError (String × Record) :=
  let name := Text.trim name
  if name.isEmpty then .error .emptyName
  else if r.contains name then .error (.duplicate name)
  else .ok (name, ⟨r.headers ++ [name], r.patterns.insert name ""⟩)

/-- Take out the first listing of `name`, and its pattern. -/
def removeField (r : Record) (name : String) : Except FieldError Record :=
  if r.contains name then .ok ⟨r.headers.erase name, r.patterns.erase name⟩
  else .error (.unknown name)

/-- The stored pattern of `name`, listed or not; empty where there is none. -/
def stored (r : Record) (name : String) : String := (r.patterns.get? name).getD ""

/-- The pattern of a listed field. -/
def pattern? (r : Record) (name : String) : Option String :=
  if r.contains name then some (r.stored name) else none

/-- Change the pattern of a listed field. -/
def setPattern (r : Record) (name pattern : String) : Except FieldError Record :=
  if r.contains name then .ok { r with patterns := r.patterns.insert name pattern }
  else .error (.unknown name)

/-- The listed fields in order, with their patterns. -/
def fields (r : Record) : List (String × String) := r.headers.map fun name => (name, r.stored name)

/-- What keeps the record from being ready. -/
def issues (r : Record) : List Issue :=
  (if r.headers.isEmpty then [.noFields] else [])
    ++ r.fields.filterMap fun (name, pattern) =>
      if pattern.isEmpty then some (.missingPattern name) else none

/-- Refuse a record that is not ready. -/
def readiness (r : Record) : Except Unready Unit :=
  if r.issues.isEmpty then .ok () else .error ⟨r.issues⟩

end Record

end FieldPattern
