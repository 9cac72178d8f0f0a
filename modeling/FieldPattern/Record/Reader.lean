import FieldPattern.Json.Skip
import FieldPattern.Record.Basic
import FieldPattern.Text.Quoted

/-! # Reading records from JSON

A record is a JSON object with the members `headers`, a list of strings, and `patterns`, an
object whose values are strings.  Either may be missing and is empty then.  Members with other
names are skipped, and names count as they read, whatever escapes they are written with.

* Neither of the two members may occur twice.  In `patterns` a name may; the last one counts.
* A record may also be a list, of the headers and the patterns in this order.
* Only blanks may follow the record.

`Record.read` gives the record, or the first thing that is wrong with the text. -/

namespace FieldPattern.Record

open Json

/-- The fault of a value that is not of the type wanted, at the start of `s`. -/
def unexpected (wanted : Wanted) (s : List Char) : Fault :=
  let wrong (found : Found) (rest : List Char) : Fault :=
    .before (.wrongType found wanted) rest
  let word (letters : List Char) (found : Found) (rest : List Char) : Fault :=
    match readWord letters rest with
    | .error fault => fault
    | .ok r => wrong found r.val
  let number (negative : Bool) (rest : List Char) : Fault :=
    match Number.read negative rest with
    | .error fault => fault
    | .ok (value, r) => wrong value.found r
  match s with
  | [] => .after .endInValue []
  | c :: rest =>
      if c = 'n' then word ['u', 'l', 'l'] .null rest
      else if c = 't' then word ['r', 'u', 'e'] (.flag true) rest
      else if c = 'f' then word ['a', 'l', 's', 'e'] (.flag false) rest
      else if c = '-' then number true rest
      else if c.isDigit then number false (c :: rest)
      else if c = '"' then
        match decode rest with
        | .error fault => fault
        | .ok (text, r) => wrong (.text (Text.quoted (String.ofList text))) r.val
      else if c = '[' then wrong .list (c :: rest)
      else if c = '{' then wrong .map (c :: rest)
      else .after .expectedValue (c :: rest)

/-- Read a string, blanks before it included. -/
def readText (s : List Char) : Except Fault (String × Shorter s) :=
  match skipBlank s with
  | ⟨'"' :: rest, h⟩ => do
      let (text, r) ← decode rest
      return (String.ofList text, ⟨r.val, by have := r.property; simp at h; omega⟩)
  | ⟨s, _⟩ => .error (unexpected .text s)

/-! ### Lists -/

/-- Go on after a value of a list: whether another one follows. -/
def nextInList (s : List Char) : Except Fault (Bool × Shorter s) :=
  match skipBlank s with
  | ⟨[], _⟩ => .error (.after .endInList [])
  | ⟨']' :: rest, h⟩ => .ok (false, ⟨rest, by simp at h; omega⟩)
  | ⟨',' :: rest, h⟩ =>
      match skipBlank rest with
      | ⟨[], _⟩ => .error (.after .endInValue [])
      | ⟨']' :: rest, _⟩ => .error (.after .trailingComma (']' :: rest))
      | ⟨r, hr⟩ => .ok (true, ⟨r, by simp at h; omega⟩)
  | ⟨s, _⟩ => .error (.after .expectedCommaOrListEnd s)

/-- Read the strings of a list through its closing bracket. -/
def readTexts (s : List Char) : Except Fault (List String × Shorter s) := do
  let (text, r) ← readText s
  let (more, r') ← nextInList r.val
  if more then
    let (texts, r'') ← readTexts r'.val
    return (text :: texts, ⟨r''.val, by
      have := r.property; have := r'.property; have := r''.property; omega⟩)
  else return ([text], ⟨r'.val, by have := r.property; have := r'.property; omega⟩)
termination_by s.length
decreasing_by
  have := r.property
  have := r'.property
  omega

/-- Read a list of strings, blanks before it included. -/
def readList (s : List Char) : Except Fault (List String × Shorter s) :=
  match skipBlank s with
  | ⟨'[' :: rest, h⟩ =>
      match skipBlank rest with
      | ⟨[], _⟩ => .error (.after .endInList [])
      | ⟨']' :: rest, h'⟩ => .ok ([], ⟨rest, by simp at h h'; omega⟩)
      | ⟨r, hr⟩ => do
          let (texts, r') ← readTexts r
          return (texts, ⟨r'.val, by have := r'.property; simp at h; omega⟩)
  | ⟨s, _⟩ => .error (unexpected .list s)

/-! ### Maps -/

/-- Go on after the opening brace of a map: whether a member follows. -/
def firstInMap (s : List Char) : Except Fault (Bool × Shorter s) :=
  match skipBlank s with
  | ⟨[], _⟩ => .error (.after .endInMap [])
  | ⟨'}' :: rest, h⟩ => .ok (false, ⟨rest, by simp at h; omega⟩)
  | ⟨'"' :: rest, h⟩ => .ok (true, ⟨rest, by simp at h; omega⟩)
  | ⟨s, _⟩ => .error (.after .keyNotText s)

/-- Go on after a member of a map: whether another one follows.  The quotation mark that opens
its name is read as well. -/
def nextInMap (s : List Char) : Except Fault (Bool × Shorter s) :=
  match skipBlank s with
  | ⟨[], _⟩ => .error (.after .endInMap [])
  | ⟨'}' :: rest, h⟩ => .ok (false, ⟨rest, by simp at h; omega⟩)
  | ⟨',' :: rest, h⟩ =>
      match skipBlank rest with
      | ⟨[], _⟩ => .error (.after .endInValue [])
      | ⟨'"' :: rest, h'⟩ => .ok (true, ⟨rest, by simp at h h'; omega⟩)
      | ⟨'}' :: rest, _⟩ => .error (.after .trailingComma ('}' :: rest))
      | ⟨r, _⟩ => .error (.after .keyNotText r)
  | ⟨s, _⟩ => .error (.after .expectedCommaOrMapEnd s)

/-- Read members from after the quotation mark of the first name through the closing brace of
the map. -/
def readMembers (s : List Char) : Except Fault (List (String × String) × Shorter s) := do
  let (name, r) ← decode s
  let r₁ ← readColon r.val
  let (pattern, r₂) ← readText r₁.val
  let (more, r₃) ← nextInMap r₂.val
  let entry := (String.ofList name, pattern)
  if more then
    let (entries, r₄) ← readMembers r₃.val
    return (entry :: entries, ⟨r₄.val, by
      have := r.property; have := r₁.property; have := r₂.property
      have := r₃.property; have := r₄.property; omega⟩)
  else
    return ([entry], ⟨r₃.val, by
      have := r.property; have := r₁.property; have := r₂.property; have := r₃.property
      omega⟩)
termination_by s.length
decreasing_by
  have := r.property
  have := r₁.property
  have := r₂.property
  have := r₃.property
  omega

/-- Read a map of strings, blanks before it included. -/
def readTable (s : List Char) : Except Fault (Table × Shorter s) :=
  match skipBlank s with
  | ⟨'{' :: rest, h⟩ => do
      let (more, r) ← firstInMap rest
      if more then
        let (entries, r') ← readMembers r.val
        return (Table.ofList entries, ⟨r'.val, by
          have := r.property; have := r'.property; simp at h; omega⟩)
      else return (Table.empty, ⟨r.val, by have := r.property; simp at h; omega⟩)
  | ⟨s, _⟩ => .error (unexpected .map s)

/-! ### Records -/

/-- The members of a record that have been read. -/
structure Parts where
  headers : Option (List String) := none
  patterns : Option Table := none

namespace Parts

/-- The record; a member that is missing is empty. -/
def record (p : Parts) : Record := ⟨p.headers.getD [], p.patterns.getD .empty⟩

end Parts

/-- The fault of a repeated member.  It is found after the name; its place is after the blanks
that follow, and after the closing brace if that comes next. -/
def repeated (name : String) (s : List Char) : Fault :=
  match skipBlank s with
  | ⟨'}' :: rest, _⟩ => .before (.repeatedField name) rest
  | ⟨s, _⟩ => .before (.repeatedField name) s

/-- Read the value of the member `name`, from before the `:`. -/
def readPart (p : Parts) (name : String) (s : List Char) : Except Fault (Parts × Shorter s) :=
  if name = "headers" then
    if p.headers.isSome then .error (repeated name s)
    else do
      let r ← readColon s
      let (headers, r') ← readList r.val
      return ({ p with headers := some headers },
        ⟨r'.val, by have := r.property; have := r'.property; omega⟩)
  else if name = "patterns" then
    if p.patterns.isSome then .error (repeated name s)
    else do
      let r ← readColon s
      let (patterns, r') ← readTable r.val
      return ({ p with patterns := some patterns },
        ⟨r'.val, by have := r.property; have := r'.property; omega⟩)
  else do
    let r ← readColon s
    let r' ← Json.skip r.val
    return (p, ⟨r'.val, by have := r.property; have := r'.property; omega⟩)

/-- Read members of a record from after the quotation mark of the first name through the
closing brace. -/
def readParts (p : Parts) (s : List Char) : Except Fault (Parts × List Char) := do
  let (name, r) ← decode s
  let (p, r₁) ← readPart p (String.ofList name) r.val
  let (more, r₂) ← nextInMap r₁.val
  if more then readParts p r₂.val else return (p, r₂.val)
termination_by s.length
decreasing_by
  have := r.property
  have := r₁.property
  have := r₂.property
  omega

/-- Read the end of a record that is a list, after its second value. -/
def closeList (s : List Char) : Except Fault (List Char) :=
  match skipBlank s with
  | ⟨[], _⟩ => .error (.after .endInList [])
  | ⟨']' :: rest, _⟩ => .ok rest
  | ⟨',' :: rest, _⟩ =>
      match skipBlank rest with
      | ⟨']' :: rest, _⟩ => .error (.after .trailingComma (']' :: rest))
      | ⟨r, _⟩ => .error (.after .trailingCharacters r)
  | ⟨s, _⟩ => .error (.after .trailingCharacters s)

/-- Read a record that is a list, from after its opening bracket. -/
def readPair (s : List Char) : Except Fault (Parts × List Char) :=
  match skipBlank s with
  | ⟨[], _⟩ => .error (.after .endInList [])
  | ⟨']' :: rest, _⟩ => .ok ({}, rest)
  | ⟨s, _⟩ => do
      let (headers, r) ← readList s
      let (more, r₁) ← nextInList r.val
      if more then
        let (patterns, r₂) ← readTable r₁.val
        let rest ← closeList r₂.val
        return (⟨some headers, some patterns⟩, rest)
      else return (⟨some headers, none⟩, r₁.val)

/-- Read a record, blanks around it included, to the end of the text. -/
def readAll (s : List Char) : Except Fault Record := do
  let (p, rest) ← match skipBlank s with
    | ⟨'{' :: rest, _⟩ => do
        let (more, r) ← firstInMap rest
        if more then readParts {} r.val else pure ({}, r.val)
    | ⟨'[' :: rest, _⟩ => readPair rest
    | ⟨s, _⟩ => .error (unexpected .record s)
  match skipBlank rest with
  | ⟨[], _⟩ => return p.record
  | ⟨rest, _⟩ => .error (.after .trailingCharacters rest)

/-- Read a record from its JSON text. -/
def read (text : String) : Except Json.Error Record :=
  (readAll text.toList).mapError fun fault => fault.locate text.toList

end FieldPattern.Record
