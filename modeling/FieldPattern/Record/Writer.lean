import FieldPattern.Json.Layout
import FieldPattern.Record.Basic

/-! # Writing records as JSON

A record is written as an object with the members `headers` and `patterns`, in the layout of
`Json.block`, and ends with a newline.  The patterns stand in the order of the table. -/

namespace FieldPattern.Record

/-- The JSON text of a record, character by character. -/
def renderChars (r : Record) : List Char :=
  Json.map 0 [
    ("headers", Json.list 2 (r.headers.map Json.encode)),
    ("patterns", Json.map 2 (r.patterns.entries.map fun e => (e.1, Json.encode e.2)))]
  ++ ['\n']

/-- The JSON text of a record. -/
def render (r : Record) : String := String.ofList r.renderChars

end FieldPattern.Record
