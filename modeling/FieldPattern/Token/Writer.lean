import FieldPattern.Json.Layout
import FieldPattern.Token

/-! # Writing tokens as JSON

A token is written as an object that names its kind under `type` and gives its `value` and its
`display`.  An escape has `is_negated` besides.  A list of tokens is written in the layout of
`Json.block`. -/

namespace FieldPattern.Token

/-- The members of the object that stands for a token, laid out. -/
def members (t : Token) : List (String × List Char) :=
  [("type", Json.encode t.kind.name), ("value", Json.encode t.value),
    ("display", Json.encode t.display)]
  ++ if t.kind = .escape then [("is_negated", Json.flag t.negated)] else []

/-- The JSON text of a list of tokens. -/
def renderAll (ts : List Token) : String :=
  String.ofList (Json.list 0 (ts.map fun t => Json.map 2 t.members))

end FieldPattern.Token
