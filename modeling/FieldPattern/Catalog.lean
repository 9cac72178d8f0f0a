/-! # The catalog of components

A component is a ready-made piece of a pattern that the editor offers for insertion.  Some are
templates: right after one is inserted, its token is opened for editing.  A text is recognised
as a component when it equals the component's pattern, character by character. -/

namespace FieldPattern

/-- A ready-made piece of a pattern. -/
structure Component where
  label : String
  pattern : String
  /-- Whether the inserted token is opened for editing at once. -/
  template : Bool
deriving DecidableEq, Repr

namespace Catalog

/-- All components, in the order in which they are offered. -/
def components : List Component := [
  ⟨"lowercase letter", "[a-z]", true⟩,
  ⟨"uppercase letter", "[A-Z]", true⟩,
  ⟨"digit", "[0-9]", true⟩,
  ⟨"any digit", "\\d", false⟩,
  ⟨"word character", "\\w", false⟩,
  ⟨"whitespace", "\\s", false⟩,
  ⟨"any character", ".", false⟩,
  ⟨"exactly n times", "\x7b3\x7d", true⟩,
  ⟨"between m and n times", "\x7b1,5\x7d", true⟩,
  ⟨"zero or more", "*", false⟩,
  ⟨"one or more", "+", false⟩,
  ⟨"optional", "?", false⟩,
  ⟨"one of", "(a|b)", true⟩,
  ⟨"literal text", "abc", true⟩]

/-- The component with this pattern. -/
def find? (pattern : String) : Option Component := components.find? fun c => c.pattern == pattern

/-- Whether `pattern` is that of a template. -/
def isTemplate (pattern : String) : Bool :=
  components.any fun c => c.template && c.pattern == pattern

end Catalog

end FieldPattern
