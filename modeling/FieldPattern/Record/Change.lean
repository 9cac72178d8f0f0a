import FieldPattern.Record.Basic

/-! # Changes of a record

The three operations that change a record, as inputs of one machine.

* `Change.apply` applies a change; the result reports the name of a field that was added.
* `step` goes on with the record as it was when the change is refused.

`PatternSet r name pattern r'` says what setting a pattern comes to: nothing but the entry of
`name` differs. -/

namespace FieldPattern.Record

/-- A change of a record. -/
inductive Change where
  | addField (name : String)
  | removeField (name : String)
  | setPattern (name pattern : String)
deriving DecidableEq, Repr

/-- Apply a change: the name of the field that was added, if one was, and the new record. -/
def Change.apply (c : Change) (r : Record) : Except FieldError (Option String × Record) :=
  match c with
  | addField name => (r.addField name).map fun (added, r') => (some added, r')
  | removeField name => (r.removeField name).map fun r' => (none, r')
  | setPattern name pattern => (r.setPattern name pattern).map fun r' => (none, r')

/-- Take a change: what it reports, or why it is refused, and the record after it. -/
def step (c : Change) (r : Record) : Except FieldError (Option String) × Record :=
  match c.apply r with
  | .ok (report, r') => (.ok report, r')
  | .error e => (.error e, r)

/-! ### Setting a pattern -/

/-- The record `r'` is `r` with the pattern `pattern` for `name`. -/
structure PatternSet (r : Record) (name pattern : String) (r' : Record) : Prop where
  headers : r'.headers = r.headers
  entry : r'.patterns.get? name = some pattern
  others : ∀ other, other ≠ name → r'.patterns.get? other = r.patterns.get? other

theorem setPattern_of_contains {r : Record} {name : String} (h : r.contains name = true)
    (pattern : String) : ∃ r', r.setPattern name pattern = .ok r' ∧ r.PatternSet name pattern r' := by
  refine ⟨_, if_pos h, rfl, ?_, fun other hne => ?_⟩
  · rw [Table.get?_insert, if_pos rfl]
  · rw [Table.get?_insert, if_neg hne]

theorem setPattern_of_not_contains {r : Record} {name : String} (h : r.contains name = false)
    (pattern : String) : r.setPattern name pattern = .error (.unknown name) := by
  rw [setPattern, h]
  rfl

namespace PatternSet

variable {r r' : Record} {name pattern : String}

theorem contains_eq (h : r.PatternSet name pattern r') (other : String) :
    r'.contains other = r.contains other := by
  rw [contains, contains, h.headers]

theorem stored_eq (h : r.PatternSet name pattern r') : r'.stored name = pattern := by
  rw [stored, h.entry]
  rfl

end PatternSet

end FieldPattern.Record
