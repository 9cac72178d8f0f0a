import FieldPattern.Proofs.Steps
import FieldPattern.Record.Change

/-! # A record that is changed in place

The operations of `Record` make a new record.  Here a record is changed in place, by steps on its
headers or on its table, one after the other; between two of them a name may stand in the one and be
missing in the other.  A step may stop with a fault: the headers have a header taken out by its
position, and they may not have this position at this moment.

`Change.attempt` is made of these steps.  It does what `step` does and never meets a fault, so a
change that is refused has touched neither the headers nor the table (`attempt_eq`). -/

namespace FieldPattern.Record

open Steps (bind_of_ok get_bind)

/-- The headers have no such position. -/
structure NoPosition where
  index : Nat
  length : Nat
deriving DecidableEq, Repr

/-- Steps on a record that is changed in place. -/
abbrev InPlace := StateT Record (Except NoPosition)

/-! ### Steps -/

/-- Put a name behind the last header. -/
def pushHeader (name : String) : InPlace Unit := fun r =>
  .ok ((), { r with headers := r.headers ++ [name] })

/-- Take out the header at a position, which must be there. -/
def takeHeader (i : Nat) : InPlace Unit := fun r =>
  if i < r.headers.length then .ok ((), { r with headers := r.headers.eraseIdx i })
  else .error ⟨i, r.headers.length⟩

/-- Give a name a pattern in the table. -/
def putEntry (name pattern : String) : InPlace Unit := fun r =>
  .ok ((), { r with patterns := r.patterns.insert name pattern })

/-- Take the entry of a name out of the table. -/
def dropEntry (name : String) : InPlace Unit := fun r =>
  .ok ((), { r with patterns := r.patterns.erase name })

theorem takeHeader_of_lt {r : Record} {i : Nat} (h : i < r.headers.length) :
    takeHeader i r = .ok ((), { r with headers := r.headers.eraseIdx i }) := if_pos h

/-! ### Changes -/

/-- Make a change in place: what it reports, or why it is refused. -/
def Change.attempt : Change → InPlace (Except FieldError (Option String))
  | addField name => do
      let name := Text.trim name
      if name.isEmpty then return .error .emptyName
      if (← get).contains name then return .error (.duplicate name)
      pushHeader name
      putEntry name ""
      return .ok (some name)
  | removeField name => do
      match (← get).headers.idxOf? name with
      | none => return .error (.unknown name)
      | some i =>
          takeHeader i
          dropEntry name
          return .ok none
  | setPattern name pattern => do
      if (← get).contains name then
        putEntry name pattern
        return .ok none
      else return .error (.unknown name)

/-- A change made in place never meets a fault, and does what `step` says. -/
theorem attempt_eq (c : Change) (r : Record) : c.attempt r = .ok (step c r) := by
  cases c with
  | addField name =>
      rw [Change.attempt, step, Change.apply, addField]
      by_cases hblank : (Text.trim name).isEmpty
      · simp only [if_pos hblank]
        rfl
      · simp only [if_neg hblank]
        refine get_bind.trans ?_
        by_cases hlisted : r.contains (Text.trim name)
        · simp only [if_pos hlisted]
          rfl
        · simp only [if_neg hlisted]
          rfl
  | removeField name =>
      rw [Change.attempt, get_bind, step, Change.apply, removeField]
      cases hi : r.headers.idxOf? name with
      | none =>
          have hlisted : ¬ r.contains name := by
            simpa [contains] using List.idxOf?_eq_none_iff.1 hi
          simp only [if_neg hlisted]
          rfl
      | some i =>
          -- The position was found in the headers, so it is there when its header is taken out.
          obtain ⟨hlt, hname, -⟩ := List.idxOf?_eq_some_iff.1 hi
          have hlisted : r.contains name := by simp [contains, ← hname]
          have herase : r.headers.erase name = r.headers.eraseIdx i := by
            rw [List.erase_eq_eraseIdx, hi]
          simp only [if_pos hlisted, herase]
          exact bind_of_ok (takeHeader_of_lt hlt)
  | setPattern name pattern =>
      rw [Change.attempt, get_bind, step, Change.apply, setPattern]
      by_cases hlisted : r.contains name
      · simp only [if_pos hlisted]
        rfl
      · simp only [if_neg hlisted]
        rfl

end FieldPattern.Record
