import FieldPattern.Proofs.Steps
import FieldPattern.TokenList
import Mathlib.Data.List.InsertIdx

/-! # A list that is changed in place

The operations of `TokenList` make a new list.  Here they change a list in place, by steps that may
each stop with a fault: at a number that is checked and too large, or at a position that the list
does not have at this moment.  A list is one position shorter while a token of it is moved.

* `check` stops at a number that is too large; `withToken` and `putIn` stop at a position that is
  not there.
* `removing`, `moving` and `editing` are made of these steps.  They do what `removeAt?`, `move?` and
  `edit?` do, and the only faults they meet are those of their checks (`removing_eq`, `moving_eq`,
  `editing_eq`).
* A change that is refused leaves the list as it was (`settle`). -/

namespace FieldPattern.TokenList

open Steps (bind_of_ok bind_of_error)

/-- Why a step stops. -/
inductive Fault where
  | outOfRange (fault : OutOfRange)
  /-- The list has no such position. -/
  | noPosition (index length : Nat)
deriving DecidableEq, Repr

/-- Steps on a list that is changed in place. -/
abbrev InPlace := StateT TokenList (Except Fault)

/-- What becomes of a change, and the list after it: the old one if the change is refused. -/
def settle {ε α : Type} (l : TokenList) : Except ε (α × TokenList) → Except ε α × TokenList
  | .ok (a, l') => (.ok a, l')
  | .error e => (.error e, l)

/-! ### Steps -/

/-- Stop at a number that is too large, and say what it is wanted for. -/
def check (purpose : Purpose) (i : Nat) : InPlace Unit := fun l =>
  if i < l.length then .ok ((), l) else .error (.outOfRange ⟨purpose, i, l.length⟩)

/-- Work with the token at a position, which must be there. -/
def withToken {α : Type} (i : Nat) (work : (l : TokenList) → Fin l.length → α × TokenList) :
    InPlace α := fun l =>
  if h : i < l.length then .ok (work l ⟨i, h⟩) else .error (.noPosition i l.length)

/-- The token at a position. -/
def tokenAt (i : Nat) : InPlace Token := withToken i fun l i => (l.get i, l)

/-- Take out the token at a position. -/
def takeOut (i : Nat) : InPlace Token := withToken i fun l i => (l.get i, l.eraseIdx i)

/-- Put another token in the place of the one at a position. -/
def replace (i : Nat) (t : Token) : InPlace Unit := withToken i fun l i => ((), l.set i t)

/-- Put in a token so that it stands at a position, which must be there or be the end. -/
def putIn (i : Nat) (t : Token) : InPlace Unit := fun l =>
  if i ≤ l.length then .ok ((), l.insertIdx i t) else .error (.noPosition i l.length)

/-! ### Operations -/

/-- Take out the token with number `i`. -/
def removing (i : Nat) : InPlace Token := do
  check .removal i
  takeOut i

/-- Move the token with number `source` to the place with number `target`. -/
def moving (source target : Nat) : InPlace Unit := do
  check .moveSource source
  check .moveTarget target
  if source = target then return
  let token ← takeOut source
  putIn target token

/-- Give the token with number `i` the text `value`. -/
def editing (i : Nat) (value : String) : InPlace (Except Misfit Verdict) := do
  check .editing i
  let token ← tokenAt i
  if (Text.trimmed value.toList).isEmpty || value == token.display then return .ok .cancelled
  match token.kind.check value with
  | .error misfit => return .error misfit
  | .ok () =>
      replace i (token.setText value)
      return .ok .applied

variable {l : TokenList} {purpose : Purpose} {i j : Nat}

theorem check_of_lt (h : i < l.length) : check purpose i l = .ok ((), l) := if_pos h

theorem check_of_le (h : l.length ≤ i) :
    check purpose i l = .error (.outOfRange ⟨purpose, i, l.length⟩) := if_neg (by omega)

theorem position_of_lt (h : i < l.length) : l.position purpose i = .ok ⟨i, h⟩ := dif_pos h

theorem position_of_le (h : l.length ≤ i) :
    l.position purpose i = .error ⟨purpose, i, l.length⟩ := dif_neg (by omega)

theorem tokenAt_of_lt (h : i < l.length) : tokenAt i l = .ok (l[i], l) := dif_pos h

theorem takeOut_of_lt (h : i < l.length) : takeOut i l = .ok (l[i], l.eraseIdx i) := dif_pos h

theorem replace_of_lt {t : Token} (h : i < l.length) : replace i t l = .ok ((), l.set i t) :=
  dif_pos h

theorem putIn_of_le {t : Token} (h : i ≤ l.length) :
    putIn i t l = .ok ((), l.insertIdx i t) := if_pos h

section inRange
variable (hi : i < l.length)

theorem removeAt?_of_lt : l.removeAt? i = .ok (l[i], l.eraseIdx i) := by
  rw [removeAt?, position_of_lt hi]
  rfl

theorem move?_of_lt (hj : j < l.length) :
    l.move? i j = .ok ((l.eraseIdx i).insertIdx j l[i]) := by
  rw [move?, position_of_lt hi, position_of_lt hj]
  rfl

theorem edit?_of_lt (value : String) : l.edit? i value = .ok (l.edit ⟨i, hi⟩ value) := by
  rw [edit?, position_of_lt hi]
  rfl

end inRange

theorem removing_eq (i : Nat) (l : TokenList) :
    removing i l = (l.removeAt? i).mapError Fault.outOfRange := by
  by_cases hi : i < l.length
  · rw [removing, bind_of_ok (check_of_lt hi), takeOut_of_lt hi, removeAt?_of_lt hi]
    rfl
  · have hle := Nat.le_of_not_lt hi
    rw [removing, bind_of_error (check_of_le hle), removeAt?, position_of_le hle]
    rfl

theorem moving_eq (i j : Nat) (l : TokenList) :
    moving i j l = ((l.move? i j).map fun l' => ((), l')).mapError Fault.outOfRange := by
  by_cases hi : i < l.length
  · by_cases hj : j < l.length
    · rw [moving, bind_of_ok (check_of_lt hi), bind_of_ok (check_of_lt hj), move?_of_lt hi hj]
      by_cases hij : i = j
      · subst hij
        rw [if_pos rfl, List.insertIdx_eraseIdx_getElem]
        rfl
      · -- Without the token there is still room for it at `j`.
        have hroom : j ≤ (l.eraseIdx i).length := by
          rw [List.length_eraseIdx_of_lt hi]
          omega
        rw [if_neg hij, bind_of_ok (takeOut_of_lt hi), putIn_of_le hroom]
        rfl
    · have hle := Nat.le_of_not_lt hj
      rw [moving, bind_of_ok (check_of_lt hi), bind_of_error (check_of_le hle), move?,
        position_of_lt hi, position_of_le hle]
      rfl
  · have hle := Nat.le_of_not_lt hi
    rw [moving, bind_of_error (check_of_le hle), move?, position_of_le hle]
    rfl

theorem editing_eq (i : Nat) (value : String) (l : TokenList) :
    editing i value l = ((l.edit? i value).map (settle l)).mapError Fault.outOfRange := by
  by_cases hi : i < l.length
  · rw [editing, bind_of_ok (check_of_lt hi), bind_of_ok (tokenAt_of_lt hi), edit?_of_lt hi, edit]
    by_cases hkeep : (Text.trimmed value.toList).isEmpty || value == l[i].display
    · simp only [Fin.getElem_fin, if_pos hkeep]
      rfl
    · simp only [Fin.getElem_fin, if_neg hkeep]
      cases l[i].kind.check value with
      | error misfit => rfl
      | ok _ =>
          refine (bind_of_ok (replace_of_lt hi)).trans ?_
          rfl
  · have hle := Nat.le_of_not_lt hi
    rw [editing, bind_of_error (check_of_le hle), edit?, position_of_le hle]
    rfl

end FieldPattern.TokenList
