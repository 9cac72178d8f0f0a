import FieldPattern.Difference.Basic

/-! # Finding a difference

Two lists are compared by the greedy search for a shortest edit path.  A *cell* `(x, y)` stands
for having passed `x` old and `y` new items, and lies on the diagonal `x - y`.  A path goes from
`(0, 0)` to the end of both lists; removing and adding an item are steps, and items that are
equal are passed for nothing.

* `extend` gives the furthest cell on a diagonal that one more step leads to.
* `meeting` searches from both ends at a time, for paths of 0, 1, 2, … steps, until a path from
  the left and one from the right meet, and gives the cell at which the last step of the path
  that closed the gap arrived.
* `compare` keeps what the lists have in common at their ends, and divides what lies between at
  the meeting; where it cannot be divided, all of it is replaced.

Whatever the search finds, the runs lead from the old list to the new one (`side_compare`). -/

namespace FieldPattern.Difference

variable {α : Type}

/-- All old items removed, and all new items added. -/
def replaced (old new : List α) : List (Run α) := run .removed old ++ run .added new

theorem side_replaced (s : Side) (old new : List α) : side s (replaced old new) = s.of old new := by
  cases s <;> simp [replaced, Run.on, Change.isOn, Side.of]

variable [DecidableEq α]

/-! ### Common ends -/

/-- What two lists have in common at their start, and the rest of each. -/
def common : List α → List α → List α × List α × List α
  | a :: old, b :: new =>
      if a = b then
        let (shared, old, new) := common old new
        (a :: shared, old, new)
      else ([], a :: old, b :: new)
  | old, new => ([], old, new)

theorem common_spells (s : Side) (old new : List α) :
    (common old new).1 ++ s.of (common old new).2.1 (common old new).2.2 = s.of old new := by
  fun_induction common old new with
  | case1 old a new shared old' new' h ih =>
      rw [Side.of_apply (a :: ·), ← ih, h]
      rfl
  | case2 | case3 => rfl

/-- Two lists without what they have in common at their ends. -/
structure Trimmed (α : Type) where
  start : List α
  old : List α
  new : List α
  finish : List α

/-- Take off what two lists have in common, first at their start and then at their end. -/
def trim (old new : List α) : Trimmed α :=
  let ahead := common old new
  let back := common ahead.2.1.reverse ahead.2.2.reverse
  ⟨ahead.1, back.2.1.reverse, back.2.2.reverse, back.1.reverse⟩

theorem trim_spells (s : Side) (old new : List α) :
    (trim old new).start ++ s.of (trim old new).old (trim old new).new ++ (trim old new).finish
      = s.of old new := by
  have ahead := common_spells s old new
  have back := common_spells s (common old new).2.1.reverse (common old new).2.2.reverse
  rw [Side.of_apply List.reverse] at back
  rw [trim, Side.of_apply List.reverse, List.append_assoc, ← List.reverse_append, back,
    List.reverse_reverse, ahead]

/-- How many items two arrays have in common from these places on, `fuel` at most. -/
def sharedFrom (old new : Array α) : Nat → Nat → Nat → Nat
  | 0, _, _ => 0
  | fuel + 1, x, y =>
      match old[x]?, new[y]? with
      | some a, some b => if a = b then sharedFrom old new fuel (x + 1) (y + 1) + 1 else 0
      | _, _ => 0

/-! ### The search for a meeting -/

/-- For each diagonal the furthest cell reached, by the number of old items passed.  Diagonal
`k` has the place `k + shift`. -/
structure Frontier where
  shift : Nat
  reached : Array Nat

namespace Frontier

/-- The frontier before the first step. -/
def start (steps : Nat) : Frontier := ⟨steps + 1, Array.replicate (2 * steps + 4) 0⟩

/-- The cell reached on a diagonal. -/
def get (f : Frontier) (k : Int) : Nat := f.reached.getD (k + f.shift).toNat 0

/-- Reach a cell on a diagonal. -/
def set (f : Frontier) (k : Int) (x : Nat) : Frontier :=
  { f with reached := f.reached.setIfInBounds (k + f.shift).toNat x }

end Frontier

/-- One step onto diagonal `k` in the round of paths of `d` steps, and as far on as items are
equal: where the step arrives, and the cell reached. -/
def extend (old new : Array α) (f : Frontier) (d : Nat) (k : Int) : Nat × Nat :=
  let low := f.get (k - 1)
  let high := f.get (k + 1)
  let x := if k = -d ∨ k ≠ d ∧ low < high then high else low + 1
  let y := (x - k).toNat
  (x, x + sharedFrom old new old.size x y)

/-- The diagonals that paths of `d` steps reach. -/
def diagonals (d : Nat) : List Int := (List.range (d + 1)).map fun (i : Nat) => (d : Int) - 2 * i

/-- Extend all paths to `d` steps: the new frontier, and the first diagonal on which the paths
meet those from the other end, with the cells that `extend` gives. -/
def sweep (old new : Array α) (meets : Int → Nat → Bool) (d : Nat) :
    List Int → Frontier → Frontier × Option (Int × Nat × Nat)
  | [], f => (f, none)
  | k :: ks, f =>
      let (arrival, x) := extend old new f d k
      let f := f.set k x
      if meets k x then (f, some (k, arrival, x)) else sweep old new meets d ks f

/-- Search with paths of `d` steps and more, `rounds` times at most: how many old and how many
new items lie before the meeting. -/
def meetingFrom (old new oldBack newBack : Array α) (rounds d : Nat) (ahead back : Frontier) :
    Option (Nat × Nat) :=
  match rounds with
  | 0 => none
  | rounds + 1 =>
      let n := old.size
      let delta := (n : Int) - new.size
      let odd := delta % 2 ≠ 0
      let meetsBack (k : Int) (x : Nat) : Bool :=
        decide (odd ∧ (k - delta).natAbs + 1 ≤ d ∧ n ≤ x + back.get (delta - k))
      match sweep old new meetsBack d (diagonals d) ahead with
      | (_, some (k, arrival, _)) => some (arrival, (arrival - k).toNat)
      | (ahead, none) =>
          let meetsAhead (k : Int) (x : Nat) : Bool :=
            decide (¬ odd ∧ (k - delta).natAbs ≤ d ∧ n ≤ x + ahead.get (delta - k))
          match sweep oldBack newBack meetsAhead d (diagonals d) back with
          | (_, some (k, _, x)) => some (n - x, (new.size - (x - k)).toNat)
          | (back, none) => meetingFrom old new oldBack newBack rounds (d + 1) ahead back

/-- Where a path from the left and one from the right meet. -/
def meeting (old new : List α) : Option (Nat × Nat) :=
  let rounds := (old.length + new.length + 1) / 2 + 1
  let f := Frontier.start rounds
  meetingFrom old.toArray new.toArray old.reverse.toArray new.reverse.toArray rounds 0 f f

/-! ### Comparing -/

/-- The meeting of two lists, if both parts of the lists that it divides are shorter than
`bound` together. -/
def division? (old new : List α) (bound : Nat) :
    Option { p : Nat × Nat // (old.take p.1).length + (new.take p.2).length < bound
      ∧ (old.drop p.1).length + (new.drop p.2).length < bound } :=
  match meeting old new with
  | none => none
  | some p =>
      if h : (old.take p.1).length + (new.take p.2).length < bound
          ∧ (old.drop p.1).length + (new.drop p.2).length < bound then some ⟨p, h⟩
      else none

/-- The runs that lead from one list to the other. -/
def compare (old new : List α) : List (Run α) :=
  let t := trim old new
  let between :=
    if t.old.isEmpty || t.new.isEmpty then replaced t.old t.new
    else
      match division? t.old t.new (old.length + new.length) with
      | none => replaced t.old t.new
      | some ⟨(x, y), _⟩ =>
          compare (t.old.take x) (t.new.take y) ++ compare (t.old.drop x) (t.new.drop y)
  run .kept t.start ++ between ++ run .kept t.finish
termination_by old.length + new.length
decreasing_by
  · rename_i h
    exact h.1
  · rename_i h
    exact h.2

/-- The runs lead from the one list to the other. -/
theorem side_compare (s : Side) (old new : List α) : side s (compare old new) = s.of old new := by
  fun_induction compare old new with
  | case1 old new t between ih₁ ih₂ =>
      have hb : side s between = s.of t.old t.new := by
        unfold between
        split
        · exact side_replaced s t.old t.new
        · split
          · exact side_replaced s t.old t.new
          · rename_i x y h _
            rw [side_append, ih₁ x y h, ih₂ x y h]
            cases s <;> exact List.take_append_drop _ _
      simpa [hb] using trim_spells s old new

end FieldPattern.Difference
