/-! # Differences between two lists

The difference between an old and a new list is a list of runs.  A run holds items in a row
that are all kept, all removed, or all added.  The kept and the removed items, in order, make up
the old list, and the kept and the added items the new one (`side`).

`SameSides` says of two lists of runs that they lead from the same list to the same list.  A run
may be replaced by others with the same sides (`SameSides.within`): runs of one kind may be
joined, a removed and an added run may change places, and an added run may move past a kept item
that equals its last one. -/

namespace FieldPattern.Difference

/-- What happens to an item. -/
inductive Change where
  | kept
  | removed
  | added
deriving DecidableEq, Repr

/-- Items in a row to which the same happens. -/
structure Run (α : Type) where
  change : Change
  items : List α
deriving DecidableEq, Repr

/-- The lists that a difference leads from and to. -/
inductive Side where
  | old
  | new
deriving DecidableEq, Repr

variable {α : Type}

/-- The one of two that belongs to a side. -/
def Side.of {β : Type} (old new : β) : Side → β
  | .old => old
  | .new => new

theorem Side.of_apply {β γ : Type} (f : β → γ) (old new : β) (s : Side) :
    s.of (f old) (f new) = f (s.of old new) := by cases s <;> rfl

/-- Whether items to which this happens stand on a side. -/
def Change.isOn (s : Side) : Change → Bool
  | .kept => true
  | .removed => s == .old
  | .added => s == .new

/-- The items of a run that stand on a side. -/
def Run.on (s : Side) (r : Run α) : List α := if r.change.isOn s then r.items else []

@[simp] theorem Run.on_kept (s : Side) (items : List α) :
    (⟨.kept, items⟩ : Run α).on s = items := rfl

@[simp] theorem Run.on_nil (s : Side) (change : Change) : (⟨change, []⟩ : Run α).on s = [] := by
  simp [Run.on]

/-- The list on a side. -/
def side (s : Side) (runs : List (Run α)) : List α := runs.flatMap (Run.on s)

@[simp] theorem side_nil (s : Side) : side s ([] : List (Run α)) = [] := rfl

@[simp] theorem side_cons (s : Side) (r : Run α) (runs : List (Run α)) :
    side s (r :: runs) = r.on s ++ side s runs := by simp [side]

@[simp] theorem side_append (s : Side) (a b : List (Run α)) :
    side s (a ++ b) = side s a ++ side s b := by simp [side]

/-- A run of items, or nothing if there are none. -/
def run (change : Change) (items : List α) : List (Run α) :=
  if items.isEmpty then [] else [⟨change, items⟩]

@[simp] theorem side_run (s : Side) (change : Change) (items : List α) :
    side s (run change items) = (⟨change, items⟩ : Run α).on s := by
  cases items <;> simp [run]

theorem reverse_run (change : Change) (items : List α) :
    (run change items).reverse = run change items := by cases items <;> simp [run]

/-! ### Runs with the same sides -/

/-- Two lists of runs have the same sides. -/
def SameSides (a b : List (Run α)) : Prop := ∀ s, side s a = side s b

theorem SameSides.append {a b c d : List (Run α)} (h : SameSides a b) (h' : SameSides c d) :
    SameSides (a ++ c) (b ++ d) := by
  intro s
  rw [side_append, side_append, h s, h' s]

theorem SameSides.refl (a : List (Run α)) : SameSides a a := fun _ => rfl

/-- Runs may be replaced between others. -/
theorem SameSides.within {b c : List (Run α)} (h : SameSides b c) (a d : List (Run α)) :
    SameSides (a ++ (b ++ d)) (a ++ (c ++ d)) :=
  (SameSides.refl a).append (h.append (SameSides.refl d))

theorem SameSides.trans {a b c : List (Run α)} (h : SameSides a b) (h' : SameSides b c) :
    SameSides a c := fun s => (h s).trans (h' s)

theorem sameSides_run (change : Change) (items : List α) :
    SameSides (run change items) [⟨change, items⟩] := by
  intro s
  simp

/-- Two runs in a row of one kind are one run. -/
theorem sameSides_join {q r : Run α} (h : q.change = r.change) :
    SameSides [⟨r.change, q.items ++ r.items⟩] [q, r] := by
  intro s
  by_cases hs : r.change.isOn s <;> simp [Run.on, h, hs]

/-- A removed and an added run may change places. -/
theorem sameSides_swap {q r : Run α} (hq : q.change ≠ .kept) (hr : r.change ≠ .kept)
    (h : q.change ≠ r.change) : SameSides [q, r] [r, q] := by
  obtain ⟨c, l⟩ := q
  obtain ⟨d, m⟩ := r
  intro s
  -- one of the two does not stand on the side
  cases c <;> cases d <;> cases s <;> simp_all [Run.on, Change.isOn]

/-- An added run may move past an equal kept item. -/
theorem sameSides_rotate (a : α) (l m : List α) :
    SameSides [⟨.kept, l⟩, ⟨.added, a :: m⟩, ⟨.kept, [a]⟩]
      [⟨.kept, l ++ [a]⟩, ⟨.added, m ++ [a]⟩] := by
  intro s
  cases s <;> simp [Run.on, Change.isOn]

end FieldPattern.Difference
