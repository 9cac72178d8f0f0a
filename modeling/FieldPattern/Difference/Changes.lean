import FieldPattern.Difference.Search
import FieldPattern.Difference.Slide

/-! # Changes item by item

`ofLists` lists the items of two lists with what happens to each.  Between two items that are
kept, the removed ones stand before the added ones.

The items that are not added are the old list, and those that are not removed are the new one
(`itemsOn_ofLists`).  All items are kept exactly if the lists are equal (`forall_kept_iff`). -/

namespace FieldPattern.Difference

variable {α : Type}

/-- The changes item by item, where `removed` and `added` hold what has changed since the last
kept item: first what was removed, then what was added. -/
def listFrom (removed added : List α) : List (Run α) → List (Change × α)
  | [] => removed.map (Change.removed, ·) ++ added.map (Change.added, ·)
  | ⟨.kept, items⟩ :: rest =>
      removed.map (Change.removed, ·) ++ added.map (Change.added, ·)
        ++ items.map (Change.kept, ·) ++ listFrom [] [] rest
  | ⟨.removed, items⟩ :: rest => listFrom (removed ++ items) added rest
  | ⟨.added, items⟩ :: rest => listFrom removed (added ++ items) rest

/-- The changes item by item. -/
def changes (runs : List (Run α)) : List (Change × α) := listFrom [] [] runs

/-- The items on a side among changes. -/
def itemsOn (s : Side) (cs : List (Change × α)) : List α :=
  (cs.filter fun c => c.1.isOn s).map Prod.snd

@[simp] theorem itemsOn_append (s : Side) (cs ds : List (Change × α)) :
    itemsOn s (cs ++ ds) = itemsOn s cs ++ itemsOn s ds := by simp [itemsOn]

/-- Items to which the same happens are those of a run. -/
@[simp] theorem itemsOn_map (s : Side) (change : Change) (items : List α) :
    itemsOn s (items.map (change, ·)) = (⟨change, items⟩ : Run α).on s := by
  by_cases h : change.isOn s <;> simp [itemsOn, Run.on, List.filter_map, Function.comp_def, h]

theorem itemsOn_listFrom (s : Side) (removed added : List α) (runs : List (Run α)) :
    itemsOn s (listFrom removed added runs) = s.of removed added ++ side s runs := by
  fun_induction listFrom removed added runs with
  | case1 => cases s <;> simp [Run.on, Change.isOn, Side.of]
  | case2 | case3 | case4 => cases s <;> simp_all [Run.on, Change.isOn, Side.of]

/-- Where all items are kept, the lists are the same. -/
theorem itemsOn_eq_of_kept {cs : List (Change × α)} (h : ∀ c ∈ cs, c.1 = .kept) (s : Side) :
    itemsOn s cs = cs.map Prod.snd := by
  rw [itemsOn, List.filter_eq_self.2]
  intro c hc
  rw [h c hc]
  rfl

theorem changes_kept (l : List α) : changes (run .kept l) = l.map (Change.kept, ·) := by
  cases l <;> simp [changes, run, listFrom]

variable [DecidableEq α]

/-- The changes that lead from one list to another. -/
def ofLists (old new : List α) : List (Change × α) := changes (compact (compare old new))

theorem itemsOn_ofLists (s : Side) (old new : List α) :
    itemsOn s (ofLists old new) = s.of old new := by
  have empty : s.of ([] : List α) [] = [] := by cases s <;> rfl
  rw [ofLists, changes, itemsOn_listFrom, empty, List.nil_append, sameSides_compact,
    side_compare]

/-! ### Equal lists -/

theorem common_self (l : List α) : common l l = (l, [], []) := by
  induction l with
  | nil => rfl
  | cons a l ih => simp [common, ih]

theorem compare_self (l : List α) : compare l l = run .kept l := by
  have htrim : trim l l = ⟨l, [], [], []⟩ := by
    rw [trim, common_self]
    rfl
  rw [compare, htrim]
  simp [replaced, run]

/-- A single run has nothing to be moved past. -/
theorem compact_kept (l : List α) : compact (run .kept l) = run .kept l := by
  cases l with
  | nil => rfl
  | cons a l => simp [compact, run, settle]

/-- All items are kept exactly if the lists are equal. -/
theorem forall_kept_iff {old new : List α} :
    (∀ c ∈ ofLists old new, c.1 = .kept) ↔ old = new := by
  constructor
  · intro h
    calc old = itemsOn .old (ofLists old new) := (itemsOn_ofLists .old old new).symm
      _ = itemsOn .new (ofLists old new) := by rw [itemsOn_eq_of_kept h, itemsOn_eq_of_kept h]
      _ = new := itemsOn_ofLists .new old new
  · rintro rfl c hc
    rw [ofLists, compare_self, compact_kept, changes_kept] at hc
    obtain ⟨a, -, rfl⟩ := List.mem_map.1 hc
    rfl

end FieldPattern.Difference
