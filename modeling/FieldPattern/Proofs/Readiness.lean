import FieldPattern.Record.Basic

/-! # When a record is ready

A record is ready when it lists a field and every listed field has a pattern (`HasPattern`), which
is an entry of the table that is not empty.  A record that is not ready is refused with all its
issues: that it lists no field, or else one issue for each listing without a pattern, in order
(`lacking`).

The main statements are `readiness_eq_ok_iff` and `issues_eq`; the fields that a record is reported
to lack patterns for are told by `missing_eq`. -/

namespace FieldPattern.Record

/-- The field has an entry in the table, and one that is not empty. -/
def HasPattern (r : Record) (name : String) : Prop :=
  ∃ pattern, r.patterns.get? name = some pattern ∧ pattern ≠ ""

variable {r : Record} {name : String}

theorem contains_iff_mem : r.contains name = true ↔ name ∈ r.headers := List.contains_iff_mem

theorem hasPattern_iff : r.HasPattern name ↔ r.stored name ≠ "" := by
  rw [HasPattern, stored]
  cases r.patterns.get? name with
  | none => simp
  | some pattern => simp

instance (r : Record) (name : String) : Decidable (r.HasPattern name) :=
  decidable_of_iff _ hasPattern_iff.symm

/-- The listings without a pattern, in order. -/
def lacking (r : Record) : List String := r.headers.filter fun name => ¬ r.HasPattern name

/-- The fields that the record is reported to lack patterns for. -/
def missing (r : Record) : List String :=
  match r.readiness with
  | .ok () => []
  | .error u => u.missing

theorem isEmpty_stored : (r.stored name).isEmpty = decide (¬ r.HasPattern name) := by
  rw [Bool.eq_iff_iff, decide_eq_true_iff, hasPattern_iff, Decidable.not_not, String.isEmpty_iff]

/-- What is reported of listings one by one. -/
theorem filterMap_missingPattern (names : List String) :
    (names.map fun name => (name, r.stored name)).filterMap
        (fun e => if e.2.isEmpty then some (Issue.missingPattern e.1) else none) =
      (names.filter fun name => ¬ r.HasPattern name).map Issue.missingPattern := by
  induction names with
  | nil => rfl
  | cons name names ih =>
      rw [List.map_cons, List.filterMap_cons, ih, isEmpty_stored, List.filter_cons]
      by_cases h : r.HasPattern name
      · simp [h]
      · simp [h]

theorem issues_eq : r.issues =
    if r.headers = [] then [.noFields] else r.lacking.map .missingPattern := by
  rw [issues, fields, filterMap_missingPattern]
  by_cases h : r.headers = []
  · simp [h]
  · simp [h, lacking]

theorem issues_eq_nil_iff :
    r.issues = [] ↔ r.headers ≠ [] ∧ ∀ name ∈ r.headers, r.HasPattern name := by
  rw [issues_eq]
  by_cases h : r.headers = []
  · simp [h]
  · simp [h, lacking, List.filter_eq_nil_iff]

/-- A record is ready when it lists a field and every listed field has a pattern. -/
theorem readiness_eq_ok_iff :
    r.readiness = .ok () ↔ r.headers ≠ [] ∧ ∀ name ∈ r.headers, r.HasPattern name := by
  rw [← issues_eq_nil_iff, readiness]
  by_cases h : r.issues = []
  · simp [h]
  · simp [h]

/-- A record that is not ready is refused with all its issues. -/
theorem readiness_eq_error {u : Unready} (h : r.readiness = .error u) : u.issues = r.issues := by
  rw [readiness] at h
  split at h
  · cases h
  · cases h
    rfl

theorem missing_map_missingPattern (names : List String) :
    Unready.missing ⟨names.map .missingPattern⟩ = names := by
  induction names with
  | nil => rfl
  | cons name names ih => exact congrArg (name :: ·) ih

/-- A record that is refused is reported to lack the patterns that it lacks. -/
theorem missing_of_error {u : Unready} (h : r.readiness = .error u) : u.missing = r.lacking := by
  obtain ⟨issues⟩ := u
  obtain rfl : issues = r.issues := readiness_eq_error h
  rw [issues_eq]
  by_cases hnone : r.headers = []
  · simp [hnone, lacking, Unready.missing, Issue.missing?]
  · rw [if_neg hnone, missing_map_missingPattern]

/-- The fields reported are the listings without a pattern. -/
theorem missing_eq : r.missing = r.lacking := by
  rw [missing]
  cases h : r.readiness with
  | ok =>
      have hall := (readiness_eq_ok_iff.1 h).2
      rw [lacking, eq_comm, List.filter_eq_nil_iff]
      intro name hname
      simpa using hall name hname
  | error u => exact missing_of_error h

theorem mem_missing_iff : name ∈ r.missing ↔ name ∈ r.headers ∧ ¬ r.HasPattern name := by
  rw [missing_eq, lacking, List.mem_filter, decide_eq_true_iff]

end FieldPattern.Record
