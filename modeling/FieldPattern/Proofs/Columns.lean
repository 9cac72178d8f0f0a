import FieldPattern.Proofs.RecordInPlace
import FieldPattern.Proofs.Trimming
import Mathlib.Data.List.Nodup

/-! # A record is a list of columns

A record keeps the names of its fields in one place and their patterns in another.  A record that
starts without fields and is changed only by adding a field, removing one and setting a pattern is
still one list: of columns, each a name with a pattern, in order.

* `Takes` says what a change does to a list of columns, and what is said of it.
* `Shows r A` says that the record `r` stands for the columns `A`: no name stands twice, each is
  trimmed, and the table has an entry for each name that is listed and for no other.

A change does to the record what it does to the columns (`Shows.step`), and it does something to any
columns (`Columns.exists_takes`), so a run of changes stays with a list of columns.  The main
statement is `changes_keep_columns`. -/

namespace FieldPattern.Record

open Text (trim)
open Steps (inTurn inTurn_eq)

/-- Names of fields with their patterns, in order. -/
abbrev Columns := List (String × String)

namespace Columns

/-- The names, in order. -/
def names (A : Columns) : List String := A.map Prod.fst

/-- The change turns the first list of columns into the second one, with this reply. -/
inductive Takes : Columns → Change → Except FieldError (Option String) → Columns → Prop
  | blank {A : Columns} {name : String} :
      trim name = "" → Takes A (.addField name) (.error .emptyName) A
  | duplicate {A : Columns} {name : String} :
      trim name ≠ "" → trim name ∈ A.names →
      Takes A (.addField name) (.error (.duplicate (trim name))) A
  | added {A : Columns} {name : String} :
      trim name ≠ "" → trim name ∉ A.names →
      Takes A (.addField name) (.ok (some (trim name))) (A ++ [(trim name, "")])
  | removed (B C : Columns) (name old : String) :
      Takes (B ++ (name, old) :: C) (.removeField name) (.ok none) (B ++ C)
  | notRemoved {A : Columns} {name : String} :
      name ∉ A.names → Takes A (.removeField name) (.error (.unknown name)) A
  | set (B C : Columns) (name old pattern : String) :
      Takes (B ++ (name, old) :: C) (.setPattern name pattern) (.ok none)
        (B ++ (name, pattern) :: C)
  | notSet {A : Columns} {name pattern : String} :
      name ∉ A.names → Takes A (.setPattern name pattern) (.error (.unknown name)) A

variable {A B C : Columns} {name old : String}

theorem names_append (A B : Columns) : (A ++ B).names = A.names ++ B.names := List.map_append

theorem names_cons (name pattern : String) (A : Columns) :
    Columns.names ((name, pattern) :: A) = name :: A.names := rfl

theorem nodup_names_middle : (Columns.names (B ++ (name, old) :: C)).Nodup ↔
    (name ∉ B.names ∧ name ∉ C.names) ∧ (B ++ C).names.Nodup := by
  rw [names_append, names_cons, List.nodup_middle, List.nodup_cons, List.mem_append, not_or,
    names_append]

theorem exists_eq_append (h : name ∈ A.names) : ∃ B C old, A = B ++ (name, old) :: C := by
  obtain ⟨⟨_, old⟩, he, rfl⟩ := List.mem_map.1 h
  obtain ⟨B, C, rfl⟩ := List.append_of_mem he
  exact ⟨B, C, old, rfl⟩

/-- Any change does something to any columns. -/
theorem exists_takes (A : Columns) (c : Change) : ∃ reply A', Takes A c reply A' := by
  cases c with
  | addField name =>
      by_cases hblank : trim name = ""
      · exact ⟨_, _, .blank hblank⟩
      · by_cases hname : trim name ∈ A.names
        · exact ⟨_, _, .duplicate hblank hname⟩
        · exact ⟨_, _, .added hblank hname⟩
  | removeField name =>
      by_cases hname : name ∈ A.names
      · obtain ⟨B, C, old, rfl⟩ := exists_eq_append hname
        exact ⟨_, _, .removed B C name old⟩
      · exact ⟨_, _, .notRemoved hname⟩
  | setPattern name pattern =>
      by_cases hname : name ∈ A.names
      · obtain ⟨B, C, old, rfl⟩ := exists_eq_append hname
        exact ⟨_, _, .set B C name old pattern⟩
      · exact ⟨_, _, .notSet hname⟩

theorem lookup_eq_none_iff : A.lookup name = none ↔ name ∉ A.names := by
  simp only [List.lookup_eq_none_iff, bne_iff_ne, names, List.mem_map, not_exists, not_and]
  exact forall₂_congr fun e _ => ⟨Ne.symm, Ne.symm⟩

/-- What is looked up where a name stands once. -/
theorem lookup_middle (h : name ∉ B.names) (other : String) :
    (B ++ (name, old) :: C).lookup other =
      if other = name then some old else (B ++ C).lookup other := by
  rw [List.lookup_append, List.lookup_append, List.lookup_cons]
  by_cases ho : other = name
  · simp [ho, lookup_eq_none_iff.2 h]
  · simp [ho, beq_eq_false_iff_ne.2 ho]

theorem lookup_of_mem (hd : A.names.Nodup) {e : String × String} (he : e ∈ A) :
    A.lookup e.1 = some e.2 := by
  obtain ⟨name, pattern⟩ := e
  obtain ⟨B, C, rfl⟩ := List.append_of_mem he
  rw [lookup_middle (nodup_names_middle.1 hd).1.1, if_pos rfl]

end Columns

open Columns (Takes)

/-- The record stands for the columns. -/
structure Shows (r : Record) (A : Columns) : Prop where
  headers : r.headers = A.names
  distinct : A.names.Nodup
  trimmed : ∀ name ∈ A.names, name ≠ "" ∧ trim name = name
  entries : ∀ name, r.patterns.get? name = A.lookup name

namespace Shows

variable {r : Record} {A A' : Columns}

theorem empty : Shows .empty [] := ⟨rfl, .nil, nofun, fun _ => rfl⟩

theorem contains_iff (h : r.Shows A) (name : String) : r.contains name = true ↔ name ∈ A.names := by
  rw [contains, List.contains_iff_mem, h.headers]

theorem contains_eq_false (h : r.Shows A) {name : String} (hname : name ∉ A.names) :
    r.contains name = false := by
  rw [Bool.eq_false_iff, ne_eq, h.contains_iff]
  exact hname

theorem fields_eq (h : r.Shows A) : r.fields = A := by
  have hstored : ∀ e ∈ A, (e.1, r.stored e.1) = e := by
    intro e he
    rw [stored, h.entries, Columns.lookup_of_mem h.distinct he]
    rfl
  calc r.fields = A.map fun e => (e.1, r.stored e.1) := by
        rw [fields, h.headers, Columns.names, List.map_map]
        rfl
    _ = A := by
        rw [List.map_congr_left hstored, List.map_id']

theorem pattern?_eq (h : r.Shows A) (name : String) : r.pattern? name = A.lookup name := by
  rw [pattern?, stored, h.entries]
  by_cases hname : name ∈ A.names
  · rw [if_pos ((h.contains_iff name).2 hname)]
    obtain ⟨pattern, e⟩ := Option.ne_none_iff_exists'.1 fun e =>
      Columns.lookup_eq_none_iff.1 e hname
    rw [e]
    rfl
  · rw [if_neg (by simp [h.contains_eq_false hname]), Columns.lookup_eq_none_iff.2 hname]

theorem isSome_get?_iff (h : r.Shows A) (name : String) :
    (r.patterns.get? name).isSome = true ↔ name ∈ r.headers := by
  rw [h.entries, h.headers, Option.isSome_iff_ne_none, ne_eq, Columns.lookup_eq_none_iff, not_not]

/-! ### Changes -/

theorem add (h : r.Shows A) {name : String} (hne : name ≠ "") (htrim : trim name = name)
    (hname : name ∉ A.names) :
    Shows ⟨r.headers ++ [name], r.patterns.insert name ""⟩ (A ++ [(name, "")]) where
  headers := by
    rw [h.headers, Columns.names_append]
    rfl
  distinct := by
    rw [Columns.nodup_names_middle, List.append_nil]
    exact ⟨⟨hname, by simp [Columns.names]⟩, h.distinct⟩
  trimmed other hother := by
    rw [Columns.names_append, List.mem_append] at hother
    rcases hother with hother | hother
    · exact h.trimmed other hother
    · obtain rfl : other = name := by simpa [Columns.names] using hother
      exact ⟨hne, htrim⟩
  entries other := by
    rw [Table.get?_insert, Columns.lookup_middle hname, List.append_nil, h.entries]

section middle
variable {B C : Columns} {name old : String} (h : r.Shows (B ++ (name, old) :: C))
include h

theorem remove : Shows ⟨r.headers.erase name, r.patterns.erase name⟩ (B ++ C) where
  headers := by
    have hB := (Columns.nodup_names_middle.1 h.distinct).1.1
    rw [h.headers, Columns.names_append, Columns.names_cons, List.erase_append_right _ hB,
      List.erase_cons_head, Columns.names_append]
  distinct := (Columns.nodup_names_middle.1 h.distinct).2
  trimmed other hother := by
    refine h.trimmed other ?_
    rw [Columns.names_append, List.mem_append] at hother
    rw [Columns.names_append, Columns.names_cons, List.mem_append]
    exact hother.imp_right (List.mem_cons_of_mem _)
  entries other := by
    have hd := Columns.nodup_names_middle.1 h.distinct
    rw [Table.get?_erase, h.entries, Columns.lookup_middle hd.1.1]
    split_ifs with hother
    · rw [hother, eq_comm, Columns.lookup_eq_none_iff, Columns.names_append, List.mem_append, not_or]
      exact hd.1
    · rfl

theorem set (pattern : String) :
    Shows { r with patterns := r.patterns.insert name pattern } (B ++ (name, pattern) :: C) := by
  have hnames : (B ++ (name, pattern) :: C).names = (B ++ (name, old) :: C).names := by
    simp only [Columns.names_append, Columns.names_cons]
  have hB := (Columns.nodup_names_middle.1 h.distinct).1.1
  refine ⟨hnames ▸ h.headers, hnames ▸ h.distinct, hnames ▸ h.trimmed, fun other => ?_⟩
  rw [Table.get?_insert, h.entries, Columns.lookup_middle hB, Columns.lookup_middle hB]
  split_ifs <;> rfl

end middle

/-- A change does to the record what it does to the columns. -/
theorem step {c : Change} {reply : Except FieldError (Option String)} (h : r.Shows A)
    (ht : Takes A c reply A') : (step c r).1 = reply ∧ (step c r).2.Shows A' := by
  cases ht with
  | blank hblank =>
      simpa [Record.step, Change.apply, addField, hblank, Except.map] using h
  | duplicate hblank hname =>
      have hlisted := (h.contains_iff _).2 hname
      simpa [Record.step, Change.apply, addField, hblank, hlisted, Except.map] using h
  | added hblank hname =>
      have hlisted := h.contains_eq_false hname
      simpa [Record.step, Change.apply, addField, hblank, hlisted, Except.map]
        using h.add hblank (Text.trim_trim _) hname
  | removed B C name old =>
      have hlisted : r.contains name = true :=
        (h.contains_iff name).2 (by simp [Columns.names])
      simpa [Record.step, Change.apply, removeField, hlisted, Except.map] using h.remove
  | notRemoved hname =>
      have hlisted := h.contains_eq_false hname
      simpa [Record.step, Change.apply, removeField, hlisted, Except.map] using h
  | set B C name old pattern =>
      have hlisted : r.contains name = true :=
        (h.contains_iff name).2 (by simp [Columns.names])
      simpa [Record.step, Change.apply, setPattern, hlisted, Except.map] using h.set pattern
  | notSet hname =>
      have hlisted := h.contains_eq_false hname
      simpa [Record.step, Change.apply, setPattern, hlisted, Except.map] using h

theorem exists_step (h : r.Shows A) (c : Change) :
    ∃ A', Takes A c (Record.step c r).1 A' ∧ (Record.step c r).2.Shows A' := by
  obtain ⟨reply, A', ht⟩ := Columns.exists_takes A c
  obtain ⟨rfl, hA'⟩ := h.step ht
  exact ⟨A', ht, hA'⟩

/-- The columns decide what a change comes to. -/
theorem takes_iff (h : r.Shows A) {c : Change} {reply : Except FieldError (Option String)} :
    Takes A c reply A' ↔ (Record.step c r).1 = reply ∧ (Record.step c r).2.fields = A' := by
  constructor
  · intro ht
    obtain ⟨hreply, hA'⟩ := h.step ht
    exact ⟨hreply, hA'.fields_eq⟩
  · rintro ⟨rfl, rfl⟩
    obtain ⟨A', ht, hA'⟩ := h.exists_step c
    rw [hA'.fields_eq]
    exact ht

end Shows

theorem step_of_error {c : Change} {r : Record} {e : FieldError} (h : (step c r).1 = .error e) :
    (step c r).2 = r := by
  unfold step at *
  split at h
  · cases h
  · rfl

/-- **A record is a list of columns.**  Whatever changes are made to the record without fields,
refused ones included, it stands for the columns that the same changes lead to: the names are
distinct and trimmed, the table has their patterns and no others, and the record is read as the
columns are.  One more change is replied to, and changes the columns, as `Columns.Takes` says and
not otherwise; when it is refused, nothing changes.  All this holds of a record that is changed in
place, by steps on its headers and on its table: none of the steps faults, and they lead to the same
record, with the same replies. -/
theorem changes_keep_columns (changes : List Change) :
    let log := (run step changes .empty).1
    let r := (run step changes .empty).2
    ∃ A, Follows Takes [] log A ∧ r.Shows A ∧
      (∀ name, (r.patterns.get? name).isSome = true ↔ name ∈ r.headers) ∧
      r.fields = A ∧ (∀ name, r.pattern? name = A.lookup name) ∧
      inTurn Change.attempt changes .empty = .ok (log, r) ∧
      ∀ c, (∀ reply A', Takes A c reply A' ↔ (step c r).1 = reply ∧ (step c r).2.fields = A') ∧
        (∀ e, (step c r).1 = .error e → (step c r).2 = r) ∧ c.attempt r = .ok (step c r) := by
  intro log r
  obtain ⟨A, hfollows, hr⟩ := run_follows (R := Shows) (fun c _ _ h => h.exists_step c) changes
    Shows.empty
  exact ⟨A, hfollows, hr, hr.isSome_get?_iff, hr.fields_eq, hr.pattern?_eq,
    inTurn_eq attempt_eq changes .empty,
    fun c => ⟨fun reply A' => hr.takes_iff, fun e => step_of_error, attempt_eq c r⟩⟩

/-- A name that is listed already, but for a blank. -/
theorem changes_keep_columns_relisted :
    let r := (run step [.addField " id ", .removeField "no", .setPattern "id" "\\d",
      .addField "city"] .empty).2
    let c : Change := .addField "\tid"
    r.fields = [("id", "\\d"), ("city", "")] ∧ (step c r).1 = .error (.duplicate "id") ∧
      (step c r).2 = r ∧ c.attempt r = .ok (.error (.duplicate "id"), r) := by
  intro r c
  obtain ⟨A, -, -, -, hfields, -, -, hnext⟩ := changes_keep_columns [.addField " id ",
    .removeField "no", .setPattern "id" "\\d", .addField "city"]
  obtain ⟨htakes, hrefused, hattempt⟩ := hnext c
  have hA : r.fields = [("id", "\\d"), ("city", "")] := by decide +kernel
  obtain rfl : A = [("id", "\\d"), ("city", "")] := hfields.symm.trans hA
  have hreply := ((htakes _ _).1 (.duplicate (by decide) (by decide))).1
  have hkept := hrefused _ hreply
  exact ⟨hA, hreply, hkept, hattempt.trans (congrArg Except.ok (Prod.ext hreply hkept))⟩

end FieldPattern.Record
