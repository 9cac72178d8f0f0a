import FieldPattern.Proofs.Readiness
import FieldPattern.Record.File

/-! # What is left after a removal

A record that was read from a file may list a field more than once.  A removal takes out one
listing, the first one, and the only entry that the table has for the name (`Removed`); the other
fields stay as they are and in order (`Removed.fieldsBesides_eq`).

So the field is gone (`Gone`) if it was listed once.  Otherwise a listing is left, and its pattern
is not: the field reads as empty, and is reported to lack a pattern that it had before.  The main
statement is `removal_takes_one_listing`. -/

namespace FieldPattern.Record

/-- The fields with other names, in order, with their patterns. -/
def fieldsBesides (r : Record) (name : String) : List (String × String) :=
  r.fields.filter fun e => e.1 ≠ name

/-- No trace of the field is left in the record. -/
structure Gone (r : Record) (name : String) : Prop where
  not_listed : r.contains name = false
  not_read : r.pattern? name = none
  no_entry : r.patterns.get? name = none

/-- The record `r'` is `r` without the first listing of the name, and without its entry. -/
structure Removed (r : Record) (name : String) (r' : Record) : Prop where
  headers : ∃ before after, name ∉ before ∧ r.headers = before ++ name :: after ∧
    r'.headers = before ++ after
  no_entry : r'.patterns.get? name = none
  others : ∀ other, other ≠ name → r'.patterns.get? other = r.patterns.get? other

variable {r r' : Record} {name : String}

theorem removeField_of_contains (h : r.contains name = true) :
    ∃ r', r.removeField name = .ok r' ∧ r.Removed name r' := by
  obtain ⟨before, after, hbefore, hheaders, herase⟩ :=
    List.exists_erase_eq (contains_iff_mem.1 h)
  refine ⟨_, if_pos h, ⟨before, after, hbefore, hheaders, herase⟩, ?_, fun other hne => ?_⟩
  · rw [Table.get?_erase, if_pos rfl]
  · rw [Table.get?_erase, if_neg hne]

theorem removeField_of_not_contains (h : r.contains name = false) :
    r.removeField name = .error (.unknown name) := by
  rw [removeField, h]
  rfl

namespace Removed

variable (h : r.Removed name r')
include h

theorem mem_headers_iff_of_ne {other : String} (hne : other ≠ name) :
    other ∈ r'.headers ↔ other ∈ r.headers := by
  obtain ⟨before, after, -, e, e'⟩ := h.headers
  simp [e, e', hne]

/-- The name is still listed unless it was listed once. -/
theorem mem_headers_iff : name ∈ r'.headers ↔ r.headers.count name ≠ 1 := by
  obtain ⟨before, after, hbefore, e, e'⟩ := h.headers
  have hcount : r.headers.count name = after.count name + 1 := by
    rw [e, List.count_append, List.count_cons_self, List.count_eq_zero.2 hbefore, Nat.zero_add]
  have hmem : name ∈ r'.headers ↔ name ∈ after := by simp [e', hbefore]
  rw [hmem, hcount, ← List.count_pos_iff]
  omega

theorem hasPattern_iff_of_ne {other : String} (hne : other ≠ name) :
    r'.HasPattern other ↔ r.HasPattern other := by
  rw [HasPattern, HasPattern, h.others other hne]

theorem not_hasPattern : ¬ r'.HasPattern name := by
  rintro ⟨pattern, e, -⟩
  rw [h.no_entry] at e
  cases e

theorem stored_eq_of_ne {other : String} (hne : other ≠ name) :
    r'.stored other = r.stored other := by
  rw [stored, stored, h.others other hne]

theorem contains_eq_of_ne {other : String} (hne : other ≠ name) :
    r'.contains other = r.contains other := by
  rw [Bool.eq_iff_iff, contains_iff_mem, contains_iff_mem, h.mem_headers_iff_of_ne hne]

theorem pattern?_eq_of_ne {other : String} (hne : other ≠ name) :
    r'.pattern? other = r.pattern? other := by
  rw [pattern?, pattern?, h.contains_eq_of_ne hne, h.stored_eq_of_ne hne]

/-- The other fields keep their patterns and their order. -/
theorem fieldsBesides_eq : r'.fieldsBesides name = r.fieldsBesides name := by
  -- The listings of the two records differ, so the patterns are compared over any list of names.
  have hread (names : List String) :
      (names.map fun n => (n, r'.stored n)).filter (fun e => e.1 ≠ name) =
        (names.map fun n => (n, r.stored n)).filter fun e => e.1 ≠ name := by
    induction names with
    | nil => rfl
    | cons n names ih =>
        by_cases hn : n = name
        · simpa [hn] using ih
        · simpa [hn, h.stored_eq_of_ne hn] using ih
  obtain ⟨before, after, -, e, e'⟩ := h.headers
  rw [fieldsBesides, fieldsBesides, fields, fields, hread, e, e']
  simp

/-- The field is gone exactly if it was listed once. -/
theorem gone_iff : r'.Gone name ↔ r.headers.count name = 1 := by
  constructor
  · intro hgone
    have hmem : name ∉ r'.headers := by
      rw [← contains_iff_mem, hgone.not_listed]
      decide
    rwa [h.mem_headers_iff, Decidable.not_not] at hmem
  · intro hcount
    have hlisted : r'.contains name = false := by
      rw [Bool.eq_false_iff, ne_eq, contains_iff_mem, h.mem_headers_iff]
      exact fun hne => hne hcount
    have hread : r'.pattern? name = none := by
      rw [pattern?, hlisted]
      rfl
    exact ⟨hlisted, hread, h.no_entry⟩

/-- Only the field itself can lose its pattern and still be listed. -/
theorem forall_not_mem_missing_iff :
    (∀ field, r.HasPattern field → field ∉ r'.missing) ↔
      r.headers.count name = 1 ∨ ¬ r.HasPattern name := by
  simp only [mem_missing_iff]
  constructor
  · intro hall
    by_cases hcount : r.headers.count name = 1
    · exact .inl hcount
    · exact .inr fun hpattern =>
        hall name hpattern ⟨h.mem_headers_iff.2 hcount, h.not_hasPattern⟩
  · rintro hname field hpattern ⟨hmem, hnone⟩
    by_cases hfield : field = name
    · subst hfield
      exact hname.elim (h.mem_headers_iff.1 hmem) fun hne => hne hpattern
    · exact hnone ((h.hasPattern_iff_of_ne hfield).2 hpattern)

end Removed

/-- **A removal takes one listing.**  A field that is listed can be removed, and no other one.  Its
entry is taken out, and one of its listings, and nothing else changes: the other fields keep their
entries, their patterns and their order.  The field is gone exactly if it was listed once.  No field
that had a pattern is reported to lack one afterwards, unless the field itself had a pattern and is
still listed. -/
theorem removal_takes_one_listing (r : Record) (name : String) :
    ((∃ r', r.removeField name = .ok r') ↔ r.contains name = true) ∧
      ∀ r', r.removeField name = .ok r' →
        r.Removed name r' ∧
        r'.fieldsBesides name = r.fieldsBesides name ∧
        (∀ other, other ≠ name → r'.pattern? other = r.pattern? other) ∧
        (r'.Gone name ↔ r.headers.count name = 1) ∧
        ((∀ field, r.HasPattern field → field ∉ r'.missing) ↔
          r.headers.count name = 1 ∨ ¬ r.HasPattern name) := by
  cases hlisted : r.contains name with
  | false =>
      have hrefused := removeField_of_not_contains hlisted
      simp [hrefused]
  | true =>
      obtain ⟨r₁, e, h⟩ := removeField_of_contains hlisted
      refine ⟨⟨fun _ => rfl, fun _ => ⟨r₁, e⟩⟩, fun r' e' => ?_⟩
      obtain rfl : r₁ = r' := Except.ok.inj (e.symm.trans e')
      exact ⟨h, h.fieldsBesides_eq, fun other => h.pattern?_eq_of_ne, h.gone_iff,
        h.forall_not_mem_missing_iff⟩

/-- A field that is listed once, beside one that is listed twice and an entry of no field. -/
theorem removal_takes_one_listing_once :
    let r : Record := ⟨["id", "name", "id"], .ofList [("id", "\\d"), ("name", "x"), ("old", "y")]⟩
    let r' : Record := ⟨["id", "id"], .ofList [("id", "\\d"), ("old", "y")]⟩
    r.removeField "name" = .ok r' ∧ r'.Gone "name" ∧
      r'.fieldsBesides "name" = r.fieldsBesides "name" ∧
      ∀ field, r.HasPattern field → field ∉ r'.missing := by
  intro r r'
  have e : r.removeField "name" = .ok r' := rfl
  obtain ⟨-, hfields, -, hgone, hmissing⟩ := (removal_takes_one_listing r "name").2 r' e
  exact ⟨e, hgone.2 (by decide), hfields, hmissing.2 (.inl (by decide))⟩

/-- A record is read from a text that lists a field twice, and is ready.  After a removal the field
is still listed, and lacks its pattern. -/
theorem removal_leaves_listing :
    let text := "\x7b\"headers\":[\"id\",\"name\",\"id\"],"
      ++ "\"patterns\":\x7b\"id\":\"\\\\d\",\"name\":\"x\"\x7d\x7d"
    let r : Record := ⟨["id", "name", "id"], .ofList [("id", "\\d"), ("name", "x")]⟩
    let r' : Record := ⟨["name", "id"], .ofList [("name", "x")]⟩
    parse text = .ok r ∧ r.readiness = .ok () ∧ r.removeField "id" = .ok r' ∧
      r'.contains "id" = true ∧ r'.pattern? "id" = some "" ∧ r.HasPattern "id" ∧
      "id" ∈ r'.missing := by
  intro text r r'
  have hread : (parse text).toOption = some r := by decide +kernel
  have hparse : parse text = .ok r := by
    cases hp : parse text with
    | error e =>
        rw [hp] at hread
        cases hread
    | ok r₁ =>
        rw [hp] at hread
        exact congrArg Except.ok (Option.some.inj hread)
  exact ⟨hparse, rfl, rfl, by decide, by decide, by decide, by decide⟩

end FieldPattern.Record
