import FieldPattern.Text.Blank
import Mathlib.Data.List.DropRight

/-! # Trimmed texts

What is left of a text is what stands between its blanks (`trimmed_eq_iff`), so that trimming a
text again changes nothing (`trimmed_trimmed`).  A text is blank exactly when nothing is left of
it (`trimmed_eq_nil_iff`). -/

namespace FieldPattern.Text

theorem trimmedRight_eq (s : List Char) : trimmedRight s = s.rdropWhile isBlank := rfl

/-- What is left at the start is kept at the end, up to the blanks there. -/
theorem trimmed_prefix (s : List Char) : trimmed s <+: s.dropWhile isBlank :=
  List.rdropWhile_prefix isBlank _

/-- Nothing is left of a text exactly when all of it is blank. -/
theorem trimmed_eq_nil_iff {s : List Char} : trimmed s = [] ↔ ∀ c ∈ s, isBlank c := by
  rw [trimmed, trimmedRight_eq, List.rdropWhile_eq_nil_iff]
  constructor
  · intro h c hc
    rw [← List.takeWhile_append_dropWhile (p := isBlank) (l := s), List.mem_append] at hc
    exact hc.elim List.mem_takeWhile_imp (h c)
  · exact fun h c hc => h c ((List.dropWhile_suffix isBlank).mem hc)

theorem head?_dropWhile_blank {s : List Char} :
    ∀ c ∈ (s.dropWhile isBlank).head?, isBlank c = false := by
  intro c hc
  have h := List.head?_dropWhile_not isBlank s
  rw [hc] at h
  exact h

theorem dropWhile_blank_eq_iff {s : List Char} :
    s.dropWhile isBlank = s ↔ ∀ c ∈ s.head?, isBlank c = false := by
  cases s <;> simp [List.dropWhile_eq_self_iff]

theorem getLast?_trimmedRight {s : List Char} :
    ∀ c ∈ (trimmedRight s).getLast?, isBlank c = false := by
  intro c hc
  obtain ⟨hne, rfl⟩ := List.mem_getLast?_eq_getLast hc
  exact Bool.eq_false_iff.2 (List.rdropWhile_last_not isBlank s hne)

theorem trimmedRight_append {s after : List Char} (hs : ∀ c ∈ s.getLast?, isBlank c = false)
    (ha : ∀ c ∈ after, isBlank c = true) : trimmedRight (s ++ after) = s := by
  have hblank : ∀ c ∈ after.reverse, isBlank c = true := fun c hc => ha c (List.mem_reverse.1 hc)
  rw [trimmedRight, List.reverse_append, List.dropWhile_append_of_pos hblank,
    dropWhile_blank_eq_iff.2 (by rwa [List.head?_reverse]), List.reverse_reverse]

/-- What is left of a text is what stands between its blanks. -/
theorem trimmed_eq_iff {s t : List Char} : trimmed s = t ↔
    (∃ before after, s = before ++ t ++ after ∧ (∀ c ∈ before, isBlank c = true) ∧
      ∀ c ∈ after, isBlank c = true) ∧
    (∀ c ∈ t.head?, isBlank c = false) ∧ ∀ c ∈ t.getLast?, isBlank c = false := by
  constructor
  · rintro rfl
    refine ⟨⟨s.takeWhile isBlank, (s.dropWhile isBlank).rtakeWhile isBlank, ?_,
      fun _ => List.mem_takeWhile_imp, fun _ => List.mem_rtakeWhile_imp⟩, ?_,
      getLast?_trimmedRight⟩
    · rw [trimmed, trimmedRight_eq, List.append_assoc, List.rdropWhile_append_rtakeWhile,
        List.takeWhile_append_dropWhile]
    · intro c hc
      obtain ⟨after, e⟩ := trimmed_prefix s
      refine head?_dropWhile_blank (s := s) c ?_
      rw [← e, List.head?_append, hc]
      rfl
  · rintro ⟨⟨before, after, rfl, hb, ha⟩, hfirst, hlast⟩
    rw [trimmed, List.append_assoc, List.dropWhile_append_of_pos hb]
    cases t with
    | nil =>
        rw [List.nil_append, trimmedRight_eq, List.rdropWhile_eq_nil_iff]
        exact fun c hc => ha c ((List.dropWhile_suffix isBlank).mem hc)
    | cons c t =>
        rw [List.cons_append, List.dropWhile_cons_of_neg (by simp [hfirst c rfl]),
          ← List.cons_append, trimmedRight_append hlast ha]

/-- Trimming a text again changes nothing. -/
theorem trimmed_trimmed (s : List Char) : trimmed (trimmed s) = trimmed s := by
  have ⟨_, hfirst, hlast⟩ := trimmed_eq_iff.1 (rfl : trimmed s = _)
  exact trimmed_eq_iff.2 ⟨⟨[], [], by simp, by simp, by simp⟩, hfirst, hlast⟩

theorem trim_trim (s : String) : trim (trim s) = trim s := by
  rw [trim, trim, String.toList_ofList, trimmed_trimmed]

end FieldPattern.Text
