/-! # Tables of patterns

A table is a finite map from names to patterns.  Its entries stand in ascending order of their
names, by code point, and no name stands twice; this is part of the type, so there is only one
way to write down a table.

* `get?` looks a name up;
* `insert` adds an entry or replaces the one with the same name;
* `erase` takes the entry of a name out. -/

namespace FieldPattern

/-- Names in ascending order, none of them twice. -/
abbrev NamesAscend (entries : List (String × String)) : Prop :=
  entries.Pairwise fun a b => a.1 < b.1

/-- A finite map from names to patterns. -/
structure Table where
  /-- The entries in ascending order of their names. -/
  entries : List (String × String)
  ascending : NamesAscend entries
deriving DecidableEq

namespace Table

/-- The table without entries. -/
def empty : Table := ⟨[], .nil⟩

instance : Inhabited Table := ⟨empty⟩

/-- The pattern of `name`. -/
def get? (t : Table) (name : String) : Option String := t.entries.lookup name

/-- Add an entry where the order of the names wants it. -/
def place (name pattern : String) : List (String × String) → List (String × String)
  | [] => [(name, pattern)]
  | (other, old) :: rest =>
      if name < other then (name, pattern) :: (other, old) :: rest
      else if name = other then (name, pattern) :: rest
      else (other, old) :: place name pattern rest

theorem mem_place {name pattern : String} {l : List (String × String)} {e : String × String}
    (h : e ∈ place name pattern l) : e = (name, pattern) ∨ e ∈ l := by
  induction l with
  | nil => simpa [place] using h
  | cons p rest ih =>
      obtain ⟨other, old⟩ := p
      by_cases h₁ : name < other
      · simpa [place, h₁] using h
      · by_cases h₂ : name = other
        · subst h₂
          rw [place, if_neg h₁, if_pos rfl, List.mem_cons] at h
          exact h.imp_right (List.mem_cons_of_mem _)
        · rw [place, if_neg h₁, if_neg h₂, List.mem_cons] at h
          rcases h with h | h
          · exact .inr (h ▸ List.mem_cons_self ..)
          · exact (ih h).imp_right (List.mem_cons_of_mem _)

/-- Adding an entry keeps the order of the names. -/
theorem place_ascending (name pattern : String) {l : List (String × String)}
    (h : NamesAscend l) : NamesAscend (place name pattern l) := by
  induction l with
  | nil => simp [place, NamesAscend]
  | cons p rest ih =>
      obtain ⟨other, old⟩ := p
      have ⟨first, others⟩ := List.pairwise_cons.1 h
      by_cases h₁ : name < other
      · rw [place, if_pos h₁]
        refine List.pairwise_cons.2 ⟨fun e he => ?_, h⟩
        rcases List.mem_cons.1 he with rfl | he
        · exact h₁
        · exact String.lt_trans h₁ (first e he)
      · by_cases h₂ : name = other
        · subst h₂
          rw [place, if_neg h₁, if_pos rfl]
          exact List.pairwise_cons.2 ⟨first, others⟩
        · rw [place, if_neg h₁, if_neg h₂]
          refine List.pairwise_cons.2 ⟨fun e he => ?_, ih others⟩
          rcases mem_place he with rfl | he
          · exact Std.lt_of_le_of_ne (String.not_lt.1 h₁) (Ne.symm h₂)
          · exact first e he

/-- Give `name` the pattern `pattern`. -/
def insert (t : Table) (name pattern : String) : Table :=
  ⟨place name pattern t.entries, place_ascending name pattern t.ascending⟩

theorem lookup_place (name pattern other : String) (l : List (String × String)) :
    (place name pattern l).lookup other = if other = name then some pattern else l.lookup other := by
  induction l with
  | nil =>
      rw [place, List.lookup_cons]
      by_cases h : other = name
      · simp [h]
      · simp [h, beq_eq_false_iff_ne.2 h]
  | cons p rest ih =>
      obtain ⟨first, old⟩ := p
      by_cases h₁ : name < first
      · rw [place, if_pos h₁, List.lookup_cons]
        by_cases h : other = name
        · simp [h]
        · simp [h, beq_eq_false_iff_ne.2 h]
      · by_cases h₂ : name = first
        · subst h₂
          rw [place, if_neg h₁, if_pos rfl, List.lookup_cons, List.lookup_cons]
          by_cases h : other = name
          · simp [h]
          · simp [h, beq_eq_false_iff_ne.2 h]
        · rw [place, if_neg h₁, if_neg h₂, List.lookup_cons, List.lookup_cons, ih]
          by_cases h : other = first
          · have : first ≠ name := Ne.symm h₂
            simp [h, this]
          · simp [beq_eq_false_iff_ne.2 h]

/-- Only the entry of `name` changes when it is given a pattern. -/
theorem get?_insert (t : Table) (name pattern other : String) :
    (t.insert name pattern).get? other = if other = name then some pattern else t.get? other :=
  lookup_place name pattern other t.entries

/-- Take the entry of `name` out. -/
def erase (t : Table) (name : String) : Table :=
  ⟨t.entries.filter fun e => e.1 != name, t.ascending.filter _⟩

theorem lookup_filter_ne (name other : String) (l : List (String × String)) :
    (l.filter fun e => e.1 != name).lookup other =
      if other = name then none else l.lookup other := by
  induction l with
  | nil => simp
  | cons e rest ih =>
      obtain ⟨first, pattern⟩ := e
      by_cases h₁ : first = name
      · rw [List.filter_cons_of_neg (by simp [h₁]), ih, List.lookup_cons]
        by_cases h : other = name
        · simp [h]
        · simp [h, h₁, beq_eq_false_iff_ne.2 h]
      · rw [List.filter_cons_of_pos (by simp [h₁]), List.lookup_cons, List.lookup_cons, ih]
        by_cases h : other = first
        · simp [h, h₁]
        · simp [beq_eq_false_iff_ne.2 h]

/-- Only the entry of `name` is missing when it is taken out. -/
theorem get?_erase (t : Table) (name other : String) :
    (t.erase name).get? other = if other = name then none else t.get? other :=
  lookup_filter_ne name other t.entries

/-- The table of a list of entries; of two with the same name the later one counts. -/
def ofList (entries : List (String × String)) : Table :=
  entries.foldl (fun t e => t.insert e.1 e.2) empty

theorem place_last {name pattern : String} {l : List (String × String)}
    (h : ∀ e ∈ l, e.1 < name) : place name pattern l = l ++ [(name, pattern)] := by
  induction l with
  | nil => rfl
  | cons e l ih =>
      obtain ⟨he, hl⟩ := List.forall_mem_cons.1 h
      have hlt : ¬ name < e.1 := String.lt_asymm he
      have hne : name ≠ e.1 := by
        rintro rfl
        exact String.lt_irrefl _ he
      rw [place, if_neg hlt, if_neg hne, ih hl, List.cons_append]

theorem eq_of_entries_eq {t u : Table} (h : t.entries = u.entries) : t = u := by
  cases t
  cases u
  cases h
  rfl

theorem entries_foldl_insert {l : List (String × String)} {t : Table}
    (h : NamesAscend (t.entries ++ l)) :
    (l.foldl (fun t e => t.insert e.1 e.2) t).entries = t.entries ++ l := by
  induction l generalizing t with
  | nil => simp
  | cons e l ih =>
      have hplace : (t.insert e.1 e.2).entries = t.entries ++ [e] :=
        place_last fun e' he' => (List.pairwise_append.1 h).2.2 e' he' e (List.mem_cons_self ..)
      rw [List.append_cons, ← hplace] at h ⊢
      exact ih h

/-- A table is the table of its entries. -/
theorem ofList_entries (t : Table) : ofList t.entries = t :=
  eq_of_entries_eq (entries_foldl_insert t.ascending)

end Table

end FieldPattern
