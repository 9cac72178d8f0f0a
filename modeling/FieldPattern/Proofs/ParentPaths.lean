import FieldPattern.Proofs.Folders

/-! # The directory and the name in a path

Two paths are the same (`Same`) if they start at the same place and have the same components.  The
components are the parts between the slashes, without the empty ones and the points, except that the
first part always counts: it is what tells a path from the root directory from one that starts
elsewhere.  So `s`, `s/`, `s//` and `s/.` are the same.

A name that is put behind a directory can be taken off again.  The rest is the directory
(`parent?_join`), what was taken off is the name (`lastName?_join`), and different names make
different paths (`same_join_iff`). -/

namespace FieldPattern.Machine.Path

/-! ### Components -/

/-- A part that counts as a component only at the start. -/
abbrev IsVoid (p : List Char) : Prop := p = [] ∨ p = ['.']

/-- The parts of a path that are its components. -/
def counting : List (List Char) → List (List Char)
  | [] => []
  | p :: rest => p :: rest.filter fun q => decide (¬ IsVoid q)

/-- The components of a path. -/
def components (path : String) : List (List Char) := counting (parts path.toList)

/-- The two paths have the same start and the same components. -/
structure Same (path path' : String) : Prop where
  start_eq : isAbsolute path = isAbsolute path'
  components_eq : components path = components path'

/-- The last name of a path. -/
def lastName? (path : String) : Option String :=
  match dropVoid (parts path.toList).reverse with
  | [] => none
  | p :: _ => if IsVoid p ∨ p = ['.', '.'] then none else some (String.ofList p)

variable {ps qs : List (List Char)} {p : List Char} {f f' : String}

theorem Same.refl (path : String) : Same path path := ⟨rfl, rfl⟩

theorem counting_append (h : ps ≠ []) :
    counting (ps ++ qs) = counting ps ++ qs.filter fun q => decide (¬ IsVoid q) := by
  obtain ⟨p, rest, rfl⟩ := List.exists_cons_of_ne_nil h
  simp [counting]

theorem dropVoid_of_not_void (h : ¬ IsVoid p) : dropVoid (p :: ps) = p :: ps := by
  cases ps with
  | nil => rfl
  | cons q ps => exact if_neg h

theorem dropVoid_suffix : dropVoid ps <:+ ps := by
  induction ps using dropVoid.induct with
  | case1 => exact List.suffix_rfl
  | case2 p => exact List.suffix_rfl
  | case3 p rest hne hvoid ih =>
      rw [dropVoid.eq_3 _ _ hne, if_pos hvoid]
      exact ih.trans (List.suffix_cons p rest)
  | case4 p rest hne hvoid => exact (dropVoid_of_not_void hvoid).symm ▸ List.suffix_rfl

theorem dropVoid_ne_nil (h : ps ≠ []) : dropVoid ps ≠ [] := by
  induction ps using dropVoid.induct with
  | case1 => exact absurd rfl h
  | case2 p => exact List.cons_ne_nil _ _
  | case3 p rest hne hvoid ih =>
      rw [dropVoid.eq_3 _ _ hne, if_pos hvoid]
      exact ih fun e => hne e
  | case4 p rest hne hvoid =>
      rw [dropVoid_of_not_void hvoid]
      exact List.cons_ne_nil _ _

/-- The parts that are dropped at the end of a path are no components. -/
theorem counting_dropVoid : counting (dropVoid ps).reverse = counting ps.reverse := by
  induction ps using dropVoid.induct with
  | case1 => rfl
  | case2 p => rfl
  | case3 p rest hne hvoid ih =>
      have hrest : rest.reverse ≠ [] := by simpa using hne
      have hdropped : [p].filter (fun q => decide (¬ IsVoid q)) = [] := by
        simpa using hvoid.resolve_left
      rw [dropVoid.eq_3 _ _ hne, if_pos hvoid, ih, List.reverse_cons, counting_append hrest,
        hdropped, List.append_nil]
  | case4 p rest hne hvoid => rw [dropVoid_of_not_void hvoid]

/-! ### Parts with slashes between them -/

theorem no_slash_of_mem_parts {s : List Char} (h : p ∈ parts s) : '/' ∉ p := by
  induction s generalizing p with
  | nil =>
      obtain rfl : p = [] := by simpa [parts] using h
      exact List.not_mem_nil
  | cons c s ih =>
      by_cases hc : c = '/'
      · rw [hc, parts_slash, List.mem_cons] at h
        rcases h with rfl | h
        · exact List.not_mem_nil
        · exact ih h
      · obtain ⟨q, qs, e⟩ := exists_parts_eq_cons s
        rw [parts_cons hc e, List.mem_cons] at h
        rw [e] at ih
        rcases h with rfl | h
        · have hq : '/' ∉ q := ih (List.mem_cons_self ..)
          simp [hq, Ne.symm hc]
        · exact ih (List.mem_cons_of_mem _ h)

theorem parts_intercalate (hne : ps ≠ []) (h : ∀ p ∈ ps, '/' ∉ p) :
    parts (List.intercalate ['/'] ps) = ps := by
  induction ps with
  | nil => exact absurd rfl hne
  | cons p ps ih =>
      obtain ⟨hp, hps⟩ := List.forall_mem_cons.1 h
      cases ps with
      | nil => rw [List.intercalate_singleton, parts_of_no_slash hp]
      | cons q ps =>
          have htail := ih (List.cons_ne_nil q ps) hps
          rw [List.intercalate_cons_cons, List.append_assoc, List.singleton_append,
            parts_append_slash, parts_of_no_slash hp, htail, List.singleton_append]

/-- A path starts at the root directory if its first component is empty. -/
theorem isAbsolute_iff {path : String} :
    isAbsolute path = true ↔ path ≠ "" ∧ (components path).head? = some [] := by
  rw [isAbsolute, components, beq_iff_eq, ne_eq, ← String.toList_eq_nil_iff]
  cases path.toList with
  | nil => simp
  | cons c s =>
      by_cases hc : c = '/'
      · simp [hc, parts_slash, counting]
      · obtain ⟨q, qs, e⟩ := exists_parts_eq_cons s
        simp [hc, parts_cons hc e, counting]

theorem same_of_components_eq {path path' : String} (h : path ≠ "") (h' : path' ≠ "")
    (e : components path = components path') : Same path path' := by
  refine ⟨?_, e⟩
  rw [Bool.eq_iff_iff, isAbsolute_iff, isAbsolute_iff, e]
  simp [h, h']

/-! ### Names behind a directory -/

section join
variable (hf : Host.IsEntryName f) (root : String)
include hf

theorem not_void : ¬ IsVoid f.toList := by
  rintro (h | h)
  · exact hf.ne_empty (String.toList_eq_nil_iff.1 h)
  · exact hf.ne_dot (String.toList_inj.1 h)

/-- In front of the name stand the parts of the directory, if it is not the empty path. -/
theorem parts_join : ∃ front, parts (join root f).toList = front ++ [f.toList] ∧
    (root = "" ∧ front = [] ∨
      root ≠ "" ∧ front ≠ [] ∧ counting front = components root ∧ ∀ p ∈ front, '/' ∉ p) := by
  by_cases hroot : root = ""
  · refine ⟨[], ?_, .inl ⟨hroot, rfl⟩⟩
    rw [join, hroot, if_pos (by simp), parts_of_no_slash hf.no_slash, List.nil_append]
  · obtain ⟨a, hjoin, ha⟩ := toList_join hroot hf.no_slash
    obtain ⟨p, ps, hparts⟩ := exists_parts_eq_cons a
    have hne : parts a ≠ [] := by simp [hparts]
    refine ⟨parts a, ?_, .inr ⟨hroot, hne, ?_, fun p hp => no_slash_of_mem_parts hp⟩⟩
    · rw [hjoin, parts_append_slash, parts_of_no_slash hf.no_slash]
    · rcases ha with ⟨ha, -⟩ | ha
      · rw [components, ha]
      · -- The part behind the last slash of the directory is empty.
        have hempty : parts [] = [[]] := rfl
        rw [components, ha, parts_append_slash, hempty, counting_append hne]
        simp

theorem dropVoid_join {front : List (List Char)}
    (h : parts (join root f).toList = front ++ [f.toList]) :
    dropVoid (parts (join root f).toList).reverse = f.toList :: front.reverse := by
  rw [h, List.reverse_append, List.reverse_singleton, List.singleton_append,
    dropVoid_of_not_void (not_void hf)]

theorem lastName?_join : lastName? (join root f) = some f := by
  obtain ⟨front, hparts, -⟩ := parts_join hf root
  have hdots : f.toList ≠ ['.', '.'] := fun h => hf.ne_dots (String.toList_inj.1 h)
  rw [lastName?, dropVoid_join hf root hparts]
  simp [not_void hf, hdots]

/-- Without the name, a joined path is the directory. -/
theorem parent?_join : ∃ directory, parent? (join root f) = some directory ∧
    Same directory root := by
  obtain ⟨front, hparts, ⟨hroot, hfront⟩ | ⟨hroot, hne, hcount, hslash⟩⟩ := parts_join hf root
  · refine ⟨"", ?_, hroot ▸ Same.refl root⟩
    rw [parent?, dropVoid_join hf root hparts, hfront]
    simp [hf.ne_empty]
  · obtain ⟨q, qs, hfront⟩ := List.exists_cons_of_ne_nil (mt List.reverse_eq_nil_iff.1 hne)
    generalize hkept : (dropVoid front.reverse).reverse = kept
    have hkept_count : counting kept = components root := by
      rw [← hkept, counting_dropVoid, List.reverse_reverse, hcount]
    have hkept_ne : kept ≠ [] := by
      rw [← hkept, ne_eq, List.reverse_eq_nil_iff]
      exact dropVoid_ne_nil (mt List.reverse_eq_nil_iff.1 hne)
    have hkept_slash : ∀ p ∈ kept, '/' ∉ p := by
      intro p hp
      rw [← hkept, List.mem_reverse] at hp
      exact hslash p (List.mem_reverse.1 (dropVoid_suffix.mem hp))
    have hparent : parent? (join root f) =
        if kept = [[]] then some "/" else some (String.ofList (List.intercalate ['/'] kept)) := by
      rw [parent?, dropVoid_join hf root hparts, ← hkept, hfront]
    by_cases hstart : kept = [[]]
    · refine ⟨"/", by rw [hparent, if_pos hstart], same_of_components_eq (by decide) hroot ?_⟩
      rw [← hkept_count, hstart]
      rfl
    · have hparts_kept := parts_intercalate hkept_ne hkept_slash
      refine ⟨_, by rw [hparent, if_neg hstart], same_of_components_eq ?_ hroot ?_⟩
      · intro hnil
        rw [← String.toList_eq_nil_iff, String.toList_ofList] at hnil
        rw [hnil] at hparts_kept
        exact hstart hparts_kept.symm
      · rw [components, String.toList_ofList, hparts_kept, hkept_count]

theorem components_join : ∃ front, components (join root f) = front ++ [f.toList] := by
  obtain ⟨front, hparts, -⟩ := parts_join hf root
  rw [components, hparts]
  cases front with
  | nil => exact ⟨[], rfl⟩
  | cons p front =>
      have hkept : [f.toList].filter (fun q => decide (¬ IsVoid q)) = [f.toList] := by
        simpa using not_void hf
      rw [counting_append (List.cons_ne_nil _ _), hkept]
      exact ⟨_, rfl⟩

/-- Different names make different paths, also when the paths are compared by their components. -/
theorem same_join_iff (hf' : Host.IsEntryName f') :
    Same (join root f) (join root f') ↔ f = f' := by
  constructor
  · intro h
    obtain ⟨front, e⟩ := components_join hf root
    obtain ⟨front', e'⟩ := components_join hf' root
    have hlast := h.components_eq
    rw [e, e'] at hlast
    have hsingle := (List.append_inj' hlast rfl).2
    exact String.toList_inj.1 (List.singleton_inj.1 hsingle)
  · rintro rfl
    exact Same.refl _

end join

end FieldPattern.Machine.Path
