import FieldPattern.Proofs.Folders
import FieldPattern.Proofs.Trimming
import FieldPattern.Store

/-! # Names of records

The file of a record is named by the stem of the record's name, and stems are stable: the name of
the file has the same stem again (`stem_fileName`).  So names that share a file are accepted
together (`path_eq_ok_iff`), and the file is one that `list` looks for (`hasExtension_iff`). -/

namespace FieldPattern.Store

open Machine (Host Location)
open Machine.Disk (IsPlain)
open Text (isBlank trimmed trimmedRight)

variable {s : Store} {h : Host} {name f p : String} {dir : Location}

/-! ### Names of records -/

theorem dropWhile_append_ending (t : List Char) :
    (t ++ ending).dropWhile isBlank = t.dropWhile isBlank ++ ending := by
  rw [List.dropWhile_append]
  split
  · next h =>
      rw [List.isEmpty_iff.1 h]
      rfl
  · rfl

theorem trimmed_append_ending (t : List Char) :
    trimmed (t ++ ending) = t.dropWhile isBlank ++ ending := by
  rw [trimmed, dropWhile_append_ending, trimmedRight, List.reverse_append]
  change (List.dropWhile isBlank ('n' :: _)).reverse = _
  rw [List.dropWhile_cons_of_neg (by decide)]
  simp [ending]

theorem stem_append_ending (t : List Char) : stem (t ++ ending) = t.dropWhile isBlank := by
  rw [stem, trimmed_append_ending]
  simp

theorem stem_prefix (t : List Char) : stem t <+: t.dropWhile isBlank := by
  rw [stem]
  split
  · exact (List.take_prefix _ _).trans (Text.trimmed_prefix t)
  · exact Text.trimmed_prefix t

/-- No stem starts with a blank. -/
theorem dropWhile_stem (t : List Char) : (stem t).dropWhile isBlank = stem t := by
  rw [Text.dropWhile_blank_eq_iff]
  intro c hc
  obtain ⟨u, hu⟩ := stem_prefix t
  refine Text.head?_dropWhile_blank (s := t) c ?_
  rw [← hu, List.head?_append, hc]
  rfl

theorem stem_fileName (name : String) : stem (fileName name).toList = stem name.toList := by
  rw [fileName, String.toList_ofList, stem_append_ending, dropWhile_stem]

theorem fileName_fileName (name : String) : fileName (fileName name) = fileName name := by
  rw [fileName, stem_fileName, fileName]

/-- A stem that is not rejected. -/
structure IsStem (t : List Char) : Prop where
  ne_nil : t ≠ []
  no_slash : '/' ∉ t
  no_backslash : '\\' ∉ t
  ne_dot : t ≠ ['.']
  ne_dots : t ≠ ['.', '.']

theorem nameFault?_eq_none_iff {t : List Char} (ht : t.dropWhile isBlank = t) :
    nameFault? t = none ↔ IsStem t := by
  have hblank : trimmed t = [] ↔ t = [] := by
    rw [Text.trimmed_eq_nil_iff, ← List.dropWhile_eq_nil_iff, ht]
  rw [nameFault?]
  split_ifs with h₁ h₂
  · exact ⟨False.elim, fun h => absurd (hblank.1 (List.isEmpty_iff.1 h₁)) h.ne_nil⟩
  · refine ⟨False.elim, fun h => ?_⟩
    simp [h.no_slash, h.no_backslash, h.ne_dot, h.ne_dots] at h₂
  · simp only [Bool.or_eq_true, List.contains_iff_mem, beq_iff_eq, not_or] at h₂
    obtain ⟨⟨⟨hslash, hbackslash⟩, hdot⟩, hdots⟩ := h₂
    exact ⟨fun _ => ⟨fun e => h₁ (by simp [hblank.2 e]), hslash, hbackslash, hdot, hdots⟩,
      fun _ => rfl⟩

theorem path_eq_ok_iff : s.path name = .ok p ↔
    IsStem (stem name.toList) ∧ p = Machine.Path.join s.root (fileName name) := by
  rw [← nameFault?_eq_none_iff (dropWhile_stem _), path]
  cases nameFault? (stem name.toList) <;> simp [eq_comm]

theorem load_of_path (hp : s.path name = .ok p) :
    s.load h name = (Record.load h p).mapError StoreError.record := by
  rw [load, hp]
  rfl

theorem load_of_path_error {e : StoreError} (hp : s.path name = .error e) :
    s.load h name = .error e := by
  rw [load, hp]
  rfl

theorem path_eq_error {error : StoreError} (e : s.path name = .error error) :
    ∃ fault, error = .rejected name fault := by
  rw [path] at e
  split at e
  · cases e
    exact ⟨_, rfl⟩
  · cases e

theorem hasExtension_iff :
    Machine.Path.hasExtension name "json" = true ↔ ∃ t, t ≠ [] ∧ name.toList = t ++ ending := by
  constructor
  · intro h
    rw [Machine.Path.hasExtension] at h
    -- The name backwards: what follows the last point, the point, and the rest.
    have hsplit := List.takeWhile_append_dropWhile (p := (· != '.')) (l := name.toList.reverse)
    have hdrop : name.toList.reverse.drop (name.toList.reverse.takeWhile (· != '.')).length =
        name.toList.reverse.dropWhile (· != '.') :=
      (congrArg (List.drop _) hsplit.symm).trans List.drop_left
    have hpoint := List.head?_dropWhile_not (· != '.') name.toList.reverse
    simp only [hdrop] at h
    rcases hafter : name.toList.reverse.dropWhile (· != '.') with _ | ⟨c, before⟩
    · rw [hafter] at h
      cases h
    · rw [hafter] at h hsplit hpoint
      simp only [Bool.and_eq_true, Bool.not_eq_true', List.isEmpty_eq_false_iff, beq_iff_eq] at h
      obtain ⟨⟨-, hbefore⟩, hending⟩ := h
      obtain rfl : c = '.' := by simpa using hpoint
      refine ⟨before.reverse, by simpa using hbefore, ?_⟩
      rw [← List.reverse_reverse name.toList, ← hsplit, List.reverse_append, hending]
      simp [ending]
  · rintro ⟨t, ht, e⟩
    have hdots : name ≠ ".." := by
      rintro rfl
      have := congrArg List.length e
      simp [ending] at this
    have hreverse : name.toList.reverse = ['n', 'o', 's', 'j', '.'] ++ t.reverse := by
      simp [e, ending]
    simp [Machine.Path.hasExtension, hreverse, hdots, ht]

theorem length_fileName (name : String) :
    (fileName name).toList.length = (stem name.toList).length + 5 := by
  simp [fileName, ending]

/-- The file of a name that is accepted has a name of its own in the root. -/
theorem IsStem.isEntryName (ht : IsStem (stem name.toList)) : Host.IsEntryName (fileName name) where
  ne_empty e := by
    have := length_fileName name
    simp [e] at this
  no_slash := by simpa [fileName, ending] using ht.no_slash
  ne_dot e := by
    have := length_fileName name
    simp [e] at this
  ne_dots e := by
    have := length_fileName name
    simp [e] at this

theorem IsStem.hasExtension (ht : IsStem (stem name.toList)) :
    Machine.Path.hasExtension (fileName name) "json" = true :=
  hasExtension_iff.2 ⟨_, ht.ne_nil, String.toList_ofList⟩

/-! ### What is listed -/

theorem listed?_eq_some_iff {e : String × Machine.Node} : listed? e = some name ↔
    Machine.Path.hasExtension name "json" = true ∧ ∃ content, e = (name, .file content) := by
  obtain ⟨name', n⟩ := e
  cases n with
  | file content =>
      rw [listed?]
      split_ifs with h
      · constructor
        · rintro ⟨⟩
          exact ⟨h, content, rfl⟩
        · rintro ⟨-, _, ⟨⟩⟩
          rfl
      · refine ⟨nofun, ?_⟩
        rintro ⟨h', _, ⟨⟩⟩
        exact absurd h' h
  | directory | link _ | device _ | program _ =>
      refine ⟨nofun, ?_⟩
      rintro ⟨-, _, ⟨⟩⟩

theorem list_root (hroot : h.find s.root = .ok ⟨dir, some .directory⟩) :
    h.list s.root = h.disk.children dir := by
  rw [Host.list, hroot]

theorem mem_list_iff : name ∈ s.list h ↔
    Machine.Path.hasExtension name "json" = true ∧
      ∃ content, (name, .file content) ∈ h.list s.root := by
  simp only [list, List.mem_mergeSort, List.mem_filterMap, listed?_eq_some_iff]
  constructor
  · rintro ⟨_, hmem, hext, content, rfl⟩
    exact ⟨hext, content, hmem⟩
  · rintro ⟨hext, content, hmem⟩
    exact ⟨_, hmem, hext, content, rfl⟩

theorem sublist_filterMap_listed? (es : List (String × Machine.Node)) :
    List.Sublist (es.filterMap listed?) (es.map Prod.fst) := by
  induction es with
  | nil => exact .slnil
  | cons e es ih =>
      rw [List.map_cons]
      rcases he : listed? e with _ | name
      · rw [List.filterMap_cons_none he]
        exact ih.cons _
      · obtain ⟨-, content, rfl⟩ := listed?_eq_some_iff.1 he
        rw [List.filterMap_cons_some he]
        exact ih.cons_cons _

theorem nodup_list (hd : ((h.list s.root).map Prod.fst).Nodup) : (s.list h).Nodup :=
  (List.mergeSort_perm _ _).nodup_iff.2 (hd.sublist (sublist_filterMap_listed? _))

theorem pairwise_list : (s.list h).Pairwise (· ≤ ·) := by
  have hsorted : (((h.list s.root).filterMap listed?).mergeSort fun a b => decide (a ≤ b)).Pairwise
      fun a b => decide (a ≤ b) = true := List.pairwise_mergeSort
    (fun a b c hab hbc => by simpa using String.le_trans (by simpa using hab) (by simpa using hbc))
    (fun a b => by simpa using String.le_total a b) _
  exact hsorted.imp fun hab => by simpa using hab

end FieldPattern.Store
