import FieldPattern.Proofs.ParentPaths
import FieldPattern.Proofs.StoreNames

/-! # Names stay in the root

The file of a name is found in three steps: the name is trimmed and gets its ending (`normalized`),
the ending is cut off again by its number of bytes (`withoutLast`), and what is left is judged.
`pathByBytes` does this step by step, where cutting a text can fail: at a byte outside of it, or
inside of a character.  It never fails and gives what `path` gives (`pathByBytes_eq`).

A path that is given out is that of a file right in the root (`IsConfined`), whatever the root is and
whatever the name is made of.

The main statement is `names_stay_in_root`. -/

namespace FieldPattern.Store

open Machine (Host Location)
open Machine.Path (join Same parent? lastName? hasExtension)

/-! ### The name of the file, step by step -/

/-- Why a text is not cut at a byte. -/
inductive CutFault where
  | outside
  | insideCharacter
deriving DecidableEq, Repr

/-- The text without its last `n` bytes. -/
def withoutLast (text : String) (n : Nat) : Except CutFault String :=
  if text.utf8ByteSize < n then .error .outside
  else if h : String.Pos.Raw.isValid text ⟨text.utf8ByteSize - n⟩ = true then
    .ok (text.sliceTo (text.pos _ (String.Pos.Raw.isValid_eq_true_iff.1 h))).copy
  else .error .insideCharacter

/-- The name without blanks at its ends, and with `.json` at the end. -/
def normalized (name : String) : String :=
  let name := Text.trim name
  if ending.isSuffixOf name.toList then name else name ++ ".json"

/-- The path of the file that holds the record `name`. -/
def pathByBytes (s : Store) (name : String) : Except CutFault (Except StoreError String) := do
  let file := normalized name
  let stem ← withoutLast file ("json".utf8ByteSize + 1)
  match nameFault? stem.toList with
  | some fault => return .error (.rejected name fault)
  | none => return .ok (join s.root file)

variable {s : Store} {name name' p p' : String}

/-- The end of a text can be cut off: where it starts, a character starts or the text ends. -/
theorem withoutLast_append (text last : String) :
    withoutLast (text ++ last) last.utf8ByteSize = .ok text := by
  have hsize : (text ++ last).utf8ByteSize = text.utf8ByteSize + last.utf8ByteSize :=
    String.utf8ByteSize_append
  have hin : ¬ (text ++ last).utf8ByteSize < last.utf8ByteSize := by omega
  have hcut : (text ++ last).utf8ByteSize - last.utf8ByteSize = text.utf8ByteSize := by omega
  have hvalid : String.Pos.Raw.IsValid (text ++ last) ⟨text.utf8ByteSize⟩ :=
    String.Pos.Raw.isValid_rawEndPos.append_right last
  rw [withoutLast, if_neg hin]
  simp only [hcut]
  rw [dif_pos (String.Pos.Raw.isValid_eq_true_iff.2 hvalid)]
  exact congrArg Except.ok String.Pos.splits_append_rawEndPos.copy_sliceTo_eq

theorem normalized_eq (name : String) : normalized name = fileName name := by
  rw [normalized, fileName, stem]
  by_cases h : ending.isSuffixOf (Text.trimmed name.toList) = true
  · obtain ⟨t, ht⟩ := List.isSuffixOf_iff_suffix.1 h
    have hcut : (Text.trimmed name.toList).take
        ((Text.trimmed name.toList).length - ending.length) = t := by
      rw [← ht, List.length_append, Nat.add_sub_cancel, List.take_left]
    simp only [Text.trim, String.toList_ofList, if_pos h, hcut, ht]
  · have hjson : ".json" = String.ofList ending := rfl
    simp only [Text.trim, String.toList_ofList, if_neg h, hjson, String.ofList_append]

theorem normalized_normalized (name : String) : normalized (normalized name) = normalized name := by
  rw [normalized_eq, normalized_eq, fileName_fileName]

theorem stem_normalized (name : String) : stem (normalized name).toList = stem name.toList := by
  rw [normalized_eq, stem_fileName]

theorem pathByBytes_eq (s : Store) (name : String) : s.pathByBytes name = .ok (s.path name) := by
  have hfile : normalized name = String.ofList (stem name.toList) ++ ".json" := by
    rw [normalized_eq, fileName, String.ofList_append]
    rfl
  have hcut : withoutLast (normalized name) ("json".utf8ByteSize + 1) =
      .ok (String.ofList (stem name.toList)) := by
    rw [hfile]
    exact withoutLast_append _ ".json"
  rw [pathByBytes, hcut, path, normalized_eq]
  simp only [bind, Except.bind, String.toList_ofList]
  cases nameFault? (stem name.toList) <;> rfl

/-! ### Files right in the root -/

/-- The path `p` is that of a file with the name `f` right in the directory `root`. -/
structure IsConfined (root f p : String) : Prop where
  eq_join : p = join root f
  /-- The name is one component. -/
  single : Machine.Path.parts f.toList = [f.toList]
  no_slash : '/' ∉ f.toList
  no_backslash : '\\' ∉ f.toList
  ne_dot : f ≠ "."
  ne_dots : f ≠ ".."
  ne_ending : f ≠ ".json"
  ends : ending <:+ f.toList
  lastName : lastName? p = some f
  extension : hasExtension f "json" = true
  parent : ∃ directory, parent? p = some directory ∧ Same directory root
  /-- On any machine, if the root is a directory, the path leads to the entry of that name in it, or
  it leads nowhere. -/
  leads : ∀ (h : Host) (dir : Location), h.find root = .ok ⟨dir, some .directory⟩ →
    h.Target p dir f ∨ ∃ cause, h.find p = .error cause

theorem IsStem.isConfined (ht : IsStem (stem name.toList)) (root : String) :
    IsConfined root (fileName name) (join root (fileName name)) := by
  have hentry : Host.IsEntryName (fileName name) := ht.isEntryName
  have htext : (fileName name).toList = stem name.toList ++ ending := String.toList_ofList
  refine ⟨rfl, Machine.Path.parts_of_no_slash hentry.no_slash, hentry.no_slash, ?_, hentry.ne_dot,
    hentry.ne_dots, ?_, ?_, Machine.Path.lastName?_join hentry root, ht.hasExtension,
    Machine.Path.parent?_join hentry root, fun h dir hroot => Host.target_join_or hroot hentry⟩
  · rw [htext, List.mem_append, not_or]
    exact ⟨ht.no_backslash, by decide⟩
  · intro e
    rw [e] at htext
    exact ht.ne_nil (List.append_cancel_right (htext.symm.trans (List.nil_append _).symm))
  · rw [htext]
    exact List.suffix_append _ _

/-- A name is accepted exactly if its file's name, without the ending, is a stem. -/
theorem accepted_iff : (∃ p, s.path name = .ok p) ↔
    ∃ t, (normalized name).toList = t ++ ending ∧ IsStem t := by
  have htext : (normalized name).toList = stem name.toList ++ ending := by
    rw [normalized_eq, fileName, String.toList_ofList]
  constructor
  · rintro ⟨p, hp⟩
    exact ⟨_, htext, (path_eq_ok_iff.1 hp).1⟩
  · rintro ⟨t, ht, hstem⟩
    obtain rfl : stem name.toList = t := List.append_cancel_right (htext.symm.trans ht)
    exact ⟨_, path_eq_ok_iff.2 ⟨hstem, rfl⟩⟩

theorem path_normalized_eq_ok_iff : s.path (normalized name) = .ok p ↔ s.path name = .ok p := by
  rw [path_eq_ok_iff, path_eq_ok_iff, stem_normalized, normalized_eq, fileName_fileName]

theorem path_eq_error_iff {error : StoreError} : s.path name = .error error ↔
    ∃ fault, nameFault? (stem name.toList) = some fault ∧ error = .rejected name fault := by
  rw [path]
  cases nameFault? (stem name.toList) <;> simp [eq_comm]

theorem path_normalized_eq_rejected_iff {fault : NameFault} :
    s.path (normalized name) = .error (.rejected (normalized name) fault) ↔
      s.path name = .error (.rejected name fault) := by
  rw [path_eq_error_iff, path_eq_error_iff, stem_normalized]
  simp

theorem path_eq_iff (hp : s.path name = .ok p) (hp' : s.path name' = .ok p') :
    (Same p p' ↔ normalized name = normalized name') ∧
      (p = p' ↔ normalized name = normalized name') := by
  obtain ⟨hstem, hjoin⟩ := path_eq_ok_iff.1 hp
  obtain ⟨hstem', hjoin'⟩ := path_eq_ok_iff.1 hp'
  have hsame : Same p p' ↔ fileName name = fileName name' := by
    rw [hjoin, hjoin']
    exact Machine.Path.same_join_iff hstem.isEntryName s.root hstem'.isEntryName
  rw [normalized_eq, normalized_eq]
  refine ⟨hsame, fun e => hsame.1 (e ▸ Same.refl p), fun e => ?_⟩
  rw [hjoin, hjoin', e]

/-- **Names stay in the root.**  The path of a name is computed without a cut outside of a text or
inside of a character.  If there is one, it is that of a file right in the root, whose name is the
normalized one; there is one exactly if that name without its ending is not empty, has no separator
and is neither `.` nor `..`.  Otherwise the name is rejected.  Normalizing a name again changes
nothing, neither the name nor its path nor the reason for which it is rejected, and two names have
the same path exactly if they are normalized to the same name. -/
theorem names_stay_in_root (s : Store) (name : String) :
    s.pathByBytes name = .ok (s.path name) ∧
      (∀ p, s.path name = .ok p → IsConfined s.root (normalized name) p) ∧
      ((∃ p, s.path name = .ok p) ↔ ∃ t, (normalized name).toList = t ++ ending ∧ IsStem t) ∧
      (∀ error, s.path name = .error error → ∃ fault, error = .rejected name fault) ∧
      normalized (normalized name) = normalized name ∧
      (∀ p, s.path (normalized name) = .ok p ↔ s.path name = .ok p) ∧
      (∀ fault, s.path (normalized name) = .error (.rejected (normalized name) fault) ↔
        s.path name = .error (.rejected name fault)) ∧
      ∀ name' p p', s.path name = .ok p → s.path name' = .ok p' →
        (Same p p' ↔ normalized name = normalized name') ∧
          (p = p' ↔ normalized name = normalized name') := by
  refine ⟨pathByBytes_eq s name, fun p hp => ?_, accepted_iff, fun error => path_eq_error,
    normalized_normalized name, fun p => path_normalized_eq_ok_iff,
    fun fault => path_normalized_eq_rejected_iff, fun name' p p' => path_eq_iff⟩
  obtain ⟨hstem, hjoin⟩ := path_eq_ok_iff.1 hp
  rw [hjoin, normalized_eq]
  exact hstem.isConfined s.root

/-- A root that ends in a point, and two names for one file. -/
theorem names_stay_in_root_alias :
    let s : Store := ⟨"a/b/."⟩
    s.path "\u00a0é.json\n" = .ok "a/b/./é.json" ∧ s.path "é" = .ok "a/b/./é.json" ∧
      IsConfined s.root "é.json" "a/b/./é.json" ∧ parent? "a/b/./é.json" = some "a/b" ∧
      normalized "\u00a0é.json\n" = normalized "é" := by
  intro s
  have hstem : IsStem ['é'] := ⟨by decide, by decide, by decide, by decide, by decide⟩
  have hpath : s.path "\u00a0é.json\n" = .ok "a/b/./é.json" :=
    path_eq_ok_iff.2 ⟨hstem, by decide⟩
  have hpath' : s.path "é" = .ok "a/b/./é.json" := path_eq_ok_iff.2 ⟨hstem, by decide⟩
  obtain ⟨-, -, -, -, -, -, -, hsame⟩ := names_stay_in_root s "\u00a0é.json\n"
  obtain ⟨-, hconfined, -⟩ := names_stay_in_root s "é"
  have hname : normalized "é" = "é.json" := by decide
  exact ⟨hpath, hpath', hname ▸ hconfined _ hpath', by decide, ((hsame _ _ _ hpath hpath').2).1 rfl⟩

end FieldPattern.Store
