import FieldPattern.Proofs.Files

/-! # Directories and their entries

A name that is put behind the path of a directory leads to the entry of that name.

* `Path.names_join`: the names of such a path are those of the directory and the new one, provided
  that there is no slash in it;
* `Host.target_join_or`: if the path leads anywhere, then to the entry; `Target.eq_of_join`: and to
  no other;
* `Disk.names_put`, `Disk.mem_children_put`: what putting a node there makes of the entries. -/

namespace FieldPattern.Machine.Path

/-! ### Names of joined paths -/

theorem parts_slash (s : List Char) : parts ('/' :: s) = [] :: parts s := rfl

theorem parts_cons {c : Char} (h : c ≠ '/') {s p : List Char} {ps : List (List Char)}
    (e : parts s = p :: ps) : parts (c :: s) = (c :: p) :: ps := by
  rw [parts, List.foldr_cons, ← parts, e]
  split
  · next hc => exact absurd rfl h
  · next hc =>
      cases hc
      rfl
  · next hc => cases hc

theorem exists_parts_eq_cons (s : List Char) : ∃ p ps, parts s = p :: ps := by
  induction s with
  | nil => exact ⟨[], [], rfl⟩
  | cons c s ih =>
      obtain ⟨p, ps, e⟩ := ih
      by_cases h : c = '/'
      · exact ⟨[], parts s, h ▸ parts_slash s⟩
      · exact ⟨c :: p, ps, parts_cons h e⟩

theorem parts_append_slash (a b : List Char) : parts (a ++ '/' :: b) = parts a ++ parts b := by
  induction a with
  | nil => rfl
  | cons c a ih =>
      by_cases h : c = '/'
      · rw [h, List.cons_append, parts_slash, parts_slash, ih, List.cons_append]
      · obtain ⟨p, ps, e⟩ := exists_parts_eq_cons a
        rw [e, List.cons_append] at ih
        rw [List.cons_append, parts_cons h ih, parts_cons h e, List.cons_append]

theorem parts_of_no_slash {s : List Char} (h : '/' ∉ s) : parts s = [s] := by
  induction s with
  | nil => rfl
  | cons c s ih =>
      rw [List.mem_cons, not_or] at h
      exact parts_cons (Ne.symm h.1) (ih h.2)

section join
variable {root f : String}

theorem isAbsolute_of_no_slash (hslash : '/' ∉ f.toList) : isAbsolute f = false := by
  rw [isAbsolute, beq_eq_false_iff_ne]
  exact fun e => hslash (List.mem_of_mem_head? e)

theorem names_of_no_slash (hslash : '/' ∉ f.toList) (hf : f ≠ "") : names f = [f] := by
  rw [names, parts_of_no_slash hslash]
  simp [hf]

/-- The text of a joined path: the directory up to a slash, and the name. -/
theorem toList_join (hroot : root ≠ "") (hslash : '/' ∉ f.toList) :
    ∃ a, (join root f).toList = a ++ '/' :: f.toList ∧
      (root.toList = a ∧ a ≠ [] ∨ root.toList = a ++ ['/']) := by
  have hempty : root.isEmpty = false := by simpa using hroot
  rw [join, isAbsolute_of_no_slash hslash, hempty, Bool.or_false, if_neg Bool.false_ne_true]
  by_cases hends : endsWithSlash root = true
  · rw [if_pos hends]
    rw [endsWithSlash, beq_iff_eq] at hends
    obtain ⟨a, ha⟩ := List.getLast?_eq_some_iff.1 hends
    exact ⟨a, by simp [ha], .inr ha⟩
  · rw [if_neg hends]
    exact ⟨root.toList, by simp, .inl ⟨rfl, by simpa using hroot⟩⟩

theorem names_join (hroot : root ≠ "") (hslash : '/' ∉ f.toList) (hf : f ≠ "") :
    names (join root f) = names root ++ [f] := by
  obtain ⟨a, e, ha⟩ := toList_join hroot hslash
  have hroot : (parts root.toList).filter (fun p => !p.isEmpty) =
      (parts a).filter fun p => !p.isEmpty := by
    rcases ha with ⟨ha, -⟩ | ha
    · rw [ha]
    · rw [ha, parts_append_slash, List.filter_append]
      exact List.append_nil _
  rw [names, names, e, parts_append_slash, parts_of_no_slash hslash, List.filter_append, hroot]
  simp [hf]

theorem isAbsolute_join (hroot : root ≠ "") (hslash : '/' ∉ f.toList) :
    isAbsolute (join root f) = isAbsolute root := by
  obtain ⟨a, e, ha⟩ := toList_join hroot hslash
  rw [isAbsolute, isAbsolute, e]
  rcases ha with ⟨ha, hne⟩ | ha
  · rw [ha, List.head?_append, List.head?_eq_some_head hne]
    rfl
  · rw [ha]
    cases a <;> rfl

theorem endsWithSlash_join (hroot : root ≠ "") (hslash : '/' ∉ f.toList) (hf : f ≠ "") :
    endsWithSlash (join root f) = false := by
  obtain ⟨a, e, -⟩ := toList_join hroot hslash
  have hne : f.toList ≠ [] := by simpa using hf
  rw [endsWithSlash, e, beq_eq_false_iff_ne, List.getLast?_append, List.getLast?_cons,
    List.getLast?_eq_some_getLast hne]
  intro h
  exact hslash (Option.some.inj h ▸ List.getLast_mem hne)

theorem mem_join (hroot : root ≠ "") (hslash : '/' ∉ f.toList) {c : Char} (hc : c ≠ '/') :
    c ∈ (join root f).toList ↔ c ∈ root.toList ∨ c ∈ f.toList := by
  obtain ⟨a, e, ha⟩ := toList_join hroot hslash
  rcases ha with ⟨ha, -⟩ | ha <;> simp [e, ha, hc]

end join

end FieldPattern.Machine.Path

namespace FieldPattern.Machine.Disk

variable {d : Disk} {l m : Location} {n n' : Node} {name name' : String}

/-! ### Entries of a directory -/

/-- The entry of a directory that a node is, if it is one. -/
def child? (l : Location) : Location × Node → Option (String × Node) := fun (location, n) =>
  match location.getLast? with
  | some name => if location = l ++ [name] then some (name, n) else none
  | none => none

theorem child?_eq_some_iff {p : Location × Node} :
    child? l p = some (name, n) ↔ p = (l ++ [name], n) := by
  obtain ⟨location, n'⟩ := p
  constructor
  · intro e
    rw [child?] at e
    split at e
    · split_ifs at e with hlocation
      cases e
      rw [hlocation]
    · cases e
  · rintro ⟨⟩
    simp [child?]

theorem children_eq (d : Disk) (l : Location) : d.children l = d.nodes.filterMap (child? l) := rfl

theorem mem_children : (name, n) ∈ d.children l ↔ (l ++ [name], n) ∈ d.nodes := by
  simp only [children_eq, List.mem_filterMap, child?_eq_some_iff, exists_eq_right]

theorem mem_children_of_node? (h : d.node? (l ++ [name]) = some n) : (name, n) ∈ d.children l := by
  rw [node?, if_neg (by simp)] at h
  obtain ⟨before, after, e, -⟩ := List.lookup_eq_some_iff.1 h
  rw [mem_children, e]
  simp

/-- The names of the entries of a directory. -/
def names (d : Disk) (l : Location) : List String := (d.children l).map Prod.fst

theorem mem_names : name ∈ d.names l ↔ ∃ p ∈ d.nodes, p.1 = l ++ [name] := by
  simp only [names, List.mem_map, Prod.exists, mem_children]
  constructor
  · rintro ⟨_, n, hmem, rfl⟩
    exact ⟨_, n, hmem, rfl⟩
  · rintro ⟨_, n, hmem, rfl⟩
    exact ⟨name, n, hmem, rfl⟩

/-- A node that is put into a directory gets a new name there, or an old name stands for it. -/
theorem names_put (d : Disk) (l : Location) (name : String) (n : Node) :
    (d.put (l ++ [name]) n).names l =
      if name ∈ d.names l then d.names l else d.names l ++ [name] := by
  have hany : (d.nodes.any fun p => p.1 == l ++ [name]) = true ↔ name ∈ d.names l := by
    simp [mem_names]
  rw [names, children_eq, nodes_put]
  simp only [hany]
  split_ifs
  · -- What an entry is called depends on its location only.
    have hfirst (p : Location × Node) :
        (child? l (if p.1 = l ++ [name] then (l ++ [name], n) else p)).map Prod.fst =
          (child? l p).map Prod.fst := by
      split_ifs with hp
      · simp [child?, hp]
      · rfl
    rw [replaced, List.filterMap_map, List.map_filterMap, names, children_eq, List.map_filterMap]
    exact congrArg (List.filterMap · d.nodes) (funext hfirst)
  · have hlast : child? l (l ++ [name], n) = some (name, n) := child?_eq_some_iff.2 rfl
    simp [names, children_eq, hlast]

theorem mem_replaced {nodes : List (Location × Node)} (h : ∃ p ∈ nodes, p.1 = l) :
    (m, n') ∈ replaced nodes l n ↔ if m = l then n' = n else (m, n') ∈ nodes := by
  simp only [replaced, List.mem_map]
  constructor
  · rintro ⟨p, hp, e⟩
    split_ifs at e with hl
    · cases e
      simp
    · rw [e] at hl hp
      simpa [hl] using hp
  · split_ifs with hm
    · rintro rfl
      obtain ⟨p, hp, hl⟩ := h
      exact ⟨p, hp, by simp [hl, hm]⟩
    · exact fun hp => ⟨_, hp, if_neg hm⟩

theorem mem_children_put : (name', n') ∈ (d.put (l ++ [name]) n).children l ↔
    if name' = name then n' = n else (name', n') ∈ d.children l := by
  have hlocation : l ++ [name'] = l ++ [name] ↔ name' = name := by simp
  rw [mem_children, mem_children, nodes_put]
  by_cases hany : ∃ p ∈ d.nodes, p.1 = l ++ [name]
  · rw [if_pos (by simpa using hany), mem_replaced hany]
    simp only [hlocation]
  · rw [if_neg (by simpa using hany), List.mem_append, List.mem_singleton, Prod.mk.injEq, hlocation]
    split_ifs with hname
    · subst hname
      have hnot : (l ++ [name'], n') ∉ d.nodes := fun hmem => hany ⟨_, hmem, rfl⟩
      simp [hnot]
    · simp [hname]

end FieldPattern.Machine.Disk

namespace FieldPattern.Machine.Host

variable {h : Host} {root f name : String} {dir directory : Location}

/-! ### Paths into a directory -/

/-- A name that stands for an entry of a directory when it is put behind its path. -/
structure IsEntryName (f : String) : Prop where
  ne_empty : f ≠ ""
  no_slash : '/' ∉ f.toList
  ne_dot : f ≠ "."
  ne_dots : f ≠ ".."

theorem find_eq_directory_iff : h.find root = .ok ⟨dir, some .directory⟩ ↔
    '\x00' ∉ root.toList ∧ checkPath root = .ok () ∧ h.disk.node? dir = some .directory ∧
      ∃ links, h.disk.Leads maxLinks (h.origin root) (Path.names root) links dir := by
  constructor
  · intro hroot
    by_cases hnul : '\x00' ∈ root.toList
    · cases (find_of_nul hnul).symm.trans hroot
    rcases hchecked : checkPath root with cause | ⟨⟨⟩⟩
    · cases (find_of_unchecked hnul hchecked).symm.trans hroot
    · rw [find_of_checked hnul hchecked] at hroot
      exact ⟨hnul, rfl, Disk.leads_of_walk hroot⟩
  · rintro ⟨hnul, hchecked, hthere, links, hleads⟩
    rw [find_of_checked hnul hchecked, hleads.walk_eq, hthere]

theorem find_directory_mono {h' : Host} (hk : h.Keeps h')
    (hroot : h.find root = .ok ⟨dir, some .directory⟩) :
    h'.find root = .ok ⟨dir, some .directory⟩ := by
  obtain ⟨hnul, hchecked, hthere, links, hleads⟩ := find_eq_directory_iff.1 hroot
  refine find_eq_directory_iff.2 ⟨hnul, hchecked, hk.nodes _ _ hthere (.inl rfl), links, ?_⟩
  rw [hk.origin_eq]
  exact hleads.mono hk.nodes

theorem leads_of_find (hroot : h.find root = .ok ⟨dir, some .directory⟩) :
    root ≠ "" ∧ '\x00' ∉ root.toList ∧ h.disk.node? dir = some .directory ∧
      ∃ links, h.disk.Leads maxLinks (h.origin root) (Path.names root) links dir := by
  obtain ⟨hnul, hchecked, hleads⟩ := find_eq_directory_iff.1 hroot
  exact ⟨(checkPath_eq_ok_iff.1 hchecked).1, hnul, hleads⟩

/-- A name alone leads to the entry of the working directory. -/
theorem find_of_directory (hf : IsEntryName f) (hnul : '\x00' ∉ f.toList)
    (hshort : f.utf8ByteSize ≤ maxNameBytes)
    (hthere : h.disk.node? (h.home ++ [f]) = some .directory) :
    h.find f = .ok ⟨h.home ++ [f], some .directory⟩ := by
  have hchecked : checkPath f = .ok () := by
    have hle : maxNameBytes ≤ maxPathBytes := by decide
    exact checkPath_eq_ok_iff.2 ⟨hf.ne_empty, Nat.le_trans hshort hle⟩
  refine find_eq_directory_iff.2 ⟨hnul, hchecked, hthere, maxLinks, ?_⟩
  rw [origin, Path.isAbsolute_of_no_slash hf.no_slash, if_neg Bool.false_ne_true,
    Path.names_of_no_slash hf.no_slash hf.ne_empty]
  exact .enter ⟨hf.ne_dot, hf.ne_dots, hshort⟩ hthere .here

section root
variable (hroot : h.find root = .ok ⟨dir, some .directory⟩)
include hroot

theorem target_join (hf : IsEntryName f) (hnul : '\x00' ∉ f.toList)
    (hshort : f.utf8ByteSize ≤ maxNameBytes) (hchecked : checkPath (Path.join root f) = .ok ()) :
    h.Target (Path.join root f) dir f := by
  obtain ⟨hempty, hroot_nul, hthere, links, hleads⟩ := leads_of_find hroot
  refine ⟨?_, hchecked, Path.endsWithSlash_join hempty hf.no_slash hf.ne_empty,
    ⟨hf.ne_dot, hf.ne_dots, hshort⟩, hthere, Path.names root, links,
    Path.names_join hempty hf.no_slash hf.ne_empty, ?_⟩
  · rw [Path.mem_join hempty hf.no_slash (by decide), not_or]
    exact ⟨hroot_nul, hnul⟩
  · rw [origin, Path.isAbsolute_join hempty hf.no_slash]
    exact hleads

/-- A path into the directory leads to the entry, or it leads nowhere. -/
theorem target_join_or (hf : IsEntryName f) :
    h.Target (Path.join root f) dir f ∨ ∃ cause, h.find (Path.join root f) = .error cause := by
  obtain ⟨hempty, hroot_nul, hthere, links, hleads⟩ := leads_of_find hroot
  have hmem : '\x00' ∈ (Path.join root f).toList ↔ '\x00' ∈ f.toList := by
    rw [Path.mem_join hempty hf.no_slash (by decide), or_iff_right hroot_nul]
  by_cases hnul : '\x00' ∈ f.toList
  · exact .inr ⟨.nulInName, find_of_nul (hmem.2 hnul)⟩
  rcases hchecked : checkPath (Path.join root f) with cause | ⟨⟨⟩⟩
  · exact .inr ⟨cause, find_of_unchecked (mt hmem.1 hnul) hchecked⟩
  by_cases hshort : f.utf8ByteSize ≤ maxNameBytes
  · exact .inl (target_join hroot hf hnul hshort hchecked)
  · refine .inr ⟨.nameTooLong, ?_⟩
    rw [find_of_checked (mt hmem.1 hnul) hchecked, Path.endsWithSlash_join hempty hf.no_slash hf.ne_empty,
      Path.names_join hempty hf.no_slash hf.ne_empty, origin,
      Path.isAbsolute_join hempty hf.no_slash, ← origin,
      hleads.walk_append false (by simp), Disk.walk, if_neg hf.ne_dot, if_neg hf.ne_dots,
      if_pos (Nat.lt_of_not_le hshort)]

theorem Target.eq_of_join (hf : IsEntryName f) (ht : h.Target (Path.join root f) directory name) :
    directory = dir ∧ name = f := by
  obtain ⟨hempty, -, -, links, hleads⟩ := leads_of_find hroot
  obtain ⟨front, links', hnames, hleads'⟩ := ht.leads
  rw [Path.names_join hempty hf.no_slash hf.ne_empty] at hnames
  obtain ⟨rfl, hname⟩ := List.append_inj' hnames rfl
  rw [origin, Path.isAbsolute_join hempty hf.no_slash, ← origin] at hleads'
  have hwalk := (hleads.walk_eq true).symm.trans (hleads'.walk_eq true)
  simp only [Except.ok.injEq, Disk.Place.mk.injEq, List.cons.injEq, and_true] at hwalk hname
  exact ⟨hwalk.1.symm, hname.symm⟩

end root

end FieldPattern.Machine.Host
