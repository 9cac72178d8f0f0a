import FieldPattern.Proofs.StoreNames

/-! # What is listed and what is looked up

`list` goes by the names of the files in the root, and asks no more of a name than that it ends in
`.json`.  A name that is looked up is trimmed first, and may be rejected.  The two agree on the names
that are *literal*: those that start with no blank, have no backslash in them, and are more than
points before the ending.  A file with another name is listed, and cannot be looked up by the name
under which it is listed.

The main statement is `list_lookup`. -/

namespace FieldPattern.Store

open Machine (Host Location Node Path.join)
open Text (isBlank)

/-- A name that is looked up as it stands. -/
structure IsLiteral (name : String) : Prop where
  no_blank : ∀ c ∈ name.toList.head?, isBlank c = false
  no_backslash : '\\' ∉ name.toList
  ne_dot : name ≠ "..json"
  ne_dots : name ≠ "...json"

/-- The directory holds files and directories, each under one name, and these are names that
entries may have. -/
structure IsFolder (h : Host) (dir : Location) : Prop where
  kinds : ∀ name n, (name, n) ∈ h.disk.children dir → n = .directory ∨ ∃ content, n = .file content
  unique : ∀ name n, (name, n) ∈ h.disk.children dir → h.disk.node? (dir ++ [name]) = some n
  names : ∀ name ∈ h.disk.names dir, Host.IsEntryName name ∧ '\x00' ∉ name.toList ∧
    name.utf8ByteSize ≤ Machine.maxNameBytes

variable {s : Store} {h : Host} {dir : Location} {name : String}

theorem isFolder_of_files (hfiles : ∀ e ∈ h.disk.children dir, (∃ content, e.2 = .file content) ∧
      h.disk.node? (dir ++ [e.1]) = some e.2 ∧ Host.IsEntryName e.1 ∧ '\x00' ∉ e.1.toList ∧
      e.1.utf8ByteSize ≤ Machine.maxNameBytes) : IsFolder h dir where
  kinds name n hmem := .inr (hfiles _ hmem).1
  unique name n hmem := (hfiles _ hmem).2.1
  names name hmem := by
    obtain ⟨e, he, rfl⟩ := List.mem_map.1 hmem
    exact (hfiles e he).2.2

/-- The stem of a name that ends as those of records do. -/
theorem isStem_iff {t : List Char} (ht : t ≠ []) (e : name.toList = t ++ ending)
    (hslash : '/' ∉ name.toList) :
    stem name.toList = t ∧ IsStem t ↔ IsLiteral name := by
  rw [e, stem_append_ending, Text.dropWhile_blank_eq_iff]
  have hhead : name.toList.head? = t.head? := by
    rw [e, List.head?_append, List.head?_eq_some_head ht]
    rfl
  have hpoints (u : List Char) (text : String) (htext : text.toList = u ++ ending) :
      t ≠ u ↔ name ≠ text := by
    rw [ne_eq, ne_eq, ← String.toList_inj, e, htext, List.append_cancel_right_eq]
  rw [e] at hslash
  constructor
  · rintro ⟨hblank, hstem⟩
    refine ⟨by rwa [hhead], ?_, (hpoints ['.'] "..json" rfl).1 hstem.ne_dot,
      (hpoints ['.', '.'] "...json" rfl).1 hstem.ne_dots⟩
    rw [e, List.mem_append, not_or]
    exact ⟨hstem.no_backslash, by decide⟩
  · rintro ⟨hblank, hbackslash, hdot, hdots⟩
    rw [e, List.mem_append, not_or] at hbackslash
    rw [List.mem_append, not_or] at hslash
    exact ⟨hhead ▸ hblank, ht, hslash.1, hbackslash.1, (hpoints ['.'] "..json" rfl).2 hdot,
      (hpoints ['.', '.'] "...json" rfl).2 hdots⟩

theorem fileName_of_ending {t : List Char} (e : name.toList = t ++ ending) :
    fileName name = String.ofList (name.toList.dropWhile isBlank) := by
  rw [fileName, e, stem_append_ending, dropWhile_append_ending]

theorem fileName_eq_iff {t : List Char} (e : name.toList = t ++ ending) :
    fileName name = name ↔ stem name.toList = t := by
  rw [← String.toList_inj, fileName, String.toList_ofList]
  conv => lhs; rw [e]
  rw [List.append_cancel_right_eq, ← e]

section IsFolder
variable (hroot : h.find s.root = .ok ⟨dir, some .directory⟩) (hf : IsFolder h dir)
include hroot hf

/-- The path of a listed name is the path of the file exactly if the name is literal. -/
theorem IsFolder.path_iff (hmem : name ∈ s.list h) :
    s.path name = .ok (Path.join s.root name) ↔ IsLiteral name := by
  obtain ⟨hext, content, hchild⟩ := mem_list_iff.1 hmem
  rw [list_root hroot] at hchild
  obtain ⟨t, ht, e⟩ := hasExtension_iff.1 hext
  obtain ⟨hentry, -, -⟩ := hf.names name (List.mem_map.2 ⟨_, hchild, rfl⟩)
  obtain ⟨hempty, -⟩ := Host.leads_of_find hroot
  rw [← isStem_iff ht e hentry.no_slash, path_eq_ok_iff]
  constructor
  · rintro ⟨hstem, hjoin⟩
    have hnames := congrArg Machine.Path.names hjoin
    rw [Machine.Path.names_join hempty hentry.no_slash hentry.ne_empty,
      Machine.Path.names_join hempty hstem.isEntryName.no_slash hstem.isEntryName.ne_empty] at hnames
    have hname : name = fileName name := by simpa using hnames
    have ht' := (fileName_eq_iff e).1 hname.symm
    exact ⟨ht', ht' ▸ hstem⟩
  · rintro ⟨ht', hstem⟩
    rw [(fileName_eq_iff e).2 ht']
    exact ⟨ht'.symm ▸ hstem, rfl⟩

/-- The path of a file that is there leads to it. -/
theorem IsFolder.readFile_eq {content : ByteArray} (hchild : (name, .file content) ∈ h.list s.root)
    (hshort : (Path.join s.root name).utf8ByteSize ≤ Machine.maxPathBytes) :
    h.readFile (Path.join s.root name) = .ok content := by
  rw [list_root hroot] at hchild
  obtain ⟨hentry, hnul, hlong⟩ := hf.names name (List.mem_map.2 ⟨_, hchild, rfl⟩)
  have hnode := hf.unique name _ hchild
  obtain ⟨hempty, -⟩ := Host.leads_of_find hroot
  have hchecked : Host.checkPath (Path.join s.root name) = .ok () := by
    have hnames := Machine.Path.names_join hempty hentry.no_slash hentry.ne_empty
    refine Host.checkPath_eq_ok_iff.2 ⟨fun hnil => ?_, hshort⟩
    rw [hnil] at hnames
    simp [Machine.Path.names, Machine.Path.parts] at hnames
  have hfind := (Host.target_join hroot hentry hnul hlong hchecked).find_eq (by simp [hnode])
  exact Host.readFile_of_find_file (hnode ▸ hfind)

theorem IsFolder.mem_list_of_contains (hname : fileName name = name)
    (hc : s.contains h name = true) : name ∈ s.list h := by
  rw [mem_list_iff, list_root hroot]
  rcases hp : s.path name with error | path
  · simp only [contains, hp] at hc
    cases hc
  simp only [contains, hp] at hc
  obtain ⟨hstem, hpath⟩ := path_eq_ok_iff.1 hp
  rw [hname] at hpath
  have hentry := hname ▸ hstem.isEntryName
  refine ⟨hname ▸ hstem.hasExtension, ?_⟩
  rcases Host.target_join_or hroot hentry with ht | ⟨cause, herror⟩
  · rcases hn : h.disk.node? (dir ++ [name]) with _ | n
    · rw [Host.isFile, Host.node?, hpath, ht.find_eq (by simp [hn]), hn] at hc
      cases hc
    · have hchild := Machine.Disk.mem_children_of_node? hn
      rcases hf.kinds name n hchild with rfl | ⟨content, rfl⟩
      · rw [Host.isFile, Host.node?, hpath, ht.find_eq (by simp [hn]), hn] at hc
        cases hc
      · exact ⟨content, hchild⟩
  · rw [Host.isFile, Host.node?, hpath, herror] at hc
    cases hc

end IsFolder

/-- **What is listed and what is looked up.**  A listed name stands for a file that its path would
lead to; the name is looked up at this path exactly if it is literal, and otherwise it is rejected or
looked up without the blanks at its start. -/
theorem list_lookup (s : Store) (h : Host) (dir : Location)
    (hroot : h.find s.root = .ok ⟨dir, some .directory⟩) (hf : IsFolder h dir) :
    (∀ name ∈ s.list h,
      (s.path name = .ok (Path.join s.root name) ↔ IsLiteral name) ∧
      (∀ path, s.path name = .ok path →
        path = Path.join s.root (String.ofList (name.toList.dropWhile isBlank)) ∧
          s.load h name = (Record.load h path).mapError StoreError.record) ∧
      ∃ content, (name, .file content) ∈ h.list s.root ∧
        ((Path.join s.root name).utf8ByteSize ≤ Machine.maxPathBytes →
          h.readFile (Path.join s.root name) = .ok content)) ∧
    ∀ name, fileName name = name → s.contains h name = true → name ∈ s.list h := by
  refine ⟨fun name hmem => ⟨hf.path_iff hroot hmem, fun path hp => ⟨?_, load_of_path hp⟩, ?_⟩,
    fun name => hf.mem_list_of_contains hroot⟩
  · obtain ⟨t, -, e⟩ := hasExtension_iff.1 (mem_list_iff.1 hmem).1
    rw [(path_eq_ok_iff.1 hp).2, fileName_of_ending e]
  · obtain ⟨-, content, hchild⟩ := mem_list_iff.1 hmem
    exact ⟨content, hchild, hf.readFile_eq hroot hchild⟩

/-- Two files whose names differ in a blank at the start: only one of them is looked up. -/
theorem list_lookup_two :
    let a : ByteArray := "first".toUTF8
    let b : ByteArray := "second".toUTF8
    let h : Host := ⟨⟨[(["w"], .directory), (["w", "s"], .directory),
      (["w", "s", "a.json"], .file a), (["w", "s", " a.json"], .file b)], [], 0⟩,
      ["w"], "/w", ".tmp"⟩
    let s : Store := ⟨"s"⟩
    h.find s.root = .ok ⟨["w", "s"], some .directory⟩ ∧ IsFolder h ["w", "s"] ∧
      s.path "a.json" = .ok (Path.join s.root "a.json") ∧
      s.path " a.json" ≠ .ok (Path.join s.root " a.json") := by
  intro a b h s
  have hroot : h.find s.root = .ok ⟨["w", "s"], some .directory⟩ := Host.find_of_directory
    ⟨by decide, by decide, by decide, by decide⟩ (by decide) (by decide) rfl
  have hchildren : h.disk.children ["w", "s"] = [("a.json", .file a), (" a.json", .file b)] := rfl
  have hfolder : IsFolder h ["w", "s"] := by
    refine isFolder_of_files ?_
    rw [hchildren, List.forall_mem_cons, List.forall_mem_singleton]
    exact ⟨⟨⟨a, rfl⟩, rfl, ⟨by decide, by decide, by decide, by decide⟩, by decide, by decide⟩,
      ⟨b, rfl⟩, rfl, ⟨by decide, by decide, by decide, by decide⟩, by decide, by decide⟩
  have hmem (name : String) (content : ByteArray)
      (hname : (name, Node.file content) ∈ h.disk.children ["w", "s"])
      (hext : Machine.Path.hasExtension name "json" = true) : name ∈ s.list h :=
    mem_list_iff.2 ⟨hext, content, by rwa [list_root hroot]⟩
  have hlookup := (list_lookup s h ["w", "s"] hroot hfolder).1
  refine ⟨hroot, hfolder, ?_, ?_⟩
  · refine (hlookup "a.json" (hmem _ a (by simp [hchildren]) (by decide))).1.2
      ⟨fun c hc => ?_, by decide, by decide, by decide⟩
    obtain rfl : 'a' = c := Option.some.inj hc
    decide
  · intro e
    have hliteral := (hlookup " a.json" (hmem _ b (by simp [hchildren]) (by decide))).1.1 e
    exact absurd (hliteral.no_blank ' ' rfl) (by decide)

/-- A file that is listed and cannot be found under the name that is listed. -/
theorem list_lookup_lost :
    let text : ByteArray := "second".toUTF8
    let h : Host := ⟨⟨[(["w"], .directory), (["w", "s"], .directory),
      (["w", "s", " a.json"], .file text)], [], 0⟩, ["w"], "/w", ".tmp"⟩
    let s : Store := ⟨"s"⟩
    h.find s.root = .ok ⟨["w", "s"], some .directory⟩ ∧ IsFolder h ["w", "s"] ∧
      " a.json" ∈ s.list h ∧
      s.path " a.json" = .ok "s/a.json" ∧
      s.load h " a.json" = .error (.record (.access "s/a.json" ⟨.notFound, none⟩)) := by
  intro text h s
  have hroot : h.find s.root = .ok ⟨["w", "s"], some .directory⟩ := Host.find_of_directory
    ⟨by decide, by decide, by decide, by decide⟩ (by decide) (by decide) rfl
  have hchildren : h.disk.children ["w", "s"] = [(" a.json", .file text)] := rfl
  have hfolder : IsFolder h ["w", "s"] := by
    refine isFolder_of_files ?_
    rw [hchildren, List.forall_mem_singleton]
    exact ⟨⟨text, rfl⟩, rfl, ⟨by decide, by decide, by decide, by decide⟩, by decide, by decide⟩
  have hpath : s.path " a.json" = .ok "s/a.json" := path_eq_ok_iff.2
    ⟨⟨by decide, by decide, by decide, by decide, by decide⟩, by decide⟩
  have hjoin : Path.join "s" "a.json" = "s/a.json" := by decide
  have hnone : h.disk.node? ["w", "s", "a.json"] = none := rfl
  have htarget : h.Target "s/a.json" ["w", "s"] "a.json" := hjoin ▸ Host.target_join hroot
    ⟨by decide, by decide, by decide, by decide⟩ (by decide) (by decide) (hjoin ▸ rfl)
  have hread : h.readFile "s/a.json" = .error .notFound :=
    Host.readFile_of_find_none (hnone ▸ htarget.find_eq (by simp [hnone]))
  refine ⟨hroot, hfolder, mem_list_iff.2 ⟨by decide, text, ?_⟩, hpath, ?_⟩
  · rw [list_root hroot, hchildren]
    exact List.mem_singleton.2 rfl
  · rw [load_of_path hpath, Record.load_of_readFile_error hread]
    rfl

end FieldPattern.Store
