import FieldPattern.Proofs.RecordText
import FieldPattern.Proofs.Walks

/-! # Files at the end of paths

`Target h path directory name` says that `path` names the entry `name` of a directory that is
there.  It is all that reading and saving ask of the disk, and it does not depend on files
(`Target.mono`).

* `Target.find_eq`: the path ends at this entry, unless that is a link;
* `destination_eq_ok_iff`, `save_eq_ok_iff`: a file that is saved is put at this entry, and nothing
  else happens;
* `SameTree.replaced`: after a save, the file at the path is all that differs;
* `Record.load_of_readFile`: a file that holds the text of a record is read as this record. -/

namespace FieldPattern.Machine.Host

open Disk (Leads)

variable {h h' : Host} {path name : String} {directory l : Location} {content : ByteArray}

/-- The path names the entry `name` of the directory. -/
structure Target (h : Host) (path : String) (directory : Location) (name : String) : Prop where
  free_of_nul : '\x00' ∉ path.toList
  checked : checkPath path = .ok ()
  no_slash : Path.endsWithSlash path = false
  plain : Disk.IsPlain name
  there : h.disk.node? directory = some .directory
  leads : ∃ front links, Path.names path = front ++ [name] ∧
    h.disk.Leads maxLinks (h.origin path) front links directory

/-! ### Finding and reading -/

theorem checkPath_eq_ok_iff :
    checkPath path = .ok () ↔ path ≠ "" ∧ path.utf8ByteSize ≤ maxPathBytes := by
  rw [checkPath]
  split_ifs with hempty hlong
  · simp [String.isEmpty_iff.1 hempty]
  · simp [hlong]
  · simp [← String.isEmpty_iff, hempty, Nat.not_lt.1 hlong]

theorem find_of_nul (hnul : '\x00' ∈ path.toList) : h.find path = .error .nulInName := by
  rw [find, checkNul, if_pos (List.contains_iff_mem.2 hnul)]
  rfl

section free_of_nul
variable (hnul : '\x00' ∉ path.toList)
include hnul

theorem find_of_checked (hchecked : checkPath path = .ok ()) :
    h.find path =
      h.disk.walk true (Path.endsWithSlash path) maxLinks (h.origin path) (Path.names path) := by
  rw [find, checkNul, if_neg (mt List.contains_iff_mem.1 hnul), hchecked]
  rfl

theorem find_of_unchecked {cause : FileCause} (hchecked : checkPath path = .error cause) :
    h.find path = .error cause := by
  rw [find, checkNul, if_neg (mt List.contains_iff_mem.1 hnul), hchecked]
  rfl

end free_of_nul

theorem readFile_of_find_error {cause : FileCause} (e : h.find path = .error cause) :
    h.readFile path = .error cause := by
  rw [readFile, e]
  rfl

theorem readFile_of_find_none (e : h.find path = .ok ⟨l, none⟩) :
    h.readFile path = .error .notFound := by
  rw [readFile, e]
  rfl

theorem readFile_of_find_file (e : h.find path = .ok ⟨l, some (.file content)⟩) :
    h.readFile path = .ok content := by
  rw [readFile, e]
  rfl

/-! ### What paths depend on -/

/-- The second machine has all directories and links of the first one, and sees paths from the
same place. -/
structure Keeps (h h' : Host) : Prop where
  nodes : ∀ l n, h.disk.node? l = some n → n = .directory ∨ (∃ target, n = .link target) →
    h'.disk.node? l = some n
  home : h'.home = h.home
  homePath : h'.homePath = h.homePath
  temporaryName : h'.temporaryName = h.temporaryName

/-- The two machines differ in nothing but the times of changes. -/
structure SameTree (h h' : Host) : Prop where
  nodes : h'.disk.nodes = h.disk.nodes
  home : h'.home = h.home
  homePath : h'.homePath = h.homePath
  temporaryName : h'.temporaryName = h.temporaryName

theorem SameTree.refl (h : Host) : h.SameTree h := ⟨rfl, rfl, rfl, rfl⟩

theorem SameTree.symm (hs : h.SameTree h') : h'.SameTree h :=
  ⟨hs.nodes.symm, hs.home.symm, hs.homePath.symm, hs.temporaryName.symm⟩

theorem SameTree.node?_eq (hs : h.SameTree h') (l : Location) :
    h'.disk.node? l = h.disk.node? l := Disk.node?_congr hs.nodes l

theorem SameTree.keeps (hs : h.SameTree h') : h.Keeps h' where
  nodes l _ hn _ := (hs.node?_eq l).trans hn
  home := hs.home
  homePath := hs.homePath
  temporaryName := hs.temporaryName

theorem Keeps.refl (h : Host) : h.Keeps h := (SameTree.refl h).keeps

theorem Keeps.trans {h₁ h₂ : Host} (hk : h.Keeps h₁) (hk' : h₁.Keeps h₂) : h.Keeps h₂ where
  nodes l n hn hkind := hk'.nodes l n (hk.nodes l n hn hkind) hkind
  home := hk'.home.trans hk.home
  homePath := hk'.homePath.trans hk.homePath
  temporaryName := hk'.temporaryName.trans hk.temporaryName

theorem Keeps.origin_eq (hk : h.Keeps h') (path : String) : h'.origin path = h.origin path := by
  rw [origin, origin, hk.home]

theorem Target.mono (ht : h.Target path directory name) (hk : h.Keeps h') :
    h'.Target path directory name where
  free_of_nul := ht.free_of_nul
  checked := ht.checked
  no_slash := ht.no_slash
  plain := ht.plain
  there := hk.nodes _ _ ht.there (.inl rfl)
  leads := by
    obtain ⟨front, links, hnames, hleads⟩ := ht.leads
    refine ⟨front, links, hnames, ?_⟩
    rw [hk.origin_eq]
    exact hleads.mono hk.nodes

/-! ### Directories -/

theorem findDirectory_eq_ok_iff {names : List String} :
    h.findDirectory path names = .ok l ↔
      h.disk.node? l = some .directory ∧
        ∃ links, h.disk.Leads maxLinks (h.origin path) names links l := by
  constructor
  · intro e
    rw [findDirectory] at e
    rcases hw : h.disk.walk true true maxLinks (h.origin path) names with cause | ⟨l', n⟩
    · rw [hw] at e
      cases e
    · rw [hw] at e
      rcases n with _ | n
      · cases e
      · cases n with
        | directory =>
            cases e
            exact Disk.leads_of_walk hw
        | file _ | link _ | device _ | program _ => cases e
  · rintro ⟨hl, links, hleads⟩
    rw [findDirectory, hleads.walk_eq, hl]
    rfl

theorem findDirectory_mono {names : List String} (hk : h.Keeps h')
    (hf : h.findDirectory path names = .ok l) : h'.findDirectory path names = .ok l := by
  obtain ⟨hl, links, hleads⟩ := findDirectory_eq_ok_iff.1 hf
  refine findDirectory_eq_ok_iff.2 ⟨hk.nodes _ _ hl (.inl rfl), links, ?_⟩
  rw [hk.origin_eq]
  exact hleads.mono hk.nodes

theorem makeTemporary_eq_ok_iff :
    h.makeTemporary path = .ok () ↔
      checkNul (workshop path) = .ok () ∧
        checkPath (Path.join (Path.join h.homePath (workshop path)) h.temporaryName) = .ok () ∧
        ∃ l, h.findDirectory (workshop path) (Path.names (workshop path)) = .ok l := by
  rw [makeTemporary]
  rcases checkNul (workshop path) with cause | ⟨⟨⟩⟩
  · simp [bind, Except.bind, Except.mapError]
  rcases checkPath (Path.join (Path.join h.homePath (workshop path)) h.temporaryName)
    with cause | ⟨⟨⟩⟩
  · simp [bind, Except.bind, Except.mapError]
  rcases h.findDirectory (workshop path) (Path.names (workshop path)) with cause | l
  · simp [bind, Except.bind, Except.mapError]
  · simp [bind, Except.bind, Except.mapError, pure, Except.pure]

theorem makeTemporary_mono (hk : h.Keeps h') (hm : h.makeTemporary path = .ok ()) :
    h'.makeTemporary path = .ok () := by
  obtain ⟨hnul, hpath, l, hl⟩ := makeTemporary_eq_ok_iff.1 hm
  refine makeTemporary_eq_ok_iff.2 ⟨hnul, ?_, l, findDirectory_mono hk hl⟩
  rw [hk.homePath, hk.temporaryName]
  exact hpath

/-! ### Reading and saving -/

theorem Target.find_eq (ht : h.Target path directory name)
    (hlink : ∀ target, h.disk.node? (directory ++ [name]) ≠ some (.link target)) :
    h.find path = .ok ⟨directory ++ [name], h.disk.node? (directory ++ [name])⟩ := by
  obtain ⟨front, links, hnames, hleads⟩ := ht.leads
  rw [find_of_checked ht.free_of_nul ht.checked, ht.no_slash, hnames,
    hleads.walk_append false (by simp)]
  rcases hn : h.disk.node? (directory ++ [name]) with _ | n
  · exact Disk.walk_missing false ht.plain hn
  · cases n with
    | directory => rw [Disk.walk_enter false ht.plain hn, Disk.walk, hn]
    | link target => exact absurd hn (hlink target)
    | file _ | device _ | program _ =>
        exact Disk.walk_end false ht.plain hn (by simp) (by simp)

/-- What `destination` asks for once it has found the directory. -/
theorem destination_of_findDirectory {front : List String} (hnul : '\x00' ∉ path.toList)
    (hchecked : checkPath path = .ok ()) (hnames : Path.names path = front ++ [name])
    (hfind : h.findDirectory path front = .ok directory) :
    h.destination path =
      if name = "." ∨ name = ".." then .error .busy
      else if maxNameBytes < name.utf8ByteSize then .error .nameTooLong
      else if Path.endsWithSlash path then .error .notADirectory
      else
        match h.disk.node? (directory ++ [name]) with
        | some .directory => .error .isADirectory
        | _ => .ok (directory ++ [name]) := by
  have hlast : (Path.names path).getLast? = some name := by rw [hnames, List.getLast?_concat]
  have hfront : (Path.names path).dropLast = front := by rw [hnames, List.dropLast_concat]
  have hfree : path.toList.contains '\x00' = false := by simpa using hnul
  unfold destination
  dsimp only
  rw [hfree, hchecked, hlast, hfront]
  dsimp only
  rw [hfind]
  rfl

theorem destination_eq_ok_iff :
    h.destination path = .ok l ↔
      ∃ directory name, h.Target path directory name ∧ l = directory ++ [name] ∧
        h.disk.node? l ≠ some .directory := by
  constructor
  · intro e
    by_cases hnul : '\x00' ∈ path.toList
    · simp [destination, hnul, bind, Except.bind] at e
    rcases hchecked : checkPath path with cause | ⟨⟨⟩⟩
    · simp [destination, hnul, hchecked, bind, Except.bind] at e
    rcases hlast : (Path.names path).getLast? with _ | name
    · simp [destination, hnul, hchecked, hlast, bind, Except.bind] at e
    obtain ⟨front, hnames⟩ := List.getLast?_eq_some_iff.1 hlast
    rcases hfind : h.findDirectory path front with cause | directory
    · simp [destination, hnul, hchecked, hnames, hfind, bind, Except.bind] at e
    rw [destination_of_findDirectory hnul hchecked hnames hfind] at e
    split_ifs at e with hdots hlong hslash
    obtain ⟨hthere, links, hleads⟩ := findDirectory_eq_ok_iff.1 hfind
    have ht : h.Target path directory name := ⟨hnul, hchecked, by simpa using hslash,
      ⟨fun e => hdots (.inl e), fun e => hdots (.inr e), Nat.not_lt.1 hlong⟩, hthere,
      front, links, hnames, hleads⟩
    rcases hn : h.disk.node? (directory ++ [name]) with _ | n
    · rw [hn] at e
      cases e
      exact ⟨directory, name, ht, rfl, by simp [hn]⟩
    · rw [hn] at e
      cases n with
      | directory => cases e
      | file _ | link _ | device _ | program _ =>
          cases e
          exact ⟨directory, name, ht, rfl, by simp [hn]⟩
  · rintro ⟨directory, name, ht, rfl, hnode⟩
    obtain ⟨front, links, hnames, hleads⟩ := ht.leads
    rw [destination_of_findDirectory ht.free_of_nul ht.checked hnames
        (findDirectory_eq_ok_iff.2 ⟨ht.there, links, hleads⟩),
      if_neg (not_or.2 ⟨ht.plain.ne_dot, ht.plain.ne_dots⟩),
      if_neg (Nat.not_lt.2 ht.plain.short), ht.no_slash, if_neg Bool.false_ne_true]
    rcases hn : h.disk.node? (directory ++ [name]) with _ | n
    · rfl
    · cases n with
      | directory => exact absurd hn hnode
      | file _ | link _ | device _ | program _ => rfl

/-- A file that is saved is put in its place, and nothing else happens. -/
theorem save_eq_ok_iff :
    h.save path content = .ok h' ↔
      h.makeTemporary path = .ok () ∧ ∃ l, h.destination path = .ok l ∧
        h' = { h with disk := h.disk.put l (.file content) } := by
  rw [save]
  rcases h.makeTemporary path with fault | ⟨⟨⟩⟩
  · simp [bind, Except.bind]
  rcases h.destination path with cause | l
  · simp [bind, Except.bind, Except.mapError]
  · simp [bind, Except.bind, Except.mapError, pure, Except.pure, eq_comm]

/-! ### A file that is replaced -/

/-- What has the name `path` is no link. -/
def NoLinkAt (h : Host) (path : String) : Prop :=
  ∀ l target, h.destination path = .ok l → h.disk.node? l ≠ some (.link target)

theorem noLinkAt_of_linkless (hl : ∀ l target, h.disk.node? l ≠ some (.link target))
    (path : String) : h.NoLinkAt path := fun l target _ => hl l target

/-- Nothing keeps a file from being saved at the path. -/
def Writable (h : Host) (path : String) : Prop := ∀ content, ∃ h', h.save path content = .ok h'

/-- The second machine differs from the first one in what the path leads to, and that is now a
file with this content. -/
structure Replaced (h : Host) (path : String) (content : ByteArray) (h' : Host) : Prop where
  only : ∃ l, h.find path = .ok ⟨l, h.disk.node? l⟩ ∧ h'.disk.node? l = some (.file content) ∧
    ∀ m, m ≠ l → h'.disk.node? m = h.disk.node? m
  read : h'.readFile path = .ok content

theorem Replaced.nodes_ne (hr : h.Replaced path content h') (hne : h.readFile path ≠ .ok content) :
    h'.disk.nodes ≠ h.disk.nodes := by
  intro e
  obtain ⟨l, hfind, hl, -⟩ := hr.only
  rw [Disk.node?_congr e] at hl
  exact hne (readFile_of_find_file (hl ▸ hfind))

theorem keeps_put (hdirectory : h.disk.node? l ≠ some .directory)
    (hlink : ∀ target, h.disk.node? l ≠ some (.link target)) (n : Node) :
    h.Keeps { h with disk := h.disk.put l n } where
  nodes m n' hn hkind := by
    have hne : m ≠ l := by
      rintro rfl
      rcases hkind with rfl | ⟨target, rfl⟩
      · exact hdirectory hn
      · exact hlink target hn
    exact (Disk.node?_put_of_ne hne).trans hn
  home := rfl
  homePath := rfl
  temporaryName := rfl

theorem Target.readFile_put (ht : h.Target path directory name)
    (hdirectory : h.disk.node? (directory ++ [name]) ≠ some .directory)
    (hlink : ∀ target, h.disk.node? (directory ++ [name]) ≠ some (.link target)) :
    { h with disk := h.disk.put (directory ++ [name]) (.file content) }.readFile path
      = .ok content := by
  have hput : (h.disk.put (directory ++ [name]) (.file content)).node? (directory ++ [name]) =
      some (.file content) := Disk.node?_put_self (by simp)
  have hfind := (ht.mono (keeps_put hdirectory hlink (.file content))).find_eq (by simp [hput])
  exact readFile_of_find_file (hput ▸ hfind)

section SameTree
variable {h₁ : Host}

theorem SameTree.destination_eq_ok_iff (hs : h.SameTree h₁) :
    h₁.destination path = .ok l ↔ h.destination path = .ok l := by
  rw [Host.destination_eq_ok_iff, Host.destination_eq_ok_iff, hs.node?_eq]
  have htarget (directory : Location) (name : String) :
      h₁.Target path directory name ↔ h.Target path directory name :=
    ⟨fun ht => ht.mono hs.symm.keeps, fun ht => ht.mono hs.keeps⟩
  simp only [htarget]

theorem Writable.of_sameTree (hw : h.Writable path) (hs : h.SameTree h₁) : h₁.Writable path := by
  intro content
  obtain ⟨h', e⟩ := hw content
  obtain ⟨htemporary, l, hl, -⟩ := save_eq_ok_iff.1 e
  exact ⟨_, save_eq_ok_iff.2 ⟨makeTemporary_mono hs.keeps htemporary, l,
    hs.destination_eq_ok_iff.2 hl, rfl⟩⟩

/-- A save replaces the file at the path; that the times of changes were others before does not
matter. -/
theorem SameTree.replaced (hs : h.SameTree h₁) (hlink : h.NoLinkAt path)
    (e : h₁.save path content = .ok h') : h.Replaced path content h' := by
  obtain ⟨-, l, hl, rfl⟩ := save_eq_ok_iff.1 e
  obtain ⟨directory, name, ht, rfl, hdirectory⟩ := Host.destination_eq_ok_iff.1 hl
  have hfile (target : String) : h.disk.node? (directory ++ [name]) ≠ some (.link target) :=
    hlink _ target (hs.destination_eq_ok_iff.1 hl)
  exact ⟨⟨_, (ht.mono hs.symm.keeps).find_eq hfile, Disk.node?_put_self (by simp),
      fun m hm => (Disk.node?_put_of_ne hm).trans (hs.node?_eq m)⟩,
    ht.readFile_put hdirectory fun target => hs.node?_eq _ ▸ hfile target⟩

end SameTree

end FieldPattern.Machine.Host

namespace FieldPattern.Record

open Machine (Host)

variable {h : Host} {path : String}

theorem strict?_toUTF8 (text : String) : Text.strict? text.toUTF8 = some text := by
  rw [Text.strict?, String.fromUTF8?]
  exact (dif_pos text.isValidUTF8).trans rfl

/-- A file that holds the text of a record is read as this record. -/
theorem load_of_readFile {r : Record} (e : h.readFile path = .ok r.render.toUTF8) :
    load h path = .ok r := by
  have htext : h.readText path = .ok r.render := by
    rw [Host.readText, e]
    simp only [bind, Except.bind, strict?_toUTF8]
  simp only [load, htext, read_render]
  rfl

theorem load_of_readFile_error {cause : Machine.FileCause} (e : h.readFile path = .error cause) :
    load h path = .error (.access path ⟨cause, none⟩) := by
  have htext : h.readText path = .error cause := by
    rw [Host.readText, e]
    rfl
  simp only [load, htext]

end FieldPattern.Record
