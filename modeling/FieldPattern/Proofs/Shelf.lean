import FieldPattern.Proofs.Runs
import FieldPattern.Proofs.StoreNames

/-! # A store is a shelf of records

A shelf (`Shelf`) is a map from the names of files to records.  `Answers` says what it answers to a
call of a store, and which shelf it is then; `Behaves` follows a transcript in this way.

A directory holds a shelf (`Holds`) if it has one file for each record, with the text of the
record, and nothing else.  `InStep` adds what a store relies on: each record is ready, and stands
under a name of a file that leads to this file.  A call keeps the two in step and gets the answer of
the shelf (`InStep.step`), so every run does (`store_behaves`). -/

namespace FieldPattern.Store

open Machine (Host Location Node Path.join)
open Machine.Disk (node?_put_self node?_put_of_ne mem_children_put names_put)

/-! ### Calls -/

/-- What is asked of a store. -/
inductive Call where
  | save (name : String) (r : Record)
  | load (name : String)
  | contains (name : String)
  | list

/-- What a store answers. -/
inductive Reply where
  | saved (result : Except StoreError String)
  | loaded (result : Except StoreError Record)
  | contained (found : Bool)
  | listed (names : List String)

/-- Take a call: the answer, and the machine after it. -/
def step (s : Store) : Call → Host → Reply × Host
  | .save name r, h =>
      match s.save h name r with
      | .ok (path, h') => (.saved (.ok path), h')
      | .error e => (.saved (.error e), h)
  | .load name, h => (.loaded (s.load h name), h)
  | .contains name, h => (.contained (s.contains h name), h)
  | .list, h => (.listed (s.list h), h)

/-! ### The shelf -/

/-- Records under the names of files. -/
abbrev Shelf := String → Option Record

/-- The shelf with a record under a name. -/
def Shelf.put (M : Shelf) (f : String) (r : Record) : Shelf := fun g =>
  if g = f then some r else M g

/-- The shelf answers the call in this way, and is another one then. -/
inductive Answers (s : Store) (M : Shelf) : Call → Reply → Shelf → Prop
  | rejected {name : String} {r : Record} {fault : NameFault} :
      s.path name = .error (.rejected name fault) →
      Answers s M (.save name r) (.saved (.error (.rejected name fault))) M
  | unready {name path : String} {r : Record} {reason : Unready} :
      s.path name = .ok path → r.readiness = .error reason →
      Answers s M (.save name r) (.saved (.error (.unready path reason))) M
  | saved {name path : String} {r : Record} :
      s.path name = .ok path → r.readiness = .ok () →
      Answers s M (.save name r) (.saved (.ok path)) (M.put (fileName name) r)
  | loaded {name : String} {r : Record} :
      M (fileName name) = some r → Answers s M (.load name) (.loaded (.ok r)) M
  | missing {name : String} (e : StoreError) :
      M (fileName name) = none → Answers s M (.load name) (.loaded (.error e)) M
  | contains (name : String) :
      Answers s M (.contains name) (.contained (M (fileName name)).isSome) M
  | list {names : List String} :
      names.Pairwise (· < ·) → (∀ f, f ∈ names ↔ (M f).isSome = true) →
      Answers s M .list (.listed names) M

/-- The shelf gives the answers of the transcript, and is the last one at its end. -/
inductive Behaves (s : Store) : Shelf → List (Call × Reply) → Shelf → Prop
  | nil (M : Shelf) : Behaves s M [] M
  | cons {M M' last : Shelf} {c : Call} {reply : Reply} {rest : List (Call × Reply)} :
      Answers s M c reply M' → Behaves s M' rest last → Behaves s M ((c, reply) :: rest) last

/-! ### The directory -/

/-- The directory holds the records of the shelf and nothing else, and elsewhere the machine is as
it was. -/
structure Holds (before : Host) (dir : Location) (M : Shelf) (h : Host) : Prop where
  entries : ∀ f, h.disk.node? (dir ++ [f]) = (M f).map fun r => .file r.render.toUTF8
  others : ∀ l, (∀ f, l ≠ dir ++ [f]) → h.disk.node? l = before.disk.node? l

/-- The directory holds the shelf, and a store that looks for a record of it looks at its file. -/
structure InStep (s : Store) (before : Host) (dir : Location) (M : Shelf) (h : Host) : Prop where
  holds : Holds before dir M h
  keeps : before.Keeps h
  children : ∀ f n, (f, n) ∈ h.disk.children dir ↔ ∃ r, M f = some r ∧ n = .file r.render.toUTF8
  distinct : (h.disk.names dir).Nodup
  stems : ∀ f r, M f = some r → fileName f = f ∧ IsStem (stem f.toList) ∧ r.readiness = .ok ()
  targets : ∀ f r, M f = some r → before.Target (Path.join s.root f) dir f

variable {s : Store} {before h : Host} {dir : Location} {M : Shelf}

section InStep
variable (hroot : before.find s.root = .ok ⟨dir, some .directory⟩)

theorem inStep_empty (hempty : before.disk.children dir = []) :
    InStep s before dir (fun _ => none) before where
  holds := by
    refine ⟨fun f => Option.eq_none_iff_forall_ne_some.2 fun n hn => ?_, fun _ _ => rfl⟩
    have := Machine.Disk.mem_children_of_node? hn
    simp [hempty] at this
  keeps := .refl before
  children := by simp [hempty]
  distinct := by simp [Machine.Disk.names, hempty]
  stems := nofun
  targets := nofun

variable (hi : InStep s before dir M h)
include hi

/-- What stands on the shelf stands there under a name that is accepted. -/
theorem InStep.none_of_rejected {name : String} {e : StoreError} (hp : s.path name = .error e) :
    M (fileName name) = none := by
  rw [Option.eq_none_iff_forall_ne_some]
  intro r hr
  have hstem := (hi.stems _ r hr).2.1
  rw [stem_fileName] at hstem
  cases hp.symm.trans (path_eq_ok_iff.2 ⟨hstem, rfl⟩)

include hroot

/-- Where the path of a name leads: to the file on the shelf, or nowhere. -/
theorem InStep.find_cases {name path : String} (hp : s.path name = .ok path) :
    (∃ r, M (fileName name) = some r ∧
      h.find path = .ok ⟨dir ++ [fileName name], some (.file r.render.toUTF8)⟩) ∨
    (M (fileName name) = none ∧
      (h.find path = .ok ⟨dir ++ [fileName name], none⟩ ∨
        ∃ cause, h.find path = .error cause)) := by
  obtain ⟨hstem, hpath⟩ := path_eq_ok_iff.1 hp
  rw [hpath]
  have hentry := hi.holds.entries (fileName name)
  have hlink (target : String) : h.disk.node? (dir ++ [fileName name]) ≠ some (.link target) := by
    rw [hentry]
    cases M (fileName name) <;> simp
  rcases hM : M (fileName name) with _ | r
  · refine .inr ⟨rfl, ?_⟩
    rcases Host.target_join_or (Host.find_directory_mono hi.keeps hroot) hstem.isEntryName with
      ht | herror
    · left
      rw [ht.find_eq hlink, hentry, hM]
      rfl
    · exact .inr herror
  · have ht := (hi.targets _ r hM).mono hi.keeps
    refine .inl ⟨r, rfl, ?_⟩
    rw [ht.find_eq hlink, hentry, hM]
    rfl

theorem InStep.load_of_some {name : String} {r : Record} (hM : M (fileName name) = some r) :
    s.load h name = .ok r := by
  rcases hp : s.path name with e | path
  · cases hM.symm.trans (hi.none_of_rejected hp)
  rcases hi.find_cases hroot hp with ⟨r', hM', hfind⟩ | ⟨hM', -⟩
  · obtain rfl : r = r' := Option.some.inj (hM.symm.trans hM')
    rw [load_of_path hp, Record.load_of_readFile (Host.readFile_of_find_file hfind)]
    rfl
  · cases hM.symm.trans hM'

theorem InStep.load_of_none {name : String} (hM : M (fileName name) = none) :
    ∃ e, s.load h name = .error e := by
  rcases hp : s.path name with e | path
  · exact ⟨e, load_of_path_error hp⟩
  rcases hi.find_cases hroot hp with ⟨r, hM', -⟩ | ⟨-, hfind⟩
  · cases hM.symm.trans hM'
  · obtain ⟨cause, hread⟩ : ∃ cause, h.readFile path = .error cause := by
      rcases hfind with hfind | ⟨cause, hfind⟩
      · exact ⟨.notFound, Host.readFile_of_find_none hfind⟩
      · exact ⟨cause, Host.readFile_of_find_error hfind⟩
    refine ⟨.record (.access path ⟨cause, none⟩), ?_⟩
    rw [load_of_path hp, Record.load_of_readFile_error hread]
    rfl

theorem InStep.contains_eq (name : String) :
    s.contains h name = (M (fileName name)).isSome := by
  rcases hp : s.path name with e | path
  · rw [contains, hp, hi.none_of_rejected hp]
    rfl
  · simp only [contains, hp, Host.isFile, Host.node?]
    rcases hi.find_cases hroot hp with ⟨r, hM, hfind⟩ | ⟨hM, hfind | ⟨cause, hfind⟩⟩
    · rw [hM, hfind]
      rfl
    · rw [hM, hfind]
      rfl
    · rw [hM, hfind]
      rfl

theorem InStep.list_eq : h.list s.root = h.disk.children dir :=
  list_root (Host.find_directory_mono hi.keeps hroot)

theorem InStep.mem_list (f : String) : f ∈ s.list h ↔ (M f).isSome = true := by
  rw [mem_list_iff, hi.list_eq hroot, Option.isSome_iff_exists]
  constructor
  · rintro ⟨-, content, hmem⟩
    obtain ⟨r, hr, -⟩ := (hi.children f _).1 hmem
    exact ⟨r, hr⟩
  · rintro ⟨r, hr⟩
    obtain ⟨hname, hstem, -⟩ := hi.stems f r hr
    refine ⟨?_, _, (hi.children f _).2 ⟨r, hr, rfl⟩⟩
    rw [← hname]
    exact hstem.hasExtension

theorem InStep.pairwise_list : (s.list h).Pairwise (· < ·) := by
  have hnodup : (s.list h).Nodup := nodup_list (by rw [hi.list_eq hroot]; exact hi.distinct)
  refine (Store.pairwise_list.and hnodup).imp fun ⟨hle, hne⟩ => ?_
  exact String.not_le.1 fun hge => hne (String.le_antisymm hle hge)

omit hroot in
theorem InStep.put {f : String} {r : Record} (hname : fileName f = f)
    (hstem : IsStem (stem f.toList)) (hready : r.readiness = .ok ())
    (ht : before.Target (Path.join s.root f) dir f) :
    InStep s before dir (M.put f r)
      { h with disk := h.disk.put (dir ++ [f]) (.file r.render.toUTF8) } where
  holds := by
    refine ⟨fun g => ?_, fun l hl => (node?_put_of_ne (hl f)).trans (hi.holds.others l hl)⟩
    by_cases hg : g = f
    · subst hg
      rw [Shelf.put, if_pos rfl]
      exact node?_put_self (by simp)
    · rw [Shelf.put, if_neg hg, ← hi.holds.entries g]
      exact node?_put_of_ne (by simpa using hg)
  keeps := by
    refine hi.keeps.trans (Host.keeps_put ?_ ?_ _) <;> rw [hi.holds.entries] <;> cases M f <;> simp
  children g n := by
    rw [mem_children_put, Shelf.put]
    split_ifs with hg
    · simp
    · exact hi.children g n
  distinct := by
    rw [names_put]
    split_ifs with hf
    · exact hi.distinct
    · refine List.nodup_append.2 ⟨hi.distinct, by simp, fun g hg g' hg' e => hf ?_⟩
      rw [List.mem_singleton] at hg'
      exact hg' ▸ e ▸ hg
  stems g r' hr := by
    rw [Shelf.put] at hr
    split_ifs at hr with hg
    · cases hr
      exact ⟨hg ▸ hname, hg ▸ hstem, hready⟩
    · exact hi.stems g r' hr
  targets g r' hr := by
    rw [Shelf.put] at hr
    split_ifs at hr with hg
    · exact hg ▸ ht
    · exact hi.targets g r' hr

theorem InStep.save_cases {name : String} (r : Record)
    (hw : ∀ path, s.path name = .ok path → before.Writable path) :
    ∃ M', Answers s M (.save name r) (s.step (.save name r) h).1 M' ∧
      InStep s before dir M' (s.step (.save name r) h).2 := by
  rcases hp : s.path name with e | path
  · obtain ⟨fault, rfl⟩ := path_eq_error hp
    have hstep : s.step (.save name r) h = (.saved (.error (.rejected name fault)), h) := by
      simp only [step, save, hp, bind, Except.bind]
    rw [hstep]
    exact ⟨M, .rejected hp, hi⟩
  rcases hready : r.readiness with reason | ⟨⟨⟩⟩
  · have hstep : s.step (.save name r) h = (.saved (.error (.unready path reason)), h) := by
      simp only [step, save, hp, hready, bind, Except.bind]
    rw [hstep]
    exact ⟨M, .unready hp hready, hi⟩
  -- The file can be saved now because it could be saved at the beginning.
  obtain ⟨hstem, hpath⟩ := path_eq_ok_iff.1 hp
  rw [hpath] at hp
  obtain ⟨_, hsave⟩ := hw _ hp r.render.toUTF8
  obtain ⟨htemporary, l, hl, -⟩ := Host.save_eq_ok_iff.1 hsave
  obtain ⟨directory, f, ht, rfl, -⟩ := Host.destination_eq_ok_iff.1 hl
  obtain ⟨rfl, rfl⟩ := ht.eq_of_join hroot hstem.isEntryName
  have hdestination : h.destination (Path.join s.root (fileName name)) =
      .ok (directory ++ [fileName name]) := by
    refine Host.destination_eq_ok_iff.2 ⟨_, _, ht.mono hi.keeps, rfl, ?_⟩
    rw [hi.holds.entries]
    cases M (fileName name) <;> simp
  have hsaved : h.save (Path.join s.root (fileName name)) r.render.toUTF8 =
      .ok { h with disk := h.disk.put (directory ++ [fileName name]) (.file r.render.toUTF8) } :=
    Host.save_eq_ok_iff.2 ⟨Host.makeTemporary_mono hi.keeps htemporary, _, hdestination, rfl⟩
  have hstep : s.step (.save name r) h = (.saved (.ok (Path.join s.root (fileName name))),
      { h with disk := h.disk.put (directory ++ [fileName name]) (.file r.render.toUTF8) }) := by
    simp only [step, save, Record.save, hp, hready, hsaved, bind, Except.bind, Except.mapError,
      pure, Except.pure]
  rw [hstep]
  exact ⟨_, .saved hp hready, hi.put (fileName_fileName name) (by rwa [stem_fileName]) hready ht⟩

/-- A call gets the answer of the shelf, and keeps the two in step. -/
theorem InStep.step (c : Call)
    (hw : ∀ name r, c = .save name r → ∀ path, s.path name = .ok path → before.Writable path) :
    ∃ M', Answers s M c (s.step c h).1 M' ∧ InStep s before dir M' (s.step c h).2 := by
  cases c with
  | save name r => exact hi.save_cases hroot r (hw name r rfl)
  | load name =>
      refine ⟨M, ?_, hi⟩
      change Answers s M _ (.loaded (s.load h name)) M
      rcases hM : M (fileName name) with _ | r
      · obtain ⟨e, hload⟩ := hi.load_of_none hroot hM
        rw [hload]
        exact .missing e hM
      · rw [hi.load_of_some hroot hM]
        exact .loaded hM
  | contains name =>
      refine ⟨M, ?_, hi⟩
      change Answers s M _ (.contained (s.contains h name)) M
      rw [hi.contains_eq hroot]
      exact .contains name
  | list => exact ⟨M, .list (hi.pairwise_list hroot) (hi.mem_list hroot), hi⟩

theorem InStep.run (calls : List Call)
    (hw : ∀ name r, .save name r ∈ calls → ∀ path, s.path name = .ok path → before.Writable path) :
    ∃ M', Behaves s M (run s.step calls h).1 M' ∧
      InStep s before dir M' (run s.step calls h).2 := by
  induction calls generalizing M h with
  | nil => exact ⟨M, .nil M, hi⟩
  | cons c rest ih =>
      obtain ⟨M', hanswer, hstep⟩ := hi.step hroot c fun name r hc => hw name r (by simp [hc])
      obtain ⟨last, hrest, hlast⟩ := ih hstep fun name r hc => hw name r (by simp [hc])
      exact ⟨last, .cons hanswer hrest, hlast⟩

end InStep

/-- **A store behaves as a map from names to records.**  The directory of the store is empty at
first, and a file can be saved under each accepted name that occurs. -/
theorem store_behaves (s : Store) (h : Host) (dir : Location) (calls : List Call)
    (hroot : h.find s.root = .ok ⟨dir, some .directory⟩) (hempty : h.disk.children dir = [])
    (hw : ∀ name r, .save name r ∈ calls → ∀ path, s.path name = .ok path → h.Writable path) :
    ∃ M, Behaves s (fun _ => none) (run s.step calls h).1 M ∧
      Holds h dir M (run s.step calls h).2 ∧
      ∀ f ∈ s.list (run s.step calls h).2, ∃ r, M f = some r ∧ r.readiness = .ok () ∧
        s.load (run s.step calls h).2 f = .ok r := by
  obtain ⟨M, hbehaves, hi⟩ := (inStep_empty hempty).run hroot calls hw
  refine ⟨M, hbehaves, hi.holds, fun f hf => ?_⟩
  obtain ⟨r, hr⟩ := Option.isSome_iff_exists.1 ((hi.mem_list hroot f).1 hf)
  obtain ⟨hname, -, hready⟩ := hi.stems f r hr
  exact ⟨r, hr, hready, hi.load_of_some hroot (by rw [hname, hr])⟩

/-- A store in an empty directory, and a name with blanks at its ends. -/
theorem store_behaves_trimmed :
    let h : Host := ⟨⟨[(["w"], .directory), (["w", "s"], .directory)], [], 0⟩, ["w"], "/w", ".tmp"⟩
    let s : Store := ⟨"s"⟩
    let r : Record := ⟨["id"], .ofList [("id", "x")]⟩
    h.find s.root = .ok ⟨["w", "s"], some .directory⟩ ∧ h.disk.children ["w", "s"] = [] ∧
      (∀ path, s.path " b " = .ok path → h.Writable path) ∧
      Holds h ["w", "s"] (Shelf.put (fun _ => none) "b.json" r)
        (run s.step [.save " b " r, .save "x/y" r] h).2 := by
  intro h s r
  have hroot : h.find s.root = .ok ⟨["w", "s"], some .directory⟩ := Host.find_of_directory
    ⟨by decide, by decide, by decide, by decide⟩ (by decide) (by decide) rfl
  have hpath : s.path " b " = .ok "s/b.json" := path_eq_ok_iff.2
    ⟨⟨by decide, by decide, by decide, by decide, by decide⟩, by decide⟩
  have hrejected (path : String) : s.path "x/y" ≠ .ok path :=
    fun e => (path_eq_ok_iff.1 e).1.no_slash (by decide)
  have hnone : h.disk.node? ["w", "s", "b.json"] = none := rfl
  have hjoin : Path.join "s" "b.json" = "s/b.json" := by decide
  have htarget : h.Target (Path.join "s" "b.json") ["w", "s"] "b.json" := Host.target_join hroot
    ⟨by decide, by decide, by decide, by decide⟩ (by decide) (by decide) (hjoin ▸ rfl)
  have htemporary : h.makeTemporary "s/b.json" = .ok () := by
    have hworkshop : Host.workshop "s/b.json" = "s" := by decide
    have hpath : Path.join (Path.join "/w" "s") ".tmp" = "/w/s/.tmp" := by decide
    have hchecked : Host.checkPath "/w/s/.tmp" = .ok () := by
      exact Host.checkPath_eq_ok_iff.2 ⟨by decide, by decide⟩
    rw [Host.makeTemporary_eq_ok_iff, hworkshop]
    exact ⟨rfl, hpath ▸ hchecked, ["w", "s"],
      Host.findDirectory_eq_ok_iff.2 (Host.find_eq_directory_iff.1 hroot).2.2⟩
  have hwritable : h.Writable "s/b.json" := fun content => ⟨_, Host.save_eq_ok_iff.2 ⟨htemporary, _,
    Host.destination_eq_ok_iff.2 ⟨_, _, hjoin ▸ htarget, rfl, by simp [hnone]⟩, rfl⟩⟩
  have hempty : h.disk.children ["w", "s"] = [] := rfl
  have hsaves : ∀ name r', Call.save name r' ∈ [Call.save " b " r, .save "x/y" r] →
      ∀ path, s.path name = .ok path → h.Writable path := by
    intro name r' hmem path hp
    simp only [List.mem_cons, Call.save.injEq, List.not_mem_nil, or_false] at hmem
    rcases hmem with ⟨rfl, -⟩ | ⟨rfl, -⟩
    · rw [hpath] at hp
      exact Except.ok.inj hp ▸ hwritable
    · exact absurd hp (hrejected path)
  obtain ⟨M, hbehaves, hholds, -⟩ := store_behaves s h ["w", "s"] _ hroot hempty hsaves
  refine ⟨hroot, hempty, fun path hp => Except.ok.inj (hpath.symm.trans hp) ▸ hwritable, ?_⟩
  have hM : M = Shelf.put (fun _ => none) "b.json" r := by
    have hname : fileName " b " = "b.json" := by decide
    rw [run_cons, run_cons, run] at hbehaves
    generalize (s.step (.save " b " r) h).1 = first at hbehaves
    generalize (s.step (.save "x/y" r) _).1 = second at hbehaves
    rcases hbehaves with _ | ⟨hfirst, _ | ⟨hsecond, ⟨⟩⟩⟩
    cases hsecond with
    | rejected _ =>
        cases hfirst with
        | rejected e => cases hpath.symm.trans e
        | unready _ e => cases e
        | saved _ _ => rw [hname]
    | unready e _ => exact absurd e (hrejected _)
    | saved e _ => exact absurd e (hrejected _)
  exact hM ▸ hholds

end FieldPattern.Store
