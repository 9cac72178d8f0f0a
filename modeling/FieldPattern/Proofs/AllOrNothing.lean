import FieldPattern.CommandLine.Run
import FieldPattern.Proofs.Editing
import FieldPattern.Proofs.Files
import FieldPattern.Record.Change

/-! # Requests that change a file

Three requests change the record in a file: adding a field, removing a field, and an edit.  Each
is carried out as a whole or not at all.

* `Request.Wants h request r` says which record the request is to leave in the file, and
  `Request.Succeeds h request` that it can be carried out; both are read off the file as it was.
* `Settled` says what a request may come to: refused with the tree as it was, or carried out, and
  then the file holds the wanted record and nothing else differs.

A request ends in one of three ways, with a lemma for each: it is refused (`Settled.of_refused`),
it has nothing to save (`Settled.of_kept`), or it saves (`Settled.of_saved`).  The main statement is
`call_all_or_nothing`. -/

namespace FieldPattern

/-! ### Scripts -/

namespace Command

/-- Every command of the script is carried out, and together they turn the first list into the
second. -/
inductive Carries : List Command → TokenList → TokenList → Prop
  | nil (l : TokenList) : Carries [] l l
  | cons {c : Command} {rest : List Command} {l m l' : TokenList} {outcome : Outcome} :
      c.apply l = .ok (outcome, m) → Carries rest m l' → Carries (c :: rest) l l'

theorem Carries.unique {script : List Command} {l l₁ l₂ : TokenList} (h₁ : Carries script l l₁)
    (h₂ : Carries script l l₂) : l₁ = l₂ := by
  induction h₁ with
  | nil l =>
      cases h₂
      rfl
  | cons e _ ih =>
      cases h₂ with
      | cons e₂ h₂ =>
          rw [e, Except.ok.injEq, Prod.mk.injEq] at e₂
          obtain ⟨-, rfl⟩ := e₂
          exact ih h₂

/-- A run carries out the whole script, or stops at a command that is refused. -/
theorem runAll_cases (script : List Command) (l : TokenList) :
    (∃ outcomes l', runAll script l = (outcomes, l', none) ∧ Carries script l l') ∨
      ∃ outcomes l' refusal, runAll script l = (outcomes, l', some refusal) ∧
        outcomes.length < script.length ∧ ∀ last, ¬ Carries script l last := by
  induction script generalizing l with
  | nil => exact .inl ⟨[], l, rfl, .nil l⟩
  | cons c rest ih =>
      rcases hc : c.apply l with refusal | ⟨outcome, m⟩
      · refine .inr ⟨[], l, refusal, by rw [runAll, hc], by simp, fun last h => ?_⟩
        cases h with
        | cons e _ =>
            rw [hc] at e
            cases e
      · rcases ih m with ⟨outcomes, l', hrun, hcarries⟩ | ⟨outcomes, l', refusal, hrun, hlt, hnot⟩
        · exact .inl ⟨outcome :: outcomes, l', by simp only [runAll, hc, hrun], .cons hc hcarries⟩
        · refine .inr ⟨outcome :: outcomes, l', refusal, by simp only [runAll, hc, hrun],
            Nat.succ_lt_succ hlt, fun last h => ?_⟩
          cases h with
          | cons e h =>
              rw [hc, Except.ok.injEq, Prod.mk.injEq] at e
              obtain ⟨-, rfl⟩ := e
              exact hnot last h

end Command

namespace CommandLine

open Machine (Host Launcher)
open Text (Span)

/-! ### What a request is to do -/

/-- The record in the file is `r`, the field is listed in it, and the script turns the tokens of
its pattern into `l`. -/
structure Edit.Reaches (h : Host) (e : Edit) (r : Record) (l : TokenList) : Prop where
  loaded : Record.load h e.config = .ok r
  listed : r.contains e.field = true
  carried : Command.Carries e.script (tokens (r.stored e.field)) l

namespace Request

/-- The path of the file that the request may change. -/
def changed? : Request → Option String
  | addField config _ | removeField config _ => some config
  | edit e => some e.config
  | tokenize _ _ | check _ _ | palette | configs _ | fields _ => none

/-- The request is to leave the record `r'` in its file. -/
def Wants (h : Host) : Request → Record → Prop
  | addField config name, r' => ∃ r added,
      (if h.pathExists config then Record.load h config else .ok .empty) = .ok r ∧
        r.addField name = .ok (added, r')
  | removeField config name, r' => ∃ r, Record.load h config = .ok r ∧ r.removeField name = .ok r'
  | edit e, r' => ∃ r l, e.Reaches h r l ∧ e.dryRun = false ∧ spell l ≠ r.stored e.field ∧
      r.PatternSet e.field (spell l) r'
  | tokenize _ _, _ | check _ _, _ | palette, _ | configs _, _ | fields _, _ => False

/-- The request can be carried out, as far as the file and the request go. -/
def Succeeds (h : Host) : Request → Prop
  | edit e => ∃ r l, e.Reaches h r l
  | request => ∃ r', request.Wants h r'

/-- The program that is asked for samples, if one is, leaves the tree as it was. -/
def Quiet (launch : Launcher) (h : Host) : Request → Prop
  | edit e => ∀ program pattern, e.sampler = some program →
      h.SameTree (launch program [pattern, Text.Numeral.render e.samples] h).2
  | _ => True

end Request

/-- What a request may come to: the answer and the machine after it. -/
structure Settled (h : Host) (request : Request) (config : String) (result : Answer × Host) :
    Prop where
  refused : result.1.status ≠ 0 → h.SameTree result.2
  carried : result.1.status = 0 →
    (∃ r, request.Wants h r ∧ h.Replaced config r.render.toUTF8 result.2) ∨
      (∀ r, ¬ request.Wants h r) ∧ h.SameTree result.2
  status : h.Writable config → (result.1.status = 0 ↔ request.Succeeds h)
  rewritten : h.Writable config →
    (result.2.disk.nodes ≠ h.disk.nodes ↔ ∃ r, request.Wants h r)

variable {launch : Launcher} {h h₁ : Host} {request : Request} {config : String}

theorem Edit.Reaches.unique {e : Edit} {r r₁ : Record} {l l₁ : TokenList} (hr : e.Reaches h r l)
    (hr₁ : e.Reaches h r₁ l₁) : r₁ = r ∧ l₁ = l := by
  obtain rfl : r₁ = r := Except.ok.inj (hr₁.loaded.symm.trans hr.loaded)
  exact ⟨rfl, hr₁.carried.unique hr.carried⟩

theorem Request.Wants.succeeds {r : Record} (hw : request.Wants h r) : request.Succeeds h := by
  cases request with
  | edit e =>
      obtain ⟨r₀, l, hr, -⟩ := hw
      exact ⟨r₀, l, hr⟩
  | addField _ _ | removeField _ _ => exact ⟨r, hw⟩
  | tokenize _ _ | check _ _ | palette | configs _ | fields _ => exact hw.elim

/-! ### Records that differ -/

theorem headers_of_addField {r r' : Record} {name added : String}
    (e : r.addField name = .ok (added, r')) : r'.headers = r.headers ++ [added] := by
  simp only [Record.addField] at e
  split_ifs at e
  cases e
  rfl

theorem length_headers_of_removeField {r r' : Record} {name : String}
    (e : r.removeField name = .ok r') : r'.headers.length + 1 = r.headers.length := by
  rw [Record.removeField] at e
  split_ifs at e with hname
  cases e
  have hmem : name ∈ r.headers := List.contains_iff_mem.1 hname
  have hpos := List.length_pos_of_mem hmem
  rw [List.length_erase_of_mem hmem]
  omega

theorem pathExists_of_load {r : Record} (e : Record.load h config = .ok r) :
    h.pathExists config = true := by
  rcases hfind : h.find config with cause | ⟨l, _ | n⟩
  · rw [Record.load_of_readFile_error (Host.readFile_of_find_error hfind)] at e
    cases e
  · rw [Record.load_of_readFile_error (Host.readFile_of_find_none hfind)] at e
    cases e
  · rw [Host.pathExists, Host.node?, hfind]
    rfl

/-- A request wants what is not in the file yet. -/
theorem Request.Wants.load_ne {r : Record} (hc : request.changed? = some config)
    (hw : request.Wants h r) : Record.load h config ≠ .ok r := by
  intro e
  cases request with
  | addField config' name =>
      cases hc
      obtain ⟨r₀, added, hr₀, hadd⟩ := hw
      rw [if_pos (pathExists_of_load e), e, Except.ok.injEq] at hr₀
      have := headers_of_addField (hr₀ ▸ hadd)
      simp at this
  | removeField config' name =>
      cases hc
      obtain ⟨r₀, hr₀, hremove⟩ := hw
      rw [e, Except.ok.injEq] at hr₀
      have := length_headers_of_removeField (hr₀ ▸ hremove)
      omega
  | edit edit =>
      cases hc
      obtain ⟨r₀, l, hr, -, hne, hset⟩ := hw
      obtain rfl : r₀ = r := Except.ok.inj (hr.loaded.symm.trans e)
      exact hne hset.stored_eq.symm
  | tokenize _ _ | check _ _ | palette | configs _ | fields _ => cases hc

/-! ### Three ways to end -/

/-- Of an answer, only the status matters. -/
theorem Settled.of_status_eq {a a' : Answer} (hs : Settled h request config (a, h₁))
    (e : a'.status = a.status) : Settled h request config (a', h₁) where
  refused hne := hs.refused fun ha => hne (e.trans ha)
  carried he := hs.carried (e.symm.trans he)
  status hw := e ▸ hs.status hw
  rewritten := hs.rewritten

/-- A request that is refused changes nothing. -/
theorem Settled.of_refused {a : Answer} (ha : a.status ≠ 0) (hs : h.SameTree h₁)
    (hnot : ¬ request.Succeeds h) : Settled h request config (a, h₁) where
  refused _ := hs
  carried e := absurd e ha
  status _ := ⟨fun e => absurd e ha, fun e => absurd e hnot⟩
  rewritten _ := ⟨fun e => absurd hs.nodes e, fun ⟨_, hw⟩ => absurd hw.succeeds hnot⟩

/-- A request that has nothing to save changes nothing. -/
theorem Settled.of_kept {a : Answer} (ha : a.status = 0) (hs : h.SameTree h₁)
    (hsucceeds : request.Succeeds h) (hnot : ∀ r, ¬ request.Wants h r) :
    Settled h request config (a, h₁) where
  refused e := absurd ha e
  carried _ := .inr ⟨hnot, hs⟩
  status _ := ⟨fun _ => hsucceeds, fun _ => ha⟩
  rewritten _ := ⟨fun e => absurd hs.nodes e, fun ⟨r, hw⟩ => absurd hw (hnot r)⟩

/-- A request that saves the record that it wants changes the file, or nothing if the file cannot
be saved. -/
theorem Settled.of_saved {r : Record} {before after : List Span} (hs : h.SameTree h₁)
    (hc : request.changed? = some config) (hlink : h.NoLinkAt config)
    (hw : request.Wants h r) : Settled h request config (saved h₁ config r before after) := by
  rcases hsave : h₁.save config r.render.toUTF8 with fault | h'
  · have hrecord : r.save h₁ config = .error (.access config fault) := by
      rw [Record.save, hsave]
      rfl
    delta saved
    rw [hrecord]
    have hnot : ¬ h.Writable config := fun hwritable => by
      obtain ⟨h', e⟩ := hwritable.of_sameTree hs r.render.toUTF8
      rw [hsave] at e
      cases e
    exact ⟨fun _ => hs, fun e => absurd e (by simp [Answer.failure]),
      fun hwritable => absurd hwritable hnot, fun hwritable => absurd hwritable hnot⟩
  · have hrecord : r.save h₁ config = .ok h' := by
      rw [Record.save, hsave]
      rfl
    delta saved
    rw [hrecord]
    have hreplaced := hs.replaced hlink hsave
    have hnodes : h'.disk.nodes ≠ h.disk.nodes :=
      hreplaced.nodes_ne fun e => hw.load_ne hc (Record.load_of_readFile e)
    exact ⟨fun e => absurd rfl e, fun _ => .inl ⟨r, hw, hreplaced⟩,
      fun _ => ⟨fun _ => hw.succeeds, fun _ => rfl⟩, fun _ => ⟨fun _ => ⟨r, hw⟩, fun _ => hnodes⟩⟩

/-! ### The three requests -/

theorem runAddField_settled (name : String) (hlink : h.NoLinkAt config) :
    Settled h (.addField config name) config (runAddField h config name) := by
  rcases hload : loadOrEmpty h config with error | r
  · have hrun : runAddField h config name = (.failure [] (recordFailure error), h) := by
      simp only [runAddField, hload]
    rw [hrun]
    refine .of_refused Nat.one_ne_zero (.refl h) ?_
    rintro ⟨r', r, added, hr, -⟩
    cases hload.symm.trans hr
  rcases hadd : r.addField name with error | ⟨added, r'⟩
  · have hrun : runAddField h config name = (.failure [] error.message, h) := by
      simp only [runAddField, hload, hadd]
    rw [hrun]
    refine .of_refused Nat.one_ne_zero (.refl h) ?_
    rintro ⟨r', r₁, added, hr₁, hadd₁⟩
    obtain rfl : r₁ = r := Except.ok.inj (hr₁.symm.trans hload)
    cases hadd.symm.trans hadd₁
  · simp only [runAddField, hload, hadd]
    exact .of_saved (.refl h) rfl hlink ⟨r, added, hload, hadd⟩

theorem runRemoveField_settled (name : String) (hlink : h.NoLinkAt config) :
    Settled h (.removeField config name) config (runRemoveField h config name) := by
  rcases hload : Record.load h config with error | r
  · have hrun : runRemoveField h config name = (.failure [] (recordFailure error), h) := by
      simp only [runRemoveField, hload]
    rw [hrun]
    refine .of_refused Nat.one_ne_zero (.refl h) ?_
    rintro ⟨r', r, hr, -⟩
    cases hload.symm.trans hr
  rcases hremove : r.removeField name with error | r'
  · have hrun : runRemoveField h config name = (.failure [] error.message, h) := by
      simp only [runRemoveField, hload, hremove]
    rw [hrun]
    refine .of_refused Nat.one_ne_zero (.refl h) ?_
    rintro ⟨r', r₁, hr₁, hremove₁⟩
    obtain rfl : r₁ = r := Except.ok.inj (hr₁.symm.trans hload)
    cases hremove.symm.trans hremove₁
  · simp only [runRemoveField, hload, hremove]
    exact .of_saved (.refl h) rfl hlink ⟨r, hload, hremove⟩

/-- A sampler leaves the machine as its program does. -/
theorem generate_snd (sampler : Sampler) (launch : Launcher) (pattern : String) (count : Nat)
    (h : Host) : (sampler.generate launch pattern count h).2 =
      (launch sampler.program (sampler.argumentsFor pattern count) h).2 := by
  simp only [Sampler.generate, bind, StateT.bind]
  split
  next e => rw [e]; split <;> rfl

/-- Asking a quiet program for samples leaves the tree as it was. -/
theorem runPreview_sameTree {e : Edit} (hq : (Request.edit e).Quiet launch h) (s : Session) :
    h.SameTree (runPreview launch h e s).2 := by
  rcases hsampler : e.sampler with _ | program
  · simp only [runPreview, hsampler]
    exact .refl h
  · have hsnd : (runPreview launch h e s).2 =
        (preview s.list (Sampler.generate ⟨program, []⟩ launch) e.samples h).2 := by
      simp only [runPreview, hsampler]
      rfl
    rw [hsnd, preview]
    split
    · exact .refl h
    · change h.SameTree (Sampler.generate ⟨program, []⟩ launch _ _ h).2
      rw [generate_snd]
      exact hq program _ hsampler

theorem finishEdit_settled {e : Edit} {r : Record} {l : TokenList} (hr : e.Reaches h r l)
    (hs : h.SameTree h₁) (hlink : h.NoLinkAt e.config) (before : List Span) :
    Settled h (.edit e) e.config
      (finishEdit h₁ e r ⟨e.field, r.stored e.field, l⟩ before) := by
  have hkept (hnot : e.dryRun = true ∨ spell l = r.stored e.field) (r' : Record) :
      ¬ (Request.edit e).Wants h r' := by
    rintro ⟨r₁, l₁, hr₁, hdry, hne, -⟩
    obtain ⟨rfl, rfl⟩ := hr.unique hr₁
    rcases hnot with hnot | hnot
    · rw [hdry] at hnot
      cases hnot
    · exact hne hnot
  obtain ⟨r', hset, hpattern⟩ := Record.setPattern_of_contains hr.listed (spell l)
  rw [finishEdit]
  by_cases hmodified : spell l = r.stored e.field
  · rw [if_pos (by simpa [Session.isModified, Session.pattern] using hmodified)]
    exact .of_kept rfl hs ⟨r, l, hr⟩ (hkept (.inr hmodified))
  rw [if_neg (by simpa [Session.isModified, Session.pattern] using hmodified)]
  simp only [Session.commit, Session.pattern, hset]
  cases hdry : e.dryRun with
  | true => exact .of_kept rfl hs ⟨r, l, hr⟩ (hkept (.inl hdry))
  | false =>
      rw [if_neg Bool.false_ne_true]
      exact .of_saved hs rfl hlink ⟨r, l, hr, hdry, hmodified, hpattern⟩

theorem runEdit_settled {e : Edit} (hq : (Request.edit e).Quiet launch h)
    (hlink : h.NoLinkAt e.config) : Settled h (.edit e) e.config (runEdit launch h e) := by
  rcases hload : Record.load h e.config with error | r
  · have hrun : runEdit launch h e = (.failure [] (recordFailure error), h) := by
      simp only [runEdit, hload]
    rw [hrun]
    refine .of_refused Nat.one_ne_zero (.refl h) ?_
    rintro ⟨r, l, hr⟩
    cases hload.symm.trans hr.loaded
  cases hlisted : r.contains e.field with
  | false =>
      have hopen : Session.ofField r e.field = .error (.unknown e.field) := by
        rw [Session.ofField, Record.pattern?, hlisted]
        rfl
      have hrun : runEdit launch h e = (.failure [] (SessionError.unknown e.field).message, h) := by
        simp only [runEdit, hload, hopen]
      rw [hrun]
      refine .of_refused Nat.one_ne_zero (.refl h) ?_
      rintro ⟨r₁, l, hr⟩
      obtain rfl : r = r₁ := Except.ok.inj (hload.symm.trans hr.loaded)
      rw [hr.listed] at hlisted
      cases hlisted
  | true =>
      rcases Command.runAll_cases e.script (tokens (r.stored e.field)) with
        ⟨outcomes, l, hrun, hcarries⟩ | ⟨outcomes, l, refusal, hrun, hlt, hnot⟩
      · simp only [runEdit, hload, Session.ofField_of_contains hlisted, Session.runAll, hrun]
        exact .of_status_eq (finishEdit_settled ⟨hload, hlisted, hcarries⟩
          (runPreview_sameTree hq _) hlink _) rfl
      · simp only [runEdit, hload, Session.ofField_of_contains hlisted, Session.runAll, hrun]
        rw [List.drop_eq_getElem_cons hlt]
        refine .of_refused Nat.one_ne_zero (.refl h) ?_
        rintro ⟨r₁, last, hr⟩
        obtain rfl : r = r₁ := Except.ok.inj (hload.symm.trans hr.loaded)
        exact hnot last hr.carried

/-- **A request is carried out as a whole or not at all.**  A call that is no request, since it is
not understood or asks for help or for the version, leaves the machine as it was.  Of a request that
may change the file at a path it is assumed that the path has no link as its last entry and that the
program that is asked for samples, if one is, leaves the tree alone.  Then

* if the exit status is not 0, the tree is as it was;
* if it is 0, either the request wants a record in the file, and the file holds the text of this
  record and nothing else differs; or it wants none, and the tree is as it was.

If also nothing keeps a file from being saved at the path, then the exit status is 0 exactly if the
request can be carried out, and the tree changes exactly if a record is wanted in the file. -/
theorem call_all_or_nothing (launch : Launcher) (h : Host) (arguments : List String) :
    ((∀ request, Call.read arguments ≠ .ok (.request request)) →
      (callWith launch h arguments).2 = h) ∧
    ∀ request config, Call.read arguments = .ok (.request request) →
      request.changed? = some config → h.NoLinkAt config → request.Quiet launch h →
        Settled h request config (callWith launch h arguments) := by
  constructor
  · intro hread
    rw [callWith]
    split
    · rfl
    · rfl
    · rfl
    · next request e => exact absurd e (hread request)
  · intro request config hread hc hlink hq
    rw [callWith, hread]
    cases request with
    | addField config' name =>
        cases hc
        exact runAddField_settled name hlink
    | removeField config' name =>
        cases hc
        exact runRemoveField_settled name hlink
    | edit e =>
        cases hc
        exact runEdit_settled hq hlink
    | tokenize _ _ | check _ _ | palette | configs _ | fields _ => cases hc

/-- A call that appends a component: the preview program is not found, and the file is changed. -/
theorem call_all_or_nothing_appended :
    let r : Record := ⟨["code"], .ofList [("code", "x"), ("rest", "y")]⟩
    let h : Host := ⟨⟨[(["w"], .directory), (["w", "c.json"], .file r.render.toUTF8)], [], 0⟩,
      ["w"], "/w", ".tmp"⟩
    let launch : Launcher := fun _ _ => pure (.error (.os 2))
    let arguments := ["edit", "c.json", "code", "append:\\d", "--preview", "gen"]
    h.NoLinkAt "c.json" ∧ h.Writable "c.json" ∧ (callWith launch h arguments).1.status = 0 ∧
      ∃ r', r.PatternSet "code" "x\\d" r' ∧
        h.Replaced "c.json" r'.render.toUTF8 (callWith launch h arguments).2 := by
  intro r h launch arguments
  let e : Edit := ⟨"c.json", "code", [.append "\\d"], false, false, some "gen", 5⟩
  have hread : Call.read arguments = .ok (.request (.edit e)) := rfl
  have htarget : h.Target "c.json" ["w"] "c.json" := ⟨by decide, rfl, by decide,
    ⟨by decide, by decide, by decide⟩, rfl, [], _, by decide, .here⟩
  have hfile : h.disk.node? ["w", "c.json"] = some (.file r.render.toUTF8) := rfl
  have hlink : h.NoLinkAt "c.json" := by
    refine Host.noLinkAt_of_linkless (fun l target hl => ?_) _
    simp only [h, Machine.Disk.node?, List.lookup_cons, List.lookup_nil] at hl
    split_ifs at hl
    · cases hl
    · split at hl
      · cases hl
      · split at hl <;> cases hl
  have htemporary : Machine.Path.join (Machine.Path.join "/w" (Host.workshop "c.json")) ".tmp" =
      "/w/./.tmp" := by decide
  have hchecked : Host.checkPath "/w/./.tmp" = .ok () := by
    exact Host.checkPath_eq_ok_iff.2 ⟨by decide, by decide⟩
  have hwritable : h.Writable "c.json" := fun content =>
    ⟨_, Host.save_eq_ok_iff.2 ⟨Host.makeTemporary_eq_ok_iff.2 ⟨rfl, htemporary ▸ hchecked, ["w"],
        Host.findDirectory_eq_ok_iff.2 ⟨rfl, _, .stay .here⟩⟩, _,
      Host.destination_eq_ok_iff.2 ⟨_, _, htarget, rfl, by simp [hfile]⟩, rfl⟩⟩
  have hload : Record.load h "c.json" = .ok r := by
    have hfind := htarget.find_eq (by simp [hfile])
    exact Record.load_of_readFile (Host.readFile_of_find_file (hfile ▸ hfind))
  have hreaches : e.Reaches h r (tokens "x" ++ tokens "\\d") :=
    ⟨hload, by decide, .cons rfl (.nil _)⟩
  have hsettled := (call_all_or_nothing launch h arguments).2 _ _ hread rfl hlink
    fun _ _ _ => .refl h
  have hstatus := (hsettled.status hwritable).2 ⟨r, _, hreaches⟩
  have hspell : spell (tokens "x" ++ tokens "\\d") = "x\\d" := by decide +kernel
  refine ⟨hlink, hwritable, hstatus, ?_⟩
  obtain ⟨r', hset⟩ := Record.setPattern_of_contains hreaches.listed "x\\d"
  rcases hsettled.carried hstatus with ⟨r', ⟨r₀, l, hr, -, -, hset⟩, hreplaced⟩ | ⟨hnot, -⟩
  · obtain ⟨rfl, rfl⟩ := hreaches.unique hr
    exact ⟨r', hspell ▸ hset, hreplaced⟩
  · exact absurd ⟨r, _, hreaches, rfl, hspell ▸ by decide, hspell ▸ hset.2⟩ (hnot r')

end CommandLine
end FieldPattern
