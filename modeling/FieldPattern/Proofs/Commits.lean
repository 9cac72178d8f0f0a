import FieldPattern.Proofs.Interleaving

/-! # Commits in any order

Several sessions may be open on one record (`Session.IsOpenOn`), and they are committed one after the
other.  A commit changes no more than the entry of its field, so what a run of commits leaves in the
table is told name by name: the pattern of the latest session on the field (`latest`), and what was
there before where no session is on it (`run_commitTo`).  A table is decided by what is looked up in
it (`Table.eq_of_get?_eq`), because its entries are in order; so the order of the commits leaves no
trace in the record, nor in its text, when the fields differ.

The main statement is `commits_commute`. -/

namespace FieldPattern

/-! ### Tables with the same entries -/

namespace Table

theorem mem_entries_iff {t : Table} {name pattern : String} :
    (name, pattern) ∈ t.entries ↔ t.get? name = some pattern := by
  rw [get?, List.lookup_eq_some_iff]
  constructor
  · intro h
    obtain ⟨before, after, e⟩ := List.append_of_mem h
    refine ⟨before, after, e, fun p hp => ?_⟩
    have hasc := t.ascending
    rw [e] at hasc
    have hlt : p.1 < name := (List.pairwise_append.1 hasc).2.2 p hp _ (List.mem_cons_self ..)
    rw [bne_iff_ne]
    rintro rfl
    exact String.lt_irrefl _ hlt
  · rintro ⟨before, after, e, -⟩
    rw [e]
    exact List.mem_append_right _ (List.mem_cons_self ..)

theorem nodup_entries (t : Table) : t.entries.Nodup := by
  refine List.Pairwise.imp ?_ t.ascending
  rintro a _ h rfl
  exact String.lt_irrefl _ h

/-- A table is decided by what is looked up in it. -/
theorem eq_of_get?_eq {t u : Table} (h : ∀ name, t.get? name = u.get? name) : t = u := by
  refine eq_of_entries_eq (List.Perm.eq_of_pairwise (fun a b _ _ hab hba => ?_) t.ascending
    u.ascending ?_)
  · exact absurd hba (String.lt_asymm hab)
  · rw [List.perm_ext_iff_of_nodup t.nodup_entries u.nodup_entries]
    rintro ⟨name, pattern⟩
    rw [mem_entries_iff, mem_entries_iff, h]

end Table

theorem Record.eq_of_get?_eq {r r' : Record} (hheaders : r.headers = r'.headers)
    (h : ∀ name, r.patterns.get? name = r'.patterns.get? name) : r = r' := by
  obtain ⟨headers, patterns⟩ := r
  obtain ⟨headers', patterns'⟩ := r'
  obtain rfl : headers = headers' := hheaders
  obtain rfl : patterns = patterns' := Table.eq_of_get?_eq h
  rfl

/-! ### Open sessions -/

namespace Session

/-- The session was opened on a field of the record, and then commands were given to it. -/
def IsOpenOn (s : Session) (r : Record) : Prop :=
  ∃ field s₀ script, ofField r field = .ok s₀ ∧ (FieldPattern.run step script s₀).2 = s

/-- Write the session into a record: the pattern, or why it is refused, and the record after it. -/
def commitTo (s : Session) (r : Record) : Except SessionError String × Record :=
  Desk.commit ⟨r, s⟩

variable {r : Record} {s t : Session} {before after sessions : List Session} {name : String}

theorem ofField_eq_ok_iff {field : String} : ofField r field = .ok s ↔
    r.contains field = true ∧ s = ⟨field, r.stored field, tokens (r.stored field)⟩ := by
  cases h : r.contains field with
  | true => rw [ofField_of_contains h, Except.ok.injEq, eq_comm, eq_self, true_and]
  | false => simp [ofField, Record.pattern?, h]

/-- The field of an open session is listed. -/
theorem IsOpenOn.listed (h : s.IsOpenOn r) : r.contains s.field = true := by
  obtain ⟨field, s₀, script, hopen, rfl⟩ := h
  obtain ⟨hlisted, rfl⟩ := ofField_eq_ok_iff.1 hopen
  rw [run_field]
  exact hlisted

theorem commitTo_of_contains (h : r.contains s.field = true) :
    ∃ r', s.commitTo r = (.ok s.pattern, r') ∧ r.PatternSet s.field s.pattern r' :=
  Desk.commit_of_contains (d := ⟨r, s⟩) h

/-! ### Runs of commits -/

/-- The pattern of the latest session on the field. -/
def latest (sessions : List Session) (name : String) : Option String :=
  (sessions.map fun s => (s.field, s.pattern)).reverse.lookup name

theorem latest_append : latest (before ++ after) name =
    (latest after name).or (latest before name) := by
  rw [latest, List.map_append, List.reverse_append, List.lookup_append, latest, latest]

theorem latest_cons : latest (s :: sessions) name =
    (latest sessions name).or (if name = s.field then some s.pattern else none) := by
  have hone : latest [s] name = if name = s.field then some s.pattern else none := by
    by_cases h : name = s.field
    · simp [latest, h]
    · simp [latest, h, List.lookup_cons, beq_eq_false_iff_ne.2 h]
  rw [← List.singleton_append, latest_append, hone]

theorem latest_eq_none (h : name ∉ sessions.map field) : latest sessions name = none := by
  induction sessions with
  | nil => rfl
  | cons s sessions ih =>
      rw [List.map_cons, List.mem_cons, not_or] at h
      rw [latest_cons, ih h.2, if_neg h.1]
      rfl

/-- What is latest on a field that no later session is on. -/
theorem latest_of_last (h : t.field ∉ after.map field) :
    latest (before ++ t :: after) t.field = some t.pattern := by
  rw [latest_append, latest_cons, latest_eq_none h, if_pos rfl]
  rfl

/-- Where no field has two sessions, each session is the latest on its field. -/
theorem latest_of_mem (h : (sessions.map field).Nodup) (hs : s ∈ sessions) :
    latest sessions s.field = some s.pattern := by
  obtain ⟨before, after, rfl⟩ := List.append_of_mem hs
  rw [List.map_append, List.map_cons] at h
  exact latest_of_last (List.nodup_cons.1 (List.nodup_append.1 h).2.1).1

/-- Where no field has two sessions, their order does not count. -/
theorem latest_perm {order : List Session} (hperm : order.Perm sessions)
    (h : (sessions.map field).Nodup) : latest order name = latest sessions name := by
  have hfields := hperm.map field
  by_cases hname : name ∈ sessions.map field
  · obtain ⟨s, hs, rfl⟩ := List.mem_map.1 hname
    rw [latest_of_mem h hs, latest_of_mem (hfields.nodup_iff.2 h) (hperm.mem_iff.2 hs)]
  · rw [latest_eq_none hname, latest_eq_none fun h => hname (hfields.mem_iff.1 h)]

/-- Earlier sessions on a field do not count. -/
theorem latest_filter : latest (before.filter (fun s => s.field ≠ t.field) ++ t :: after) name =
    latest (before ++ t :: after) name := by
  rw [latest_append, latest_append, latest_cons]
  by_cases h : name = t.field
  · cases latest after name <;> simp [h]
  · have hbefore : latest (before.filter fun s => s.field ≠ t.field) name = latest before name := by
      induction before with
      | nil => rfl
      | cons s before ih =>
          by_cases hs : s.field = t.field
          · rw [List.filter_cons_of_neg (by simpa using hs), ih, latest_cons, hs, if_neg h,
              Option.or_none]
          · rw [List.filter_cons_of_pos (by simpa using hs), latest_cons, latest_cons, ih]
    rw [hbefore]

/-- Sessions on listed fields are committed one after the other: each field holds the pattern of
the latest session on it. -/
theorem run_commitTo (h : ∀ s ∈ sessions, r.contains s.field = true) :
    ∃ c, FieldPattern.run commitTo sessions r = (sessions.map fun s => (s, .ok s.pattern), c) ∧
      c.headers = r.headers ∧
      ∀ name, c.patterns.get? name = (latest sessions name).or (r.patterns.get? name) := by
  induction sessions generalizing r with
  | nil => exact ⟨r, rfl, rfl, fun name => rfl⟩
  | cons s rest ih =>
      obtain ⟨hs, hrest⟩ := List.forall_mem_cons.1 h
      obtain ⟨r₁, e, hset⟩ := commitTo_of_contains hs
      -- The fields of the other sessions are still listed: a commit keeps the headers.
      obtain ⟨c, hrun, hheaders, hentries⟩ :=
        ih (r := r₁) fun t ht => (hset.contains_eq t.field).trans (hrest t ht)
      refine ⟨c, ?_, hheaders.trans hset.headers, fun name => ?_⟩
      · rw [run_cons, e, hrun]
        rfl
      · rw [hentries, latest_cons, Option.or_assoc]
        by_cases hname : name = s.field
        · rw [hname, hset.entry, if_pos rfl]
          rfl
        · rw [hset.others name hname, if_neg hname]
          rfl

/-- What is left does not depend on more than the latest session on each field. -/
theorem run_commitTo_congr {sessions' : List Session}
    (h : ∀ s ∈ sessions, r.contains s.field = true)
    (h' : ∀ s ∈ sessions', r.contains s.field = true)
    (hlatest : ∀ name, latest sessions name = latest sessions' name) :
    (FieldPattern.run commitTo sessions r).2 = (FieldPattern.run commitTo sessions' r).2 := by
  obtain ⟨c, e, hheaders, hentries⟩ := run_commitTo h
  obtain ⟨c', e', hheaders', hentries'⟩ := run_commitTo h'
  rw [e, e']
  refine Record.eq_of_get?_eq (hheaders.trans hheaders'.symm) fun name => ?_
  rw [hentries, hentries', hlatest]

/-- **Commits in any order.**  Sessions are opened on different fields of a record, and get commands.
In whatever order they are committed, each commit returns the pattern of its session, and they lead
to the same record, with the same text.  In it each of the fields has the pattern of its session, and
the headers and all other entries are what they were.  Where several sessions are on one field, the
latest commit decides the pattern, and the record is the one without the earlier commits on it. -/
theorem commits_commute (r : Record) :
    (∀ family : List Session, (∀ s ∈ family, s.IsOpenOn r) → (family.map field).Nodup →
      ∃ c : Record, c.headers = r.headers ∧
        (∀ s ∈ family, c.patterns.get? s.field = some s.pattern) ∧
        (∀ name, name ∉ family.map field → c.patterns.get? name = r.patterns.get? name) ∧
        ∀ order : List Session, order.Perm family →
          FieldPattern.run commitTo order r = (order.map fun s => (s, .ok s.pattern), c) ∧
          (FieldPattern.run commitTo order r).2.render = c.render) ∧
    ∀ (before : List Session) (t : Session) (after : List Session),
      (∀ s ∈ before ++ t :: after, s.IsOpenOn r) → t.field ∉ after.map field →
        let c := (FieldPattern.run commitTo (before ++ t :: after) r).2
        c.patterns.get? t.field = some t.pattern ∧
          c = (FieldPattern.run commitTo
            (before.filter (fun s => s.field ≠ t.field) ++ t :: after) r).2 := by
  constructor
  · intro family hopen hapart
    have hlisted : ∀ s ∈ family, r.contains s.field = true := fun s hs => (hopen s hs).listed
    obtain ⟨c, hrun, hheaders, hentries⟩ := run_commitTo hlisted
    refine ⟨c, hheaders, fun s hs => ?_, fun name hname => ?_, fun order hperm => ?_⟩
    · rw [hentries, latest_of_mem hapart hs]
      rfl
    · rw [hentries, latest_eq_none hname]
      rfl
    · have hlisted' : ∀ s ∈ order, r.contains s.field = true :=
        fun s hs => hlisted s (hperm.mem_iff.1 hs)
      obtain ⟨c', hrun', -⟩ := run_commitTo hlisted'
      obtain rfl : c' = c := by
        have e := run_commitTo_congr hlisted' hlisted fun name => latest_perm hperm hapart
        rwa [hrun', hrun] at e
      exact ⟨hrun', by rw [hrun']⟩
  · intro before t after hopen hlast c
    have hlisted : ∀ s ∈ before ++ t :: after, r.contains s.field = true :=
      fun s hs => (hopen s hs).listed
    have hlisted' : ∀ s ∈ before.filter (fun s => s.field ≠ t.field) ++ t :: after,
        r.contains s.field = true := by
      refine fun s hs => hlisted s ?_
      rw [List.mem_append] at hs ⊢
      exact hs.imp_left fun hmem => (List.mem_filter.1 hmem).1
    refine ⟨?_, run_commitTo_congr hlisted hlisted' fun name => latest_filter.symm⟩
    obtain ⟨c₁, hrun, -, hentries⟩ := run_commitTo hlisted
    have hc : c = c₁ := congrArg Prod.snd hrun
    rw [hc, hentries, latest_of_last hlast]
    rfl

/-- Two fields of a record that lists one of them twice and without a pattern, and has an entry of no
field; and two sessions on one field. -/
theorem commits_commute_unset :
    let r : Record := ⟨["a", "b", "a"], .ofList [("b", "x"), ("old", "y")]⟩
    let c : Record := ⟨["a", "b", "a"], .ofList [("a", "\\d"), ("b", "x+"), ("old", "y")]⟩
    let edited (field : String) (script : List Command) : Session :=
      (FieldPattern.run step script ⟨field, r.stored field, tokens (r.stored field)⟩).2
    let s := edited "a" [.append "\\d", .remove 7]
    let t := edited "b" [.append "+"]
    let u := edited "a" [.append "z"]
    (FieldPattern.run commitTo [s, t] r).2 = c ∧ (FieldPattern.run commitTo [t, s] r).2 = c ∧
      (FieldPattern.run commitTo [s, u] r).2.patterns.get? "a" = some "z" := by
  intro r c edited s t u
  have hopen (field : String) (script : List Command) (h : r.contains field = true) :
      (edited field script).IsOpenOn r :=
    ⟨field, _, script, ofField_of_contains h, rfl⟩
  have hs : s.IsOpenOn r := hopen "a" _ (by decide)
  have ht : t.IsOpenOn r := hopen "b" _ (by decide)
  have hu : u.IsOpenOn r := hopen "a" _ (by decide)
  have hfield : s.field = "a" ∧ t.field = "b" ∧ u.field = "a" := by decide +kernel
  have hpattern : u.pattern = "z" := by decide +kernel
  have hc : (FieldPattern.run commitTo [s, t] r).2 = c := by decide +kernel
  obtain ⟨hfamily, hlast⟩ := commits_commute r
  obtain ⟨c', -, -, -, horder⟩ := hfamily [s, t] (by simp [hs, ht]) (by simp [hfield])
  have hst := (horder [s, t] (.refl _)).1
  have hts := (horder [t, s] (.swap ..)).1
  have hwon := (hlast [s] u [] (by simp [hs, hu]) (by simp)).1
  rw [hfield.2.2, hpattern] at hwon
  refine ⟨hc, ?_, hwon⟩
  rw [hst] at hc
  rw [hts]
  exact hc

end Session

end FieldPattern
