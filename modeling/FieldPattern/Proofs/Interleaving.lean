import FieldPattern.Proofs.Editing
import FieldPattern.Proofs.Reading
import FieldPattern.Proofs.Runs
import FieldPattern.Record.Change
import FieldPattern.Record.File

/-! # A session beside its record

While a session is open, the record that it was opened on goes on to change.  A desk (`Desk`)
holds both.  Its actions are the commands of the session and the updates of the record, in any
order; an update is a change of the record, or its replacement by a loaded one.  At the end the
session is dropped (`Desk.cancel`) or written into the record as it is then (`Desk.commit`).

The session and the record are parts of the desk that are machines of their own
(`session_isPart`, `record_isPart`), so each runs as if the other were not there.  The main
statement is `session_beside_record`: what the end of the session makes of the record depends on
the two runs alone. -/

namespace FieldPattern

/-! ### Updates of the record -/

/-- What happens to a record. -/
inductive Update where
  | change (c : Record.Change)
  /-- The record is replaced by a loaded one; where loading failed, it stays. -/
  | load (result : Except RecordError Record)

namespace Update

/-- What is said of an update. -/
inductive Reply where
  | changed (result : Except FieldError (Option String))
  | loaded (result : Except RecordError Unit)

/-- Take an update: what is said of it, and the record after it. -/
def step : Update → Record → Reply × Record
  | change c, r => (.changed (Record.step c r).1, (Record.step c r).2)
  | load (.ok r'), _ => (.loaded (.ok ()), r')
  | load (.error e), r => (.loaded (.error e), r)

end Update

/-! ### The desk -/

/-- A record, and a session on one of its fields. -/
structure Desk where
  record : Record
  session : Session

/-- What is done at a desk. -/
inductive Action where
  | command (c : Command)
  | update (u : Update)

/-- What is said of an action. -/
inductive Reply where
  | command (result : Except Command.Refusal Outcome)
  | update (reply : Update.Reply)

namespace Desk

/-- Take an action: what is said of it, and the desk after it. -/
def step : Action → Desk → Reply × Desk
  | .command c, d =>
      let (result, s) := Session.step c d.session
      (.command result, { d with session := s })
  | .update u, d =>
      let (reply, r) := u.step d.record
      (.update reply, { d with record := r })

/-- Drop the session: the record that is left. -/
def cancel (d : Desk) : Record := d.record

/-- Write the pattern of the session into the record: the pattern, or why it is refused, and the
record after it. -/
def commit (d : Desk) : Except SessionError String × Record :=
  match d.session.commit d.record with
  | .ok (pattern, r) => (.ok pattern, r)
  | .error e => (.error e, d.record)

end Desk

/-! ### The two sides -/

namespace Action

/-- The command, if the action is one. -/
def command? : Action → Option Command
  | command c => some c
  | update _ => none

/-- The update, if the action is one. -/
def update? : Action → Option Update
  | command _ => none
  | update u => some u

end Action

/-- What the session sees of a transcript. -/
def sessionEntry : Action × Reply → Option (Command × Except Command.Refusal Outcome)
  | (.command c, .command result) => some (c, result)
  | _ => none

/-- What the record sees of a transcript. -/
def recordEntry : Action × Reply → Option (Update × Update.Reply)
  | (.update u, .update reply) => some (u, reply)
  | _ => none

theorem session_isPart :
    IsPart Desk.step Session.step Desk.session Action.command? sessionEntry where
  other a d h := by
    cases a with
    | command c => cases h
    | update u => exact ⟨rfl, rfl⟩
  own a c d h := by
    cases a with
    | command c' =>
        cases h
        exact ⟨rfl, rfl⟩
    | update u => cases h

theorem record_isPart :
    IsPart Desk.step Update.step Desk.record Action.update? recordEntry where
  other a d h := by
    cases a with
    | command c => exact ⟨rfl, rfl⟩
    | update u => cases h
  own a u d h := by
    cases a with
    | command c => cases h
    | update u' =>
        cases h
        exact ⟨rfl, rfl⟩

/-! ### The end of a session -/

/-- A session stays with its field. -/
theorem Session.run_field (script : List Command) (s : Session) :
    (FieldPattern.run Session.step script s).2.field = s.field := by
  refine run_invariant (I := fun s' : Session => s'.field = s.field) (fun c s' h => ?_) script rfl
  rcases step_cases c s' with ⟨outcome, l', -, e⟩ | ⟨refusal, e⟩
  · rw [e]
    exact h
  · rw [e]
    exact h

namespace Desk

variable {d : Desk}

theorem commit_of_contains (h : d.record.contains d.session.field = true) :
    ∃ r, d.commit = (.ok d.session.pattern, r) ∧
      d.record.PatternSet d.session.field d.session.pattern r := by
  obtain ⟨r, e, hr⟩ := Record.setPattern_of_contains h d.session.pattern
  exact ⟨r, by rw [commit, Session.commit, e], hr⟩

theorem commit_of_not_contains (h : d.record.contains d.session.field = false) :
    d.commit = (.error (.field (.unknown d.session.field)), d.record) := by
  rw [commit, Session.commit, Record.setPattern_of_not_contains h]

end Desk

/-- **A session and its record do not influence each other.**  A session is opened on a listed
field, and then commands are given to it and updates to the record, in any order.  Both get the
replies that they get alone.  When the session is dropped, the record is the one that the updates
alone lead to.  Otherwise the pattern is the one that the commands alone lead to: it is written
where the updates alone leave the field listed, whatever they did to it before, and nothing else
is written; where they do not, it is refused, and the record stays.  A session that is opened
again on the pattern that was written shows it, and as not modified. -/
theorem session_beside_record (r : Record) (field : String) (listed : r.contains field = true) :
    ∃ s, Session.ofField r field = .ok s ∧ s.list = tokens (r.stored field) ∧
      ∀ actions : List Action,
        let whole := run Desk.step actions ⟨r, s⟩
        let edited := run Session.step (actions.filterMap Action.command?) s
        let updated := run Update.step (actions.filterMap Action.update?) r
        let pattern := edited.2.pattern
        let c := updated.2
        whole.1.filterMap sessionEntry = edited.1 ∧
        whole.1.filterMap recordEntry = updated.1 ∧
        whole.2.cancel = c ∧
        ((∃ p c', whole.2.commit = (.ok p, c')) ↔ c.contains field = true) ∧
        (c.contains field = true → ∃ c', whole.2.commit = (.ok pattern, c') ∧
          c.PatternSet field pattern c' ∧
          ∃ s', Session.ofField c' field = .ok s' ∧ s'.list = tokens pattern ∧
            s'.pattern = pattern ∧ s'.isModified = false) ∧
        (c.contains field = false →
          whole.2.commit = (.error (.field (.unknown field)), c)) := by
  refine ⟨_, Session.ofField_of_contains listed, rfl, fun actions => ?_⟩
  generalize hs : Session.mk field (r.stored field) (tokens (r.stored field)) = s
  obtain ⟨hsession, hlast⟩ := run_part session_isPart actions ⟨r, s⟩
  obtain ⟨hrecord, hc⟩ := run_part record_isPart actions ⟨r, s⟩
  intro whole edited updated pattern c
  have hfield : whole.2.session.field = field := by
    rw [hlast, Session.run_field, ← hs]
  have hcommit (h : c.contains field = true) : ∃ c', whole.2.commit = (.ok pattern, c') ∧
      c.PatternSet field pattern c' := by
    have hd : whole.2.record.contains whole.2.session.field = true := by
      rw [hfield, hc]
      exact h
    obtain ⟨c', e, hset⟩ := Desk.commit_of_contains hd
    rw [hfield, hlast, hc] at hset
    rw [hlast] at e
    exact ⟨c', e, hset⟩
  have hrefuse (h : c.contains field = false) :
      whole.2.commit = (.error (.field (.unknown field)), c) := by
    have hd : whole.2.record.contains whole.2.session.field = false := by
      rw [hfield, hc]
      exact h
    rw [Desk.commit_of_not_contains hd, hfield, hc]
  refine ⟨hsession, hrecord, hc, ⟨?_, ?_⟩, fun h => ?_, hrefuse⟩
  · rintro ⟨p, c', e⟩
    cases h : c.contains field with
    | true => rfl
    | false =>
        rw [hrefuse h] at e
        cases e
  · intro h
    obtain ⟨c', e, -⟩ := hcommit h
    exact ⟨pattern, c', e⟩
  · obtain ⟨c', e, hset⟩ := hcommit h
    have h' : c'.contains field = true := by rw [hset.contains_eq, h]
    have hreopen := Session.ofField_of_contains h'
    rw [hset.stored_eq] at hreopen
    refine ⟨c', e, hset, _, hreopen, rfl, spell_tokens pattern, ?_⟩
    rw [Session.isModified, Session.pattern, spell_tokens, bne_self_eq_false]

/-- The field is taken out and listed again while it is edited. -/
theorem session_beside_record_relisted :
    let r : Record := ⟨["id", "code"], .ofList [("id", "ID-\\d"), ("code", "[A-Z]")]⟩
    let actions : List Action :=
      [.command (.append "\\d+"), .update (.change (.removeField "code")), .command (.remove 9),
        .update (.change (.addField " code ")), .update (.change (.setPattern "code" "x"))]
    r.contains "code" = true ∧ ∃ s, Session.ofField r "code" = .ok s ∧
      ∃ c', (run Desk.step actions ⟨r, s⟩).2.commit = (.ok "[A-Z]\\d+", c') ∧
        c'.headers = ["id", "code"] ∧ c'.patterns.get? "code" = some "[A-Z]\\d+" ∧
        c'.patterns.get? "id" = some "ID-\\d" := by
  intro r actions
  have listed : r.contains "code" = true := by decide
  have opened := Session.ofField_of_contains listed
  obtain ⟨s, hs, -, h⟩ := session_beside_record r "code" listed
  cases Except.ok.inj (opened.symm.trans hs)
  obtain ⟨-, -, -, -, hcommit, -⟩ := h actions
  -- The updates alone and the commands alone, each by evaluation.
  have hupdated : (run Update.step (actions.filterMap Action.update?) r).2 =
      ⟨["id", "code"], .ofList [("id", "ID-\\d"), ("code", "x")]⟩ := by decide +kernel
  have hpattern : (run Session.step (actions.filterMap Action.command?)
      ⟨"code", r.stored "code", tokens (r.stored "code")⟩).2.pattern = "[A-Z]\\d+" := by
    decide +kernel
  rw [hupdated, hpattern] at hcommit
  obtain ⟨c', e, hset, -⟩ := hcommit (by decide)
  refine ⟨listed, _, opened, c', e, hset.headers, hset.entry, ?_⟩
  rw [hset.others "id" (by decide)]
  decide

end FieldPattern
