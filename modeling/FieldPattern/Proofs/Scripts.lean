import FieldPattern.Proofs.Editing
import FieldPattern.Proofs.GrammarLanguage
import FieldPattern.Proofs.InPlace

/-! # Scripts

A command is carried out or refused, and nothing else can become of it.

* `Command.Effect` says what a command that is carried out does, and `Command.Refused` which
  commands are refused, and with what reason; each command has one of the two
  (`effect_or_refused`).
* `Command.attempt` carries out a command on a list that is changed in place, by operations that
  stop with a fault at a number that is too large (`TokenList.removing` and the others).  Numbers are
  checked before, so it never meets a fault, and a command that is refused has changed nothing
  (`attempt_eq`).
* A script runs to its end, or up to a command that is refused; the list is then the one that the
  commands before it lead to (`runAll_stops`).

The main statement is `scripts_never_fault`. -/

namespace FieldPattern.Command

open Steps (bind_of_ok get_bind)
open TokenList (InPlace settle removing moving editing removing_eq moving_eq editing_eq
  removeAt?_of_lt move?_of_lt edit?_of_lt)

/-! ### Commands that are refused -/

/-- The command is refused for this reason: it names a number that is too large, and this is the
first one, or it gives a token a value that the grammar of its kind does not accept. -/
inductive Refused (l : TokenList) : Command → Refusal → Prop
  | outOfRange {c : Command} {index : Nat} :
      (c.indices.find? fun i => decide (l.length ≤ i)) = some index →
      Refused l c (.indexOutOfRange index l.length)
  | misfit {index : Nat} {value : String} {g : Grammar} (h : index < l.length) :
      ¬ l[index].Keeps value → Grammar.ofKind? l[index].kind = some g →
      g.accepts value = false → Refused l (.set index value) (.rejected index ⟨g, value⟩)

variable {c : Command} {l l' last : TokenList} {outcome : Outcome} {refusal : Refusal}

theorem Refused.apply_eq (h : Refused l c refusal) : c.apply l = .error refusal := by
  cases h with
  | @outOfRange _ index h =>
      cases c with
      | append component => cases h
      | remove i | set i value =>
          obtain ⟨hi, rfl⟩ : l.length ≤ i ∧ i = index := by simpa [indices] using h
          rw [apply, position_of_le hi]
          rfl
      | move source target =>
          by_cases hs : l.length ≤ source
          · obtain rfl : source = index := by simpa [indices, hs] using h
            rw [apply, position_of_le hs]
            rfl
          · obtain ⟨ht, rfl⟩ : l.length ≤ target ∧ target = index := by
              simpa [indices, hs] using h
            rw [apply, position_of_lt (by omega), position_of_le ht]
            rfl
  | misfit hi hk hg ha =>
      have hc := Grammar.check_eq_error_iff.2 ⟨_, hg, ha, rfl⟩
      rw [apply, position_of_lt hi]
      simp only [bind, Except.bind, edit_of_not_keeps hi hk, hc]

/-- A command is carried out, or it is refused. -/
theorem effect_or_refused (c : Command) (l : TokenList) :
    (∃ outcome l', Effect c l outcome l') ∨ ∃ refusal, Refused l c refusal := by
  cases hbad : c.indices.find? fun i => decide (l.length ≤ i) with
  | some index => exact .inr ⟨_, .outOfRange hbad⟩
  | none =>
      have hlt : ∀ i ∈ c.indices, i < l.length := by simpa using hbad
      cases c with
      | append component => exact .inl ⟨_, _, .append component l⟩
      | remove index => exact .inl ⟨_, _, .remove (hlt index (by simp [indices]))⟩
      | move source target =>
          have hs := hlt source (by simp [indices])
          have ht := hlt target (by simp [indices])
          exact .inl ⟨_, _, .move hs ht⟩
      | set index value =>
          have hi := hlt index (by simp [indices])
          by_cases hk : l[index].Keeps value
          · exact .inl ⟨_, _, .keep hi hk⟩
          · cases hc : l[index].kind.check value with
            | ok _ => exact .inl ⟨_, _, .set hi hk hc⟩
            | error misfit =>
                obtain ⟨g, hg, ha, -⟩ := Grammar.check_eq_error_iff.1 hc
                exact .inr ⟨_, .misfit hi hk hg ha⟩

theorem apply_eq_error_iff : c.apply l = .error refusal ↔ Refused l c refusal := by
  refine ⟨fun h => ?_, Refused.apply_eq⟩
  rcases effect_or_refused c l with ⟨outcome, l', he⟩ | ⟨refusal', hr⟩
  · cases he.apply_eq.symm.trans h
  · obtain rfl := Except.error.inj (hr.apply_eq.symm.trans h)
    exact hr

/-! ### Tokens that a command leaves alone -/

/-- The tokens of the list before a command that the command does not name. -/
def othersBefore : Command → TokenList → TokenList
  | append _, l => l
  | remove index, l => l.eraseIdx index
  | move source _, l => l.eraseIdx source
  | set index _, l => l.eraseIdx index

/-- The tokens of the list after a command that were not added, moved or set, where the list before
it had `length` tokens. -/
def othersAfter (length : Nat) : Command → TokenList → TokenList
  | append _, l => l.take length
  | remove _, l => l
  | move _ target, l => l.eraseIdx target
  | set index _, l => l.eraseIdx index

/-- All other tokens stay as they are, in the same order. -/
theorem Effect.others_eq (h : Effect c l outcome l') :
    c.othersAfter l.length l' = c.othersBefore l := by
  cases h with
  | append component => exact List.take_left
  | remove hi => rfl
  | move hs ht => exact List.eraseIdx_insertIdx_self _
  | keep hi hk => rfl
  | set hi hk hc => exact List.eraseIdx_set_eq

/-! ### Commands on a list that is changed in place -/

/-- Carry out a command on a list that is changed in place. -/
def attempt : Command → InPlace (Except Refusal Outcome)
  | append component => fun l => .ok (.ok (.appended (l.add component).1), (l.add component).2)
  | remove index => do
      match position (← get) index with
      | .error refusal => return .error refusal
      | .ok i =>
          let token ← removing i
          return .ok (.removed i token.value)
  | move source target => do
      let l ← get
      match position l source, position l target with
      | .error refusal, _ | .ok _, .error refusal => return .error refusal
      | .ok i, .ok j =>
          moving i j
          return .ok (.moved i j)
  | set index value => do
      match position (← get) index with
      | .error refusal => return .error refusal
      | .ok i =>
          match ← editing i value with
          | .error misfit => return .error (.rejected i misfit)
          | .ok verdict => return .ok (.edited i verdict)

/-- Run commands one after the other until one is refused, on a list that is changed in place: what
each did, and the first refusal. -/
def attemptAll : List Command → InPlace (List Outcome × Option Refusal)
  | [] => return ([], none)
  | c :: rest => do
      match ← c.attempt with
      | .error refusal => return ([], some refusal)
      | .ok outcome =>
          let (outcomes, refusal) ← attemptAll rest
          return (outcome :: outcomes, refusal)

/-- A command never meets a fault, since a number that is too large is refused before it is used; and
when it is refused, nothing was changed yet. -/
theorem attempt_eq (c : Command) (l : TokenList) : c.attempt l = .ok (settle l (c.apply l)) := by
  cases c with
  | append component => rfl
  | remove index =>
      rw [attempt, get_bind]
      by_cases hi : index < l.length
      · have hremoved : removing index l = .ok (l[index], l.eraseIdx index) := by
          rw [removing_eq, removeAt?_of_lt hi]
          rfl
        simp only [apply, position_of_lt hi]
        exact bind_of_ok hremoved
      · simp only [apply, position_of_le (Nat.le_of_not_lt hi)]
        rfl
  | move source target =>
      rw [attempt, get_bind]
      by_cases hs : source < l.length
      · by_cases ht : target < l.length
        · have hmoved : moving source target l =
              .ok ((), (l.eraseIdx source).insertIdx target l[source]) := by
            rw [moving_eq, move?_of_lt hs ht]
            rfl
          simp only [apply, position_of_lt hs, position_of_lt ht]
          exact bind_of_ok hmoved
        · simp only [apply, position_of_lt hs, position_of_le (Nat.le_of_not_lt ht)]
          rfl
      · simp only [apply, position_of_le (Nat.le_of_not_lt hs)]
        rfl
  | set index value =>
      rw [attempt, get_bind]
      by_cases hi : index < l.length
      · have hedited : editing index value l = .ok (settle l (l.edit ⟨index, hi⟩ value)) := by
          rw [editing_eq, edit?_of_lt hi]
          rfl
        simp only [apply, position_of_lt hi]
        refine (bind_of_ok hedited).trans ?_
        simp only [bind, Except.bind]
        cases l.edit ⟨index, hi⟩ value <;> rfl
      · simp only [apply, position_of_le (Nat.le_of_not_lt hi)]
        rfl

theorem attemptAll_eq (script : List Command) (l : TokenList) : attemptAll script l =
    .ok (((runAll script l).1, (runAll script l).2.2), (runAll script l).2.1) := by
  induction script generalizing l with
  | nil => rfl
  | cons c rest ih =>
      rw [attemptAll, bind_of_ok (attempt_eq c l), runAll]
      cases c.apply l with
      | error refusal => rfl
      | ok result => exact bind_of_ok (ih result.2)

/-! ### Where a script stops -/

/-- What is left of a script that stops with this list: nothing, or a command that is refused and
those after it. -/
inductive Stops (last : TokenList) : List Command → Option Refusal → Prop
  | done : Stops last [] none
  | refused {c : Command} {refusal : Refusal} (rest : List Command) :
      Refused last c refusal → Stops last (c :: rest) (some refusal)

/-- A script stops at its end or at the first command that is refused, with the list that the
commands before it lead to. -/
theorem runAll_stops (script : List Command) (l : TokenList) :
    ∃ done rest, script = done ++ rest ∧ (runAll script l).1.length = done.length ∧
      runAll done l = ((runAll script l).1, (runAll script l).2.1, none) ∧
      Stops (runAll script l).2.1 rest (runAll script l).2.2 := by
  induction script generalizing l with
  | nil => exact ⟨[], [], rfl, rfl, rfl, .done⟩
  | cons c rest ih =>
      cases hc : c.apply l with
      | error refusal =>
          refine ⟨[], c :: rest, rfl, ?_⟩
          simp only [runAll, hc]
          exact ⟨rfl, trivial, .refused rest (apply_eq_error_iff.1 hc)⟩
      | ok result =>
          obtain ⟨outcome, l'⟩ := result
          obtain ⟨done, left, e, hlength, hdone, hstops⟩ := ih l'
          refine ⟨c :: done, left, by rw [e, List.cons_append], ?_⟩
          simp only [runAll, hc, hdone, List.length_cons, hlength]
          exact ⟨trivial, trivial, hstops⟩

/-- **Scripts never fault.**  A script changes the list in place by operations that stop with a fault
at a number that is too large, and none does; it stops at its end or at the first command that is
refused, and leaves the list that the commands before it lead to.  A command is refused for the
reasons that `Command.Refused` gives and no others, and leaves the list as it was; a command that is
not refused does what `Command.Effect` says, and the tokens that it does not name stay. -/
theorem scripts_never_fault (script : List Command) (l : TokenList) :
    attemptAll script l =
      .ok (((runAll script l).1, (runAll script l).2.2), (runAll script l).2.1) ∧
    (∃ done rest, script = done ++ rest ∧ (runAll script l).1.length = done.length ∧
      runAll done l = ((runAll script l).1, (runAll script l).2.1, none) ∧
      Stops (runAll script l).2.1 rest (runAll script l).2.2) ∧
    ∀ c : Command, c.attempt l = .ok (settle l (c.apply l)) ∧
      (∀ refusal, c.apply l = .error refusal ↔ Refused l c refusal) ∧
      ∀ outcome l', (c.apply l = .ok (outcome, l') ↔ Effect c l outcome l') ∧
        (Effect c l outcome l' → c.othersAfter l.length l' = c.othersBefore l) :=
  ⟨attemptAll_eq script l, runAll_stops script l, fun c =>
    ⟨attempt_eq c l, fun _ => apply_eq_error_iff,
      fun _ _ => ⟨apply_eq_ok_iff, Effect.others_eq⟩⟩⟩

/-- A script that stops at the largest number there is. -/
theorem scripts_never_fault_largest :
    let l := tokens "a.[b]"
    let script : List Command := [.move 0 2, .set 1 "[^c]", .remove 18446744073709551615]
    attemptAll script l = .ok (([.moved 0 2, .edited 1 .applied],
        some (.indexOutOfRange 18446744073709551615 3)),
        [.ofText .anyChar ".", .ofText .characterClass "[^c]", .ofText .literal "a"]) ∧
      ∃ l', Effect (.move 0 2) l (.moved 0 2) l' ∧ l'.eraseIdx 2 = l.eraseIdx 0 := by
  intro l script
  obtain ⟨hall, -, hone⟩ := scripts_never_fault script l
  have hrun : runAll script l = ([.moved 0 2, .edited 1 .applied],
      [.ofText .anyChar ".", .ofText .characterClass "[^c]", .ofText .literal "a"],
      some (.indexOutOfRange 18446744073709551615 3)) := by decide +kernel
  have hlength : l.length = 3 := by decide +kernel
  have heffect : Effect (.move 0 2) l (.moved 0 2) ((l.eraseIdx 0).insertIdx 2 l[0]) :=
    .move (by omega) (by omega)
  obtain ⟨-, -, hothers⟩ := hone (.move 0 2)
  exact ⟨hall.trans (by rw [hrun]), _, heffect, (hothers _ _).2 heffect⟩

end FieldPattern.Command
