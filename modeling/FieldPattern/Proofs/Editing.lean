import FieldPattern.Session

/-! # What commands do

`Effect c l outcome l'` says that the command `c` turns the token list `l` into `l'` with this
outcome; it has one case for each command, and two for `set`, which may change a token or leave
it as it is.  `apply_eq_ok_iff` says that it is what `apply` computes, so a property of commands
is proved by cases on an effect.

* `mem_of_effect`: a token of the new list was in the old one, was read from a component, or was
  made from a value that its grammar accepts;
* `Session.step_cases`: a step of a session has an effect, or it is refused and changes
  nothing. -/

namespace FieldPattern

/-- A text that leaves a token as it is: a blank one, or the one that is shown already. -/
def Token.Keeps (t : Token) (value : String) : Prop :=
  Text.trimmed value.toList = [] ∨ value = t.display

namespace Command

/-- The command turns the first list into the second one, with this outcome. -/
inductive Effect : Command → TokenList → Outcome → TokenList → Prop
  | append (component : String) (l : TokenList) :
      Effect (.append component) l (.appended (l.add component).1) (l ++ tokens component)
  | remove {l : TokenList} {index : Nat} (h : index < l.length) :
      Effect (.remove index) l (.removed index l[index].value) (l.eraseIdx index)
  | move {l : TokenList} {source target : Nat} (h : source < l.length) :
      target < l.length →
      Effect (.move source target) l (.moved source target)
        ((l.eraseIdx source).insertIdx target l[source])
  | keep {l : TokenList} {index : Nat} {value : String} (h : index < l.length) :
      l[index].Keeps value → Effect (.set index value) l (.edited index .cancelled) l
  | set {l : TokenList} {index : Nat} {value : String} (h : index < l.length) :
      ¬ l[index].Keeps value → l[index].kind.check value = .ok () →
      Effect (.set index value) l (.edited index .applied)
        (l.set index (Token.ofText l[index].kind value))

theorem position_of_lt {l : TokenList} {i : Nat} (h : i < l.length) :
    position l i = .ok ⟨i, h⟩ := dif_pos h

theorem position_of_le {l : TokenList} {i : Nat} (h : l.length ≤ i) :
    position l i = .error (.indexOutOfRange i l.length) := dif_neg (by omega)

section edit
variable {l : TokenList} {i : Nat} {value : String} (hi : i < l.length)

theorem edit_of_keeps (h : l[i].Keeps value) :
    l.edit ⟨i, hi⟩ value = .ok (.cancelled, l) := by
  refine if_pos ?_
  rcases h with h | h
  · simp [h]
  · simp [h]

theorem edit_of_not_keeps (h : ¬ l[i].Keeps value) :
    l.edit ⟨i, hi⟩ value =
      match l[i].kind.check value with
      | .error misfit => .error misfit
      | .ok () => .ok (.applied, l.set i (Token.ofText l[i].kind value)) := by
  rw [← Token.setText_eq]
  refine if_neg ?_
  rw [Bool.or_eq_true, List.isEmpty_iff, beq_iff_eq]
  exact h

end edit

/-- What a command computes is one of its effects. -/
theorem effect_of_apply {c : Command} {l l' : TokenList} {outcome : Outcome}
    (h : c.apply l = .ok (outcome, l')) : Effect c l outcome l' := by
  cases c with
  | append component =>
      cases h
      exact .append component l
  | remove index =>
      by_cases hi : index < l.length
      · rw [apply, position_of_lt hi] at h
        cases h
        exact .remove hi
      · rw [apply, position_of_le (by omega)] at h
        cases h
  | move source target =>
      by_cases hs : source < l.length
      · by_cases ht : target < l.length
        · rw [apply, position_of_lt hs, position_of_lt ht] at h
          cases h
          exact .move hs ht
        · rw [apply, position_of_lt hs, position_of_le (i := target) (by omega)] at h
          cases h
      · rw [apply, position_of_le (i := source) (by omega)] at h
        cases h
  | set index value =>
      by_cases hi : index < l.length
      · rw [apply, position_of_lt hi] at h
        by_cases hk : l[index].Keeps value
        · simp only [bind, Except.bind, edit_of_keeps hi hk] at h
          cases h
          exact .keep hi hk
        · rcases hc : l[index].kind.check value with misfit | ⟨⟩
          · simp only [bind, Except.bind, edit_of_not_keeps hi hk, hc] at h
            cases h
          · simp only [bind, Except.bind, edit_of_not_keeps hi hk, hc] at h
            cases h
            exact .set hi hk hc
      · rw [apply, position_of_le (by omega)] at h
        cases h

/-- Each effect of a command is what the command computes. -/
theorem Effect.apply_eq {c : Command} {l l' : TokenList} {outcome : Outcome}
    (h : Effect c l outcome l') : c.apply l = .ok (outcome, l') := by
  cases h with
  | append component l => rfl
  | remove hi =>
      rw [apply, position_of_lt hi]
      rfl
  | move hs ht =>
      rw [apply, position_of_lt hs, position_of_lt ht]
      rfl
  | keep hi hk =>
      rw [apply, position_of_lt hi]
      simp only [bind, Except.bind, edit_of_keeps hi hk]
      rfl
  | set hi hk hc =>
      rw [apply, position_of_lt hi]
      simp only [bind, Except.bind, edit_of_not_keeps hi hk, hc]
      rfl

theorem apply_eq_ok_iff {c : Command} {l l' : TokenList} {outcome : Outcome} :
    c.apply l = .ok (outcome, l') ↔ Effect c l outcome l' :=
  ⟨effect_of_apply, Effect.apply_eq⟩

/-! ### Where tokens come from -/

/-- No token comes from elsewhere: it was in the list, it was read from a component, or it was
made from a value that is not blank and that its grammar accepts. -/
theorem mem_of_effect {c : Command} {l l' : TokenList} {outcome : Outcome}
    (h : Effect c l outcome l') {t : Token} (ht : t ∈ l') :
    t ∈ l ∨ (∃ component, t ∈ tokens component) ∨
      ∃ k value, t = Token.ofText k value ∧ Text.trimmed value.toList ≠ [] ∧
        k.check value = .ok () := by
  cases h with
  | append component l => exact (List.mem_append.1 ht).imp_right fun hm => .inl ⟨component, hm⟩
  | remove hi => exact .inl (List.mem_of_mem_eraseIdx ht)
  | @move _ source target hs htarget =>
      have hle : target ≤ (l.eraseIdx source).length := by
        rw [List.length_eraseIdx_of_lt hs]
        omega
      rcases (List.mem_insertIdx hle).1 ht with rfl | hm
      · exact .inl (List.getElem_mem hs)
      · exact .inl (List.mem_of_mem_eraseIdx hm)
  | keep hi hk => exact .inl ht
  | set hi hk hc =>
      rcases List.mem_or_eq_of_mem_set ht with hm | rfl
      · exact .inl hm
      · exact .inr (.inr ⟨_, _, rfl, fun he => hk (.inl he), hc⟩)

end Command

namespace Session

/-- A step has an effect on the list and none on the rest of the session, or it is refused and
the session stays as it is. -/
theorem step_cases (c : Command) (s : Session) :
    (∃ outcome l', Command.Effect c s.list outcome l' ∧
        step c s = (.ok outcome, { s with list := l' })) ∨
      ∃ refusal, step c s = (.error refusal, s) := by
  rcases h : c.apply s.list with refusal | ⟨outcome, l'⟩
  · exact .inr ⟨refusal, by simp only [step, Session.run, h, Except.map]⟩
  · exact .inl ⟨outcome, l', Command.apply_eq_ok_iff.1 h,
      by simp only [step, Session.run, h, Except.map]⟩

/-- A listed field can be opened. -/
theorem ofField_of_contains {r : Record} {field : String} (h : r.contains field = true) :
    ofField r field = .ok ⟨field, r.stored field, tokens (r.stored field)⟩ := by
  rw [ofField, Record.pattern?, if_pos h]

end Session

end FieldPattern
