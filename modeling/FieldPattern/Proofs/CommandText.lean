import FieldPattern.Command
import FieldPattern.Proofs.Numerals
import FieldPattern.Proofs.Trimming

/-! # The language of commands

* `Written s indices c` says that the text `s` is the command `c`, and how its indices are written;
  it has one case for each command.
* `Faulty s e` says that the text `s` is no command, and why; it has one case for each thing that may
  be wrong.

Every text is one or the other (`written_or_faulty`), and `read` tells which
(`read_eq_ok_iff`, `read_eq_error_iff`).

A text is cut at the first of a separator (`exists_cut`), so what comes before is free of it, and
what comes after may hold it again.  A text can be cut in this manner in one way only (`cut_inj`).

The main statement is `command_language`. -/

namespace FieldPattern.Command

open Text (isBlank trimmed)
open Text.Numeral (IsNumeral)

/-! ### Cuts -/

section cuts
variable {c : Char} {before before' after after' : List Char}

theorem splitAt?_append (h : c ∉ before) :
    splitAt? c (before ++ c :: after) = some (before, after) := by
  induction before with
  | nil => simp [splitAt?]
  | cons d before ih =>
      rw [List.mem_cons, not_or] at h
      rw [List.cons_append, splitAt?, if_neg (Ne.symm h.1), ih h.2]
      rfl

theorem splitAt?_of_not_mem {s : List Char} (h : c ∉ s) : splitAt? c s = none := by
  induction s with
  | nil => rfl
  | cons d s ih =>
      rw [List.mem_cons, not_or] at h
      rw [splitAt?, if_neg (Ne.symm h.1), ih h.2]
      rfl

theorem append_cons_inj (h : c ∉ before) (h' : c ∉ before') :
    before ++ c :: after = before' ++ c :: after' ↔ before = before' ∧ after = after' := by
  constructor
  · intro e
    have hcut := congrArg (splitAt? c) e
    rw [splitAt?_append h, splitAt?_append h'] at hcut
    exact Prod.mk.inj (Option.some.inj hcut)
  · rintro ⟨rfl, rfl⟩
    rfl

theorem cut_inj {before before' after after' : String} (h : c ∉ before.toList)
    (h' : c ∉ before'.toList) :
    before ++ String.singleton c ++ after = before' ++ String.singleton c ++ after' ↔
      before = before' ∧ after = after' := by
  have e (a b : String) : (a ++ String.singleton c ++ b).toList = a.toList ++ c :: b.toList := by
    simp
  rw [← String.toList_inj, e, e, append_cons_inj h h', String.toList_inj, String.toList_inj]

theorem append_append_append (a b d e : String) : a ++ b ++ d ++ e = a ++ (b ++ d ++ e) := by
  simp only [String.append_assoc]

theorem singleton_colon : ":" = String.singleton ':' := rfl

theorem singleton_equals : "=" = String.singleton '=' := rfl

/-- A text is cut at the first of its separators. -/
theorem exists_cut {s : String} (h : c ∈ s.toList) :
    ∃ before after : String, s = before ++ String.singleton c ++ after ∧ c ∉ before.toList := by
  obtain ⟨before, after, e, hbefore⟩ := List.eq_append_cons_of_mem h
  refine ⟨String.ofList before, String.ofList after, ?_, by rwa [String.toList_ofList]⟩
  rw [← String.toList_inj, e]
  simp

end cuts

/-! ### Indices -/

/-- The text is the index: its numeral, which may have blanks around it, and not too large. -/
inductive IsIndex : String → Nat → Prop
  | intro {text : String} {before numeral after : List Char} {n : Nat} :
      text.toList = before ++ numeral ++ after → (∀ c ∈ before, isBlank c = true) →
      (∀ c ∈ after, isBlank c = true) → IsNumeral numeral n → n < 2 ^ 64 → IsIndex text n

variable {text I J s : String} {n i j : Nat}

theorem isIndex_iff :
    IsIndex text n ↔ IsNumeral (trimmed text.toList) n ∧ n < 2 ^ 64 := by
  constructor
  · rintro ⟨e, hbefore, hafter, hnumeral, hn⟩
    have hends := hnumeral.no_blank
    have htrimmed := Text.trimmed_eq_iff.2 ⟨⟨_, _, e, hbefore, hafter⟩,
      fun c hc => hends c (List.mem_of_head? hc), fun c hc => hends c (List.mem_of_getLast? hc)⟩
    rw [htrimmed]
    exact ⟨hnumeral, hn⟩
  · rintro ⟨hnumeral, hn⟩
    obtain ⟨⟨before, after, e, hbefore, hafter⟩, -⟩ := Text.trimmed_eq_iff.1 rfl
    exact .intro e hbefore hafter hnumeral hn

theorem readIndex_of_isIndex (name : Name) (h : IsIndex text n) :
    readIndex name text.toList = .ok n := by
  rw [readIndex, Text.Numeral.read_eq_ok_iff.2 (isIndex_iff.1 h)]

theorem readIndex_of_not_isIndex (name : Name) (h : ∀ n, ¬ IsIndex text n) :
    readIndex name text.toList = .error (.malformed name (.notAnIndex text)) := by
  rw [readIndex]
  cases hread : Text.Numeral.read (trimmed text.toList) with
  | ok n => exact absurd (isIndex_iff.2 (Text.Numeral.read_eq_ok_iff.1 hread)) (h n)
  | error fault => rw [String.ofList_toList]

/-! ### Commands -/

/-- The text is the command, and its indices are written like this. -/
inductive Written : String → List String → Command → Prop
  | append {component : String} :
      component ≠ "" → Written ("append:" ++ component) [] (.append component)
  | remove {I : String} {i : Nat} : IsIndex I i → Written ("remove:" ++ I) [I] (.remove i)
  | move {I J : String} {i j : Nat} : ':' ∉ I.toList → IsIndex I i → IsIndex J j →
      Written ("move:" ++ I ++ ":" ++ J) [I, J] (.move i j)
  | set {I : String} {i : Nat} (value : String) : '=' ∉ I.toList → IsIndex I i →
      Written ("set:" ++ I ++ "=" ++ value) [I] (.set i value)

/-- The text is no command, for this reason. -/
inductive Faulty : String → ReadError → Prop
  | noColon {s : String} : ':' ∉ s.toList → Faulty s (.unknown s)
  | noName {before : String} (argument : String) : ':' ∉ before.toList →
      before ∉ ["append", "remove", "move", "set"] →
      Faulty (before ++ ":" ++ argument) (.unknown (before ++ ":" ++ argument))
  | noComponent : Faulty "append:" (.malformed .append .missingComponent)
  | remove {I : String} : (∀ i, ¬ IsIndex I i) →
      Faulty ("remove:" ++ I) (.malformed .remove (.notAnIndex I))
  | noTarget {argument : String} : ':' ∉ argument.toList →
      Faulty ("move:" ++ argument) (.malformed .move .missingTarget)
  | source {I : String} (J : String) : ':' ∉ I.toList → (∀ i, ¬ IsIndex I i) →
      Faulty ("move:" ++ I ++ ":" ++ J) (.malformed .move (.notAnIndex I))
  | target {I J : String} {i : Nat} : ':' ∉ I.toList → IsIndex I i → (∀ j, ¬ IsIndex J j) →
      Faulty ("move:" ++ I ++ ":" ++ J) (.malformed .move (.notAnIndex J))
  | noValue {argument : String} : '=' ∉ argument.toList →
      Faulty ("set:" ++ argument) (.malformed .set .missingValue)
  | index {I : String} (value : String) : '=' ∉ I.toList → (∀ i, ¬ IsIndex I i) →
      Faulty ("set:" ++ I ++ "=" ++ value) (.malformed .set (.notAnIndex I))

theorem not_mem_name (name : Name) : ':' ∉ name.text.toList := by cases name <;> decide

theorem ofText?_eq_none {text : String} (h : text ∉ ["append", "remove", "move", "set"]) :
    Name.ofText? text = none := by
  rw [Name.ofText?, List.find?_eq_none]
  rintro name - e
  rw [beq_iff_eq] at e
  refine h (e ▸ ?_)
  cases name <;> decide

section name
variable {before : String} (argument : String) (h : ':' ∉ before.toList)
include h

theorem read_unnamed (hname : Name.ofText? before = none) :
    read (before ++ ":" ++ argument) = .error (.unknown (before ++ ":" ++ argument)) := by
  have e : (before ++ ":" ++ argument).toList = before.toList ++ ':' :: argument.toList := by simp
  simp only [read, e, splitAt?_append h, String.ofList_toList, hname]

theorem read_of_ofText? {name : Name} (hname : Name.ofText? before = some name) :
    read (before ++ ":" ++ argument) = readArgument name argument.toList := by
  have e : (before ++ ":" ++ argument).toList = before.toList ++ ':' :: argument.toList := by simp
  simp only [read, e, splitAt?_append h, String.ofList_toList, hname]

end name

theorem ofText?_text (name : Name) : Name.ofText? name.text = some name := by
  cases name <;> decide

theorem read_named (name : Name) (argument : String) :
    read (name.text ++ ":" ++ argument) = readArgument name argument.toList :=
  read_of_ofText? argument (not_mem_name name) (ofText?_text name)

theorem read_append (component : String) :
    read ("append:" ++ component) = readArgument .append component.toList :=
  read_named .append component

theorem read_remove (I : String) :
    read ("remove:" ++ I) = (readIndex .remove I.toList).map Command.remove := by
  refine (read_named .remove I).trans ?_
  rw [readArgument]
  cases readIndex .remove I.toList <;> rfl

theorem read_move_argument (argument : String) :
    read ("move:" ++ argument) = readArgument .move argument.toList := read_named .move argument

theorem read_move (J : String) (h : ':' ∉ I.toList) : read ("move:" ++ I ++ ":" ++ J) =
    (do return .move (← readIndex .move I.toList) (← readIndex .move J.toList)) := by
  have e : (I ++ ":" ++ J).toList = I.toList ++ ':' :: J.toList := by simp
  rw [append_append_append, read_move_argument, readArgument, e, splitAt?_append h]

theorem read_set_argument (argument : String) :
    read ("set:" ++ argument) = readArgument .set argument.toList := read_named .set argument

theorem read_set (value : String) (h : '=' ∉ I.toList) : read ("set:" ++ I ++ "=" ++ value) =
    (do return .set (← readIndex .set I.toList) value) := by
  have e : (I ++ "=" ++ value).toList = I.toList ++ '=' :: value.toList := by simp
  rw [append_append_append, read_set_argument]
  simp only [readArgument, e, splitAt?_append h, String.ofList_toList]

theorem Written.read_eq {indices : List String} {c : Command} (h : Written s indices c) :
    read s = .ok c := by
  cases h with
  | @append component hne =>
      have hnil : component.toList ≠ [] := by simpa [String.toList_eq_nil_iff] using hne
      rw [read_append, readArgument, if_neg (by simpa using hnil), String.ofList_toList]
  | remove hi =>
      rw [read_remove, readIndex_of_isIndex _ hi]
      rfl
  | move hcut hi hj =>
      rw [read_move _ hcut, readIndex_of_isIndex _ hi, readIndex_of_isIndex _ hj]
      rfl
  | set value hcut hi =>
      rw [read_set _ hcut, readIndex_of_isIndex _ hi]
      rfl

theorem Faulty.read_eq {e : ReadError} (h : Faulty s e) : read s = .error e := by
  cases h with
  | noColon h => rw [read, splitAt?_of_not_mem h]
  | noName argument h hname => exact read_unnamed argument h (ofText?_eq_none hname)
  | noComponent => rfl
  | remove hi =>
      rw [read_remove, readIndex_of_not_isIndex _ hi]
      rfl
  | noTarget h => rw [read_move_argument, readArgument, splitAt?_of_not_mem h]
  | source J hcut hi =>
      rw [read_move _ hcut, readIndex_of_not_isIndex _ hi]
      rfl
  | target hcut hi hj =>
      rw [read_move _ hcut, readIndex_of_isIndex _ hi, readIndex_of_not_isIndex _ hj]
      rfl
  | noValue h => rw [read_set_argument, readArgument, splitAt?_of_not_mem h]
  | index value hcut hi =>
      rw [read_set _ hcut, readIndex_of_not_isIndex _ hi]
      rfl

/-! ### Every text is one or the other -/

theorem append_cases (argument : String) :
    (∃ indices c, Written ("append:" ++ argument) indices c) ∨
      ∃ e, Faulty ("append:" ++ argument) e := by
  by_cases hne : argument = ""
  · rw [hne, String.append_empty]
    exact .inr ⟨_, .noComponent⟩
  · exact .inl ⟨_, _, .append hne⟩

theorem remove_cases (argument : String) :
    (∃ indices c, Written ("remove:" ++ argument) indices c) ∨
      ∃ e, Faulty ("remove:" ++ argument) e := by
  by_cases hi : ∃ i, IsIndex argument i
  · obtain ⟨i, hi⟩ := hi
    exact .inl ⟨_, _, .remove hi⟩
  · exact .inr ⟨_, .remove (not_exists.1 hi)⟩

theorem move_cases (argument : String) :
    (∃ indices c, Written ("move:" ++ argument) indices c) ∨
      ∃ e, Faulty ("move:" ++ argument) e := by
  by_cases hcolon : ':' ∈ argument.toList
  · obtain ⟨I, J, hargument, hcut⟩ := exists_cut hcolon
    have e : "move:" ++ argument = "move:" ++ I ++ ":" ++ J := by
      rw [append_append_append, hargument, singleton_colon]
    rw [e]
    by_cases hi : ∃ i, IsIndex I i
    · obtain ⟨i, hi⟩ := hi
      by_cases hj : ∃ j, IsIndex J j
      · obtain ⟨j, hj⟩ := hj
        exact .inl ⟨_, _, .move hcut hi hj⟩
      · exact .inr ⟨_, .target hcut hi (not_exists.1 hj)⟩
    · exact .inr ⟨_, .source J hcut (not_exists.1 hi)⟩
  · exact .inr ⟨_, .noTarget hcolon⟩

theorem set_cases (argument : String) :
    (∃ indices c, Written ("set:" ++ argument) indices c) ∨
      ∃ e, Faulty ("set:" ++ argument) e := by
  by_cases hequals : '=' ∈ argument.toList
  · obtain ⟨I, value, hargument, hcut⟩ := exists_cut hequals
    have e : "set:" ++ argument = "set:" ++ I ++ "=" ++ value := by
      rw [append_append_append, hargument, singleton_equals]
    rw [e]
    by_cases hi : ∃ i, IsIndex I i
    · obtain ⟨i, hi⟩ := hi
      exact .inl ⟨_, _, .set value hcut hi⟩
    · exact .inr ⟨_, .index value hcut (not_exists.1 hi)⟩
  · exact .inr ⟨_, .noValue hequals⟩

theorem written_or_faulty (s : String) :
    (∃ indices c, Written s indices c) ∨ ∃ e, Faulty s e := by
  by_cases hcolon : ':' ∈ s.toList
  · obtain ⟨before, argument, rfl, hbefore⟩ := exists_cut hcolon
    by_cases hname : before ∈ ["append", "remove", "move", "set"]
    · simp only [List.mem_cons, List.not_mem_nil, or_false] at hname
      rcases hname with rfl | rfl | rfl | rfl
      · exact append_cases argument
      · exact remove_cases argument
      · exact move_cases argument
      · exact set_cases argument
    · exact .inr ⟨_, .noName argument hbefore hname⟩
  · exact .inr ⟨_, .noColon hcolon⟩

theorem read_eq_ok_iff {c : Command} : read s = .ok c ↔ ∃ indices, Written s indices c := by
  refine ⟨fun h => ?_, fun ⟨_, hw⟩ => hw.read_eq⟩
  rcases written_or_faulty s with ⟨indices, c', hw⟩ | ⟨e, hf⟩
  · obtain rfl := Except.ok.inj (hw.read_eq.symm.trans h)
    exact ⟨indices, hw⟩
  · cases hf.read_eq.symm.trans h

theorem read_eq_error_iff {e : ReadError} : read s = .error e ↔ Faulty s e := by
  refine ⟨fun h => ?_, Faulty.read_eq⟩
  rcases written_or_faulty s with ⟨indices, c, hw⟩ | ⟨e', hf⟩
  · cases hw.read_eq.symm.trans h
  · obtain rfl := Except.error.inj (hf.read_eq.symm.trans h)
    exact hf

/-- No name of a command stands before the first colon. -/
def Nameless (s : String) : Prop :=
  ':' ∉ s.toList ∨ ∃ before argument, s = before ++ ":" ++ argument ∧ ':' ∉ before.toList ∧
    before ∉ ["append", "remove", "move", "set"]

theorem faulty_unknown_iff {t : String} : Faulty s (.unknown t) ↔ t = s ∧ Nameless s := by
  constructor
  · intro h
    cases h with
    | noColon h => exact ⟨rfl, .inl h⟩
    | noName argument h hname => exact ⟨rfl, .inr ⟨_, argument, rfl, h, hname⟩⟩
  · rintro ⟨rfl, h | ⟨before, argument, rfl, h, hname⟩⟩
    · exact .noColon h
    · exact .noName argument h hname

/-- What is malformed starts with the name of a command. -/
theorem Faulty.named {name : Name} {defect : Defect} (h : Faulty s (.malformed name defect)) :
    ∃ argument, s = name.text ++ ":" ++ argument := by
  cases h with
  | noComponent => exact ⟨"", rfl⟩
  | @remove I _ => exact ⟨I, rfl⟩
  | @noTarget argument _ | @noValue argument _ => exact ⟨argument, rfl⟩
  | @source I J _ _ | @target I J _ _ _ _ => exact ⟨I ++ ":" ++ J, append_append_append ..⟩
  | @index I value _ _ => exact ⟨I ++ "=" ++ value, append_append_append ..⟩

theorem not_nameless (name : Name) (argument : String) :
    ¬ Nameless (name.text ++ ":" ++ argument) := by
  rintro (h | ⟨before, argument', e, h, hname⟩)
  · simp at h
  · obtain ⟨rfl, -⟩ := (cut_inj (not_mem_name name) h).1 e
    revert hname
    cases name <;> decide

theorem name_of_text_eq {name name' : Name} (h : name.text = name'.text) : name = name' := by
  revert h
  cases name <;> cases name' <;> decide

theorem malformed_iff (name : Name) : (∃ defect, read s = .error (.malformed name defect)) ↔
    (∃ argument, s = name.text ++ ":" ++ argument) ∧ ∀ indices c, ¬ Written s indices c := by
  constructor
  · rintro ⟨defect, h⟩
    refine ⟨(read_eq_error_iff.1 h).named, fun indices c hw => ?_⟩
    cases hw.read_eq.symm.trans h
  · rintro ⟨⟨argument, rfl⟩, hnot⟩
    rcases written_or_faulty (name.text ++ ":" ++ argument) with ⟨indices, c, hw⟩ | ⟨e, hf⟩
    · exact absurd hw (hnot indices c)
    · cases e with
      | unknown t => exact absurd (faulty_unknown_iff.1 hf).2 (not_nameless name argument)
      | malformed name' defect =>
          obtain ⟨argument', e⟩ := hf.named
          have htext := ((cut_inj (not_mem_name name) (not_mem_name name')).1 e).1
          exact ⟨defect, name_of_text_eq htext ▸ hf.read_eq⟩

/-- **The language of commands.**  A text is read as a command if it is written as `Written` says, and
as no command otherwise; what is wrong with it is what `Faulty` says.  It is unknown if it does not
start with the name of a command and a colon, and malformed under this name if it does. -/
theorem command_language (s : String) :
    (∀ c, read s = .ok c ↔ ∃ indices, Written s indices c) ∧
      (∀ e, read s = .error e ↔ Faulty s e) ∧
      (∀ t, read s = .error (.unknown t) ↔ t = s ∧ Nameless s) ∧
      ∀ name, (∃ defect, read s = .error (.malformed name defect)) ↔
        (∃ argument, s = name.text ++ ":" ++ argument) ∧ ∀ indices c, ¬ Written s indices c :=
  ⟨fun _ => read_eq_ok_iff, fun _ => read_eq_error_iff,
    fun _ => read_eq_error_iff.trans faulty_unknown_iff, malformed_iff⟩

example : read "move: 01 :+2" = .ok (.move 1 2) := rfl

example : read "remove:18446744073709551616" =
    .error (.malformed .remove (.notAnIndex "18446744073709551616")) := rfl

end FieldPattern.Command
