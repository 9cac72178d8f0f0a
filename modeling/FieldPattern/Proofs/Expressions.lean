import FieldPattern.Proofs.WrittenForms
import Mathlib.Computability.Language

/-! # The grammars as regular expressions

Each grammar is a regular expression, which a value has to match from its first character to its
last.

* `Expression` and `Expression.language`: regular expressions, and the texts that match them;
* `expression`: the regular expression of a grammar;
* `accepts_iff_mem`: the recogniser of a grammar accepts exactly the texts that match.

In the expression of alternations the repeated part may contain the bar that starts it, so that a
text can match in several ways.  All of them come down to one bar with something after it
(`mem_many_bar_iff`).

The main statement is `grammars_exact`, which joins the recogniser, the regular expression, the
closed form of the texts and the check of a kind. -/

namespace FieldPattern

/-- A regular expression. -/
inductive Expression where
  /-- A character with the property. -/
  | one (p : Char → Bool)
  /-- One text after the other. -/
  | seq (first second : Expression)
  /-- A text of one of the two. -/
  | either (left right : Expression)
  /-- A text, or nothing. -/
  | maybe (e : Expression)
  /-- One text or several, one after the other. -/
  | many (e : Expression)

namespace Expression

open scoped Computability

/-- This character. -/
def char (c : Char) : Expression := one (· == c)

/-- A character of one of the ranges. -/
def within (ranges : List (Char × Char)) : Expression :=
  one fun c => ranges.any fun r => decide (r.1 ≤ c) && decide (c ≤ r.2)

/-- A character other than these. -/
def outside (others : List Char) : Expression := one fun c => !others.contains c

/-- A text between two characters. -/
def enclosed (start stop : Char) (e : Expression) : Expression :=
  (char start).seq (e.seq (char stop))

/-- The texts that match the expression. -/
def language : Expression → Language Char
  | one p => {s | ∃ c, p c = true ∧ s = [c]}
  | seq first second => first.language * second.language
  | either left right => left.language + right.language
  | maybe e => 1 + e.language
  | many e => e.language * e.language∗

variable {e f : Expression} {p : Char → Bool} {s : List Char}

theorem mem_one : s ∈ (one p).language ↔ ∃ c, p c = true ∧ s = [c] := Iff.rfl

theorem mem_char {c : Char} : s ∈ (char c).language ↔ s = [c] := by
  simp [char, mem_one]

theorem mem_seq :
    s ∈ (seq e f).language ↔ ∃ a b, a ∈ e.language ∧ b ∈ f.language ∧ s = a ++ b := by
  rw [language, Language.mem_mul]
  constructor
  · rintro ⟨a, ha, b, hb, rfl⟩
    exact ⟨a, b, ha, hb, rfl⟩
  · rintro ⟨a, b, ha, hb, rfl⟩
    exact ⟨a, ha, b, hb, rfl⟩

theorem mem_char_seq {c : Char} :
    s ∈ ((char c).seq e).language ↔ ∃ a, a ∈ e.language ∧ s = c :: a := by
  simp [mem_seq, mem_char]

theorem mem_enclosed {start stop : Char} :
    s ∈ (enclosed start stop e).language ↔
      ∃ body, body ∈ e.language ∧ s = start :: body ++ [stop] := by
  rw [enclosed, mem_char_seq]
  constructor
  · rintro ⟨_, h, rfl⟩
    obtain ⟨body, last, hb, hlast, rfl⟩ := mem_seq.1 h
    rw [mem_char.1 hlast]
    exact ⟨body, hb, rfl⟩
  · rintro ⟨body, hb, rfl⟩
    exact ⟨body ++ [stop], mem_seq.2 ⟨body, [stop], hb, mem_char.2 rfl, rfl⟩, rfl⟩

theorem mem_either : s ∈ (either e f).language ↔ s ∈ e.language ∨ s ∈ f.language := Iff.rfl

theorem mem_maybe : s ∈ (maybe e).language ↔ s = [] ∨ s ∈ e.language := Iff.rfl

theorem mem_many :
    s ∈ (many e).language ↔
      ∃ (a : List Char) (parts : List (List Char)),
        a ∈ e.language ∧ (∀ b ∈ parts, b ∈ e.language) ∧ s = a ++ parts.flatten := by
  rw [language, Language.mem_mul]
  constructor
  · rintro ⟨a, ha, b, hb, rfl⟩
    obtain ⟨parts, rfl, hparts⟩ := Language.mem_kstar.1 hb
    exact ⟨a, parts, ha, hparts, rfl⟩
  · rintro ⟨a, parts, ha, hparts, rfl⟩
    exact ⟨a, ha, parts.flatten, Language.join_mem_kstar hparts, rfl⟩

/-- Several characters with the property. -/
theorem mem_many_one : s ∈ (many (one p)).language ↔ s ≠ [] ∧ ∀ c ∈ s, p c = true := by
  rw [mem_many]
  constructor
  · rintro ⟨_, parts, ⟨c, hc, rfl⟩, hparts, rfl⟩
    refine ⟨by simp, fun d hd => ?_⟩
    rw [List.singleton_append, List.mem_cons, List.mem_flatten] at hd
    rcases hd with rfl | ⟨part, hpart, hd⟩
    · exact hc
    · obtain ⟨d', hd', rfl⟩ := hparts part hpart
      rw [List.mem_singleton.1 hd]
      exact hd'
  · rintro ⟨hne, hs⟩
    obtain ⟨c, rest, rfl⟩ := List.exists_cons_of_ne_nil hne
    refine ⟨[c], rest.map fun d => [d], ⟨c, hs c (by simp), rfl⟩, ?_, ?_⟩
    · intro part hpart
      obtain ⟨d, hd, rfl⟩ := List.mem_map.1 hpart
      exact ⟨d, hs d (by simp [hd]), rfl⟩
    · simp [← List.flatMap_def]

/-- Where the bar is itself one of the characters after it, a repetition of bars with something
after them is one bar with something after it. -/
theorem mem_many_bar_iff {bar : Char}
    (he : ∀ b, b ∈ e.language ↔ b ≠ [] ∧ ∀ c ∈ b, p c = true) (hbar : p bar = true) :
    s ∈ (many ((char bar).seq e)).language ↔
      ∃ b, (b ≠ [] ∧ ∀ c ∈ b, p c = true) ∧ s = bar :: b := by
  simp only [mem_many, mem_char_seq, he]
  constructor
  · rintro ⟨_, parts, ⟨b, ⟨hne, hb⟩, rfl⟩, hparts, rfl⟩
    refine ⟨b ++ parts.flatten, ⟨by simp [hne], fun c hc => ?_⟩, rfl⟩
    rcases List.mem_append.1 hc with hc | hc
    · exact hb c hc
    · obtain ⟨part, hm, hc⟩ := List.mem_flatten.1 hc
      obtain ⟨b', ⟨-, hb'⟩, rfl⟩ := hparts part hm
      rcases List.mem_cons.1 hc with rfl | hc
      · exact hbar
      · exact hb' c hc
  · rintro ⟨b, hb, rfl⟩
    exact ⟨bar :: b, [], ⟨b, hb, rfl⟩, by simp, by simp⟩

end Expression

namespace Grammar

open Expression (char within outside maybe many enclosed mem_char mem_seq mem_either mem_maybe
  mem_enclosed)

/-! ### The three expressions -/

/-- A letter, a digit, `_` or `-`. -/
def memberClass : Expression := within [('A', 'Z'), ('a', 'z'), ('0', '9'), ('_', '_'), ('-', '-')]

/-- A digit. -/
def digitClass : Expression := within [('0', '9')]

/-- A character that is no parenthesis. -/
def innerClass : Expression := outside ['(', ')']

/-- One of the symbols `*`, `+` and `?`. -/
def symbolClass : Expression := within [('*', '*'), ('+', '+'), ('?', '?')]

/-- The regular expression of a grammar. -/
def expression : Grammar → Expression
  | characterClass => enclosed '[' ']' ((maybe (char '^')).seq (many memberClass))
  | quantifier =>
      (enclosed '{' '}' ((many digitClass).seq (maybe ((char ',').seq (many digitClass))))).either
        symbolClass
  | alternation =>
      enclosed '(' ')' ((many innerClass).seq (many ((char '|').seq (many innerClass))))

/-! ### Classes of characters -/

variable {c : Char} {s : List Char} {g : Grammar}

/-- A range of one character. -/
theorem le_and_le_iff_eq {a : Char} : a ≤ c ∧ c ≤ a ↔ c = a :=
  ⟨fun h => Char.le_antisymm h.2 h.1, fun h => h ▸ ⟨Char.le_refl c, Char.le_refl c⟩⟩

theorem mem_many_memberClass :
    s ∈ (many memberClass).language ↔ s ≠ [] ∧ ∀ c ∈ s, isMember c = true := by
  simp [memberClass, within, Expression.mem_many_one, isMember_iff, le_and_le_iff_eq]

theorem mem_many_digitClass :
    s ∈ (many digitClass).language ↔ s ≠ [] ∧ ∀ c ∈ s, c.isDigit = true := by
  simp [digitClass, within, Expression.mem_many_one, isDigit_iff]

theorem mem_symbolClass :
    s ∈ symbolClass.language ↔ ∃ c, isSuffix c = true ∧ s = [c] := by
  simp [symbolClass, within, Expression.mem_one, isSuffix_iff, le_and_le_iff_eq]

theorem mem_many_innerClass :
    s ∈ (many innerClass).language ↔ s ≠ [] ∧ ∀ c ∈ s, isInner c = true := by
  simp [innerClass, outside, isInner, Expression.mem_many_one]

/-! ### Recognisers and expressions -/

theorem isCharacterClass_iff_mem :
    isCharacterClass s = true ↔ s ∈ characterClass.expression.language := by
  simp only [expression, mem_enclosed, mem_seq, mem_maybe, mem_char, mem_many_memberClass,
    isCharacterClass_iff]
  constructor
  · rintro ⟨caret, body, hcaret, hne, hb, rfl⟩
    exact ⟨caret ++ body, ⟨caret, body, hcaret, ⟨hne, hb⟩, rfl⟩, rfl⟩
  · rintro ⟨_, ⟨caret, body, hcaret, ⟨hne, hb⟩, rfl⟩, rfl⟩
    exact ⟨caret, body, hcaret, hne, hb, rfl⟩

theorem isQuantifier_iff_mem :
    isQuantifier s = true ↔ s ∈ quantifier.expression.language := by
  simp only [expression, mem_either, mem_enclosed, mem_seq, mem_maybe, mem_char,
    mem_many_digitClass, mem_symbolClass, isQuantifier_iff]
  rw [or_comm]
  refine or_congr ⟨?_, ?_⟩ Iff.rfl
  · rintro ⟨m, hm, hd, rfl | ⟨n, hn, hd', rfl⟩⟩
    · exact ⟨m, ⟨m, [], ⟨hm, hd⟩, .inl rfl, by simp⟩, rfl⟩
    · exact ⟨m ++ ',' :: n, ⟨m, _, ⟨hm, hd⟩, .inr ⟨_, n, rfl, ⟨hn, hd'⟩, rfl⟩, rfl⟩, by simp⟩
  · rintro ⟨_, ⟨m, _, ⟨hm, hd⟩, rfl | ⟨_, n, rfl, ⟨hn, hd'⟩, rfl⟩, rfl⟩, rfl⟩
    · exact ⟨m, hm, hd, .inl (by simp)⟩
    · exact ⟨m, hm, hd, .inr ⟨n, hn, hd', by simp⟩⟩

theorem isAlternation_iff_mem :
    isAlternation s = true ↔ s ∈ alternation.expression.language := by
  simp only [expression, mem_enclosed, mem_seq, mem_many_innerClass,
    Expression.mem_many_bar_iff (fun _ => mem_many_innerClass) (rfl : isInner '|' = true),
    isAlternation_iff]
  constructor
  · rintro ⟨a, b, ha, hai, hb, hbi, rfl⟩
    exact ⟨a ++ '|' :: b, ⟨a, _, ⟨ha, hai⟩, ⟨b, ⟨hb, hbi⟩, rfl⟩, rfl⟩, by simp⟩
  · rintro ⟨_, ⟨a, _, ⟨ha, hai⟩, ⟨b, ⟨hb, hbi⟩, rfl⟩, rfl⟩, rfl⟩
    exact ⟨a, b, ha, hai, hb, hbi, by simp⟩

/-- A grammar accepts the values that match its expression. -/
theorem accepts_iff_mem {value : String} :
    g.accepts value = true ↔ value.toList ∈ g.expression.language := by
  cases g with
  | characterClass => exact isCharacterClass_iff_mem
  | quantifier => exact isQuantifier_iff_mem
  | alternation => exact isAlternation_iff_mem

/-! ### Languages and checks -/

/-- **The languages of the grammars.**  A value is accepted when it matches the regular expression
of the grammar from its first character to its last, and the texts that do so are those of
`Written`.  Nothing can stand before or after such a text, and no text is accepted with a line
break at its end.  The check of a kind passes for the kinds without a grammar and for the values
that the grammar accepts; otherwise its error tells the kind and the value. -/
theorem grammars_exact (g : Grammar) (k : Kind) (value : String) :
    (g.accepts value = true ↔ value.toList ∈ g.expression.language) ∧
      (g.accepts value = true ↔ Written g value.toList) ∧
      (∀ before after, g.accepts value = true → before ≠ "" ∨ after ≠ "" →
        g.accepts (before ++ value ++ after) = false) ∧
      g.accepts (value ++ "\n") = false ∧
      (k.check value = .ok () ↔
        (k = .escape ∨ k = .literal ∨ k = .anyChar) ∨
          ∃ g' : Grammar, g'.kind = k ∧ g'.accepts value = true) ∧
      (k.check value ≠ .ok () →
        ∃ misfit, k.check value = .error misfit ∧ misfit.grammar.kind = k ∧
          misfit.value = value) := by
  refine ⟨accepts_iff_mem, accepts_iff_written, fun before after h hne => ?_, ?_, check_passes_iff,
    check_refuses⟩
  · refine Bool.eq_false_iff.2 fun h' => ?_
    rw [accepts_iff_written] at h
    rw [accepts_iff_written, String.toList_append, String.toList_append] at h'
    obtain ⟨hb, ha⟩ := h.not_within h'
    rcases hne with hne | hne
    · exact hne (String.toList_eq_nil_iff.1 hb)
    · exact hne (String.toList_eq_nil_iff.1 ha)
  · refine Bool.eq_false_iff.2 fun h => ?_
    rw [accepts_iff_written, String.toList_append] at h
    exact h.no_line_break

/-- A range with text on either side, and a class with a dot. -/
theorem grammars_exact_range :
    quantifier.accepts "\x7b1,5\x7d" = true ∧ "\x7b2\x7d" ≠ "" ∧
      quantifier.accepts ("\x7b2\x7d" ++ "\x7b1,5\x7d" ++ "") = false ∧
      Kind.characterClass.check "[a.z]" ≠ .ok () ∧
      ∃ misfit, Kind.characterClass.check "[a.z]" = .error misfit ∧
        misfit.grammar.kind = .characterClass ∧ misfit.value = "[a.z]" := by
  have h : quantifier.accepts "\x7b1,5\x7d" = true := rfl
  have hne : "\x7b2\x7d" ≠ "" := by decide
  have hcheck : Kind.characterClass.check "[a.z]" ≠ .ok () := by decide
  obtain ⟨-, -, within, -⟩ := grammars_exact quantifier .quantifier "\x7b1,5\x7d"
  obtain ⟨-, -, -, -, -, refused⟩ := grammars_exact characterClass .characterClass "[a.z]"
  exact ⟨h, hne, within _ _ h (.inl hne), hcheck, refused hcheck⟩

end Grammar

end FieldPattern
