import FieldPattern.Proofs.GrammarLanguage

/-! # The values of the grammars, told outright

The texts of a grammar in closed form (`Written`), with one case for each form of a value.

* `accepts_iff_written`: these are the values that the grammar accepts;
* `Written.shape`: such a text is a symbol, or it stands between two characters that do not occur
  inside;
* `Written.not_within`: therefore none of these texts is part of another one of the same
  grammar. -/

namespace FieldPattern.Grammar

variable {c : Char} {s : List Char} {g : Grammar}

/-! ### Classes of characters -/

theorem isDigit_iff : c.isDigit = true ↔ '0' ≤ c ∧ c ≤ '9' := by
  simp [Char.isDigit, Char.le_def]

theorem isMember_iff :
    isMember c = true ↔
      ('A' ≤ c ∧ c ≤ 'Z') ∨ ('a' ≤ c ∧ c ≤ 'z') ∨ ('0' ≤ c ∧ c ≤ '9') ∨ c = '_' ∨ c = '-' := by
  have halphanum : c.isAlphanum = ((c.isUpper || c.isLower) || c.isDigit) := rfl
  have hupper : c.isUpper = decide ('A' ≤ c ∧ c ≤ 'Z') := rfl
  have hlower : c.isLower = (decide ('a' ≤ c) && decide (c ≤ 'z')) := rfl
  simp [isMember, halphanum, hupper, hlower, isDigit_iff, or_assoc]

theorem isSuffix_iff : isSuffix c = true ↔ c = '*' ∨ c = '+' ∨ c = '?' := by
  simp [isSuffix, or_assoc]

/-! ### The texts outright -/

/-- The texts of a grammar. -/
inductive Written : Grammar → List Char → Prop
  | members {caret body : List Char} : caret = [] ∨ caret = ['^'] → body ≠ [] →
      (∀ c ∈ body, ('A' ≤ c ∧ c ≤ 'Z') ∨ ('a' ≤ c ∧ c ≤ 'z') ∨ ('0' ≤ c ∧ c ≤ '9') ∨
        c = '_' ∨ c = '-') →
      Written characterClass ('[' :: (caret ++ body) ++ [']'])
  | symbol {c : Char} : c = '*' ∨ c = '+' ∨ c = '?' → Written quantifier [c]
  | exactly {m : List Char} : m ≠ [] → (∀ c ∈ m, '0' ≤ c ∧ c ≤ '9') →
      Written quantifier ('{' :: m ++ ['}'])
  | between {m n : List Char} : m ≠ [] → (∀ c ∈ m, '0' ≤ c ∧ c ≤ '9') →
      n ≠ [] → (∀ c ∈ n, '0' ≤ c ∧ c ≤ '9') →
      Written quantifier ('{' :: (m ++ ',' :: n) ++ ['}'])
  | choice {body : List Char} : '(' ∉ body → ')' ∉ body →
      (∃ i, 0 < i ∧ i + 1 < body.length ∧ body[i]? = some '|') →
      Written alternation ('(' :: body ++ [')'])

theorem isCharacterClass_iff_written :
    isCharacterClass s = true ↔ Written characterClass s := by
  rw [isCharacterClass_iff]
  constructor
  · rintro ⟨caret, body, hcaret, hne, hb, rfl⟩
    exact .members hcaret hne fun c hc => isMember_iff.1 (hb c hc)
  · rintro ⟨hcaret, hne, hb⟩
    exact ⟨_, _, hcaret, hne, fun c hc => isMember_iff.2 (hb c hc), rfl⟩

theorem isQuantifier_iff_written : isQuantifier s = true ↔ Written quantifier s := by
  have digits {m : List Char} : (∀ c ∈ m, c.isDigit = true) ↔ ∀ c ∈ m, '0' ≤ c ∧ c ≤ '9' :=
    forall₂_congr fun _ _ => isDigit_iff
  simp only [isQuantifier_iff, digits]
  constructor
  · rintro (⟨c, hc, rfl⟩ | ⟨m, hne, hm, rfl | ⟨n, hne', hn, rfl⟩⟩)
    · exact .symbol (isSuffix_iff.1 hc)
    · exact .exactly hne hm
    · exact .between hne hm hne' hn
  · intro h
    cases h with
    | symbol hc => exact .inl ⟨_, isSuffix_iff.2 hc, rfl⟩
    | exactly hne hm => exact .inr ⟨_, hne, hm, .inl rfl⟩
    | between hne hm hne' hn => exact .inr ⟨_, hne, hm, .inr ⟨_, hne', hn, rfl⟩⟩

/-- A character with something on both sides stands neither first nor last. -/
theorem exists_getElem?_iff {a : Char} :
    (∃ i, 0 < i ∧ i + 1 < s.length ∧ s[i]? = some a) ↔
      ∃ before after, before ≠ [] ∧ after ≠ [] ∧ s = before ++ a :: after := by
  constructor
  · rintro ⟨i, hpos, hlt, he⟩
    obtain ⟨hi, rfl⟩ := List.getElem?_eq_some_iff.1 he
    refine ⟨s.take i, s.drop (i + 1), ?_, ?_, ?_⟩
    · rw [← List.length_pos_iff, List.length_take]
      omega
    · rw [← List.length_pos_iff, List.length_drop]
      omega
    · rw [List.getElem_cons_drop, List.take_append_drop]
  · rintro ⟨before, after, hb, ha, rfl⟩
    have hb := List.length_pos_iff.2 hb
    have ha := List.length_pos_iff.2 ha
    refine ⟨before.length, hb, ?_, by simp⟩
    rw [List.length_append, List.length_cons]
    omega

theorem isAlternation_iff_written : isAlternation s = true ↔ Written alternation s := by
  simp only [isAlternation_iff_body, ← exists_getElem?_iff]
  constructor
  · rintro ⟨body, h₁, h₂, hbar, rfl⟩
    exact .choice h₁ h₂ hbar
  · intro h
    cases h with
    | choice h₁ h₂ hbar => exact ⟨_, h₁, h₂, hbar, rfl⟩

/-- A grammar accepts the texts told outright. -/
theorem accepts_iff_written {value : String} :
    g.accepts value = true ↔ Written g value.toList := by
  cases g with
  | characterClass => exact isCharacterClass_iff_written
  | quantifier => exact isQuantifier_iff_written
  | alternation => exact isAlternation_iff_written

/-! ### Nothing before or after -/

/-- The character at the start of the texts of a grammar, the symbols apart. -/
def start : Grammar → Char
  | characterClass => '['
  | quantifier => '{'
  | alternation => '('

/-- The character at the end of these texts. -/
def stop : Grammar → Char
  | characterClass => ']'
  | quantifier => '}'
  | alternation => ')'

/-- A digit is neither a brace nor a symbol. -/
theorem digit_apart (h : '0' ≤ c ∧ c ≤ '9') : c ≠ '{' ∧ c ≠ '}' ∧ isSuffix c = false := by
  refine ⟨?_, ?_, Bool.eq_false_iff.2 fun hs => ?_⟩
  · rintro rfl
    exact absurd h (by decide)
  · rintro rfl
    exact absurd h (by decide)
  · rcases isSuffix_iff.1 hs with rfl | rfl | rfl <;> exact absurd h (by decide)

/-- A text of a grammar is a symbol, or it stands between two characters that are not inside. -/
theorem Written.shape (h : Written g s) :
    (g = quantifier ∧ ∃ c, isSuffix c = true ∧ s = [c]) ∨
      ∃ body, s = g.start :: body ++ [g.stop] ∧ g.start ∉ body ∧ g.stop ∉ body ∧
        (g = quantifier → ∀ c ∈ body, isSuffix c = false) := by
  cases h with
  | @members caret body hcaret _ hb =>
      have apart {d : Char} (hd : d = '[' ∨ d = ']') : d ∉ caret ++ body := by
        intro hm
        rcases List.mem_append.1 hm with hm | hm
        · rcases hcaret with rfl | rfl <;> rcases hd with rfl | rfl <;> simp at hm
        · rcases hd with rfl | rfl <;> exact absurd (hb _ hm) (by decide)
      exact .inr ⟨caret ++ body, rfl, apart (.inl rfl), apart (.inr rfl), nofun⟩
  | symbol hc => exact .inl ⟨rfl, _, isSuffix_iff.2 hc, rfl⟩
  | @exactly m _ hm =>
      exact .inr ⟨m, rfl, fun h => (digit_apart (hm _ h)).1 rfl,
        fun h => (digit_apart (hm _ h)).2.1 rfl, fun _ c hc => (digit_apart (hm c hc)).2.2⟩
  | @between m n _ hm _ hn =>
      have apart {d : Char} (hd : d ∈ m ++ ',' :: n) :
          d ≠ '{' ∧ d ≠ '}' ∧ isSuffix d = false := by
        rcases List.mem_append.1 hd with hd | hd
        · exact digit_apart (hm d hd)
        · rcases List.mem_cons.1 hd with rfl | hd
          · decide
          · exact digit_apart (hn d hd)
      exact .inr ⟨m ++ ',' :: n, rfl, fun h => (apart h).1 rfl, fun h => (apart h).2.1 rfl,
        fun _ c hc => (apart hc).2.2⟩
  | @choice body h₁ h₂ _ => exact .inr ⟨body, rfl, h₁, h₂, nofun⟩

/-- Between its first and its last character, which are not inside, no text has another one of
this kind. -/
theorem eq_nil_of_enclosed {first last : Char} {inner body before after : List Char}
    (hfirst : first ∉ body ++ [last]) (hlast : last ∉ first :: body)
    (e : before ++ (first :: inner ++ [last]) ++ after = first :: body ++ [last]) :
    before = [] ∧ after = [] := by
  constructor
  · cases before with
    | nil => rfl
    | cons c before =>
        refine absurd ?_ hfirst
        rw [← show before ++ (first :: inner ++ [last]) ++ after = body ++ [last] from
          (List.cons.inj e).2]
        simp
  · rcases List.eq_nil_or_concat after with rfl | ⟨after, c, rfl⟩
    · rfl
    · refine absurd ?_ hlast
      rw [List.concat_eq_append, ← List.append_assoc] at e
      rw [← (List.append_inj' e rfl).1]
      simp

theorem start_ne_stop (g : Grammar) : g.start ≠ g.stop := by cases g <;> decide

/-- No text of a grammar is part of another one. -/
theorem Written.not_within {before after : List Char} (h : Written g s)
    (h' : Written g (before ++ s ++ after)) : before = [] ∧ after = [] := by
  rcases h.shape with ⟨rfl, c, hc, rfl⟩ | ⟨inner, rfl, -⟩
  · rcases h'.shape with ⟨-, d, -, e⟩ | ⟨body, e, -, -, hbody⟩
    · -- Both are symbols, of one character each.
      have := congrArg List.length e
      simp only [List.length_append, List.length_singleton] at this
      exact ⟨List.length_eq_zero_iff.1 (by omega), List.length_eq_zero_iff.1 (by omega)⟩
    · -- A symbol is none of the characters of a counted quantifier.
      have hm : c ∈ '{' :: body ++ ['}'] := by
        rw [← show before ++ [c] ++ after = '{' :: body ++ ['}'] from e]
        simp
      simp only [List.cons_append, List.mem_cons, List.mem_append, List.not_mem_nil, or_false] at hm
      rcases hm with rfl | hm | rfl
      · cases hc
      · rw [hbody rfl c hm] at hc
        cases hc
      · cases hc
  · rcases h'.shape with ⟨-, d, -, e⟩ | ⟨body, e, hstart, hstop, -⟩
    · -- A symbol has no room for two characters.
      have := congrArg List.length e
      simp only [List.length_append, List.length_cons, List.length_nil] at this
      omega
    · refine eq_nil_of_enclosed ?_ ?_ e
      · simpa [hstart] using start_ne_stop g
      · simpa [hstop] using (start_ne_stop g).symm

/-- No text of a grammar ends in a line break. -/
theorem Written.no_line_break (h : Written g (s ++ ['\n'])) : False := by
  rcases h.shape with ⟨-, c, hc, e⟩ | ⟨body, e, -⟩
  · have hlast := congrArg List.getLast? e
    rw [List.getLast?_concat] at hlast
    cases hlast
    cases hc
  · have hlast := congrArg List.getLast? e
    rw [List.getLast?_concat, List.getLast?_concat] at hlast
    cases g <;> cases hlast

end FieldPattern.Grammar
