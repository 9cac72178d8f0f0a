import FieldPattern.Grammar

/-! # The languages of the grammars

What the recognisers of the three grammars accept, as sets of texts:

* `isCharacterClass_iff`: a bracket, an optional `^`, at least one member, a bracket;
* `isQuantifier_iff`: one symbol, or one or two numbers in braces;
* `isAlternation_iff`: parentheses around a text without parentheses in which some `|` is neither
  first nor last.

All three end in characters of one class before a closing character (`closes_iff`).  A value passes
the check of a kind when it is accepted by the grammar of that kind, if there is one
(`check_eq_ok_iff`). -/

namespace FieldPattern.Grammar

variable {p : Char → Bool} {close : Char} {s : List Char}

theorem closes_iff :
    closes p close s = true ↔ ∃ body, (∀ c ∈ body, p c = true) ∧ s = body ++ [close] := by
  induction s using closes.induct with
  | case1 => simp [closes]
  | case2 c =>
      constructor
      · intro h
        exact ⟨[], by simp, by simpa [closes] using h⟩
      · rintro ⟨body, -, e⟩
        have := congrArg List.getLast? e
        simpa [closes] using this
  | case3 c rest hne ih =>
      rw [closes.eq_3 _ _ _ _ hne, Bool.and_eq_true, ih]
      constructor
      · rintro ⟨hc, body, hb, rfl⟩
        exact ⟨c :: body, List.forall_mem_cons.2 ⟨hc, hb⟩, rfl⟩
      · rintro ⟨body, hb, e⟩
        cases body with
        | nil => exact absurd (List.cons.inj e).2 hne
        | cons d body =>
            obtain ⟨rfl, e'⟩ := List.cons.inj e
            obtain ⟨hc, hb⟩ := List.forall_mem_cons.1 hb
            exact ⟨hc, body, hb, e'⟩

theorem closesSome_iff :
    closesSome p close s = true ↔
      ∃ body, body ≠ [] ∧ (∀ c ∈ body, p c = true) ∧ s = body ++ [close] := by
  cases s with
  | nil => simp [closesSome]
  | cons c rest =>
      rw [closesSome, Bool.and_eq_true, closes_iff]
      constructor
      · rintro ⟨hc, body, hb, rfl⟩
        exact ⟨c :: body, by simp, List.forall_mem_cons.2 ⟨hc, hb⟩, rfl⟩
      · rintro ⟨body, hne, hb, e⟩
        cases body with
        | nil => exact absurd rfl hne
        | cons d body =>
            obtain ⟨rfl, e'⟩ := List.cons.inj e
            obtain ⟨hc, hb⟩ := List.forall_mem_cons.1 hb
            exact ⟨hc, body, hb, e'⟩

/-! ### Character classes -/

theorem isCharacterClass_iff :
    isCharacterClass s = true ↔
      ∃ caret body, (caret = [] ∨ caret = ['^']) ∧ body ≠ [] ∧ (∀ c ∈ body, isMember c = true) ∧
        s = '[' :: caret ++ body ++ [']'] := by
  have caret_not_member : isMember '^' = false := by decide
  constructor
  · intro h
    unfold isCharacterClass at h
    split at h
    · obtain ⟨body, hne, hb, rfl⟩ := closesSome_iff.1 h
      exact ⟨['^'], body, .inr rfl, hne, hb, rfl⟩
    · obtain ⟨body, hne, hb, rfl⟩ := closesSome_iff.1 h
      exact ⟨[], body, .inl rfl, hne, hb, rfl⟩
    · cases h
  · rintro ⟨caret, body, rfl | rfl, hne, hb, rfl⟩
    · cases body with
      | nil => exact absurd rfl hne
      | cons c body =>
          have hc : c ≠ '^' := by
            rintro rfl
            rw [hb '^' (by simp)] at caret_not_member
            cases caret_not_member
          have h : closesSome isMember ']' (c :: body ++ [']']) = true :=
            closesSome_iff.2 ⟨c :: body, hne, hb, rfl⟩
          simpa [isCharacterClass, hc] using h
    · exact closesSome_iff.2 ⟨body, hne, hb, rfl⟩

/-! ### Quantifiers -/

theorem boundCloses_iff :
    boundCloses s = true ↔
      ∃ m, (∀ c ∈ m, c.isDigit = true) ∧
        (s = m ++ ['}'] ∨
          ∃ n, n ≠ [] ∧ (∀ c ∈ n, c.isDigit = true) ∧ s = m ++ ',' :: n ++ ['}']) := by
  induction s using boundCloses.induct with
  | case1 => simp [boundCloses]
  | case2 c =>
      constructor
      · intro h
        exact ⟨[], by simp, .inl (by simpa [boundCloses] using h)⟩
      · rintro ⟨m, -, e | ⟨n, hn, -, e⟩⟩
        · have := congrArg List.getLast? e
          simpa [boundCloses] using this
        · have := congrArg List.length e
          simp at this
          omega
  | case3 rest hne =>
      rw [boundCloses.eq_3 _ hne, closesSome_iff]
      constructor
      · rintro ⟨n, hn, hd, rfl⟩
        exact ⟨[], by simp, .inr ⟨n, hn, hd, rfl⟩⟩
      · rintro ⟨m, hm, e⟩
        cases m with
        | nil =>
            rcases e with e | ⟨n, hn, hd, e⟩
            · cases e
            · exact ⟨n, hn, hd, (List.cons.inj e).2⟩
        | cons d m =>
            -- The first digit would be the comma.
            have hd : d = ',' := by
              rcases e with e | ⟨n, -, -, e⟩
              · exact (List.cons.inj e).1.symm
              · exact (List.cons.inj e).1.symm
            have hcomma := hm d (by simp)
            rw [hd] at hcomma
            cases hcomma
  | case4 c rest hne hc ih =>
      rw [boundCloses.eq_4 _ _ hne hc, Bool.and_eq_true, ih]
      constructor
      · rintro ⟨hc, m, hm, e⟩
        refine ⟨c :: m, List.forall_mem_cons.2 ⟨hc, hm⟩, ?_⟩
        rcases e with rfl | ⟨n, hn, hd, rfl⟩
        · exact .inl rfl
        · exact .inr ⟨n, hn, hd, rfl⟩
      · rintro ⟨m, hm, e⟩
        cases m with
        | nil =>
            rcases e with e | ⟨n, hn, hd, e⟩
            · exact absurd (List.cons.inj e).2 hne
            · exact absurd (List.cons.inj e).1 hc
        | cons d m =>
            obtain ⟨hd, hm'⟩ := List.forall_mem_cons.1 hm
            rcases e with e | ⟨n, hn, hn', e⟩
            · obtain ⟨rfl, e'⟩ := List.cons.inj e
              exact ⟨hd, m, hm', .inl e'⟩
            · obtain ⟨rfl, e'⟩ := List.cons.inj e
              exact ⟨hd, m, hm', .inr ⟨n, hn, hn', e'⟩⟩

theorem isQuantifier_iff :
    isQuantifier s = true ↔
      (∃ c, isSuffix c = true ∧ s = [c]) ∨
        ∃ m, m ≠ [] ∧ (∀ c ∈ m, c.isDigit = true) ∧
          (s = '{' :: m ++ ['}'] ∨
            ∃ n, n ≠ [] ∧ (∀ c ∈ n, c.isDigit = true) ∧ s = '{' :: m ++ ',' :: n ++ ['}']) := by
  constructor
  · intro h
    unfold isQuantifier at h
    split at h
    · exact .inl ⟨_, h, rfl⟩
    · rw [Bool.and_eq_true, boundCloses_iff] at h
      obtain ⟨hc, m, hm, rfl | ⟨n, hn, hn', rfl⟩⟩ := h
      · exact .inr ⟨_ :: m, by simp, List.forall_mem_cons.2 ⟨hc, hm⟩, .inl rfl⟩
      · exact .inr ⟨_ :: m, by simp, List.forall_mem_cons.2 ⟨hc, hm⟩, .inr ⟨n, hn, hn', rfl⟩⟩
    · cases h
  · rintro (⟨c, hc, rfl⟩ | ⟨m, hne, hm, e⟩)
    · exact hc
    · cases m with
      | nil => exact absurd rfl hne
      | cons d m =>
          obtain ⟨hd, hm⟩ := List.forall_mem_cons.1 hm
          rcases e with rfl | ⟨n, hn, hn', rfl⟩
          · have h : boundCloses (m ++ ['}']) = true := boundCloses_iff.2 ⟨m, hm, .inl rfl⟩
            simp [isQuantifier, hd, h]
          · have h : boundCloses (m ++ ',' :: n ++ ['}']) = true :=
              boundCloses_iff.2 ⟨m, hm, .inr ⟨n, hn, hn', rfl⟩⟩
            simpa [isQuantifier, hd] using h

/-! ### Alternations -/

theorem barCloses_iff :
    barCloses s = true ↔
      ∃ a b, (∀ c ∈ a, isInner c = true) ∧ b ≠ [] ∧ (∀ c ∈ b, isInner c = true) ∧
        s = a ++ '|' :: b ++ [')'] := by
  induction s using barCloses.induct with
  | case1 => simp [barCloses]
  | case2 rest =>
      rw [barCloses, closesSome_iff]
      constructor
      · rintro ⟨b, hne, hb, rfl⟩
        exact ⟨[], b, by simp, hne, hb, rfl⟩
      · rintro ⟨a, b, ha, hne, hb, e⟩
        cases a with
        | nil => exact ⟨b, hne, hb, (List.cons.inj e).2⟩
        | cons c a =>
            -- A later bar belongs to the text after the first one.
            obtain ⟨-, ha⟩ := List.forall_mem_cons.1 ha
            refine ⟨a ++ '|' :: b, by simp, ?_, (List.cons.inj e).2⟩
            intro d hd
            rcases List.mem_append.1 hd with hd | hd
            · exact ha d hd
            · rcases List.mem_cons.1 hd with rfl | hd
              · rfl
              · exact hb d hd
  | case3 c rest hc ih =>
      rw [barCloses.eq_3 _ _ hc, Bool.and_eq_true, ih]
      constructor
      · rintro ⟨hc, a, b, ha, hne, hb, rfl⟩
        exact ⟨c :: a, b, List.forall_mem_cons.2 ⟨hc, ha⟩, hne, hb, rfl⟩
      · rintro ⟨a, b, ha, hne, hb, e⟩
        cases a with
        | nil => exact absurd (List.cons.inj e).1 hc
        | cons d a =>
            obtain ⟨rfl, e'⟩ := List.cons.inj e
            obtain ⟨hd, ha⟩ := List.forall_mem_cons.1 ha
            exact ⟨hd, a, b, ha, hne, hb, e'⟩

theorem isAlternation_iff :
    isAlternation s = true ↔
      ∃ a b, a ≠ [] ∧ (∀ c ∈ a, isInner c = true) ∧ b ≠ [] ∧ (∀ c ∈ b, isInner c = true) ∧
        s = '(' :: a ++ '|' :: b ++ [')'] := by
  constructor
  · intro h
    unfold isAlternation at h
    split at h
    · rw [Bool.and_eq_true, barCloses_iff] at h
      obtain ⟨hc, a, b, ha, hne, hb, rfl⟩ := h
      exact ⟨_ :: a, b, by simp, List.forall_mem_cons.2 ⟨hc, ha⟩, hne, hb, rfl⟩
    · cases h
  · rintro ⟨a, b, hne, ha, hne', hb, rfl⟩
    cases a with
    | nil => exact absurd rfl hne
    | cons c a =>
        obtain ⟨hc, ha⟩ := List.forall_mem_cons.1 ha
        have h : barCloses (a ++ '|' :: b ++ [')']) = true :=
          barCloses_iff.2 ⟨a, b, ha, hne', hb, rfl⟩
        simpa [isAlternation, hc] using h

theorem forall_isInner_iff {body : List Char} :
    (∀ c ∈ body, isInner c = true) ↔ '(' ∉ body ∧ ')' ∉ body := by
  simp only [isInner, Bool.and_eq_true, bne_iff_ne]
  constructor
  · intro h
    exact ⟨fun hm => (h _ hm).1 rfl, fun hm => (h _ hm).2 rfl⟩
  · rintro ⟨h₁, h₂⟩ c hc
    exact ⟨fun e => h₁ (e ▸ hc), fun e => h₂ (e ▸ hc)⟩

/-- An alternation is a group without further parentheses in which some bar has something on both
sides. -/
theorem isAlternation_iff_body :
    isAlternation s = true ↔
      ∃ body, '(' ∉ body ∧ ')' ∉ body ∧ (∃ a b, a ≠ [] ∧ b ≠ [] ∧ body = a ++ '|' :: b) ∧
        s = '(' :: body ++ [')'] := by
  rw [isAlternation_iff]
  constructor
  · rintro ⟨a, b, ha, hai, hb, hbi, rfl⟩
    obtain ⟨ha₁, ha₂⟩ := forall_isInner_iff.1 hai
    obtain ⟨hb₁, hb₂⟩ := forall_isInner_iff.1 hbi
    exact ⟨a ++ '|' :: b, by simp [ha₁, hb₁], by simp [ha₂, hb₂], ⟨a, b, ha, hb, rfl⟩, by simp⟩
  · rintro ⟨_, h₁, h₂, ⟨a, b, ha, hb, rfl⟩, rfl⟩
    simp only [List.mem_append, List.mem_cons, not_or] at h₁ h₂
    exact ⟨a, b, ha, forall_isInner_iff.2 ⟨h₁.1, h₂.1⟩, hb, forall_isInner_iff.2 ⟨h₁.2.2, h₂.2.2⟩,
      by simp⟩

/-! ### The check of a kind -/

theorem ofKind?_eq_some_iff {k : Kind} {g : Grammar} : ofKind? k = some g ↔ g.kind = k := by
  cases k <;> cases g <;> decide

theorem ofKind?_eq_none_iff {k : Kind} :
    ofKind? k = none ↔ k = .escape ∨ k = .literal ∨ k = .anyChar := by
  cases k <;> decide

theorem check_eq_ok_iff {k : Kind} {value : String} :
    k.check value = .ok () ↔ ∀ g, ofKind? k = some g → g.accepts value = true := by
  cases h : ofKind? k with
  | none => simp [Kind.check, h]
  | some g => by_cases ha : g.accepts value = true <;> simp [Kind.check, h, ha]

theorem check_eq_error_iff {k : Kind} {value : String} {misfit : Misfit} :
    k.check value = .error misfit ↔
      ∃ g, ofKind? k = some g ∧ g.accepts value = false ∧ misfit = ⟨g, value⟩ := by
  cases h : ofKind? k with
  | none => simp [Kind.check, h]
  | some g =>
      by_cases ha : g.accepts value = true
      · simp [Kind.check, h, ha]
      · have hcheck : k.check value = .error ⟨g, value⟩ := by simp [Kind.check, h, ha]
        rw [hcheck, Except.error.injEq]
        constructor
        · rintro rfl
          exact ⟨g, rfl, by simpa using ha, rfl⟩
        · rintro ⟨_, ⟨⟩, -, rfl⟩
          rfl

/-- The check passes for a kind without a grammar and for a value that the grammar accepts. -/
theorem check_passes_iff {k : Kind} {value : String} :
    k.check value = .ok () ↔
      (k = .escape ∨ k = .literal ∨ k = .anyChar) ∨
        ∃ g : Grammar, g.kind = k ∧ g.accepts value = true := by
  simp only [check_eq_ok_iff, ← ofKind?_eq_none_iff, ← ofKind?_eq_some_iff]
  cases ofKind? k <;> simp

theorem check_refuses {k : Kind} {value : String} (h : k.check value ≠ .ok ()) :
    ∃ misfit, k.check value = .error misfit ∧ misfit.grammar.kind = k ∧ misfit.value = value := by
  rcases hc : k.check value with misfit | ⟨⟩
  · obtain ⟨g, hg, -, rfl⟩ := check_eq_error_iff.1 hc
    exact ⟨⟨g, value⟩, rfl, ofKind?_eq_some_iff.1 hg, rfl⟩
  · exact absurd hc h

end FieldPattern.Grammar
