import FieldPattern.Proofs.GrammarLanguage

/-! # The alternatives of a group

The bars of a group cut its body into alternatives.  A group offers a choice (`OffersChoice`) when
it has two or more of them and none is empty.  The grammar of alternations asks for less: one bar
with something on both sides, where that something may consist of further bars.  In terms of the
alternatives, they fall into two parts, neither of which is a single empty alternative
(`Divides`).

The main statement is `alternation_accepts_iff`.  Every group that offers a choice is accepted,
and so are groups with empty alternatives, such as `(a||b)` in `alternation_accepts_gap`. -/

namespace FieldPattern.Grammar

/-- The alternatives in the body of a group. -/
def alternatives (body : List Char) : List (List Char) := body.splitOn '|'

/-- The value is a group with this body, and no parenthesis is inside. -/
structure IsGroup (value : String) (body : List Char) : Prop where
  eq : value.toList = '(' :: body ++ [')']
  no_open : '(' ∉ body
  no_close : ')' ∉ body

/-- The value is a group of two or more alternatives, none of them empty. -/
def OffersChoice (value : String) : Prop :=
  ∃ body, IsGroup value body ∧ 2 ≤ (alternatives body).length ∧ [] ∉ alternatives body

/-- Some alternatives, and not just an empty one. -/
def Speaks (part : List (List Char)) : Prop := part ≠ [] ∧ part ≠ [[]]

/-- The alternatives fall into two parts that both speak. -/
def Divides (parts : List (List Char)) : Prop :=
  ∃ left right, parts = left ++ right ∧ Speaks left ∧ Speaks right

/-! ### Parts of a body -/

theorem intercalate_append {sep : List Char} {left right : List (List Char)} (hl : left ≠ [])
    (hr : right ≠ []) :
    sep.intercalate (left ++ right) = sep.intercalate left ++ sep ++ sep.intercalate right := by
  induction left with
  | nil => exact absurd rfl hl
  | cons l left ih =>
      cases left with
      | nil => simp [List.intercalate_cons_of_ne_nil hr]
      | cons l' left =>
          have h := ih (List.cons_ne_nil _ _)
          rw [List.cons_append, List.cons_append, List.intercalate_cons_cons, ← List.cons_append, h,
            List.intercalate_cons_cons]
          simp only [List.append_assoc]

/-- The alternatives of a text that is not empty speak. -/
theorem speaks_alternatives {a : List Char} (h : a ≠ []) : Speaks (alternatives a) := by
  refine ⟨List.splitOn_ne_nil _ _, fun e => h ?_⟩
  have hjoin : ['|'].intercalate (alternatives a) = a := List.intercalate_splitOn '|'
  rw [e, List.intercalate_singleton] at hjoin
  exact hjoin.symm

/-- Parts that speak are the alternatives of a text that is not empty. -/
theorem Speaks.join_ne_nil {part : List (List Char)} (h : Speaks part) :
    ['|'].intercalate part ≠ [] := by
  match part, h with
  | [], h => exact absurd rfl h.1
  | [a], h =>
      rw [List.intercalate_singleton]
      rintro rfl
      exact h.2 rfl
  | a :: b :: rest, _ => simp [List.intercalate_cons_cons]

/-- A body is cut into two parts that speak exactly when it has a bar with something on both
sides. -/
theorem divides_alternatives_iff {body : List Char} :
    Divides (alternatives body) ↔ ∃ a b, a ≠ [] ∧ b ≠ [] ∧ body = a ++ '|' :: b := by
  constructor
  · rintro ⟨left, right, e, hl, hr⟩
    refine ⟨_, _, hl.join_ne_nil, hr.join_ne_nil, ?_⟩
    calc body = ['|'].intercalate (alternatives body) := (List.intercalate_splitOn '|').symm
      _ = ['|'].intercalate left ++ ['|'] ++ ['|'].intercalate right := by
        rw [e, intercalate_append hl.1 hr.1]
      _ = ['|'].intercalate left ++ '|' :: ['|'].intercalate right := by simp
  · rintro ⟨a, b, ha, hb, rfl⟩
    exact ⟨alternatives a, alternatives b, List.splitOn_append_cons_self a b,
      speaks_alternatives ha, speaks_alternatives hb⟩

/-- Two or more alternatives that are not empty fall into two parts that speak. -/
theorem divides_of_length {parts : List (List Char)} (h : 2 ≤ parts.length) (hne : [] ∉ parts) :
    Divides parts := by
  match parts, h, hne with
  | a :: b :: rest, _, hne =>
      simp only [List.mem_cons, not_or] at hne
      refine ⟨[a], b :: rest, rfl, ⟨by simp, ?_⟩, ⟨by simp, ?_⟩⟩
      · rintro ⟨⟩
        exact hne.1 rfl
      · rintro ⟨⟩
        exact hne.2.1 rfl

theorem Divides.two_le {parts : List (List Char)} (h : Divides parts) : 2 ≤ parts.length := by
  obtain ⟨left, right, rfl, hl, hr⟩ := h
  have := List.length_pos_iff.2 hl.1
  have := List.length_pos_iff.2 hr.1
  rw [List.length_append]
  omega

/-! ### Accepted groups -/

theorem IsGroup.unique {value : String} {body body' : List Char} (h : IsGroup value body)
    (h' : IsGroup value body') : body = body' := by
  have e := h.eq.symm.trans h'.eq
  simpa using e

theorem accepts_iff_divides {value : String} :
    alternation.accepts value = true ↔
      ∃ body, IsGroup value body ∧ Divides (alternatives body) := by
  simp only [divides_alternatives_iff]
  refine isAlternation_iff_body.trans ⟨?_, ?_⟩
  · rintro ⟨body, h₁, h₂, hbar, e⟩
    exact ⟨body, ⟨e, h₁, h₂⟩, hbar⟩
  · rintro ⟨body, hg, hbar⟩
    exact ⟨body, hg.no_open, hg.no_close, hbar, hg.eq⟩

/-- **What the grammar of alternations accepts.**  A value passes the check of an alternation when
the grammar accepts it, that is, when it is a group without further parentheses whose alternatives
fall into two parts that both speak.  The groups that offer a choice are those of them without an
empty alternative. -/
theorem alternation_accepts_iff (value : String) :
    (Kind.alternation.check value = .ok () ↔ alternation.accepts value = true) ∧
      (alternation.accepts value = true ↔
        ∃ body, IsGroup value body ∧ Divides (alternatives body)) ∧
      (OffersChoice value ↔
        alternation.accepts value = true ∧ ∃ body, IsGroup value body ∧ [] ∉ alternatives body) := by
  refine ⟨?_, accepts_iff_divides, ?_⟩
  · rw [check_eq_ok_iff]
    simp [ofKind?]
  · rw [accepts_iff_divides]
    constructor
    · rintro ⟨body, hg, hlen, hne⟩
      exact ⟨⟨body, hg, divides_of_length hlen hne⟩, body, hg, hne⟩
    · rintro ⟨⟨body, hg, hd⟩, body', hg', hne⟩
      rw [hg'.unique hg] at hne
      exact ⟨body, hg, hd.two_le, hne⟩

/-- A group with an empty alternative is accepted, although it offers no choice. -/
theorem alternation_accepts_gap :
    ¬ (alternation.accepts "(a||b)" = true ↔ OffersChoice "(a||b)") := by
  intro h
  obtain ⟨body, hg, -, hne⟩ := h.1 rfl
  have hbody : body = ['a', '|', '|', 'b'] :=
    hg.unique ⟨rfl, by decide, by decide⟩
  rw [hbody] at hne
  exact hne (by decide)

end FieldPattern.Grammar
