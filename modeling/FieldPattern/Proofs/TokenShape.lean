import FieldPattern.Scan

/-! # Shapes of token texts

What the text of a token of each kind looks like, said without the scanner.

* `Bare k s`: `s` is a complete text of kind `k` without a suffix.
* `Unfinished k s`: `s` starts like a text of kind `k` whose end is missing.
* A complete text with a suffix is a bare one followed by `*`, `+` or `?`.

For groups, `depth` counts the parentheses that are open.  A group is complete where the depth
is zero again for the first time (`Closed`), and unfinished when it is never zero again
(`Unclosed`).

No text is of two of these shapes for the same kind: `Bare.not_unfinished`,
`Bare.not_unfinished_suffix` and `Bare.not_bare_suffix`. -/

namespace FieldPattern

open Scan (isPlain)

/-! ### Parentheses -/

/-- The number of opening parentheses less that of closing ones. -/
def depth (s : List Char) : Int := s.count '(' - s.count ')'

/-- What one character adds to the depth. -/
def slope (c : Char) : Int := if c = '(' then 1 else if c = ')' then -1 else 0

/-- The depth is zero at the end of `s` and, after its first character, nowhere before. -/
def Closed (s : List Char) : Prop := depth s = 0 ∧ ∀ p, p <+: s → p ≠ [] → p ≠ s → depth p ≠ 0

/-- The depth is nowhere zero after the first character of `s`. -/
def Unclosed (s : List Char) : Prop := ∀ p, p <+: s → p ≠ [] → depth p ≠ 0

/-- After `n` open parentheses, the last one is closed at the end of `s` and not before. -/
def ClosesAtEnd (n : Int) (s : List Char) : Prop :=
  n + depth s = 0 ∧ ∀ p, p <+: s → p ≠ s → n + depth p ≠ 0

/-- After `n` open parentheses, one is open throughout `s`. -/
def StaysOpen (n : Int) (s : List Char) : Prop := ∀ p, p <+: s → n + depth p ≠ 0

@[simp] theorem depth_nil : depth [] = 0 := rfl

@[simp] theorem depth_cons (c : Char) (s : List Char) : depth (c :: s) = slope c + depth s := by
  simp only [depth, slope, List.count_cons, beq_iff_eq]
  by_cases h₁ : c = '('
  · subst h₁
    simp
    omega
  · by_cases h₂ : c = ')'
    · subst h₂
      simp
      omega
    · simp [h₁, h₂]

/-- Properties of the prefixes of `c :: s` are properties of the empty text and, after `c`, of
the prefixes of `s`. -/
theorem forall_prefix_cons {P : List Char → Prop} {c : Char} {s : List Char} :
    (∀ p, p <+: c :: s → P p) ↔ P [] ∧ ∀ p, p <+: s → P (c :: p) := by
  constructor
  · intro h
    exact ⟨h [] (List.nil_prefix), fun p hp => h _ (List.prefix_cons_inj c |>.2 hp)⟩
  · rintro ⟨h₀, h⟩ p hp
    rcases List.prefix_cons_iff.1 hp with rfl | ⟨q, rfl, hq⟩
    · exact h₀
    · exact h q hq

theorem closesAtEnd_nil {n : Int} : ClosesAtEnd n [] ↔ n = 0 := by
  constructor
  · rintro ⟨h, -⟩
    simpa using h
  · rintro rfl
    exact ⟨rfl, fun p hp hne => absurd (List.prefix_nil.1 hp) hne⟩

theorem closesAtEnd_cons {n : Int} {c : Char} {s : List Char} :
    ClosesAtEnd n (c :: s) ↔ n ≠ 0 ∧ ClosesAtEnd (n + slope c) s := by
  simp only [ClosesAtEnd, forall_prefix_cons, depth_nil, depth_cons, Int.add_zero,
    Int.add_assoc]
  constructor
  · rintro ⟨h, h₀, hs⟩
    exact ⟨h₀ (by simp), h, fun p hp hne => hs p hp (by simpa using hne)⟩
  · rintro ⟨h₀, h, hs⟩
    exact ⟨h, fun _ => h₀, fun p hp hne => hs p hp (by simpa using hne)⟩

theorem staysOpen_nil {n : Int} : StaysOpen n [] ↔ n ≠ 0 := by
  constructor
  · intro h
    simpa using h [] (List.nil_prefix)
  · intro h p hp
    rw [List.prefix_nil.1 hp]
    simpa using h

theorem staysOpen_cons {n : Int} {c : Char} {s : List Char} :
    StaysOpen n (c :: s) ↔ n ≠ 0 ∧ StaysOpen (n + slope c) s := by
  simp only [StaysOpen, forall_prefix_cons, depth_nil, depth_cons, Int.add_zero, Int.add_assoc]

/-- With no parenthesis open, nothing can follow. -/
theorem closesAtEnd_zero {s : List Char} : ClosesAtEnd 0 s ↔ s = [] := by
  cases s with
  | nil => simp [closesAtEnd_nil]
  | cons c s => simp [closesAtEnd_cons]

theorem closed_group {s : List Char} : Closed ('(' :: s) ↔ ClosesAtEnd 1 s := by
  have slope_open : slope '(' = 1 := rfl
  simp only [Closed, ClosesAtEnd, forall_prefix_cons, depth_cons, slope_open]
  constructor
  · rintro ⟨h, -, hs⟩
    exact ⟨h, fun p hp hne => hs p hp (by simp) (by simpa using hne)⟩
  · rintro ⟨h, hs⟩
    exact ⟨h, fun h₀ => absurd rfl h₀, fun p hp _ hne => hs p hp (by simpa using hne)⟩

theorem unclosed_group {s : List Char} : Unclosed ('(' :: s) ↔ StaysOpen 1 s := by
  have slope_open : slope '(' = 1 := rfl
  simp only [Unclosed, StaysOpen, forall_prefix_cons, depth_cons, slope_open]
  constructor
  · rintro ⟨-, hs⟩ p hp
    exact hs p hp (by simp)
  · intro hs
    exact ⟨fun h₀ => absurd rfl h₀, fun p hp _ => hs p hp⟩

/-! ### Texts of tokens -/

/-- A complete text of a token of kind `k`, without a suffix. -/
inductive Bare : Kind → List Char → Prop
  | escape (c : Char) : Bare .escape ['\\', c]
  | characterClass {body : List Char} :
      ']' ∉ body → Bare .characterClass ('[' :: body ++ [']'])
  | symbol {c : Char} : isSuffix c = true → Bare .quantifier [c]
  | counted {body : List Char} : '}' ∉ body → Bare .quantifier ('{' :: body ++ ['}'])
  | alternation {body : List Char} : Closed ('(' :: body) → Bare .alternation ('(' :: body)
  | anyChar : Bare .anyChar ['.']
  | literal {c : Char} {rest : List Char} :
      (∀ d ∈ c :: rest, isPlain d = true) → Bare .literal (c :: rest)

/-- The text of a token of kind `k` whose end is missing. -/
inductive Unfinished : Kind → List Char → Prop
  | escape : Unfinished .escape ['\\']
  | characterClass {body : List Char} : ']' ∉ body → Unfinished .characterClass ('[' :: body)
  | counted {body : List Char} : '}' ∉ body → Unfinished .quantifier ('{' :: body)
  | alternation {body : List Char} :
      Unclosed ('(' :: body) → Unfinished .alternation ('(' :: body)

theorem isPlain_of_isSuffix {c : Char} (h : isSuffix c = true) : isPlain c = false := by
  simp [isPlain, h]

theorem ne_of_isSuffix {c d : Char} (h : isSuffix c = true) (hd : isSuffix d = false) : c ≠ d := by
  rintro rfl
  rw [h] at hd
  cases hd

theorem Bare.ne_nil {k : Kind} {s : List Char} (h : Bare k s) : s ≠ [] := by
  cases h <;> simp

theorem Unfinished.ne_nil {k : Kind} {s : List Char} (h : Unfinished k s) : s ≠ [] := by
  cases h <;> simp

/-- A complete text does not lack its end. -/
theorem Bare.not_unfinished {k : Kind} {s : List Char} (h : Bare k s) : ¬ Unfinished k s := by
  intro hu
  cases h with
  | escape c => cases hu
  | characterClass hb =>
      cases hu with
      | characterClass hb' => simp at hb'
  | symbol hc =>
      cases hu with
      | counted hb' => simp [isSuffix] at hc
  | counted hb =>
      cases hu with
      | counted hb' => simp at hb'
  | alternation hb =>
      cases hu with
      | alternation hb' => exact hb' _ (List.prefix_refl _) (by simp) hb.1
  | anyChar => cases hu
  | literal hb => cases hu

/-- A complete text with a suffix does not lack its end. -/
theorem Bare.not_unfinished_suffix {k : Kind} {s : List Char} {c : Char} (h : Bare k s)
    (hk : k.takesSuffix = true) : ¬ Unfinished k (s ++ [c]) := by
  intro hu
  cases h with
  | escape d => cases hu
  | characterClass hb =>
      cases hu with
      | characterClass hb' => simp at hb'
  | symbol hc => cases hk
  | counted hb => cases hk
  | alternation hb =>
      cases hu with
      | alternation hb' => exact hb' _ (List.prefix_append _ _) (by simp) hb.1
  | anyChar => cases hu
  | literal hb => cases hu

/-- A complete text with a suffix is not complete without one. -/
theorem Bare.not_bare_suffix {k : Kind} {s : List Char} {c : Char} (h : Bare k s)
    (hk : k.takesSuffix = true) (hc : isSuffix c = true) : ¬ Bare k (s ++ [c]) := by
  intro hb
  generalize e : s ++ [c] = t at hb
  have hc' : t.getLast? = some c := by rw [← e, List.getLast?_concat]
  cases h with
  | escape d =>
      cases hb with
      | escape d' => cases e
  | characterClass hb₁ =>
      cases hb with
      | characterClass hb₂ =>
          rw [List.getLast?_concat] at hc'
          exact ne_of_isSuffix hc rfl (Option.some.inj hc').symm
  | symbol hc => cases hk
  | counted hb => cases hk
  | alternation hb₁ =>
      cases hb with
      | alternation hb₂ =>
          rw [← e] at hb₂
          exact hb₂.2 _ (List.prefix_append _ _) (by simp) (by simp) hb₁.1
  | anyChar =>
      cases hb with
      | anyChar => cases e
  | literal hb₁ =>
      cases hb with
      | literal hb₂ =>
          have hp := hb₂ c (List.mem_of_getLast? hc')
          rw [isPlain_of_isSuffix hc] at hp
          cases hp

end FieldPattern
