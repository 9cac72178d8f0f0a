import FieldPattern.Text.Numeral
import Mathlib.Algebra.Group.Nat.Defs
import Mathlib.Data.List.Induction

/-! # The language of numerals

* `IsNumeral s n` says that the text `s` is the number `n` in decimal, with a `+` in front or
  without, and with any number of zeros at the start.
* `read` reads the numerals of the numbers below `2 ^ 64` and no other text (`read_eq_ok_iff`).  It
  looks for a value that is too large at each digit; the value never falls again, so this is the
  same as to look at the end.
* Of the numerals of a number, `digits` writes the one that is canonical: without a sign, and without
  a zero at the start unless the number is zero (`digits_eq_iff`). -/

namespace FieldPattern.Text.Numeral

/-- The text is the number in decimal: at least one digit, and a `+` before them or nothing. -/
inductive IsNumeral : List Char → Nat → Prop
  | unsigned {ds : List Char} : ds ≠ [] → (∀ d ∈ ds, d.isDigit = true) →
      IsNumeral ds (Nat.ofDigitChars 10 ds 0)
  | signed {ds : List Char} : ds ≠ [] → (∀ d ∈ ds, d.isDigit = true) →
      IsNumeral ('+' :: ds) (Nat.ofDigitChars 10 ds 0)

variable {s ds : List Char} {n value : Nat}

theorem le_largest_iff : n ≤ largest ↔ n < 2 ^ 64 := by
  have h : largest = 2 ^ 64 - 1 := rfl
  omega

/-! ### Reading -/

theorem le_ofDigitChars (s : List Char) (value : Nat) : value ≤ Nat.ofDigitChars 10 s value := by
  rw [Nat.ofDigitChars_eq_ofDigitChars_zero]
  have hpos : 0 < 10 ^ s.length := Nat.pow_pos (by decide)
  have := Nat.le_mul_of_pos_left value hpos
  omega

theorem readDigits_eq_ok_iff (hvalue : value ≤ largest) : readDigits value s = .ok n ↔
    (∀ d ∈ s, d.isDigit = true) ∧ Nat.ofDigitChars 10 s value = n ∧ n ≤ largest := by
  induction s generalizing value with
  | nil =>
      rw [readDigits, Nat.ofDigitChars_nil, Except.ok.injEq]
      constructor
      · rintro rfl
        exact ⟨by simp, rfl, hvalue⟩
      · exact fun h => h.2.1
  | cons c rest ih =>
      rw [Nat.ofDigitChars_cons, List.forall_mem_cons]
      by_cases hc : c.isDigit = true
      · simp only [readDigits, digit?, if_pos hc]
        by_cases hle : 10 * value + (c.toNat - '0'.toNat) ≤ largest
        · rw [if_pos hle, ih hle, and_iff_right hc]
        · -- The value has grown too large already, and stays so.
          rw [if_neg hle]
          refine ⟨nofun, ?_⟩
          rintro ⟨-, rfl, hn⟩
          exact absurd (Nat.le_trans (le_ofDigitChars rest _) hn) hle
      · simp only [readDigits, digit?, if_neg hc]
        exact ⟨nofun, fun h => absurd h.1.1 hc⟩

theorem read_signed (h : ds ≠ []) : read ('+' :: ds) = readDigits 0 ds := by
  cases ds with
  | nil => exact absurd rfl h
  | cons d ds => rfl

theorem read_unsigned (h : s ≠ []) (hsign : s.head? ≠ some '+') : read s = readDigits 0 s := by
  unfold read
  split
  · exact absurd rfl h
  · exact absurd rfl hsign
  · exact absurd rfl hsign
  · rfl

theorem isDigit_plus : ('+' : Char).isDigit = false := by decide

theorem not_mem_of_isDigit {c : Char} (h : ∀ d ∈ s, d.isDigit = true) (hc : c.isDigit = false) :
    c ∉ s := by
  intro hm
  rw [h c hm] at hc
  cases hc

/-- The numerals of the numbers below `2 ^ 64` are read, and no other text. -/
theorem read_eq_ok_iff : read s = .ok n ↔ IsNumeral s n ∧ n < 2 ^ 64 := by
  rw [← le_largest_iff]
  have hzero : 0 ≤ largest := Nat.zero_le _
  constructor
  · intro h
    cases s with
    | nil => cases h
    | cons c ds =>
        by_cases hc : c = '+'
        · subst hc
          have hds : ds ≠ [] := by
            rintro rfl
            cases h
          rw [read_signed hds, readDigits_eq_ok_iff hzero] at h
          obtain ⟨hdigits, rfl, hn⟩ := h
          exact ⟨.signed hds hdigits, hn⟩
        · rw [read_unsigned (by simp) (by simpa using hc), readDigits_eq_ok_iff hzero] at h
          obtain ⟨hdigits, rfl, hn⟩ := h
          exact ⟨.unsigned (by simp) hdigits, hn⟩
  · rintro ⟨h, hn⟩
    cases h with
    | signed hds hdigits =>
        rw [read_signed hds, readDigits_eq_ok_iff hzero]
        exact ⟨hdigits, rfl, hn⟩
    | unsigned hds hdigits =>
        have hsign : s.head? ≠ some '+' := fun e =>
          not_mem_of_isDigit hdigits isDigit_plus (List.mem_of_head? e)
        rw [read_unsigned hds hsign, readDigits_eq_ok_iff hzero]
        exact ⟨hdigits, rfl, hn⟩

/-! ### Blanks -/

theorem isBlank_of_isDigit {c : Char} (h : c.isDigit = true) : isBlank c = false := by
  obtain ⟨hlow, hhigh⟩ := Char.isDigit_iff_toNat.1 h
  have hzero : '0'.toNat = 48 := rfl
  have hnine : '9'.toNat = 57 := rfl
  simp only [isBlank, Bool.or_eq_false_iff, Bool.and_eq_false_iff, decide_eq_false_iff_not,
    beq_eq_false_iff_ne]
  omega

/-- There is no blank in a numeral. -/
theorem IsNumeral.no_blank (h : IsNumeral s n) : ∀ c ∈ s, isBlank c = false := by
  cases h with
  | unsigned _ hdigits => exact fun c hc => isBlank_of_isDigit (hdigits c hc)
  | signed _ hdigits =>
      rw [List.forall_mem_cons]
      exact ⟨by decide, fun c hc => isBlank_of_isDigit (hdigits c hc)⟩

/-! ### Writing -/

theorem toNat_sub_lt_ten {d : Char} (h : d.isDigit = true) : d.toNat - '0'.toNat < 10 := by
  have hhigh := (Char.isDigit_iff_toNat.1 h).2
  have hnine : '9'.toNat = '0'.toNat + 9 := rfl
  omega

theorem digitChar_toNat_sub {d : Char} (h : d.isDigit = true) :
    Nat.digitChar (d.toNat - '0'.toNat) = d := by
  have hlow := (Char.isDigit_iff_toNat.1 h).1
  have hzero : '0'.toNat = 48 := rfl
  rw [← Char.toNat_inj, Nat.toNat_digitChar_of_lt_ten (toNat_sub_lt_ten h)]
  omega

theorem digits_of_lt_ten (h : n < 10) : digits n = [n.digitChar] := Nat.toDigits_of_lt_base h

theorem digits_ten_mul_add {d : Nat} (hn : n ≠ 0) (hd : d < 10) :
    digits (10 * n + d) = digits n ++ [d.digitChar] := by
  have hdiv : (10 * n + d) / 10 = n := by omega
  have hmod : (10 * n + d) % 10 = d := by omega
  rw [digits, Nat.toDigits_of_base_le (by decide) (by omega), hdiv, hmod, digits]

/-- Digits without a zero at the start are the ones that are written. -/
theorem digits_ofDigitChars (hne : ds ≠ []) (hdigits : ∀ d ∈ ds, d.isDigit = true)
    (hzero : ds.head? = some '0' → ds = ['0']) : digits (Nat.ofDigitChars 10 ds 0) = ds := by
  induction ds using List.reverseRecOn with
  | nil => exact absurd rfl hne
  | append_singleton ds d ih =>
      obtain ⟨hds, hd⟩ : (∀ c ∈ ds, c.isDigit = true) ∧ d.isDigit = true := by
        simpa [or_imp, forall_and] using hdigits
      have hlt := toNat_sub_lt_ten hd
      rw [Nat.ofDigitChars_append, Nat.ofDigitChars_cons, Nat.ofDigitChars_nil]
      cases ds with
      | nil =>
          rw [Nat.ofDigitChars_nil, Nat.mul_zero, Nat.zero_add, digits_of_lt_ten hlt,
            digitChar_toNat_sub hd]
          rfl
      | cons c ds =>
          have hc : c ≠ '0' := by
            rintro rfl
            have := congrArg List.length (hzero rfl)
            simp at this
          have hvalue := ih (by simp) hds fun e => absurd (Option.some.inj e) hc
          have hpos : Nat.ofDigitChars 10 (c :: ds) 0 ≠ 0 := by
            intro e
            rw [e, digits_of_lt_ten (by decide)] at hvalue
            exact hc (List.cons.inj hvalue).1.symm
          rw [digits_ten_mul_add hpos hlt, hvalue, digitChar_toNat_sub hd]

/-- Only zero is written with a zero at the start. -/
theorem eq_zero_of_head?_digits (h : (digits n).head? = some '0') : n = 0 := by
  induction n using Nat.strongRecOn with
  | ind n ih =>
      by_cases hn : n < 10
      · rw [digits_of_lt_ten hn] at h
        exact Nat.digitChar_eq_zero.1 (Option.some.inj h)
      · have hsplit : digits n = digits (n / 10) ++ [(n % 10).digitChar] :=
          Nat.toDigits_of_base_le (by decide) (by omega)
        have hne : digits (n / 10) ≠ [] := Nat.toDigits_ne_nil
        rw [hsplit, List.head?_append, List.head?_eq_some_head hne, Option.some_or,
          ← List.head?_eq_some_head hne] at h
        have := ih (n / 10) (by omega) h
        omega

theorem isDigit_of_mem_digits {d : Char} (h : d ∈ digits n) : d.isDigit = true :=
  Nat.isDigit_of_mem_toDigits (by decide) (by decide) h

theorem isNumeral_digits (n : Nat) : IsNumeral (digits n) n := by
  have h : IsNumeral (digits n) (Nat.ofDigitChars 10 (digits n) 0) :=
    .unsigned Nat.toDigits_ne_nil fun d hd => isDigit_of_mem_digits hd
  rwa [digits, Nat.ofDigitChars_ten_toDigits] at h

/-- A text without blanks, without a sign, and without a zero at the start unless it is all there
is. -/
structure IsCanonical (s : List Char) : Prop where
  no_blank : ∀ c ∈ s, isBlank c = false
  no_sign : '+' ∉ s
  no_zero : s.head? = some '0' → s = ['0']

theorem isCanonical_digits (n : Nat) : IsCanonical (digits n) where
  no_blank := (isNumeral_digits n).no_blank
  no_sign := not_mem_of_isDigit (fun _ => isDigit_of_mem_digits) isDigit_plus
  no_zero h := by
    rw [eq_zero_of_head?_digits h]
    rfl

/-- Of the numerals of a number, the canonical one is written. -/
theorem digits_eq_iff (h : IsNumeral s n) : digits n = s ↔ IsCanonical s := by
  constructor
  · rintro rfl
    exact isCanonical_digits n
  · intro hc
    cases h with
    | unsigned hne hdigits => exact digits_ofDigitChars hne hdigits hc.no_zero
    | signed hne hdigits => exact absurd (List.mem_cons_self ..) hc.no_sign

end FieldPattern.Text.Numeral
