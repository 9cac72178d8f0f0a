import FieldPattern.Json.Layout
import FieldPattern.Json.Skip
import Mathlib.Tactic.SplitIfs

/-! # JSON texts read back

What the writer of JSON makes is read back by the readers.

* `Yields read s a rest` says that the reader `read` makes `a` of the start of `s` and leaves
  `rest`.  All readers of this project are described by it, so that what one reader leaves is
  what the next one starts with.
* Strings: each character is read back from the way it is written (`decode_encodeChar`), and
  so is a whole string (`decode_encode`), whatever comes after it.
* Layout: between brackets stand the first item and those that follow it, each after a comma
  (`block_cons`).  A line and its indentation are blanks, which readers skip
  (`skipBlank_append`). -/

namespace FieldPattern.Json

/-- The reader `read` makes `a` of the start of `s` and leaves `rest`. -/
def Yields {α : Type} (read : (s : List Char) → Except Fault (α × Shorter s)) (s : List Char)
    (a : α) (rest : List Char) : Prop :=
  ∃ h, read s = .ok (a, ⟨rest, h⟩)

/-! ### Escapes -/

theorem hexValue_hexDigit {n : Nat} (h : n < 16) : hexValue? (hexDigit n) = some n := by
  decide +revert

/-- The escape of a control stands for it. -/
theorem readUnicode_control {n : Nat} (h : n < 0x20) (rest : List Char) :
    Yields readUnicode ('0' :: '0' :: hexDigit (n / 16) :: hexDigit (n % 16) :: rest)
      (Char.ofNat n) rest := by
  have hhex : Yields readHex ('0' :: '0' :: hexDigit (n / 16) :: hexDigit (n % 16) :: rest) n
      rest := by
    have hhigh := hexValue_hexDigit (n := n / 16) (by omega)
    have hlow := hexValue_hexDigit (n := n % 16) (by omega)
    have hzero : hexValue? '0' = some 0 := rfl
    have hn : ((0 * 16 + 0) * 16 + n / 16) * 16 + n % 16 = n := by omega
    exact ⟨by simp; omega, by simp only [readHex, hzero, hhigh, hlow, hn]⟩
  obtain ⟨hlt, e⟩ := hhex
  have hnlow : isLow n = false := by simp [isLow]; omega
  have hnhigh : isHigh n = false := by simp [isHigh]; omega
  refine ⟨hlt, ?_⟩
  simp [readUnicode, e, bind, Except.bind, hnlow, hnhigh]

theorem readEscape_letter {c letter : Char} (h : escapeLetter? letter = some c) (s : List Char) :
    Yields readEscape (letter :: s) c s :=
  ⟨by simp, by simp [readEscape, h]⟩

theorem readEscape_control {c : Char} (h : c.toNat < 0x20) (s : List Char) :
    Yields readEscape ('u' :: '0' :: '0' :: hexDigit (c.toNat / 16) :: hexDigit (c.toNat % 16) :: s)
      c s := by
  obtain ⟨hlt, e⟩ := readUnicode_control h s
  rw [Char.ofNat_toNat] at e
  have hu : escapeLetter? 'u' = none := by decide
  exact ⟨by simp; omega, by simp [readEscape, hu, e, bind, Except.bind, pure, Except.pure]⟩

/-! ### Strings -/

theorem decode_quote (rest : List Char) : Yields decode ('"' :: rest) [] rest :=
  ⟨by simp, by rw [decode]; rfl⟩

theorem decode_plain {c : Char} (hquote : c ≠ '"') (hslash : c ≠ '\\') (hcontrol : ¬ c.toNat < 0x20)
    {s text rest : List Char} (h : Yields decode s text rest) :
    Yields decode (c :: s) (c :: text) rest := by
  obtain ⟨hlt, e⟩ := h
  refine ⟨by simp; omega, ?_⟩
  rw [decode, if_neg hquote, if_neg hslash, if_neg hcontrol, e]
  rfl

theorem decode_escape {c : Char} {s s' text rest : List Char} (hc : Yields readEscape s c s')
    (h : Yields decode s' text rest) : Yields decode ('\\' :: s) (c :: text) rest := by
  obtain ⟨hlt, e⟩ := h
  obtain ⟨hlt', e'⟩ := hc
  refine ⟨by simp; omega, ?_⟩
  rw [decode, if_neg (by decide), if_pos rfl, e']
  simp only [bind, Except.bind]
  rw [e]
  rfl

/-- A character is read back from the way it is written. -/
theorem decode_encodeChar (c : Char) {s text rest : List Char} (h : Yields decode s text rest) :
    Yields decode (encodeChar c ++ s) (c :: text) rest := by
  have letter {l : Char} (hl : escapeLetter? l = some c) :
      Yields decode ('\\' :: l :: s) (c :: text) rest := decode_escape (readEscape_letter hl s) h
  unfold encodeChar
  split_ifs with hquote hslash hb hf hn hr ht hcontrol
  · exact letter (by rw [hquote]; rfl)
  · exact letter (by rw [hslash]; rfl)
  · exact letter (by rw [hb]; rfl)
  · exact letter (by rw [hf]; rfl)
  · exact letter (by rw [hn]; rfl)
  · exact letter (by rw [hr]; rfl)
  · exact letter (by rw [ht]; rfl)
  · exact decode_escape (readEscape_control hcontrol s) h
  · exact decode_plain hquote hslash hcontrol h

theorem decode_encode (text rest : List Char) :
    Yields decode (text.flatMap encodeChar ++ '"' :: rest) text rest := by
  induction text with
  | nil => exact decode_quote rest
  | cons c text ih =>
      rw [List.flatMap_cons, List.append_assoc]
      exact decode_encodeChar c ih


/-! ### Blanks and layout -/

/-- A text of blanks. -/
def IsBlanks (b : List Char) : Prop := ∀ c ∈ b, isBlank c = true

/-- A new line, and the blanks at its start. -/
def indent (width : Nat) : List Char := '\n' :: List.replicate width ' '

theorem isBlanks_nil : IsBlanks [] := by simp [IsBlanks]

theorem isBlanks_space : IsBlanks [' '] := by simp [IsBlanks, isBlank]

theorem isBlanks_indent (width : Nat) : IsBlanks (indent width) := by
  intro c hc
  rcases List.mem_cons.1 hc with rfl | hc
  · rfl
  · rw [List.eq_of_mem_replicate hc]
    rfl

theorem skipBlank_append {b : List Char} (hb : IsBlanks b) {c : Char} (hc : isBlank c = false)
    (s : List Char) : ∃ h, skipBlank (b ++ c :: s) = ⟨c :: s, h⟩ := by
  have e : (b ++ c :: s).dropWhile isBlank = c :: s := by
    rw [List.dropWhile_append_of_pos hb, List.dropWhile_cons_of_neg (by simp [hc])]
  exact ⟨by simp, Subtype.ext e⟩

/-- Items that stand after the first one, each after a comma and the blanks `b`. -/
def following (b : List Char) (items : List (List Char)) : List Char :=
  items.flatMap fun item => ',' :: b ++ item

theorem block_cons (opening closing : Char) (column : Nat) (item : List Char)
    (items : List (List Char)) (rest : List Char) :
    block opening closing column (item :: items) ++ rest =
      opening :: (indent (column + 2) ++ (item ++ (following (indent (column + 2)) items
        ++ (indent column ++ closing :: rest)))) := by
  have h (first : List Char) :
      List.intercalate [','] (first :: items.map fun item => indent (column + 2) ++ item) =
        first ++ following (indent (column + 2)) items := by
    induction items generalizing first with
    | nil => simp [following]
    | cons item items ih => simp [ih, following]
  have e : block opening closing column (item :: items) = opening :: List.intercalate [',']
      ((indent (column + 2) ++ item) :: items.map fun item => indent (column + 2) ++ item)
        ++ indent column ++ [closing] := rfl
  rw [e, h]
  simp

end FieldPattern.Json
