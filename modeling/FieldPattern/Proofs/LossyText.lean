import FieldPattern.Text.Utf8
import Mathlib.Tactic.Common

/-! # Reading the bytes of a text

`Text.lossy` reads any bytes.  Of the bytes of a text it reads this text (`lossy_toUTF8`), so
nothing is replaced there.

A character has up to four bytes, and there is one lemma for each number of them.  It takes the
bytes from the number `n` of the character and says that this character is read.  The bounds of a
second byte exclude what could be written shorter, surrogates, and what lies beyond the last
character; none of these is the number of a character with so many bytes. -/

namespace FieldPattern.Text

variable {b b₁ b₂ b₃ : UInt8} {low high low' high' n : Nat}

/-! ### Bytes within bounds -/

theorem within_iff : within low high b = true ↔ low ≤ b.toNat ∧ b.toNat ≤ high := by
  simp [within]

theorem not_ascii_of_within (h : within low high b = true) (hlow : 0x80 ≤ low) : ¬ b < 0x80 :=
  Nat.not_lt.2 (Nat.le_trans hlow (within_iff.1 h).1)

theorem not_within_of_within (h : within low high b = true) (hlt : high' < low) :
    within low' high' b = false := by
  have hbounds := within_iff.1 h
  rw [← Bool.not_eq_true, within_iff]
  omega

theorem within_secondBounds_iff : within (secondBounds b).1 (secondBounds b).2 b₁ = true ↔
    (0x80 ≤ b₁.toNat ∧ b₁.toNat ≤ 0xBF) ∧ (b.toNat = 0xE0 → 0xA0 ≤ b₁.toNat) ∧
      (b.toNat = 0xED → b₁.toNat ≤ 0x9F) ∧ (b.toNat = 0xF0 → 0x90 ≤ b₁.toNat) ∧
      (b.toNat = 0xF4 → b₁.toNat ≤ 0x8F) := by
  simp only [secondBounds, ← UInt8.toNat_inj, UInt8.reduceToNat]
  split_ifs <;> rw [within_iff] <;> simp only <;> omega

/-! ### Characters -/

theorem lossyChars_one (hb : b.toNat = n) (hn : n < 0x80) (rest : List UInt8) :
    lossyChars (b :: rest) = Char.ofNat n :: lossyChars rest := by
  have hascii : b < 0x80 := by
    rw [← hb] at hn
    exact hn
  rw [lossyChars.eq_def]
  simp only [hascii, hb, if_true]

theorem lossyChars_two (hb : b.toNat = n / 64 % 32 + 0xC0) (hb₁ : b₁.toNat = n % 64 + 0x80)
    (hn : 0x80 ≤ n ∧ n < 0x800) (rest : List UInt8) :
    lossyChars (b :: b₁ :: rest) = Char.ofNat n :: lossyChars rest := by
  have h : within 0xC2 0xDF b = true := within_iff.2 (by omega)
  have h₁ : within 0x80 0xBF b₁ = true := within_iff.2 (by omega)
  have hascii := not_ascii_of_within h (by decide)
  have hchar : b.toNat % 32 * 64 + sixBits b₁ = n := by
    rw [sixBits]
    omega
  rw [lossyChars.eq_def]
  simp only [hascii, h, h₁, hchar, if_true, if_false]

theorem lossyChars_three (hb : b.toNat = n / 4096 % 16 + 0xE0)
    (hb₁ : b₁.toNat = n / 64 % 64 + 0x80) (hb₂ : b₂.toNat = n % 64 + 0x80)
    (hn : 0x800 ≤ n ∧ n < 0x10000) (hsurrogate : n < 0xD800 ∨ 0xDFFF < n) (rest : List UInt8) :
    lossyChars (b :: b₁ :: b₂ :: rest) = Char.ofNat n :: lossyChars rest := by
  have h : within 0xE0 0xEF b = true := within_iff.2 (by omega)
  have h₁ : within (secondBounds b).1 (secondBounds b).2 b₁ = true :=
    within_secondBounds_iff.2 (by omega)
  have h₂ : within 0x80 0xBF b₂ = true := within_iff.2 (by omega)
  have hascii := not_ascii_of_within h (by decide)
  have htwo : within 0xC2 0xDF b = false := not_within_of_within h (by decide)
  have hchar : (b.toNat % 16 * 64 + sixBits b₁) * 64 + sixBits b₂ = n := by
    rw [sixBits, sixBits]
    omega
  rw [lossyChars.eq_def]
  simp only [hascii, htwo, h, h₁, h₂, hchar, if_true, if_false, Bool.false_eq_true]

theorem lossyChars_four (hb : b.toNat = n / 262144 % 8 + 0xF0)
    (hb₁ : b₁.toNat = n / 4096 % 64 + 0x80) (hb₂ : b₂.toNat = n / 64 % 64 + 0x80)
    (hb₃ : b₃.toNat = n % 64 + 0x80) (hn : 0x10000 ≤ n ∧ n < 0x110000) (rest : List UInt8) :
    lossyChars (b :: b₁ :: b₂ :: b₃ :: rest) = Char.ofNat n :: lossyChars rest := by
  have h : within 0xF0 0xF4 b = true := within_iff.2 (by omega)
  have h₁ : within (secondBounds b).1 (secondBounds b).2 b₁ = true :=
    within_secondBounds_iff.2 (by omega)
  have h₂ : within 0x80 0xBF b₂ = true := within_iff.2 (by omega)
  have h₃ : within 0x80 0xBF b₃ = true := within_iff.2 (by omega)
  have hascii := not_ascii_of_within h (by decide)
  have htwo : within 0xC2 0xDF b = false := not_within_of_within h (by decide)
  have hthree : within 0xE0 0xEF b = false := not_within_of_within h (by decide)
  have hchar : ((b.toNat % 8 * 64 + sixBits b₁) * 64 + sixBits b₂) * 64 + sixBits b₃ = n := by
    rw [sixBits, sixBits, sixBits]
    omega
  rw [lossyChars.eq_def]
  simp only [hascii, htwo, hthree, h, h₁, h₂, h₃, hchar, if_true, if_false, Bool.false_eq_true]

/-- The number of a byte with a mark above some bits of `n`. -/
theorem toNat_marked (n k mark : Nat) (h : k + mark ≤ 256) (hk : 0 < k) :
    (UInt8.ofNat (n % k + mark)).toNat = n % k + mark := by
  have hlt := Nat.mod_lt n hk
  exact UInt8.toNat_ofNat_of_lt' (show n % k + mark < 256 by omega)

theorem toNat_continuing (n : Nat) : (UInt8.ofNat (n % 64 + 0x80)).toNat = n % 64 + 0x80 :=
  toNat_marked n 64 0x80 (by decide) (by decide)

/-- The bytes of a character are read as this character. -/
theorem lossyChars_utf8EncodeChar (c : Char) (rest : List UInt8) :
    lossyChars (String.utf8EncodeChar c ++ rest) = c :: lossyChars rest := by
  -- Three bytes would also hold a surrogate, and four a number beyond the last character.
  have hvalid : c.toNat < 0xD800 ∨ 0xDFFF < c.toNat ∧ c.toNat < 0x110000 := c.valid
  have hread : Char.ofNat c.toNat :: lossyChars rest = c :: lossyChars rest := by
    rw [Char.ofNat_toNat]
  simp only [String.utf8EncodeChar, Char.toNat_val]
  split_ifs with hone htwo hthree <;> refine Eq.trans ?_ hread
  · exact lossyChars_one (UInt8.toNat_ofNat_of_lt' (show c.toNat < 256 by omega)) (by omega) rest
  · exact lossyChars_two (toNat_marked _ 32 0xC0 (by decide) (by decide)) (toNat_continuing _)
      (by omega) rest
  · exact lossyChars_three (toNat_marked _ 16 0xE0 (by decide) (by decide)) (toNat_continuing _)
      (toNat_continuing _) (by omega) (by omega) rest
  · exact lossyChars_four (toNat_marked _ 8 0xF0 (by decide) (by decide)) (toNat_continuing _)
      (toNat_continuing _) (toNat_continuing _) (by omega) rest

/-! ### Texts -/

theorem lossyChars_flatMap (cs : List Char) :
    lossyChars (cs.flatMap String.utf8EncodeChar) = cs := by
  induction cs with
  | nil => rw [List.flatMap_nil, lossyChars]
  | cons c cs ih => rw [List.flatMap_cons, lossyChars_utf8EncodeChar, ih]

theorem toList_loop (bytes : ByteArray) (i : Nat) (before : List UInt8) :
    ByteArray.toList.loop bytes i before = before.reverse ++ bytes.data.toList.drop i := by
  fun_induction ByteArray.toList.loop bytes i before with
  | case1 i before hlt ih =>
      have hlength : i < bytes.data.toList.length := hlt
      have hget : bytes.get! i = bytes.data.toList[i] := getElem!_pos bytes.data i hlt
      rw [ih, List.drop_eq_getElem_cons hlength, List.reverse_cons, List.append_assoc, hget]
      rfl
  | case2 i before hge =>
      rw [List.drop_eq_nil_of_le (Nat.le_of_not_lt hge), List.append_nil]

theorem toList_toUTF8 (text : String) :
    text.toUTF8.toList = text.toList.flatMap String.utf8EncodeChar := by
  have hbytes : text.toUTF8 = text.toList.utf8Encode := by
    rw [String.toUTF8_eq_toByteArray, String.utf8Encode_toList]
  rw [hbytes, ByteArray.toList, toList_loop, List.utf8Encode, List.toList_data_toByteArray]
  rfl

/-- The bytes of a text are read as this text. -/
theorem lossy_toUTF8 (text : String) : lossy text.toUTF8 = text := by
  rw [lossy, toList_toUTF8, lossyChars_flatMap, String.ofList_toList]

end FieldPattern.Text
