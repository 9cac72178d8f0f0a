/-! # Texts from bytes

Files and the output of programs are bytes, which ought to be UTF-8.

* `strict?` refuses bytes that are not the encoding of a text.
* `lossy` reads any bytes.  Where no character can be read it puts `U+FFFD`, once for each
  longest run of bytes that starts a character and breaks off, and once for each byte that can
  start none. -/

namespace FieldPattern.Text

/-- The text that the bytes encode, if they encode one. -/
def strict? (bytes : ByteArray) : Option String := String.fromUTF8? bytes

/-- Whether `b` lies between `low` and `high`. -/
def within (low high : Nat) (b : UInt8) : Bool := low ≤ b.toNat && b.toNat ≤ high

/-- The low six bits of a byte that continues a character. -/
def sixBits (b : UInt8) : Nat := b.toNat % 64

/-- The bounds of the second byte after the first byte `b` of three or four. -/
def secondBounds (b : UInt8) : Nat × Nat :=
  if b = 0xE0 then (0xA0, 0xBF)
  else if b = 0xED then (0x80, 0x9F)
  else if b = 0xF0 then (0x90, 0xBF)
  else if b = 0xF4 then (0x80, 0x8F)
  else (0x80, 0xBF)

/-- The characters that the bytes encode, with `U+FFFD` where they encode none. -/
def lossyChars : List UInt8 → List Char
  | [] => []
  | b :: rest =>
      let (low, high) := secondBounds b
      if b < 0x80 then Char.ofNat b.toNat :: lossyChars rest
      else if within 0xC2 0xDF b then
        match rest with
        | [] => ['\ufffd']
        | b₁ :: rest₁ =>
            if within 0x80 0xBF b₁ then
              Char.ofNat (b.toNat % 32 * 64 + sixBits b₁) :: lossyChars rest₁
            else '\ufffd' :: lossyChars (b₁ :: rest₁)
      else if within 0xE0 0xEF b then
        match rest with
        | [] => ['\ufffd']
        | b₁ :: rest₁ =>
            if within low high b₁ then
              match rest₁ with
              | [] => ['\ufffd']
              | b₂ :: rest₂ =>
                  if within 0x80 0xBF b₂ then
                    Char.ofNat ((b.toNat % 16 * 64 + sixBits b₁) * 64 + sixBits b₂)
                      :: lossyChars rest₂
                  else '\ufffd' :: lossyChars (b₂ :: rest₂)
            else '\ufffd' :: lossyChars (b₁ :: rest₁)
      else if within 0xF0 0xF4 b then
        match rest with
        | [] => ['\ufffd']
        | b₁ :: rest₁ =>
            if within low high b₁ then
              match rest₁ with
              | [] => ['\ufffd']
              | b₂ :: rest₂ =>
                  if within 0x80 0xBF b₂ then
                    match rest₂ with
                    | [] => ['\ufffd']
                    | b₃ :: rest₃ =>
                        if within 0x80 0xBF b₃ then
                          Char.ofNat (((b.toNat % 8 * 64 + sixBits b₁) * 64 + sixBits b₂) * 64
                            + sixBits b₃) :: lossyChars rest₃
                        else '\ufffd' :: lossyChars (b₃ :: rest₃)
                  else '\ufffd' :: lossyChars (b₂ :: rest₂)
            else '\ufffd' :: lossyChars (b₁ :: rest₁)
      else '\ufffd' :: lossyChars rest
termination_by bytes => bytes.length

/-- The text that the bytes encode, with `U+FFFD` where they encode none. -/
def lossy (bytes : ByteArray) : String := String.ofList (lossyChars bytes.toList)

end FieldPattern.Text
