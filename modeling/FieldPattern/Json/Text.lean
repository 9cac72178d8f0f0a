import FieldPattern.Json.Fault

/-! # JSON strings

`encode` writes a text between quotation marks.  It escapes the quotation mark, the backslash
and the controls below the space, the latter by a letter where JSON has one and otherwise as
`\u00` and two lower-case digits; all other characters stand for themselves.

`decode` reads what follows the opening quotation mark, through the closing one.  It accepts
every escape of JSON.  Characters beyond `U+FFFF` are escaped as a pair of surrogates; a
surrogate that is not part of a pair is refused, and so is a bare control. -/

namespace FieldPattern.Json

/-! ### Writing -/

/-- A hexadecimal digit, in lower case. -/
def hexDigit (n : Nat) : Char := if n < 10 then Char.ofNat (0x30 + n) else Char.ofNat (0x57 + n)

/-- How `c` is written inside a string. -/
def encodeChar (c : Char) : List Char :=
  if c = '"' then ['\\', '"']
  else if c = '\\' then ['\\', '\\']
  else if c = '\x08' then ['\\', 'b']
  else if c = '\x0c' then ['\\', 'f']
  else if c = '\n' then ['\\', 'n']
  else if c = '\r' then ['\\', 'r']
  else if c = '\t' then ['\\', 't']
  else if c.toNat < 0x20 then
    ['\\', 'u', '0', '0', hexDigit (c.toNat / 16), hexDigit (c.toNat % 16)]
  else [c]

/-- `s` as a JSON string. -/
def encode (s : String) : List Char := '"' :: s.toList.flatMap encodeChar ++ ['"']

/-! ### Reading -/

/-- The value of a hexadecimal digit. -/
def hexValue? (c : Char) : Option Nat :=
  let n := c.toNat
  if 0x30 ≤ n ∧ n ≤ 0x39 then some (n - 0x30)
  else if 0x61 ≤ n ∧ n ≤ 0x66 then some (n - 0x57)
  else if 0x41 ≤ n ∧ n ≤ 0x46 then some (n - 0x37)
  else none

/-- Read four hexadecimal digits.  Four bytes are needed whatever they hold. -/
def readHex (s : List Char) : Except Fault (Nat × Shorter s) :=
  match s with
  | a :: b :: c :: d :: rest =>
      match hexValue? a, hexValue? b, hexValue? c, hexValue? d with
      | some a', some b', some c', some d' =>
          .ok (((a' * 16 + b') * 16 + c') * 16 + d', ⟨rest, by simp; omega⟩)
      | _, _, _, _ => .error ⟨.invalidEscape, a :: b :: c :: d :: rest, 4⟩
  | s => .error (if byteCount s < 4 then .before .endInText [] else ⟨.invalidEscape, s, 4⟩)

/-- Whether `n` is the first half of a pair. -/
def isHigh (n : Nat) : Bool := 0xD800 ≤ n && n ≤ 0xDBFF

/-- Whether `n` is the second half of a pair. -/
def isLow (n : Nat) : Bool := 0xDC00 ≤ n && n ≤ 0xDFFF

/-- Read the digits of a `\u` escape, and the second escape of a pair. -/
def readUnicode (s : List Char) : Except Fault (Char × Shorter s) := do
  let (high, r) ← readHex s
  if isLow high then .error (.before .loneSurrogate r.val)
  else if !isHigh high then .ok (Char.ofNat high, r)
  else
    match r with
    | ⟨[], _⟩ => .error (.before .endInText [])
    | ⟨'\\' :: [], _⟩ => .error (.before .endInText [])
    | ⟨'\\' :: 'u' :: r, hr⟩ => do
        let (low, r') ← readHex r
        if isLow low then
          .ok (Char.ofNat ((high - 0xD800) * 0x400 + (low - 0xDC00) + 0x10000),
            ⟨r'.val, by have := r'.property; simp at hr; omega⟩)
        else .error (.before .loneSurrogate r'.val)
    | ⟨'\\' :: r, _⟩ => .error (.after .unfinishedPair r)
    | ⟨r, _⟩ => .error (.after .unfinishedPair r)

/-- The character of a one-letter escape. -/
def escapeLetter? (c : Char) : Option Char :=
  if c = '"' ∨ c = '\\' ∨ c = '/' then some c
  else if c = 'b' then some '\x08'
  else if c = 'f' then some '\x0c'
  else if c = 'n' then some '\n'
  else if c = 'r' then some '\r'
  else if c = 't' then some '\t'
  else none

/-- Read what follows the backslash of an escape. -/
def readEscape (s : List Char) : Except Fault (Char × Shorter s) :=
  match s with
  | [] => .error (.before .endInText [])
  | c :: rest =>
      match escapeLetter? c with
      | some c' => .ok (c', ⟨rest, by simp⟩)
      | none =>
          if c = 'u' then do
            let (c', r) ← readUnicode rest
            return (c', ⟨r.val, by have := r.property; simp; omega⟩)
          else .error (.after .invalidEscape (c :: rest))

/-- Read a string from after its opening quotation mark through its closing one. -/
def decode (s : List Char) : Except Fault (List Char × Shorter s) :=
  match s with
  | [] => .error (.before .endInText [])
  | c :: rest =>
      if c = '"' then .ok ([], ⟨rest, by simp⟩)
      else if c = '\\' then do
        let (c', r) ← readEscape rest
        let (text, r') ← decode r.val
        return (c' :: text,
          ⟨r'.val, by have := r.property; have := r'.property; simp; omega⟩)
      else if c.toNat < 0x20 then .error (.after .controlCharacter (c :: rest))
      else do
        let (text, r) ← decode rest
        return (c :: text, ⟨r.val, by have := r.property; simp; omega⟩)
termination_by s.length
decreasing_by
  · have := r.property
    simp
    omega
  · simp

end FieldPattern.Json
