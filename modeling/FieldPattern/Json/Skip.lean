import FieldPattern.Json.Number
import FieldPattern.Json.Text

/-! # Skipping JSON values

Members with unknown names are skipped.  Their values are checked for form only, and may be
nested to any depth: the brackets that are still open are kept on a stack, the innermost first.

* Strings have to end and hold no bare control; of an escape only the letter and the number of
  hexadecimal digits are checked, so surrogates need not come in pairs.
* `skip` is a loop with three modes: a value is due (`value`), a bracket has just been opened
  (`opened`), or a value has just ended (`ended`).  Each round reads a character or leaves the
  mode `opened` for `value`. -/

namespace FieldPattern.Json

/-- Skip what follows the backslash of an escape. -/
def skipEscape (s : List Char) : Except Fault (Shorter s) :=
  match s with
  | [] => .error (.before .endInText [])
  | c :: rest =>
      if (escapeLetter? c).isSome then .ok (.tail c rest)
      else if c = 'u' then do
        let (_, r) ← readHex rest
        return .after c r.remaining
      else .error (.after .invalidEscape (c :: rest))

/-- Skip a string from after its opening quotation mark through its closing one. -/
def skipText (s : List Char) : Except Fault (Shorter s) :=
  match s with
  | [] => .error (.before .endInText [])
  | c :: rest =>
      if c = '"' then .ok (.tail c rest)
      else if c = '\\' then do
        let r ← skipEscape rest
        let r' ← skipText r.val
        return .after c (r.again r').remaining
      else if c.toNat < 0x20 then .error (.before .controlCharacter (c :: rest))
      else do
        let r ← skipText rest
        return .after c r.remaining
termination_by s.length
decreasing_by
  · have := r.property
    simp
    omega
  · simp

/-- Read the letters of `null`, `true` or `false` that follow the first one. -/
def readWord : List Char → (s : List Char) → Except Fault (Remaining s)
  | [], s => .ok ⟨s, Nat.le_refl _⟩
  | _ :: _, [] => .error (.before .endInValue [])
  | letter :: word, c :: rest =>
      if c = letter then do
        let r ← readWord word rest
        return ⟨r.val, by have := r.property; simp; omega⟩
      else .error (.after .expectedWord (c :: rest))

/-- Read a `:`. -/
def readColon (s : List Char) : Except Fault (Shorter s) :=
  match skipBlank s with
  | ⟨[], _⟩ => .error (.after .endInMap [])
  | ⟨':' :: rest, h⟩ => .ok ⟨rest, by simp at h; omega⟩
  | ⟨s, _⟩ => .error (.after .expectedColon s)

/-- A bracket that is open. -/
inductive Bracket where
  | list
  | map
deriving DecidableEq, Repr

namespace Bracket

/-- The character that closes the bracket. -/
def close : Bracket → Char
  | list => ']'
  | map => '\x7d'

/-- The cause when the text ends inside the bracket. -/
def ending : Bracket → Cause
  | list => .endInList
  | map => .endInMap

/-- The cause when neither a comma nor the closing character follows a value. -/
def missingComma : Bracket → Cause
  | list => .expectedCommaOrListEnd
  | map => .expectedCommaOrMapEnd

end Bracket

/-- A value that holds no others, or an opening bracket; what follows it is shorter. -/
def skipAtom (s : List Char) : Except Fault (Option Bracket × Shorter s) :=
  match s with
  | [] => .error (.after .endInValue [])
  | c :: rest =>
      let word (letters : List Char) : Except Fault (Option Bracket × Shorter (c :: rest)) := do
        let r ← readWord letters rest
        return (none, .after c r)
      if c = 'n' then word ['u', 'l', 'l']
      else if c = 't' then word ['r', 'u', 'e']
      else if c = 'f' then word ['a', 'l', 's', 'e']
      else if c = '[' then .ok (some .list, .tail c rest)
      else if c = '{' then .ok (some .map, .tail c rest)
      else if c = '"' then do
        let r ← skipText rest
        return (none, .after c r.remaining)
      else if c = '-' then
        match h : Number.skip rest with
        | .error fault => .error fault
        | .ok r => .ok (none, .after c ⟨r, Nat.le_of_lt (Number.skip_length_lt h)⟩)
      else if c.isDigit then
        match h : Number.skip (c :: rest) with
        | .error fault => .error fault
        | .ok r => .ok (none, ⟨r, Number.skip_length_lt h⟩)
      else .error (.after .expectedValue (c :: rest))

/-- Read what stands before a value inside a bracket: the name and the `:` of a member, and
nothing in a list. -/
def skipName (b : Bracket) (s : List Char) : Except Fault (Remaining s) :=
  match b with
  | .list => .ok ⟨s, Nat.le_refl _⟩
  | .map =>
      match skipBlank s with
      | ⟨[], _⟩ => .error (.after .endInMap [])
      | ⟨'"' :: rest, h⟩ => do
          let r ← skipText rest
          let r' ← readColon r.val
          return ⟨r'.val, by
            have := r.property; have := r'.property; simp at h; omega⟩
      | ⟨s, _⟩ => .error (.after .keyNotText s)

/-- What the loop of `skip` waits for. -/
inductive Mode where
  | ended
  | value
  | opened
deriving DecidableEq, Repr

/-- The modes in the order in which a round without progress may pass them. -/
def Mode.rank : Mode → Nat
  | ended => 0
  | value => 1
  | opened => 2

/-- Skip until no bracket of the stack is open. -/
def skipLoop (mode : Mode) (stack : List Bracket) (s : List Char) : Except Fault (Remaining s) :=
  match mode, stack with
  | .value, stack => do
      let start := skipBlank s
      let (bracket, r) ← skipAtom start.val
      let r' ← skipLoop (if bracket.isSome then .opened else .ended) (bracket.toList ++ stack) r.val
      return ⟨r'.val, by
        have := start.property; have := r.property; have := r'.property; omega⟩
  | .ended, [] => .ok ⟨s, Nat.le_refl _⟩
  | .ended, b :: stack =>
      match skipBlank s with
      | ⟨[], _⟩ => .error (.after b.ending [])
      | ⟨c :: rest, h⟩ =>
          if c = ',' then do
            let r ← skipName b rest
            let r' ← skipLoop .value (b :: stack) r.val
            return ⟨r'.val, by
              have := r.property; have := r'.property; simp at h; omega⟩
          else if c = b.close then do
            let r ← skipLoop .ended stack rest
            return ⟨r.val, by have := r.property; simp at h; omega⟩
          else .error (.after b.missingComma (c :: rest))
  | .opened, [] => .ok ⟨s, Nat.le_refl _⟩
  | .opened, b :: stack =>
      match skipBlank s with
      | ⟨[], _⟩ => .error (.after b.ending [])
      | ⟨c :: rest, h⟩ =>
          if c = b.close then do
            let r ← skipLoop .ended stack rest
            return ⟨r.val, by have := r.property; simp at h; omega⟩
          else do
            let r ← skipName b (c :: rest)
            let r' ← skipLoop .value (b :: stack) r.val
            return ⟨r'.val, by have := r.property; have := r'.property; omega⟩
termination_by (s.length, mode.rank)
decreasing_by
  all_goals simp only [Prod.lex_def]
  · have := start.property
    have := r.property
    omega
  · have := r.property
    simp at h
    omega
  · simp at h
    omega
  · simp at h
    omega
  · have := r.property
    simp only [Mode.rank]
    omega

/-- Skip a value. -/
def skip (s : List Char) : Except Fault (Remaining s) := skipLoop .value [] s

end FieldPattern.Json
