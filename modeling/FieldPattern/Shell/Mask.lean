import FieldPattern.Shell.Number

/-! # Masks

A mask holds the permissions that new files do not get.  There are nine permissions: to read,
to write and to run a file, for its user, its group and others.  As a number of three octal
digits, one for each of them, the mask has the permissions to read, write and run as the values
`4`, `2` and `1`.

A mask can be given by what is allowed, in clauses with commas between them.  A clause names the
users, or all of them if it names none, and says after `+`, `-` or `=` what they get, lose or have:
permissions, or what other users were allowed before (`Mask.read?`). -/

namespace FieldPattern.Shell.Mask

/-- All permissions. -/
def all : Nat := 511

/-- The permissions that a mask leaves, and the mask that leaves permissions. -/
def opposite (mask : Nat) : Nat := all - mask % 512

/-- The three values of a digit, each with its letter. -/
def letters : List (Nat × Char) := [(4, 'r'), (2, 'w'), (1, 'x')]

/-- The letters of the permissions in a digit. -/
def spellDigit (digit : Nat) : String :=
  String.ofList ((letters.filter fun p => digit / p.1 % 2 = 1).map Prod.snd)

/-- What a mask leaves, in letters. -/
def spell (mask : Nat) : String :=
  let left := opposite mask
  "u=" ++ spellDigit (left / 64 % 8) ++ ",g=" ++ spellDigit (left / 8 % 8)
    ++ ",o=" ++ spellDigit (left % 8)

/-- The mask as four octal digits. -/
def digits (mask : Nat) : String :=
  let ds := Nat.toDigits 8 mask
  String.ofList (List.replicate (4 - ds.length) '0' ++ ds)

/-- The mask that octal digits write. -/
def ofDigits? (s : List Char) : Option Nat :=
  if s.all fun c => '0' ≤ c && c < '8' then some (numberIn 8 s % 512) else none

/-- The users that a letter names, as the unit of their digits. -/
def users? (c : Char) : Option Nat :=
  if c = 'a' then some 73
  else if c = 'u' then some 64
  else if c = 'g' then some 8
  else if c = 'o' then some 1
  else none

/-- The value of a letter after the sign of a clause, where `before` was allowed. -/
def value? (before : Nat) (c : Char) : Option Nat :=
  if c = 'r' then some 4
  else if c = 'w' then some 2
  else if c = 'x' then some 1
  else if c = 'u' then some (before / 64 % 8)
  else if c = 'g' then some (before / 8 % 8)
  else if c = 'o' then some (before % 8)
  else if c = 'X' then some (if before &&& 73 = 0 then 0 else 1)
  else if c = 's' then some 0
  else none

/-- Whether a character is the sign of a clause. -/
def isSign (c : Char) : Bool := c == '+' || c == '-' || c == '='

/-- What is allowed after clauses, where `before` was allowed before all of them and `now` before
these; `chosen` are the users that the clause has named in front of an earlier sign.  The first
argument bounds the number of clauses. -/
def allow? (before : Nat) : Nat → Nat → Nat → List Char → Option Nat
  | 0, now, _, s => if s.isEmpty then some now else none
  | n + 1, now, chosen, s =>
      if s.isEmpty then some now
      else
        let named := s.takeWhile fun c => (users? c).isSome
        let chosen := named.foldl (fun k c => k ||| (users? c).getD 0) chosen
        let chosen := if chosen = 0 then 73 else chosen
        match s.drop named.length with
        | [] => some now
        | sign :: rest =>
            if !isSign sign then none
            else
              let given := rest.takeWhile fun c => (value? before c).isSome
              let digit := given.foldl (fun k c => k ||| (value? before c).getD 0) 0
              let bits := digit * chosen
              let kept := now &&& opposite (7 * chosen)
              let now := if sign = '+' then now ||| bits
                else if sign = '-' then now &&& opposite bits
                else kept ||| bits
              match rest.drop given.length with
              | [] => some now
              | ',' :: rest => allow? before n now 0 rest
              | c :: rest => if isSign c then allow? before n now chosen (c :: rest) else none

/-- The mask after what a text allows; the second argument is the mask before. -/
def read? (s : List Char) (mask : Nat) : Option Nat :=
  (allow? (opposite mask) s.length.succ (opposite mask) 0 s).map opposite

end FieldPattern.Shell.Mask
