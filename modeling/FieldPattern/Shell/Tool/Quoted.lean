import FieldPattern.Shell.Escape

/-! # Words of arguments in reports

A tool that reports an argument shows it in one of two ways: between quotation marks with escapes
in it (`escaped`), or as a word that a shell would read back (`word`), which has marks only where
it needs them or where they are asked for. -/

namespace FieldPattern.Shell.Tool.Quoted

/-- The escape of a byte that cannot be shown: a letter, or three octal digits. -/
def escape (c : Char) : List Char :=
  match "abtnvfr".toList.find? fun letter => Escape.letter? letter == some c with
  | some letter => ['\\', letter]
  | none =>
      let ds := Nat.toDigits 8 c.toNat
      '\\' :: (List.replicate (3 - ds.length) '0' ++ ds)

/-- Whether a byte can be shown. -/
def isShown (c : Char) : Bool := ' ' ≤ c && c ≤ '~'

/-- An argument between quotation marks, with escapes. -/
def escaped (s : String) : String :=
  let body := s.toList.flatMap fun c =>
    if c == '\\' || c == '\'' then ['\\', c] else if isShown c then [c] else escape c
  "'" ++ String.ofList body ++ "'"

/-- Whether a character at a place of a word means something to a shell. -/
def isSpecial (alone : Bool) (place : Nat) (c : Char) : Bool :=
  " !\"$&'()*:;<=>?[\\^|".toList.contains c || c.toNat = 0x60
    || (place = 0 && (c == '#' || c == '~')) || (alone && (c == '\x7b' || c == '\x7d'))

/-- Whether a character at a place of a word means the same between double quotation marks. -/
def isPlain (place : Nat) (c : Char) : Bool :=
  c.isAlphanum || " '%+,-./:]_".toList.contains c || (place = 0 && (c == '#' || c == '~'))

/-- The inside of a word between single quotation marks; `escaping` says that a part with escapes
stands before it. -/
def inside (escaping : Bool) : List Char → List Char
  | [] => []
  | c :: rest =>
      if isShown c then
        (if escaping then ['\'', '\''] else [])
          ++ (if c == '\'' then "'\\''".toList else [c]) ++ inside false rest
      else (if escaping then [] else "'$'".toList) ++ escape c ++ inside true rest

/-- An argument as a word of a shell; `always` asks for quotation marks. -/
def word (always : Bool) (s : String) : String :=
  let placed := s.toList.zipIdx
  let special := placed.any fun (c, k) => isSpecial (s.length == 1) k c || !isShown c
  if !always && !special && !s.isEmpty then s
  else if s.toList.contains '\'' && placed.all fun (c, k) => isPlain k c then "\"" ++ s ++ "\""
  else "'" ++ String.ofList (inside false s.toList) ++ "'"

end FieldPattern.Shell.Tool.Quoted
