import FieldPattern.Shell.Number

/-! # Escapes

In what `echo` and `printf` write, a backslash starts an escape: a letter for a control, or
digits for a byte.  There are four dialects (`EscapeStyle`).  A backslash that starts no escape
stands for itself. -/

namespace FieldPattern.Shell

/-- The dialects of escapes. -/
inductive EscapeStyle where
  /-- In a format: up to three octal digits are a byte. -/
  | format
  /-- In an argument: octal digits may follow a `0` that does not count, and `\c` ends the
  output. -/
  | argument
  /-- For a program: as in an argument, and `\x` with hexadecimal digits. -/
  | program
  /-- In a format for a program: as in a format, with `\c`, `\x` and `\"`. -/
  | programFormat
deriving DecidableEq, Repr

namespace Escape

/-- The byte of an escape letter. -/
def letter? (c : Char) : Option Char :=
  if c = 'a' then some '\x07'
  else if c = 'b' then some '\x08'
  else if c = 't' then some '\t'
  else if c = 'n' then some '\n'
  else if c = 'v' then some '\x0b'
  else if c = 'f' then some '\x0c'
  else if c = 'r' then some '\r'
  else if c = 'e' then some '\x1b'
  else if c = '\\' then some '\\'
  else none

/-- The byte that digits write in a base. -/
def byte (base : Nat) (digits : List Char) : Char := charOf (UInt8.ofNat (numberIn base digits))

/-- The byte of at most `count` digits at the start of a text, and what follows them. -/
def digits (base count : Nat) (s : List Char) : Char × List Char :=
  let ds := (s.take count).takeWhile (isDigitIn base)
  (byte base ds, s.drop ds.length)

/-- Read what follows a backslash: the characters, or nothing if the output ends here. -/
def read (style : EscapeStyle) (s : List Char) : Option (List Char) × List Char :=
  match s with
  | [] => (some ['\\'], [])
  | c :: rest =>
      match letter? c with
      | some b => (some [b], rest)
      | none =>
          if style ≠ .format ∧ c = 'c' then (none, rest)
          else if (style = .argument ∨ style = .program) ∧ c = '0' then
            let (b, rest) := digits 8 3 rest
            (some [b], rest)
          else if isDigitIn 8 c then
            let (b, rest) := digits 8 3 s
            (some [b], rest)
          else if (style = .program ∨ style = .programFormat) ∧ c = 'x'
              ∧ rest.head?.any (isDigitIn 16) then
            let (b, rest) := digits 16 2 rest
            (some [b], rest)
          else if style = .programFormat ∧ c = '"' then (some ['"'], rest)
          else (some ['\\'], s)

/-- A text with its escapes replaced, and whether the output goes on after it.  The first
argument bounds the length. -/
def replaceWithin (style : EscapeStyle) : Nat → List Char → List Char × Bool
  | 0, _ => ([], true)
  | n + 1, s =>
      match s with
      | [] => ([], true)
      | '\\' :: rest =>
          match read style rest with
          | (none, _) => ([], false)
          | (some cs, rest) =>
              let (more, goesOn) := replaceWithin style n rest
              (cs ++ more, goesOn)
      | c :: rest =>
          let (more, goesOn) := replaceWithin style n rest
          (c :: more, goesOn)

/-- A text with its escapes replaced, and whether the output goes on after it. -/
def replace (style : EscapeStyle) (s : String) : List Char × Bool :=
  replaceWithin style s.length.succ s.toList

end Escape

namespace Echo

/-- The output of the shell's own `echo`. -/
def inShell (arguments : List String) : List Char :=
  let (newline, words) := match arguments with
    | "-n" :: rest => (false, rest)
    | words => (true, words)
  let (s, goesOn) := Escape.replace .argument (" ".intercalate words)
  if newline && goesOn then s ++ ['\n'] else s

/-- The output of the program `echo`, which knows options and leaves escapes alone unless `-e`
is among them. -/
def program (arguments : List String) : List Char :=
  let isOption (a : String) :=
    match a.toList with
    | '-' :: c :: cs => (c :: cs).all fun c => c == 'n' || c == 'e' || c == 'E'
    | _ => false
  let options := (arguments.takeWhile isOption).flatMap fun a => a.toList.drop 1
  let text := " ".intercalate (arguments.dropWhile isOption)
  let escapes := (options.filter fun c => c != 'n').getLast? == some 'e'
  let (s, goesOn) := if escapes then Escape.replace .program text else (text.toList, true)
  if options.contains 'n' || !goesOn then s else s ++ ['\n']

end Echo

end FieldPattern.Shell
