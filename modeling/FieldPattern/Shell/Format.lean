import FieldPattern.Shell.Escape
import FieldPattern.Shell.Real

/-! # Formats

`printf` writes its arguments as a format says.  A format is text with escapes and with
*directives*: a `%`, flags, a width, a number of places, and a letter for the kind of value.
Each directive takes the next argument; missing ones count as empty or `0`.  While arguments are
left, the format is started over.

Where an argument is no number, what is one at its start is used, and the argument is reported;
then the status is `1`.  A directive that is not known ends everything (`fatal`).

The command of the shell and the program differ in escapes and in how exactly they keep real
numbers (`Dialect`). -/

namespace FieldPattern.Shell

/-- What is wrong with an argument that ought to be a number. -/
inductive NumberFault where
  | notNumeric
  | incomplete
  | outOfRange
deriving DecidableEq, Repr

/-- An argument that is reported. -/
structure Complaint where
  argument : String
  fault : NumberFault
deriving DecidableEq, Repr

/-- What is wrong with a directive, which is shown as it is written. -/
inductive DirectiveFault where
  | unfinished (shown : String)
  | unknown (shown : String)
deriving DecidableEq, Repr

/-- What `printf` has written, and what it has to report. -/
structure Formatted where
  output : List Char
  complaints : List Complaint
  fatal : Option DirectiveFault
  /-- The arguments that the format does not ask for. -/
  unused : List String
deriving Repr

namespace Format

/-- How a `printf` reads escapes and keeps real numbers. -/
structure Dialect where
  inFormat : EscapeStyle
  inArgument : EscapeStyle
  precision : Real.Precision

/-- The command of the shell. -/
def Dialect.shell : Dialect := ⟨.format, .argument, .double⟩

/-- The program. -/
def Dialect.program : Dialect := ⟨.programFormat, .program, .extended⟩

/-- A directive: its flags, its width, its number of places, and its letter. -/
structure Directive where
  flags : List Char
  width : Nat
  places : Option Nat
  letter : Char
deriving Repr

namespace Directive

/-- Whether the directive has this flag. -/
def has (d : Directive) (flag : Char) : Bool := d.flags.contains flag

/-- A text with blanks up to the width. -/
def pad (d : Directive) (s : List Char) : List Char :=
  let blanks := List.replicate (d.width - s.length) ' '
  if d.has '-' then s ++ blanks else blanks ++ s

/-- A number: what stands before its digits, and its digits, with zeros or blanks up to the
width. -/
def padNumber (d : Directive) (zeros : Bool) (lead digits : List Char) : List Char :=
  if zeros && d.has '0' && !d.has '-' then
    lead ++ List.replicate (d.width - (lead.length + digits.length)) '0' ++ digits
  else d.pad (lead ++ digits)

/-- What stands before a number with a sign. -/
def signOf (d : Directive) (negative : Bool) : List Char :=
  if negative then ['-'] else if d.has '+' then ['+'] else if d.has ' ' then [' '] else []

/-- The digits of an integer, with as many zeros as the number of places asks for. -/
def digitsOf (d : Directive) (base n : Nat) : List Char :=
  let ds := if n = 0 ∧ d.places = some 0 then [] else Nat.toDigits base n
  List.replicate (d.places.getD 0 - ds.length) '0' ++ ds

/-- An integer with a sign. -/
def signed (d : Directive) (n : Int) : List Char :=
  d.padNumber d.places.isNone (d.signOf (n < 0)) (d.digitsOf 10 n.natAbs)

/-- An integer without a sign, in the base of the letter. -/
def unsigned (d : Directive) (n : Nat) : List Char :=
  let base := if d.letter = 'o' then 8 else if d.letter = 'u' then 10 else 16
  let ds := d.digitsOf base n
  let ds := if d.letter = 'X' then ds.map Char.toUpper else ds
  let ds := if base = 8 ∧ d.has '#' ∧ ds.head? ≠ some '0' then '0' :: ds else ds
  let lead := if base = 16 ∧ d.has '#' ∧ n ≠ 0 then ['0', d.letter] else []
  d.padNumber d.places.isNone lead ds

/-- A real number. -/
def real (d : Directive) (p : Real.Precision) (negative : Bool) (m : Real.Magnitude) :
    List Char :=
  let finite := match m with
    | .fraction .. => true
    | _ => false
  let mark := if finite && d.letter.toLower == 'a' then
      ['0', if d.letter.isUpper then 'X' else 'x'] else []
  d.padNumber finite (d.signOf negative ++ mark)
    (Real.render p d.letter d.places (d.has '#') m)

/-- A text, cut to the number of places. -/
def text (d : Directive) (s : List Char) : List Char :=
  d.pad (d.places.elim s s.take)

end Directive

/-- What is wrong with an argument that ought to be a number and of which `rest` is left. -/
def complaint? (argument : String) (inRange : Bool) (rest : List Char) : Option Complaint :=
  if rest.isEmpty then if inRange then none else some ⟨argument, .outOfRange⟩
  else some ⟨argument, if rest.length = argument.length then .notNumeric else .incomplete⟩

/-- The value of an argument that starts with a quotation mark: that of the byte after it. -/
def quotedValue? (argument : String) : Option Nat :=
  match argument.toList with
  | q :: rest => if q == '"' || q == '\'' then some ((rest.headD '\x00').toNat) else none
  | [] => none

/-- The integer that an argument writes, and the report on it. -/
def integer (isSigned : Bool) (argument : String) : Int × Option Complaint :=
  match quotedValue? argument with
  | some n => (n, none)
  | none =>
      match Integer.leadingUnbounded? false argument.toList with
      | none => (0, complaint? argument true argument.toList)
      | some (n, rest) =>
          if isSigned then (Integer.clamp n, complaint? argument (Integer.fits n) rest)
          else
            let limit : Int := (Nat.pow 2 64 : Nat)
            let inRange := -limit < n && n < limit
            (if inRange then n % limit else limit - 1, complaint? argument inRange rest)

/-- The real number that an argument writes, and the report on it. -/
def real (p : Real.Precision) (argument : String) :
    Bool × Real.Magnitude × Option Complaint :=
  match quotedValue? argument with
  | some n => (false, .fraction n 1, none)
  | none =>
      match Real.leading? p argument.toList with
      | none => (false, .fraction 0 1, complaint? argument true argument.toList)
      | some r => (r.negative, r.magnitude, complaint? argument r.inRange r.rest)

/-- What a directive writes for its argument, the report on it, and whether the output goes
on; nothing if the letter is not known. -/
def written? (dialect : Dialect) (d : Directive) (argument : Option String) :
    Option (List Char × Option Complaint × Bool) :=
  let a := argument.getD ""
  match d.letter with
  | 's' => some (d.text a.toList, none, true)
  | 'b' =>
      let (s, goesOn) := Escape.replace dialect.inArgument a
      some (d.text s, none, goesOn)
  | 'c' => some (d.pad [a.toList.headD '\x00'], none, true)
  | 'd' | 'i' =>
      let (n, complaint) := integer true a
      some (d.signed n, complaint, true)
  | 'o' | 'u' | 'x' | 'X' =>
      let (n, complaint) := integer false a
      some (d.unsigned n.toNat, complaint, true)
  | 'a' | 'A' | 'e' | 'E' | 'f' | 'F' | 'g' | 'G' =>
      let (negative, m, complaint) := real dialect.precision a
      some (d.real dialect.precision negative m, complaint, true)
  | _ => none

/-- A width or a number of places at the start of a text: digits, or a `*` for the next
argument.  Gives the number, what follows, and the arguments left. -/
def measure (s : List Char) (arguments : List String) :
    Int × List Char × List String × Option Complaint :=
  match s with
  | '*' :: rest =>
      match arguments with
      | a :: others =>
          let (n, complaint) := integer true a
          (n, rest, others, complaint)
      | [] => (0, rest, [], none)
  | s =>
      let ds := s.takeWhile Char.isDigit
      (numberIn 10 ds, s.drop ds.length, arguments, none)

/-- Put something before what has been written. -/
def before (s : List Char) (complaints : List (Option Complaint))
    (r : Formatted × List String × Bool) : Formatted × List String × Bool :=
  ({ r.1 with
      output := s ++ r.1.output, complaints := complaints.filterMap id ++ r.1.complaints }, r.2)

/-- Go through a format once: what is written, the arguments left, and whether the output goes
on.  The first argument bounds the length of the format. -/
def pass (dialect : Dialect) :
    Nat → List Char → List String → Formatted × List String × Bool
  | 0, _, arguments => (⟨[], [], none, []⟩, arguments, true)
  | n + 1, s, arguments =>
      match s with
      | [] => (⟨[], [], none, []⟩, arguments, true)
      | '\\' :: rest =>
          match Escape.read dialect.inFormat rest with
          | (some cs, rest) => before cs [] (pass dialect n rest arguments)
          | (none, _) => (⟨[], [], none, []⟩, arguments, false)
      | '%' :: '%' :: rest => before ['%'] [] (pass dialect n rest arguments)
      | '%' :: rest =>
          let flags := rest.takeWhile "#-+ 0".toList.contains
          let (width, after, arguments, wrong) := measure (rest.drop flags.length) arguments
          let flags := if width < 0 then '-' :: flags else flags
          let (places, after, arguments, wrong') := match after with
            | '.' :: more =>
                let (k, more, arguments, wrong') := measure more arguments
                (if k < 0 then none else some k.toNat, more, arguments, wrong')
            | after => (none, after, arguments, none)
          let finish (fault : DirectiveFault) : Formatted × List String × Bool :=
            (⟨[], [wrong, wrong'].filterMap id, some fault, []⟩, arguments, false)
          match after with
          | [] => finish (.unfinished (String.ofList s))
          | letter :: more =>
              match written? dialect ⟨flags, width.natAbs, places, letter⟩ arguments.head? with
              | none => finish (.unknown (String.ofList (s.take (s.length - more.length))))
              | some (written, wrong'', goesOn) =>
                  let rest := if goesOn then pass dialect n more (arguments.drop 1)
                    else (⟨[], [], none, []⟩, arguments.drop 1, false)
                  before written [wrong, wrong', wrong''] rest
      | c :: rest => before [c] [] (pass dialect n rest arguments)

/-- Go through a format as often as arguments are left.  The first argument bounds their
number. -/
def passes (dialect : Dialect) (format : List Char) : Nat → List String → Formatted
  | 0, _ => ⟨[], [], none, []⟩
  | n + 1, arguments =>
      let (f, left, goesOn) := pass dialect format.length.succ format arguments
      if !goesOn then f
      else if left.length < arguments.length && !left.isEmpty then
        let more := passes dialect format n left
        ⟨f.output ++ more.output, f.complaints ++ more.complaints, more.fatal, more.unused⟩
      else { f with unused := left }

end Format

/-- What `printf` writes for a format and arguments. -/
def printf (dialect : Format.Dialect) (format : String) (arguments : List String) : Formatted :=
  Format.passes dialect format.toList (arguments.length + 1) arguments

end FieldPattern.Shell
