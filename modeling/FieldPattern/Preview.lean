import FieldPattern.Machine.Program
import FieldPattern.Text.Blank
import FieldPattern.Text.Lines
import FieldPattern.Text.Numeral
import FieldPattern.TokenList

/-! # Samples of a pattern

A *generator* makes samples: texts that a pattern describes.  It is asked for a number of
samples of a pattern and answers with a list, or reports why it has none.  A generator acts in a
monad of its own choice.

* `preview` asks for samples of the pattern that a token list spells, unless that pattern is
  empty; then there is nothing to ask for.
* `Sampler` is a generator that runs a program, with the pattern and the number as its last two
  arguments.  The program writes one sample on each line of its output.  What a program that
  fails writes to its second stream is its report. -/

namespace FieldPattern

/-- Why a generator has no samples. -/
inductive GeneratorError where
  | failed (report : String)
  | unavailable (reason : String)
  | io (cause : String)
deriving DecidableEq, Repr

namespace GeneratorError

/-- The error in words. -/
def message : GeneratorError → String
  | failed report => "sample generation failed: " ++ report
  | unavailable reason => "generation service unavailable: " ++ reason
  | io cause => "I/O error: " ++ cause

end GeneratorError

/-- What a generator answers when it is asked for a number of samples of a pattern. -/
abbrev Generator (m : Type → Type) :=
  (pattern : String) → (count : Nat) → m (Except GeneratorError (List String))

/-- What is shown for a token list. -/
inductive Preview where
  /-- There is no pattern yet. -/
  | empty
  | samples (texts : List String)
deriving DecidableEq, Repr

/-- The number of samples that are asked for if nothing else is said. -/
def usualSampleCount : Nat := 5

/-- Ask for samples of the pattern that a token list spells. -/
def preview {m : Type → Type} [Monad m] (l : TokenList) (generator : Generator m) (count : Nat) :
    m (Except GeneratorError Preview) :=
  if (spell l).isEmpty then pure (.ok .empty)
  else do
    let answer ← generator (spell l) count
    pure (answer.map .samples)

/-- A program that makes samples, with the arguments that stand before the pattern. -/
structure Sampler where
  program : String
  arguments : List String
deriving DecidableEq, Repr

namespace Sampler

/-- The arguments with which the program is started. -/
def argumentsFor (s : Sampler) (pattern : String) (count : Nat) : List String :=
  s.arguments ++ [pattern, Text.Numeral.render count]

/-- The samples in the output of a program: its first `count` lines. -/
def samplesIn (output : ByteArray) (count : Nat) : List String :=
  ((Text.lines (Text.lossyChars output.toList)).map String.ofList).take count

/-- The samples, or the report, of a program that has ended. -/
def answer (finished : Machine.Finished) (count : Nat) : Except GeneratorError (List String) :=
  if finished.succeeded then .ok (samplesIn finished.output count)
  else .error (.failed (Text.trim (Text.lossy finished.errors)))

/-- Start the program and wait for its end. -/
def generate (s : Sampler) (launch : Machine.Launcher) : Generator (StateM Machine.Host) :=
  fun pattern count => do
    match ← launch s.program (s.argumentsFor pattern count) with
    | .ok finished => return answer finished count
    | .error (.os 2) => return .error (.unavailable (s.program ++ " not found"))
    | .error fault => return .error (.io fault.message)

end Sampler

end FieldPattern
