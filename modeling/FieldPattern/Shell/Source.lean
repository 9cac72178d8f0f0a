import FieldPattern.Shell.Script

/-! # The text of a script

A script is read from left to right, line by line.  `Source` is what is left of its text, with
what has to be remembered on the way: the number of the line, a token that has been looked at
and put back, the aliases, and the texts that `<<` redirections read.  Such a text starts on the
line after its redirection and ends with a line that holds its delimiter.

Words are cut into tokens together with the signs between them.  What a reader did not expect,
and where, is a `SyntaxFault`. -/

namespace FieldPattern.Shell

/-- The sign of a redirection. -/
inductive ArrowSign where
  | plain (arrow : Arrow)
  /-- `<<`, or `<<-` if tabs at the start of lines do not count. -/
  | document (strip : Bool)
deriving DecidableEq, Repr

/-- A word or a sign of a script. -/
inductive Token where
  | word (w : Word)
  | keyword (s : String)
  | sign (s : String)
  | redirect (stream : Nat) (sign : ArrowSign)
  | newline
  /-- The end of the text. -/
  | finish

/-- The words that have a meaning of their own at the start of a command. -/
def keywords : List String :=
  ["!", "case", "do", "done", "elif", "else", "esac", "fi", "for", "if", "in", "then", "until",
    "while", "\x7b", "\x7d"]

/-- What a word may be where it stands. -/
inductive WordPlace where
  /-- A word only. -/
  | argument
  /-- A keyword. -/
  | keyword
  /-- The name of a command, or what stands before it. -/
  | name
  /-- The start of a command: a keyword or a name. -/
  | command
deriving DecidableEq, Repr

namespace WordPlace

/-- Whether a word may be a keyword. -/
def takesKeyword (p : WordPlace) : Bool := p == keyword || p == command

/-- Whether a word may be an alias. -/
def takesAlias (p : WordPlace) : Bool := p == name || p == command

end WordPlace

namespace Token

/-- The token as it is called in reports. -/
def describe : Token → String
  | word _ => "word"
  | keyword s => "\"" ++ s ++ "\""
  | sign s => "\"" ++ s ++ "\""
  | redirect .. => "redirection"
  | newline => "newline"
  | finish => "end of file"

/-- The token with a word that is a keyword taken as one. -/
def asKeyword (t : Token) : Token :=
  match t with
  | word w =>
      match w.plain? with
      | some s => if keywords.contains s then keyword s else t
      | none => t
  | _ => t

/-- Whether the token is this keyword. -/
def isKeyword (s : String) : Token → Bool
  | keyword k => k == s
  | _ => false

/-- Whether the token is this sign. -/
def isSign (s : String) : Token → Bool
  | sign k => k == s
  | _ => false

/-- Whether the token is a newline. -/
def isNewline : Token → Bool
  | newline => true
  | _ => false

/-- Whether the token ends a list of commands. -/
def endsList : Token → Bool
  | keyword s => ["do", "done", "elif", "else", "esac", "fi", "then", "\x7d"].contains s
  | sign s => s == ")" || s == ";;"
  | finish => true
  | word _ | redirect .. | newline => false

end Token

/-- What is wrong with a script. -/
inductive SyntaxCause where
  | unexpected (found : String) (expected : Option String)
  | openQuotation
  | openBrace
  | openArithmetic
  | openBackquote
  | badLoopVariable
  | badFunctionName
  | tooDeep
deriving DecidableEq, Repr

namespace SyntaxCause

/-- The cause in words. -/
def message : SyntaxCause → String
  | unexpected found none => found ++ " unexpected"
  | unexpected found (some expected) => found ++ " unexpected (expecting " ++ expected ++ ")"
  | openQuotation => "Unterminated quoted string"
  | openBrace => "Missing '\x7d'"
  | openArithmetic => "Missing '))'"
  | openBackquote => "EOF in backquote substitution"
  | badLoopVariable => "Bad for loop variable"
  | badFunctionName => "Bad function name"
  | tooDeep => "too deep"

end SyntaxCause

/-- What is wrong with a script, and on which line. -/
structure SyntaxFault where
  line : Nat
  cause : SyntaxCause
deriving DecidableEq, Repr

/-- A text that a redirection reads, before it has been met: its number, its delimiter, and
whether tabs at the start of its lines count and whether it has expansions. -/
structure Awaited where
  number : Nat
  delimiter : List Char
  strip : Bool
  literal : Bool
deriving DecidableEq, Repr

/-- The text of an alias that has been put in front of a script. -/
structure Insertion where
  name : String
  /-- The number of characters that follow the text. -/
  after : Nat
  /-- The text ends with a blank. -/
  blank : Bool
deriving DecidableEq, Repr

/-- What is left of a script. -/
structure Source where
  rest : List Char
  line : Nat
  /-- A token that has been put back. -/
  ahead : Option Token
  awaited : List Awaited
  /-- The number of the next text that a redirection reads. -/
  next : Nat
  documents : List (Nat × Word)
  /-- The text that is being read, if it has expansions. -/
  document : Option Awaited
  /-- What follows the text that has been read. -/
  beyond : List Char
  /-- The word that has been read last. -/
  lastWord : Word
  /-- The delimiter of a text is being read, in which nothing is expanded. -/
  inDelimiter : Bool
  /-- The aliases with their texts. -/
  aliases : List (String × String)
  /-- The texts of aliases in which the text that is left starts. -/
  insertions : List Insertion

namespace Source

/-- The start of a script; its texts are numbered from `next` on. -/
def start (text : List Char) (line next : Nat) : Source :=
  ⟨text, line, none, [], next, [], none, [], [], false, [], []⟩

end Source

/-- Reading a part of a script. -/
abbrev Reading := StateT Source (Except SyntaxFault)

namespace Reading

/-- Report what is wrong here. -/
def fail {α : Type} (cause : SyntaxCause) : Reading α := do
  throw ⟨(← get).line, cause⟩

/-- Report a token, and what should stand there. -/
def unexpected {α : Type} (t : Token) (expected : Option Token) : Reading α :=
  fail (.unexpected t.describe (expected.map Token.describe))

/-- Leave out a backslash with the newline after it, as often as they stand here. -/
def joinFrom (line : Nat) : List Char → Nat × List Char
  | '\\' :: '\n' :: rest => joinFrom (line + 1) rest
  | s => (line, s)

/-- Leave out joined line ends. -/
def join : Reading Unit := modify fun s =>
  let (line, rest) := joinFrom s.line s.rest
  { s with line := line, rest := rest }

/-- The next character, which stays. -/
def look : Reading (Option Char) := return (← get).rest.head?

/-- The next character after joined line ends, which stays. -/
def lookJoined : Reading (Option Char) := do
  join
  look

/-- Take the next character. -/
def take? : Reading (Option Char) := do
  let s ← get
  match s.rest with
  | [] => return none
  | c :: rest =>
      set { s with rest := rest, line := if c = '\n' then s.line + 1 else s.line }
      return some c

/-- Leave out the next character. -/
def drop : Reading Unit := do let _ ← take?

/-- Leave out the next character; a newline does not count as the end of a line. -/
def dropSilently : Reading Unit := modify fun s => { s with rest := s.rest.drop 1 }

/-- Take the next character, if it is `c`. -/
def takeIf (c : Char) : Reading Bool := do
  if (← lookJoined) = some c then
    drop
    return true
  else return false

/-- Take the characters up to the first one that `p` does not hold for. -/
def takeWhile (p : Char → Bool) : Reading (List Char) := do
  let s ← get
  let taken := s.rest.takeWhile p
  set { s with
    rest := s.rest.drop taken.length
    line := s.line + (taken.filter (· == '\n')).length }
  return taken

/-- Put a token back. -/
def putBack (t : Token) : Reading Unit := modify fun s => { s with ahead := some t }

/-- Put the text of an alias in front of what is left. -/
def insert (name text : String) : Reading Unit := modify fun s =>
  let blank := text.endsWith " " || text.endsWith "\t"
  { s with
    rest := text.toList ++ s.rest
    insertions := ⟨name, s.rest.length, blank⟩ :: s.insertions }

/-- Await the text of a redirection, and give its number. -/
def await (delimiter : Word) (strip : Bool) : Reading Nat := do
  let s ← get
  let awaited : Awaited := ⟨s.next, delimiter.text, strip, delimiter.isQuoted⟩
  set { s with next := s.next + 1, awaited := s.awaited ++ [awaited] }
  return s.next

/-- Start a line of a text: without the tabs that do not count.  If it holds the delimiter, the
text ends, and what follows is kept for later. -/
def startLine (a : Awaited) : Reading Unit := modify fun s =>
  let kept := if a.strip then s.rest.dropWhile (· == '\t') else s.rest
  let found := if a.delimiter.isPrefixOf kept then kept.drop a.delimiter.length else ['.']
  match found with
  | [] => { s with rest := [], beyond := [], line := s.line + 1 }
  | '\n' :: rest => { s with rest := [], beyond := rest, line := s.line + 1 }
  | _ => { s with rest := kept }

/-- Start a line if a text with expansions is being read. -/
def startLineHere : Reading Unit := do
  match (← get).document with
  | some a =>
      join
      startLine a
  | none => return

/-- Take the lines of a text up to its end.  The second argument bounds their number. -/
def takeLines (a : Awaited) : Nat → Reading (List Char)
  | 0 => fail .tooDeep
  | n + 1 => do
      startLine a
      let line ← takeWhile (· != '\n')
      if (← look).isSome then
        drop
        return line ++ '\n' :: (← takeLines a n)
      else return line

end Reading

end FieldPattern.Shell
