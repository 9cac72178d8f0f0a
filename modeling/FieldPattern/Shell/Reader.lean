import FieldPattern.Shell.Source

/-! # Reading scripts

A script is read one line at a time (`readLine`), together with the lines that a command which
is not complete needs.  So a mistake further down shows only after the commands before it have
been carried out.

A word that is an alias is replaced by its text where a command may start, and after a text that
ends with a blank (`token`).

Words are read character by character, in one of five modes; quotation, expansions and joined
line ends are taken out on the way, and a script inside an expansion is read where it stands.

Every function takes a bound on the depth of its calls, which `readLine` takes from the length
of the text. -/

namespace FieldPattern.Shell

/-- Where the characters of a word stand. -/
inductive WordMode where
  /-- Outside of quotation. -/
  | bare
  /-- Between double quotation marks, which may be inside braces. -/
  | quoted (inBraces : Bool)
  /-- In the word of an expansion in braces, which may be inside quotation marks. -/
  | braced (quoted : Bool)
  /-- In an arithmetic expression, inside this many parentheses. -/
  | arithmetic (depth : Nat)
  /-- In the text of a redirection. -/
  | document
deriving DecidableEq, Repr

namespace WordMode

/-- Whether text and expansions are quoted here. -/
def isQuoted : WordMode → Bool
  | bare => false
  | quoted _ => true
  | braced q => q
  | arithmetic _ => true
  | document => true

/-- Whether a backslash makes `c` lose its meaning. -/
def escapes (m : WordMode) (c : Char) : Bool :=
  !m.isQuoted || c == '\\' || c == '$' || c.toNat == 0x60
    || (c == '"' && m != .document)
    || (c == '\x7d' && (m == .braced true || m == .quoted true))

/-- What is wrong if a script, or a text that a redirection reads, ends here. -/
def fault? (inDocument : Bool) : WordMode → Option SyntaxCause
  | bare => none
  | quoted _ => some (if inDocument then .openBrace else .openQuotation)
  | braced q => some (if q && !inDocument then .openQuotation else .openBrace)
  | arithmetic _ => some .openArithmetic
  | document => none

end WordMode

/-- Whether `c` ends a word outside of quotation. -/
def endsWord (c : Char) : Bool :=
  c == ' ' || c == '\t' || c == '\n' || c == ';' || c == '&' || c == '|' || c == '<' || c == '>'
    || c == '(' || c == ')'

/-- Whether `c` is a parameter of its own. -/
def isSpecial (c : Char) : Bool :=
  c == '#' || c == '?' || c == '$' || c == '!' || c == '-' || c == '*' || c == '@' || c.isDigit

/-- The text of a script between backquotes, and what follows.  A backslash goes with a
backslash, a dollar sign, a backquote and, inside quotation marks, a quotation mark. -/
def cutBackquoted (quoted : Bool) : List Char → Option (List Char × List Char)
  | [] => none
  | ['\\'] => none
  | '\\' :: '\n' :: rest => cutBackquoted quoted rest
  | '\\' :: c :: rest =>
      let kept := if c = '\\' ∨ c = '$' ∨ c.toNat = 0x60 ∨ (quoted ∧ c = '"') then [c]
        else ['\\', c]
      (cutBackquoted quoted rest).map fun (s, rest) => (kept ++ s, rest)
  | c :: rest =>
      if c.toNat = 0x60 then some ([], rest)
      else (cutBackquoted quoted rest).map fun (s, rest) => (c :: s, rest)

/-- The commands whose names no function may have. -/
def specialNames : List String :=
  [".", ":", "break", "continue", "eval", "exec", "exit", "export", "local", "readonly", "return",
    "set", "shift", "times", "trap", "unset"]

/-- What may stand where a list of commands is read. -/
inductive ListKind where
  /-- The commands of one line. -/
  | line
  /-- One command at least. -/
  | body
  /-- No command at all, or some. -/
  | optional
deriving DecidableEq, Repr

/-- One command after another. -/
def follow (first : Option Script) (second : Script) : Script :=
  match first with
  | none => second
  | some first => .sequence first second

/-- The parts of a simple command that have been read. -/
structure SimpleParts where
  assignments : List (String × Word)
  words : List Word
  redirections : List Redirection

namespace Reading

/-- Leave out blanks and a comment. -/
def skipBlanks : Nat → Reading Unit
  | 0 => fail .tooDeep
  | n + 1 => do
      match ← lookJoined with
      | some ' ' => drop; skipBlanks n
      | some '\t' => drop; skipBlanks n
      | some '#' =>
          let _ ← takeWhile (· != '\n')
          return
      | _ => return

/-- Report that the text ends inside of braces. -/
def failOpen {α : Type} (quoted : Bool) : Reading α := do
  fail (((WordMode.braced quoted).fault? (← get).document.isSome).getD .openBrace)

/-- Read the rest of a quotation between single quotation marks. -/
def singleQuoted : Reading (List Char) := do
  let s ← takeWhile (· != '\'')
  match ← take? with
  | none => fail (if (← get).document.isSome then .openBrace else .openQuotation)
  | some _ => return s

/-- Take the characters for which `p` holds, joined line ends left out. -/
def takeJoined (p : Char → Bool) : Nat → Reading (List Char)
  | 0 => fail .tooDeep
  | n + 1 => do
      match ← lookJoined with
      | some c =>
          if p c then
            drop
            return c :: (← takeJoined p n)
          else return []
      | none => return []

/-- Read the sign of a redirection after its first character, with the stream that it redirects
if none is named. -/
def arrowSign (first : Char) : Reading (Nat × ArrowSign) := do
  if first = '>' then
    if ← takeIf '>' then return (1, .plain .append)
    else if ← takeIf '|' then return (1, .plain .replace)
    else if ← takeIf '&' then return (1, .plain .copy)
    else return (1, .plain .output)
  else if ← takeIf '<' then return (0, .document (← takeIf '-'))
  else if ← takeIf '&' then return (0, .plain .copy)
  else if ← takeIf '>' then return (0, .plain .both)
  else return (0, .plain .input)

/-- Read the name of a parameter in braces, its first character being `c`; the flag tells
whether its length is asked for.  A character that cannot start a name is left out. -/
def bracedName (n : Nat) (c : Char) : Reading (Option (Bool × String)) := do
  if isNameStart c then return some (false, String.ofList (← takeJoined isNameChar n))
  else if c.isDigit then return some (false, String.ofList (← takeJoined Char.isDigit n))
  else if c = '#' then
    drop
    match ← lookJoined with
    | some d =>
        if isNameStart d then return some (true, String.ofList (← takeJoined isNameChar n))
        else if d.isDigit then return some (true, String.ofList (← takeJoined Char.isDigit n))
        else if d = '\x7d' then return some (false, "#")
        else do
          let before ← get
          dropSilently
          if (← lookJoined) = some '\x7d' then
            return if isSpecial d then some (true, String.singleton d) else none
          else do
            set before
            return some (false, "#")
    | none => return some (false, "#")
  else if isSpecial c then
    drop
    return some (false, String.singleton c)
  else if c = '\x7d' then return none
  else do
    dropSilently
    return none

mutual

/-- Read the pieces of a word up to the end that belongs to the mode. -/
def pieces : Nat → WordMode → Reading Word
  | 0, _ => fail .tooDeep
  | n + 1, m => do
      join
      match ← look with
      | none =>
          match m.fault? (← get).document.isSome with
          | some cause => fail cause
          | none => return []
      | some c =>
          if m = .bare ∧ endsWord c then return []
          else
            drop
            if c = '\n' then startLineHere
            if c = '\\' then
              match ← take? with
              | none => return Piece.cons '\\' true (← pieces n m)
              | some d =>
                  if m.escapes d then return Piece.cons d true (← pieces n m)
                  else return Piece.cons '\\' true (Piece.cons d true (← pieces n m))
            else if (c = '$' ∨ c.toNat = 0x60) ∧ (← get).inDelimiter then
              return Piece.cons c (m.isQuoted || c != '$') (← pieces n m)
            else if c = '$' then
              let p ← dollar n m.isQuoted
              return p :: (← pieces n m)
            else if c.toNat = 0x60 then
              let p ← backquoted n m.isQuoted
              return p :: (← pieces n m)
            else if c = '"' ∧ (m = .quoted false ∨ m = .quoted true) then return []
            else if c = '"' ∧ m = .braced true then
              let inside ← pieces n (.quoted true)
              return inside ++ (← pieces n m)
            else if c = '"' ∧ !m.isQuoted then
              let inside ← pieces n (.quoted (m != .bare))
              let rest ← pieces n m
              match inside with
              | [.parameter "@" .value true] => return inside ++ rest
              | _ => return .text [] true :: inside ++ rest
            else if c = '\'' ∧ !m.isQuoted then
              let s ← singleQuoted
              return .text s true :: (← pieces n m)
            else
              match m with
              | .braced q =>
                  if c = '\x7d' then return []
                  else return Piece.cons c q (← pieces n m)
              | .arithmetic depth =>
                  if c = '(' then return Piece.cons c true (← pieces n (.arithmetic (depth + 1)))
                  else if c = ')' ∧ 0 < depth then
                    return Piece.cons c true (← pieces n (.arithmetic (depth - 1)))
                  else if c = ')' then
                    if ← takeIf ')' then return []
                    else return Piece.cons c true (← pieces n m)
                  else return Piece.cons c true (← pieces n m)
              | _ => return Piece.cons c m.isQuoted (← pieces n m)

/-- Read what follows a dollar sign. -/
def dollar : Nat → Bool → Reading Piece
  | 0, _ => fail .tooDeep
  | n + 1, quoted => do
      match ← lookJoined with
      | some '(' =>
          drop
          if ← takeIf '(' then return .arithmetic (← pieces n (.arithmetic 0)) quoted
          else return .output (← innerScript n) quoted
      | some '\x7b' =>
          drop
          braced n quoted
      | some c =>
          if isNameStart c then
            return .parameter (String.ofList (← takeJoined isNameChar n)) .value quoted
          else if isSpecial c then
            drop
            return .parameter (String.singleton c) .value quoted
          else return .text ['$'] quoted
      | none => return .text ['$'] quoted

/-- Read an expansion in braces after the opening one. -/
def braced : Nat → Bool → Reading Piece
  | 0, _ => fail .tooDeep
  | n + 1, quoted => do
      let bad : Reading Piece := do
        dropSilently
        let _ ← pieces n (.braced quoted)
        return .parameter "" .bad quoted
      match ← lookJoined with
      | none => failOpen quoted
      | some c =>
          match ← bracedName n c with
          | none =>
              let _ ← pieces n (.braced quoted)
              return .parameter "" .bad quoted
          | some (true, name) =>
              if ← takeIf '\x7d' then return .parameter name .length quoted
              else
                let _ ← pieces n (.braced quoted)
                return .parameter "" .bad quoted
          | some (false, name) =>
              let orEmpty ← takeIf ':'
              match ← lookJoined with
              | none => failOpen quoted
              | some d =>
                  if d = '\x7d' then
                    drop
                    if orEmpty then
                      let _ ← pieces n (.braced quoted)
                    return .parameter name .value quoted
                  else if d = '-' then
                    drop
                    return .parameter name (.fallback orEmpty (← pieces n (.braced quoted))) quoted
                  else if d = '=' then
                    drop
                    return .parameter name (.assign orEmpty (← pieces n (.braced quoted))) quoted
                  else if d = '?' then
                    drop
                    return .parameter name (.require orEmpty (← pieces n (.braced quoted))) quoted
                  else if d = '+' then
                    drop
                    return .parameter name (.alternative orEmpty (← pieces n (.braced quoted)))
                      quoted
                  else if (d = '%' ∨ d = '#') ∧ !orEmpty then
                    drop
                    let longest ← takeIf d
                    let pattern ← pieces n (.braced false)
                    return .parameter name (.trim (d == '%') longest pattern) quoted
                  else bad

/-- Read a script between backquotes, after the opening one.  Its lines have numbers of their
own. -/
def backquoted : Nat → Bool → Reading Piece
  | 0, _ => fail .tooDeep
  | n + 1, quoted => do
      let s ← get
      match cutBackquoted quoted s.rest with
      | none =>
          let _ ← takeWhile fun _ => true
          fail .openBackquote
      | some (text, rest) =>
          let taken := s.rest.take (s.rest.length - rest.length)
          let line := s.line + (taken.filter (· == '\n')).length
          set { s with
            rest := text, line := 1, awaited := [], insertions := [], document := none }
          let script ← readList n .optional none
          modify fun inner =>
            { inner with
              rest := rest, line := line, ahead := none, awaited := s.awaited
              insertions := s.insertions, document := s.document }
          return .output (script.getD .skip) quoted

/-- Read a script and the parenthesis that ends it. -/
def innerScript : Nat → Reading Script
  | 0 => fail .tooDeep
  | n + 1 => do
      let before ← get
      set { before with awaited := [], document := none }
      let script ← readList n .optional none
      let t ← token n false .argument
      if t.isSign ")" then
        modify fun s => { s with awaited := before.awaited, document := before.document }
        return script.getD .skip
      else unexpected t (some (.sign ")"))

/-- Read the texts that are awaited. -/
def readDocuments : Nat → Reading Unit
  | 0 => fail .tooDeep
  | n + 1 => do
      let s ← get
      match s.awaited with
      | [] => return
      | a :: others =>
          set { s with awaited := [], insertions := [], beyond := [] }
          let w ← if a.literal then do pure [.text (← takeLines a s.rest.length.succ) true]
            else do
              modify fun s => { s with document := some a }
              startLineHere
              pieces n .document
          modify fun inner =>
            { inner with
              rest := inner.beyond, beyond := [], document := none
              awaited := others, insertions := s.insertions
              documents := inner.documents ++ [(a.number, w)] }
          readDocuments n

/-- Cut the next token off the text. -/
def cutToken : Nat → Reading Token
  | 0 => fail .tooDeep
  | n + 1 => do
      skipBlanks n
      match ← look with
      | none =>
          readDocuments n
          return .finish
      | some '\n' =>
          drop
          readDocuments n
          return .newline
      | some '&' => drop; return .sign (if ← takeIf '&' then "&&" else "&")
      | some '|' => drop; return .sign (if ← takeIf '|' then "||" else "|")
      | some ';' => drop; return .sign (if ← takeIf ';' then ";;" else ";")
      | some '(' => drop; return .sign "("
      | some ')' => drop; return .sign ")"
      | some c =>
          if c = '<' ∨ c = '>' then
            drop
            let (usual, sign) ← arrowSign c
            return .redirect usual sign
          else do
            let w ← pieces n .bare
            modify fun s => { s with lastWord := w }
            match w.plain?.bind String.toNat?, ← look with
            | some stream, some d =>
                if (d = '<' ∨ d = '>') ∧ stream < 10 ∧ w.text.length = 1 then
                  drop
                  let (_, sign) ← arrowSign d
                  return .redirect stream sign
                else return .word w
            | _, _ => return .word w

/-- The next token as it is cut off the text, with the number of characters that were left where
it starts, and whether the text of an alias that ends with a blank has ended before it. -/
def cutPlaced : Nat → Reading (Token × Nat × Bool)
  | 0 => fail .tooDeep
  | n + 1 => do
      let s ← get
      if s.aliases.isEmpty then return (← cutToken n, 0, false)
      else do
        skipBlanks n
        let left := (← get).rest.length
        let t ← cutToken n
        let (passed, others) := s.insertions.partition fun i => left ≤ i.after
        modify fun s => { s with insertions := others }
        return (t, left, passed.any Insertion.blank)

/-- The next token.  Newlines before it may be left out, and a word may be what its place allows.
An alias that is no keyword is replaced by its text, but not inside of that text. -/
def token : Nat → Bool → WordPlace → Reading Token
  | 0, _, _ => fail .tooDeep
  | n + 1, newlines, place => do
      let s ← get
      match s.ahead with
      | some t => do
          set { s with ahead := none }
          if newlines && t.isNewline then token n newlines place
          else return if place.takesKeyword then t.asKeyword else t
      | none => do
          let (t, _, follows) ← cutPlaced n
          if newlines && t.isNewline then token n newlines place
          else
            let s ← get
            let known := if place.takesKeyword then t.asKeyword else t
            match known with
            | .word w =>
                if !(place.takesAlias || follows) then return known
                else
                  let named := w.plain?.bind fun name =>
                    (s.aliases.lookup name).map fun a => (name, a)
                  match named with
                  | none => return known
                  | some (name, text) =>
                      if s.insertions.any fun i => i.name == name then return known
                      else do
                        if !text.isEmpty then insert name text
                        token n newlines (if place.takesKeyword then .command else .name)
            | known => return known

/-- Read the file name, stream or delimiter after the sign of a redirection. -/
def target : Nat → Nat → ArrowSign → Reading Redirection
  | 0, _, _ => fail .tooDeep
  | n + 1, stream, sign => do
      modify fun s => { s with inDelimiter := sign matches .document _ }
      let t ← token n false .argument
      modify fun s => { s with inDelimiter := false }
      match t with
      | .word w =>
          match sign with
          | .document strip => do
              return .mk stream (.document (← await w strip)) []
          | .plain arrow => return .mk stream arrow w
      | t => unexpected t none

/-- Read a list of commands, after those that have been read. -/
def readList : Nat → ListKind → Option Script → Reading (Option Script)
  | 0, _, _ => fail .tooDeep
  | n + 1, kind, first => do
      let t ← token n (kind != .line) .command
      if t.isNewline then return first
      else if t.endsList && (match t with
          | .finish => true
          | _ => kind = .optional || kind = .body && first.isSome) then
        putBack t
        return first
      else
        putBack t
        let second ← readChain n
        let t ← token n false .argument
        let all := follow first (if t.isSign "&" then .background second else second)
        match t with
        | .finish =>
            putBack t
            return some all
        | .newline =>
            putBack t
            readList n kind (some all)
        | _ =>
            if t.isSign "&" || t.isSign ";" then readList n kind (some all)
            else if kind = .line then unexpected t none
            else do
              putBack t
              return some all

/-- Read commands that are joined by `&&` and `||`. -/
def readChain : Nat → Reading Script
  | 0 => fail .tooDeep
  | n + 1 => do readLinks n (← readPipeline n)

/-- Go on with a chain after its first part. -/
def readLinks : Nat → Script → Reading Script
  | 0, _ => fail .tooDeep
  | n + 1, first => do
      let t ← token n false .argument
      if t.isSign "&&" || t.isSign "||" then
        putBack (← token n true .command)
        let second ← readPipeline n
        readLinks n (if t.isSign "&&" then .both first second else .either first second)
      else
        putBack t
        return first

/-- Read a pipeline. -/
def readPipeline : Nat → Reading Script
  | 0 => fail .tooDeep
  | n + 1 => do
      let t ← token n false .argument
      if t.isKeyword "!" then
        putBack (← token n false .command)
        return .negate (← readCommands n)
      else
        putBack t
        readCommands n

/-- Read the commands of a pipeline. -/
def readCommands : Nat → Reading Script
  | 0 => fail .tooDeep
  | n + 1 => do
      let first ← readCommand n
      let others ← readPiped n
      return if others.isEmpty then first else .pipeline (first :: others)

/-- Read the commands after a `|`. -/
def readPiped : Nat → Reading (List Script)
  | 0 => fail .tooDeep
  | n + 1 => do
      let t ← token n false .argument
      if t.isSign "|" then
        putBack (← token n true .command)
        let command ← readCommand n
        return command :: (← readPiped n)
      else
        putBack t
        return []

/-- Read this keyword or sign. -/
def expect : Nat → Token → Reading Unit
  | 0, _ => fail .tooDeep
  | n + 1, wanted => do
      let t ← token n false .argument
      let found := match wanted with
        | .keyword s => t.isKeyword s
        | .sign s => t.isSign s
        | _ => false
      if found then return else unexpected t (some wanted)

/-- Read a list with one command at least. -/
def readBody : Nat → Reading Script
  | 0 => fail .tooDeep
  | n + 1 => return (← readList n .body none).getD .skip

/-- Read what follows the condition of a branch, without the closing keyword. -/
def readBranches : Nat → Script → Reading Script
  | 0, _ => fail .tooDeep
  | n + 1, condition => do
      expect n (.keyword "then")
      let yes ← readBody n
      let t ← token n false .argument
      if t.isKeyword "elif" then
        let other ← readBody n
        return .branch condition yes (← readBranches n other)
      else if t.isKeyword "else" then return .branch condition yes (← readBody n)
      else
        putBack t
        return .branch condition yes .skip

/-- Read words up to something else, which is given too. -/
def readWords : Nat → Reading (List Word × Token)
  | 0 => fail .tooDeep
  | n + 1 => do
      match ← token n false .argument with
      | .word w =>
          let (ws, t) ← readWords n
          return (w :: ws, t)
      | t => return ([], t)

/-- Read the patterns of a case, joined by `|`, after the first token.  Where a sign stands for a
pattern, the last word counts again. -/
def readPatterns : Nat → Token → Reading (List Word)
  | 0, _ => fail .tooDeep
  | n + 1, t => do
      let last := (← get).lastWord
      let w := match t with
        | .word w => w
        | .keyword s => [.text s.toList false]
        | _ => last
      let t ← token n false .argument
      if t.isSign "|" then return w :: (← readPatterns n (← token n false .argument))
      else if t.isSign ")" then return [w]
      else unexpected t (some (.sign ")"))

/-- Read the cases of a choice, up to the closing keyword. -/
def readCases : Nat → Reading (List (List Word × Script))
  | 0 => fail .tooDeep
  | n + 1 => do
      let t ← token n true .keyword
      if t.isKeyword "esac" then return []
      else
        let t ← if t.isSign "(" then token n false .argument else pure t
        let patterns ← readPatterns n t
        let body := (← readList n .optional none).getD .skip
        let t ← token n true .keyword
        if t.isKeyword "esac" then return [(patterns, body)]
        else if t.isSign ";;" then return (patterns, body) :: (← readCases n)
        else unexpected t (some (.sign ";;"))

/-- Read the rest of a loop over words. -/
def readEach : Nat → Nat → Reading Script
  | 0, _ => fail .tooDeep
  | n + 1, line => do
      let name ← match ← token n false .argument with
        | .word w =>
            match w.plain? with
            | some s => if isName s then pure s else fail .badLoopVariable
            | none => fail .badLoopVariable
        | _ => fail .badLoopVariable
      let t ← token n true .command
      let words ← if t.isKeyword "in" then do
          let (words, t) ← readWords n
          if t.isNewline || t.isSign ";" then pure words else unexpected t none
        else do
          if !t.isSign ";" then putBack t
          pure [[.parameter "@" .value true]]
      putBack (← token n true .command)
      expect n (.keyword "do")
      let body ← readBody n
      expect n (.keyword "done")
      return .each line name words body

/-- Read a command. -/
def readCommand : Nat → Reading Script
  | 0 => fail .tooDeep
  | n + 1 => do
      let line := (← get).line
      match ← token n false .argument with
      | .keyword "if" =>
          let condition ← readBody n
          let script ← readBranches n condition
          expect n (.keyword "fi")
          redirect n line script
      | .keyword "while" => readLoop n line false
      | .keyword "until" => readLoop n line true
      | .keyword "for" => redirect n line (← readEach n line)
      | .keyword "case" =>
          match ← token n false .argument with
          | .word w =>
              putBack (← token n true .command)
              expect n (.keyword "in")
              redirect n line (.choice line w (← readCases n))
          | t => unexpected t (some (.word []))
      | .keyword "\x7b" =>
          let script ← readBody n
          expect n (.keyword "\x7d")
          redirect n line script
      | .sign "(" =>
          let script ← readBody n
          expect n (.sign ")")
          let redirections ← readRedirections n .command
          return .inner line script redirections
      | .word w =>
          putBack (.word w)
          readSimple n line ⟨[], [], []⟩
      | .redirect stream sign =>
          putBack (.redirect stream sign)
          readSimple n line ⟨[], [], []⟩
      | t => unexpected t none

/-- Read the rest of a loop with a condition. -/
def readLoop : Nat → Nat → Bool → Reading Script
  | 0, _, _ => fail .tooDeep
  | n + 1, line, whileFails => do
      let condition ← readBody n
      expect n (.keyword "do")
      let body ← readBody n
      expect n (.keyword "done")
      redirect n line (.loop whileFails condition body)

/-- Read redirections, and what may follow them. -/
def readRedirections : Nat → WordPlace → Reading (List Redirection)
  | 0, _ => fail .tooDeep
  | n + 1, place => do
      match ← token n false place with
      | .redirect stream sign =>
          let r ← target n stream sign
          return r :: (← readRedirections n place)
      | t =>
          putBack t
          return []

/-- Read the redirections after a compound command. -/
def redirect : Nat → Nat → Script → Reading Script
  | 0, _, _ => fail .tooDeep
  | n + 1, line, script => do
      let redirections ← readRedirections n .command
      return if redirections.isEmpty then script else .redirected line script redirections

/-- Read a simple command, or the definition of a function. -/
def readSimple : Nat → Nat → SimpleParts → Reading Script
  | 0, _, _ => fail .tooDeep
  | n + 1, line, p => do
      let simple : Script := .simple line p.assignments p.words p.redirections
      match ← token n false (if p.words.isEmpty then .name else .argument) with
      | .word w =>
          match p.words, w.assignment? with
          | [], some a => readSimple n line { p with assignments := p.assignments ++ [a] }
          | _, _ => readSimple n line { p with words := p.words ++ [w] }
      | .redirect stream sign =>
          let r ← target n stream sign
          readSimple n line { p with redirections := p.redirections ++ [r] }
      | t =>
          match p.assignments, p.words, p.redirections with
          | [], [name], [] =>
              if t.isSign "(" then
                expect n (.sign ")")
                match name.plain? with
                | some name =>
                    if isName name && !specialNames.contains name then
                      putBack (← token n true .command)
                      return .define name (← readCommand n)
                    else fail .badFunctionName
                | none => fail .badFunctionName
              else
                putBack t
                return simple
          | _, _, _ =>
              putBack t
              return simple

end

/-- Read the commands of the next line.  At the end of the text there are none. -/
def line : Reading (Option Script) := do
  modify fun s => { s with ahead := none }
  let s ← get
  let inserted := s.aliases.foldl (fun k a => k + a.2.length) 0
  let bound := (16 + inserted) * (s.rest.length + 4)
  let t ← token bound false .command
  match t with
  | .finish => return none
  | t =>
      putBack t
      return some ((← readList bound .line none).getD .skip)

end Reading

namespace Source

/-- A text whose expansions count and whose quotation marks do not. -/
def openText (text : List Char) : Word :=
  let bound := 16 * text.length + 64
  match (Reading.pieces bound .document).run (start text 1 0) with
  | .ok (w, _) => w
  | .error _ => [.text text true]

/-- Read the commands of the next line of a script; at its end there are none. -/
def readLine (s : Source) : Except SyntaxFault (Option Script × Source) := Reading.line.run s

end Source

end FieldPattern.Shell
