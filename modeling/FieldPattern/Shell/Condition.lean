import FieldPattern.Shell.Number

/-! # Conditions

`test` and `[` tell whether a condition holds: that a text is empty or not, how two texts or
two integers compare, or what kind of file a path leads to; joined by `!`, `-a`, `-o` and
parentheses.

A condition of three words with an operator in the middle is always a comparison.  In a longer
one a word counts as an operator where one can stand. -/

namespace FieldPattern.Shell.Condition

/-- What a word of a condition is. -/
inductive Role where
  | finish
  | unary (o : String)
  | binary (o : String)
  | not
  | and
  | or
  | left
  | right
  | operand
deriving DecidableEq, Repr

/-- The operators before one text. -/
def unaryOperators : List String :=
  ["-r", "-w", "-x", "-e", "-f", "-d", "-c", "-b", "-p", "-u", "-g", "-k", "-s", "-t", "-z", "-n",
    "-h", "-L", "-O", "-G", "-S"]

/-- The operators between two texts. -/
def binaryOperators : List String :=
  ["=", "!=", "<", ">", "-eq", "-ne", "-ge", "-gt", "-le", "-lt", "-nt", "-ot", "-ef"]

/-- What a word is by itself. -/
def roleOf (s : String) : Role :=
  if unaryOperators.contains s then .unary s
  else if binaryOperators.contains s then .binary s
  else if s == "!" then .not
  else if s == "-a" then .and
  else if s == "-o" then .or
  else if s == "(" then .left
  else if s == ")" then .right
  else .operand

/-- Whether a word is an operator between two texts. -/
def isBinary (s : String) : Bool := binaryOperators.contains s

/-- What the first of these words is where it stands: an operator without operands is a
text. -/
def role (ws : List String) : Role :=
  match ws with
  | [] => .finish
  | w :: rest =>
      match roleOf w with
      | .unary o =>
          match rest with
          | [] => .operand
          | [_] => .unary o
          | next :: _ => if isBinary next then .operand else .unary o
      | .left => if rest.isEmpty then .operand else .left
      | r => r

/-- The integer that a word writes. -/
def integer (s : String) : Except String Int :=
  match Integer.strict? true s with
  | some n => .ok n
  | none => .error ("Illegal number: " ++ s)

/-- What is known about files. -/
structure Files where
  /-- Whether the file at a path is as an operator says. -/
  has : String → String → Bool
  /-- Whether the files at two paths are to each other as an operator says. -/
  relates : String → String → String → Bool

/-- Whether an operator holds for a text. -/
def holds (files : Files) (o s : String) : Except String Bool :=
  if o == "-z" then .ok s.isEmpty
  else if o == "-n" then .ok !s.isEmpty
  else if o == "-t" then do
    let _ ← integer s
    return false
  else .ok (files.has o s)

/-- Whether an operator holds between two texts. -/
def compare (files : Files) (o a b : String) : Except String Bool :=
  if o == "=" then .ok (a == b)
  else if o == "!=" then .ok (a != b)
  else if o == "<" then .ok (a < b)
  else if o == ">" then .ok (b < a)
  else if o == "-eq" then return (← integer a) == (← integer b)
  else if o == "-ne" then return (← integer a) != (← integer b)
  else if o == "-lt" then return (← integer a) < (← integer b)
  else if o == "-le" then return (← integer a) ≤ (← integer b)
  else if o == "-gt" then return (← integer a) > (← integer b)
  else if o == "-ge" then return (← integer a) ≥ (← integer b)
  else .ok (files.relates o a b)

/-- A part of a condition: whether it holds, and the words that follow its last one. -/
abbrev Part := Except String (Bool × List String)

mutual

/-- Parts joined by `-o`; `r` is the role of the first word. -/
def disjunction (files : Files) : Nat → Role → List String → Part
  | 0, _, ws => .ok (false, ws)
  | n + 1, r, ws => do
      let (a, rest) ← conjunction files n r ws
      match role (rest.drop 1) with
      | .or =>
          let rest := rest.drop 2
          let (b, rest) ← disjunction files n (role rest) rest
          return (a || b, rest)
      | _ => return (a, rest)

/-- Parts joined by `-a`. -/
def conjunction (files : Files) : Nat → Role → List String → Part
  | 0, _, ws => .ok (false, ws)
  | n + 1, r, ws => do
      let (a, rest) ← negation files n r ws
      match role (rest.drop 1) with
      | .and =>
          let rest := rest.drop 2
          let (b, rest) ← conjunction files n (role rest) rest
          return (a && b, rest)
      | _ => return (a, rest)

/-- A part that may be negated. -/
def negation (files : Files) : Nat → Role → List String → Part
  | 0, _, ws => .ok (false, ws)
  | n + 1, r, ws =>
      match r with
      | .not => do
          let r := role (ws.drop 1)
          let (a, rest) ← negation files n r (if r = .finish then ws else ws.drop 1)
          return (!a, rest)
      | r => primary files n r ws

/-- A part without operators between conditions.  The first of the words that are given back
is the last one of the part. -/
def primary (files : Files) : Nat → Role → List String → Part
  | 0, _, ws => .ok (false, ws)
  | n + 1, r, ws =>
      match r with
      | .finish => .ok (false, ws)
      | .left => do
          let rest := ws.drop 1
          let r := role rest
          if r = .right then return (false, rest)
          let (a, rest) ← disjunction files n r rest
          let rest := rest.drop 1
          if role rest = .right then return (a, rest) else .error "closing paren expected"
      | .unary o =>
          match ws.drop 1 with
          | [] => .error (o ++ ": argument expected")
          | a :: rest => do return (← holds files o a, a :: rest)
      | _ =>
          match ws with
          | [] => .ok (false, [])
          | a :: rest =>
              match role rest with
              | .binary o =>
                  match rest.drop 1 with
                  | [] => .error (o ++ ": argument expected")
                  | b :: rest => do return (← compare files o a b, b :: rest)
              | _ => .ok (!a.isEmpty, a :: rest)

end

/-- Whether a condition of words holds, taken as a whole.  If words are left, the one before them
is reported. -/
def whole (files : Files) (r : Role) (ws : List String) : Except String Bool := do
  let (a, rest) ← disjunction files (8 * ws.length + 8) r ws
  match rest with
  | last :: _ :: _ =>
      if last.isEmpty then .error "unexpected operator"
      else .error (last ++ ": unexpected operator")
  | _ => return a

/-- Whether a condition holds; otherwise what is wrong with it. -/
def evaluate (files : Files) : Nat → List String → Except String Bool
  | 0, _ => .ok false
  | n + 1, ws =>
      match ws with
      | [] => .ok false
      | [a, o, b] =>
          if isBinary o then whole files .operand ws
          else if a == "(" && b == ")" then whole files (role [o]) [o]
          else if a == "!" then do return !(← evaluate files n [o, b])
          else whole files (role ws) ws
      | [a, o, p, b] =>
          if a == "(" && b == ")" then whole files (role [o, p]) [o, p]
          else if a == "!" then do return !(← evaluate files n [o, p, b])
          else whole files (role ws) ws
      | ws => whole files (role ws) ws

end FieldPattern.Shell.Condition
