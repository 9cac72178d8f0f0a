import FieldPattern.Shell.Number

/-! # Arithmetic of a shell

The text between `$((` and `))` is an expression over integers of 64 bits, whose operations
wrap around.  From weak to strong, the operators are: assignments, the choice `?:`, `||`, `&&`,
`|`, `^`, `&`, equality, order, shifts, `+` and `-`, `*` and `/` and `%`, and the signs `+`,
`-`, `!` and `~` before an operand.  Quotients are cut off toward zero.

An expression is evaluated while it is read.  A part whose value does not matter, such as the
right side of `0 && x`, is read but not evaluated. -/

namespace FieldPattern.Shell.Arithmetic

/-- A part of an expression. -/
inductive Term where
  | number (n : Int64)
  | name (s : String)
  | operator (s : String)
  | unknown
deriving DecidableEq, Repr

/-- What is wrong with an expression. -/
inductive Fault where
  | expected (what : String)
  | divisionByZero
  /-- The quotient is no integer of 64 bits, and the machine does not go on. -/
  | quotientTooLarge
  /-- The value of a variable is no number. -/
  | notANumber (value : String)
deriving DecidableEq, Repr

/-- The fault in words, for the expression `source`. -/
def Fault.message (source : String) : Fault → String
  | expected what => "arithmetic expression: expecting " ++ what ++ ": \"" ++ source ++ "\""
  | divisionByZero => "arithmetic expression: division by zero: \"" ++ source ++ "\""
  | quotientTooLarge => ""
  | notANumber value => "Illegal number: " ++ value

/-- The operators, longer ones before their beginnings. -/
def operators : List String :=
  ["<<=", ">>=", "&&", "||", "==", "!=", "<=", ">=", "<<", ">>", "*=", "/=", "%=", "+=", "-=",
    "&=", "|=", "^=", "*", "/", "%", "+", "-", "<", ">", "!", "~", "(", ")", "&", "|", "^", "?",
    ":", "="]

/-- The parts of an expression.  The first argument bounds their number. -/
def terms : Nat → List Char → List Term
  | 0, _ => []
  | n + 1, s =>
      match s with
      | [] => []
      | c :: rest =>
          if isBlank c then terms n rest
          else if c.isDigit then
            match Integer.leading? false s with
            | some (k, rest) => .number (Int64.ofInt k) :: terms n rest
            | none => [.unknown]
          else if isNameStart c then
            let name := s.takeWhile isNameChar
            .name (String.ofList name) :: terms n (s.drop name.length)
          else
            match operators.find? fun o => o.toList.isPrefixOf s with
            | some o => .operator o :: terms n (s.drop o.length)
            | none => .unknown :: terms n rest

/-- How loosely a binary operator binds its two sides. -/
def looseness? (o : String) : Option Nat :=
  if o == "*" || o == "/" || o == "%" then some 0
  else if o == "+" || o == "-" then some 1
  else if o == "<<" || o == ">>" then some 2
  else if o == "<" || o == "<=" || o == ">" || o == ">=" then some 3
  else if o == "==" || o == "!=" then some 4
  else if o == "&" then some 5
  else if o == "^" then some 6
  else if o == "|" then some 7
  else none

/-- The truth of a statement as an integer. -/
def truth (p : Bool) : Int64 := if p then 1 else 0

/-- Refuse a division by zero, and one whose quotient does not fit. -/
def divide (a b : Int64) (value : Int64) : Except Fault Int64 :=
  if b == 0 then .error .divisionByZero
  else if b == -1 && a == Int64.minValue then .error .quotientTooLarge
  else .ok value

/-- The value of `a o b`. -/
def apply (o : String) (a b : Int64) : Except Fault Int64 :=
  if o == "*" then .ok (a * b)
  else if o == "/" then divide a b (a / b)
  else if o == "%" then divide a b (a % b)
  else if o == "+" then .ok (a + b)
  else if o == "-" then .ok (a - b)
  else if o == "<<" then .ok (a <<< b)
  else if o == ">>" then .ok (a >>> b)
  else if o == "<" then .ok (truth (a < b))
  else if o == "<=" then .ok (truth (a ≤ b))
  else if o == ">" then .ok (truth (b < a))
  else if o == ">=" then .ok (truth (b ≤ a))
  else if o == "==" then .ok (truth (a == b))
  else if o == "!=" then .ok (truth (a != b))
  else if o == "&" then .ok (a &&& b)
  else if o == "^" then .ok (a ^^^ b)
  else if o == "|" then .ok (a ||| b)
  else .ok b

/-- The operator of an assignment such as `+=`; that of `=` is empty. -/
def assigning? (o : String) : Option String :=
  if ["=", "*=", "/=", "%=", "+=", "-=", "<<=", ">>=", "&=", "^=", "|="].contains o then
    some (String.ofList o.toList.dropLast)
  else none

/-- What is left of an expression, and the values assigned so far, last one first. -/
structure State where
  terms : List Term
  assigned : List (String × Int64)

/-- Evaluating a part of an expression. -/
abbrev Evaluating := StateT State (Except Fault)

namespace Evaluating

/-- Take the next part, if it is the operator `o`. -/
def takeIf (o : String) : Evaluating Bool := do
  let s ← get
  match s.terms with
  | .operator o' :: rest =>
      if o' == o then
        set { s with terms := rest }
        return true
      else return false
  | _ => return false

/-- The value of a variable. -/
def valueOf (values : String → Option String) (name : String) : Evaluating Int64 := do
  match (← get).assigned.lookup name with
  | some n => return n
  | none =>
      let text := (values name).getD ""
      match Integer.strict? false text with
      | some n => return Int64.ofInt n
      | none => throw (.notANumber text)

mutual

/-- An operand.  `idle` says that its value does not matter. -/
def operand (values : String → Option String) : Nat → Bool → Evaluating Int64
  | 0, _ => throw (.expected "primary")
  | n + 1, idle => do
      let s ← get
      match s.terms with
      | .number k :: rest =>
          set { s with terms := rest }
          return k
      | .name x :: rest =>
          set { s with terms := rest }
          if idle then return 0 else valueOf values x
      | .operator o :: rest =>
          set { s with terms := rest }
          if o == "(" then
            let k ← assignment values n idle
            if ← takeIf ")" then return k else throw (.expected "')'")
          else if o == "+" then operand values n idle
          else if o == "-" then return -(← operand values n idle)
          else if o == "!" then return truth ((← operand values n idle) == 0)
          else if o == "~" then return ~~~(← operand values n idle)
          else throw (.expected "primary")
      | _ => throw (.expected "primary")

/-- Go on after an operand with operators that bind no looser than `bound`. -/
def operations (values : String → Option String) : Nat → Bool → Nat → Int64 → Evaluating Int64
  | 0, _, _, a => return a
  | n + 1, idle, bound, a => do
      let s ← get
      match s.terms with
      | .operator o :: rest =>
          match looseness? o with
          | none => return a
          | some k =>
              if bound < k then return a
              else
                set { s with terms := rest }
                let b ← operand values n idle
                let b ← if 0 < k then operations values n idle (k - 1) b else pure b
                let value ← if idle then pure b else liftM (apply o a b)
                operations values n idle bound value
      | _ => return a

/-- Operands joined by `&&`. -/
def conjunction (values : String → Option String) : Nat → Bool → Evaluating Int64
  | 0, _ => throw (.expected "primary")
  | n + 1, idle => do
      let a ← operations values n idle 7 (← operand values n idle)
      if ← takeIf "&&" then
        let b ← conjunction values n (idle || a == 0)
        return truth (a != 0 && b != 0)
      else return a

/-- Operands joined by `||`. -/
def disjunction (values : String → Option String) : Nat → Bool → Evaluating Int64
  | 0, _ => throw (.expected "primary")
  | n + 1, idle => do
      let a ← conjunction values n idle
      if ← takeIf "||" then
        let b ← disjunction values n (idle || a != 0)
        return truth (a != 0 || b != 0)
      else return a

/-- A choice between two values. -/
def choice (values : String → Option String) : Nat → Bool → Evaluating Int64
  | 0, _ => throw (.expected "primary")
  | n + 1, idle => do
      let a ← disjunction values n idle
      if ← takeIf "?" then
        let b ← assignment values n (idle || a == 0)
        if ← takeIf ":" then
          let c ← choice values n (idle || a != 0)
          return if a != 0 then b else c
        else throw (.expected "':'")
      else return a

/-- An assignment, or another expression. -/
def assignment (values : String → Option String) : Nat → Bool → Evaluating Int64
  | 0, _ => throw (.expected "primary")
  | n + 1, idle => do
      let s ← get
      match s.terms with
      | .name x :: .operator o :: rest =>
          match assigning? o with
          | none => choice values n idle
          | some o =>
              set { s with terms := rest }
              let b ← assignment values n idle
              if idle then return b
              else
                let value ← if o.isEmpty then pure b else
                  liftM (apply o (← valueOf values x) b)
                modify fun s => { s with assigned := (x, value) :: s.assigned }
                return value
      | _ => choice values n idle

end

end Evaluating

/-- The value of an expression, and the values that it assigns to variables. -/
def evaluate (values : String → Option String) (source : String) :
    Except Fault (Int × List (String × String)) := do
  let ts := terms source.length.succ source.toList
  let (k, s) ← (Evaluating.assignment values (8 * ts.length + 8) false).run ⟨ts, []⟩
  if s.terms.isEmpty then
    return (k.toInt, s.assigned.reverse.map fun (x, n) => (x, Integer.render n.toInt))
  else throw (.expected "EOF")

end FieldPattern.Shell.Arithmetic
