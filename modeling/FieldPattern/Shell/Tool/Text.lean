import FieldPattern.Shell.Escape
import FieldPattern.Shell.Pattern
import FieldPattern.Shell.Tool.Lines

/-! # Tools for texts

Tools that change or take apart the text of their input or of their arguments: `tr`, `cut`,
`paste`, `fold`, `yes`, `basename`, `dirname` and `expr`. -/

namespace FieldPattern.Shell.Tool

/-! ### Sets of bytes -/

/-- The members of a class such as `[:digit:]`. -/
def classMembers (name : String) : List Char :=
  ((List.range 128).map Char.ofNat).filter (Pattern.classHas name)

/-- The next member of a set as it is written, with what follows. -/
def nextMember (s : List Char) : Option (Char × List Char) :=
  match s with
  | [] => none
  | ['\\'] => some ('\\', [])
  | '\\' :: c :: rest =>
      if isDigitIn 8 c then
        let (b, rest) := Escape.digits 8 3 (c :: rest)
        some (b, rest)
      else
        match if c = 'e' then none else Escape.letter? c with
        | some b => some (b, rest)
        | none => some (c, rest)
  | c :: rest => some (c, rest)

/-- The members of a set as `tr` writes it: characters, ranges, classes, and `[c*n]`. -/
def members : Nat → List Char → List Char
  | 0, _ => []
  | n + 1, s =>
      match s with
      | '[' :: ':' :: rest =>
          let name := rest.takeWhile (· != ':')
          match rest.drop name.length with
          | ':' :: ']' :: rest => classMembers (String.ofList name) ++ members n rest
          | _ => '[' :: members n (':' :: rest)
      | s =>
          match nextMember s with
          | none => []
          | some (c, rest) =>
              match rest with
              | '-' :: d :: rest' =>
                  match nextMember (d :: rest') with
                  | some (d, rest) =>
                      ((List.range (d.toNat + 1 - c.toNat)).map fun k => Char.ofNat (c.toNat + k))
                        ++ members n rest
                  | none => c :: members n rest
              | rest => c :: members n rest

/-- The members of a set as `tr` writes it. -/
def setOf (s : String) : List Char := members s.length.succ s.toList

/-- The place of `c` in a set, the last one if it is there more than once. -/
def lastIndex? (c : Char) (set : List Char) : Option Nat :=
  (set.zipIdx.filter fun p => p.1 == c).getLast?.map Prod.snd

/-- Keep one of several equal characters in a row, if they belong to a set. -/
def squeeze (set : List Char) : List Char → List Char
  | [] => []
  | [c] => [c]
  | c :: d :: rest =>
      if c = d ∧ set.contains c then squeeze set (d :: rest) else c :: squeeze set (d :: rest)

/-- Replace, leave out or join characters. -/
def tr : Tool := fun j =>
  j.withOptions "dscCt" "" 1 fun o =>
    let (deletes, squeezes) := (o.has 'd', o.has 's')
    let sets := o.others.map setOf
    let least := if deletes == squeezes then 2 else 1
    let most := if deletes && !squeezes then 1 else 2
    match o.others.getLast?, o.others[most]? with
    | none, _ => j.misused "missing operand" 1
    | some _, some extra =>
        j.misused ("extra operand " ++ Quoted.escaped extra ++ (if o.others.length = 2 then
          "\nOnly one string may be given when deleting without squeezing repeats." else "")) 1
    | some one, none =>
        if o.others.length < least then
          j.misused ("missing operand after " ++ Quoted.escaped one
            ++ "\nTwo strings must be given when "
            ++ (if squeezes then "both deleting and squeezing repeats." else "translating.")) 1
        else
          let all := (List.range 256).map Char.ofNat
          let first := sets.headD []
          let first := if o.has 'c' || o.has 'C' then all.filter fun c => !first.contains c
            else first
          let second := sets.getD 1 first
          let s := if deletes then j.input.filter fun c => !first.contains c
            else if o.others.length = 1 then j.input
            else j.input.map fun c =>
              match lastIndex? c first with
              | some k => (second[k]?).getD (second.getLastD c)
              | none => c
          j.filters (if squeezes then squeeze second s else s)

/-! ### Columns -/

/-- A list of ranges such as `1,3-5`. -/
abbrev Ranges := List (Nat × Option Nat)

/-- Read a part of a list of ranges; `what` is in a range.  What is wrong with it starts at the
first character that has no place there. -/
def readRange (fields : Bool) (part : List Char) : Except String (Nat × Option Nat) :=
  let counted := if fields then "fields" else "byte/character positions"
  let numbered := counted ++ " are numbered from 1"
  let first := part.takeWhile Char.isDigit
  let zero (ds : List Char) : Bool := !ds.isEmpty && numberIn 10 ds = 0
  match part.drop first.length with
  | [] =>
      if first.isEmpty || zero first then .error numbered
      else .ok (numberIn 10 first, some (numberIn 10 first))
  | '-' :: rest =>
      let last := rest.takeWhile Char.isDigit
      if zero first then .error numbered
      else
        match rest.drop last.length with
        | [] =>
            let a := if first.isEmpty then 1 else numberIn 10 first
            if first.isEmpty && last.isEmpty then .error "invalid range with no endpoint: -"
            else if last.isEmpty then .ok (a, none)
            else if numberIn 10 last < a then .error "invalid decreasing range"
            else .ok (a, some (numberIn 10 last))
        | wrong => .error (invalid wrong)
  | wrong => .error (invalid wrong)
where
  /-- What is said of characters that have no place in a list. -/
  invalid (s : List Char) : String :=
    (if fields then "invalid field value " else "invalid byte/character position ")
      ++ Quoted.escaped (String.ofList s)

/-- Read a list of ranges. -/
def readRanges (fields : Bool) (s : String) : Except String Ranges :=
  (s.toList.splitBy fun a b => a != ',' && b != ',').filter (· != [','])
    |>.mapM (readRange fields)

/-- Whether a number lies in one of the ranges. -/
def inRanges (ranges : Ranges) (k : Nat) : Bool :=
  ranges.any fun (a, b) => a ≤ k && b.all fun b => k ≤ b

/-- The parts of a line between separators. -/
def partsBetween (separator : Char) (s : List Char) : List (List Char) :=
  s.foldr (fun c ps =>
    if c = separator then [] :: ps
    else
      match ps with
      | p :: ps => (c :: p) :: ps
      | [] => [[c]]) [[]]

/-- Choose columns or fields of each line. -/
def cut : Tool := fun j =>
  j.withOptions "nsz" "bcdf" 1 fun o =>
    let columns := (o.value? 'c').orElse fun _ => o.value? 'b'
    let separators := ((o.value? 'd').getD "\t").toList
    if 1 < separators.length then j.misused "the delimiter must be a single character" 1
    else
      match columns.orElse fun _ => o.value? 'f' with
      | none => j.misused "you must specify a list of bytes, characters, or fields" 1
      | some list =>
          if columns.isSome && o.has 'd' then
            j.misused "an input delimiter may be specified only when operating on fields" 1
          else
            match readRanges columns.isNone list with
            | .error message => j.misused message 1
            | .ok ranges => choose j o columns.isSome (separators.headD '\x00') ranges
where
  /-- Choose what lies in ranges. -/
  choose (j : Job) (o : Options) (columns : Bool) (separator : Char) (ranges : Ranges) :
      ToolResult :=
    j.mapContents Job.plainComplaint o.others fun s =>
      joinLines ((linesOf s).filterMap fun l =>
        if columns then
          some ((l.zipIdx.filter fun p => inRanges ranges (p.2 + 1)).map Prod.fst)
        else if !l.contains separator then if o.has 's' then none else some l
        else
          let parts := (partsBetween separator l).zipIdx.filter fun p => inRanges ranges (p.2 + 1)
          some (List.intercalate [separator] (parts.map Prod.fst)))

/-- Put lines side by side, or all lines of a file into one. -/
def paste : Tool := fun j =>
  j.withOptions "sz" "d" 1 fun o =>
      let separators := ((o.value? 'd').map setOf).getD ['\t']
      let (read, errors) := j.contents Job.plainComplaint o.others
      let between (k : Nat) : List Char := separators[k % separators.length]?.toList
      let glue (parts : List (List Char)) : List Char :=
        (parts.zipIdx.flatMap fun (p, k) => (if k = 0 then [] else between (k - 1)) ++ p) ++ ['\n']
      let files := read.map fun f => linesOf f.2
      let height := files.foldl (fun h f => max h f.length) 0
      let shown := if o.has 's' then files.flatMap glue
        else (List.range height).flatMap fun k => glue (files.map fun f => f.getD k [])
      j.shows shown errors (if errors.isEmpty then 0 else 1)
        (o.others.isEmpty || o.others.contains "-")

/-- The pieces of a line, each with at most `width` characters.  The first argument bounds
their number. -/
def pieces (width : Nat) : Nat → List Char → List (List Char)
  | 0, s => [s]
  | n + 1, s =>
      if s.length ≤ width then [s] else s.take width :: pieces width n (s.drop width)

/-- Break long lines. -/
def fold : Tool := fun j =>
  j.withOptions "bs" "w" 1 fun o =>
      let width := ((o.value? 'w').bind Integer.count?).getD 80
      j.mapContents Job.plainComplaint o.others fun s =>
        (fullLines s).flatMap fun l =>
          let body := l.filter (· != '\n')
          List.intercalate ['\n'] (pieces width body.length body) ++ l.filter (· == '\n')

/-- Write a line over and over, until nobody reads any more. -/
def yes : Tool := fun j => j.withOptions "" "" 1 fun o =>
  let line := (if o.others.isEmpty then "y" else " ".intercalate o.others).toList ++ ['\n']
  let s := (List.replicate (65536 / line.length + 1) line).flatten
  if j.isMute then j.fails "standard output: Bad file descriptor" 1
  else { j.writes s with status := 141 }

/-! ### Paths and expressions -/

/-- A text without slashes at its end. -/
def withoutSlashes (s : List Char) : List Char := (s.reverse.dropWhile (· == '/')).reverse

/-- The last name of a path, without an ending. -/
def baseOf (path ending : String) : String :=
  let s := withoutSlashes path.toList
  if s.isEmpty then if path.isEmpty then "" else "/"
  else
    let name := (s.reverse.takeWhile (· != '/')).reverse
    let kept := name.take (name.length - ending.length)
    String.ofList (if kept ++ ending.toList = name ∧ !kept.isEmpty then kept else name)

/-- Texts, each with its end: a newline, or a NUL. -/
def ended (o : Options) (texts : List String) : List Char :=
  texts.flatMap fun t => t.toList ++ [if o.has 'z' then '\x00' else '\n']

/-- Write the last name of a path. -/
def basename : Tool := fun j =>
  let o := Options.readFirst "az".toList "s".toList j.arguments
  match o.fault, o.others with
  | some fault, _ => j.misused fault.message 1
  | none, [] => j.misused "missing operand" 1
  | none, path :: rest =>
      if o.has 'a' || o.has 's' then
        j.writes (ended o (o.others.map fun p => baseOf p ((o.value? 's').getD "")))
      else
        match rest with
        | _ :: extra :: _ => j.misused ("extra operand " ++ Quoted.escaped extra) 1
        | rest => j.writes (ended o [baseOf path (rest.headD "")])

/-- The path without its last name. -/
def directoryOf (path : String) : String :=
  let s := withoutSlashes path.toList
  if s.isEmpty then if path.isEmpty then "." else "/"
  else
    let before := (s.reverse.dropWhile (· != '/')).reverse
    if before.isEmpty then "."
    else
      let kept := withoutSlashes before
      if kept.isEmpty then "/" else String.ofList kept

/-- Write the path without its last name. -/
def dirname : Tool := fun j =>
  j.withOptions "z" "" 1 fun o =>
    if o.others.isEmpty then j.misused "missing operand" 1
    else j.writes (ended o (o.others.map directoryOf))

/-- What an expression of `expr` may be wrong in. -/
inductive ExprFault where
  | notANumber
  | divisionByZero
  | form (message : String)
deriving DecidableEq, Repr

/-- The fault in words. -/
def ExprFault.message : ExprFault → String
  | notANumber => "non-integer argument"
  | divisionByZero => "division by zero"
  | form message => "syntax error: " ++ message

/-- The integer that a text writes. -/
def exprNumber (s : String) : Except ExprFault Int :=
  let ds := match s.toList with
    | '-' :: ds => ds
    | ds => ds
  if ds.isEmpty || !ds.all Char.isDigit then .error .notANumber
  else
    let n : Int := numberIn 10 ds
    .ok (if s.startsWith "-" then -n else n)

/-- Whether a text counts as false: nothing, or zero. -/
def isNull (s : String) : Bool :=
  let ds := match s.toList with
    | '-' :: ds => ds
    | ds => ds
  s.isEmpty || (!ds.isEmpty && ds.all (· == '0'))

/-- How loosely an operator of `expr` binds. -/
def exprLooseness? (o : String) : Option Nat :=
  if o == "|" then some 4
  else if o == "&" then some 3
  else if ["<", "<=", "=", "==", "!=", ">=", ">"].contains o then some 2
  else if o == "+" || o == "-" then some 1
  else if o == "*" || o == "/" || o == "%" then some 0
  else none

/-- The value of `a o b`. -/
def applyExpr (o a b : String) : Except ExprFault String := do
  let truth (p : Bool) : String := if p then "1" else "0"
  if o == "|" then return if isNull a then if isNull b then "0" else b else a
  else if o == "&" then return if isNull a || isNull b then "0" else a
  else if exprLooseness? o = some 2 then
    let order : Ordering := match exprNumber a, exprNumber b with
      | .ok x, .ok y => compare x y
      | _, _ => compare a b
    return truth (match order with
      | .lt => ["<", "<=", "!="].contains o
      | .eq => ["<=", "=", "==", ">="].contains o
      | .gt => [">", ">=", "!="].contains o)
  else
    let x ← exprNumber a
    let y ← exprNumber b
    if o == "+" then return Integer.render (x + y)
    else if o == "-" then return Integer.render (x - y)
    else if o == "*" then return Integer.render (x * y)
    else if y = 0 then throw .divisionByZero
    else if o == "/" then return Integer.render (Int.tdiv x y)
    else return Integer.render (Int.tmod x y)

mutual

/-- An operand of an expression. -/
def exprOperand : Nat → List String → Except ExprFault (String × List String)
  | 0, _ => .error (.form "too deep")
  | n + 1, ws => do
      match ws with
      | [] => throw (.form "missing argument")
      | "(" :: rest =>
          let (a, rest) ← exprFrom n 4 rest
          match rest with
          | ")" :: rest => return (a, rest)
          | w :: _ => throw (.form ("expecting ')' instead of " ++ Quoted.escaped w))
          | [] => throw (.form "expecting ')' after '('")
      | "length" :: s :: rest => return (toString s.length, rest)
      | "substr" :: s :: k :: m :: rest =>
          let k ← exprNumber k
          let m ← exprNumber m
          return (String.ofList ((s.toList.drop (k - 1).toNat).take m.toNat), rest)
      | "index" :: s :: set :: rest =>
          let k := (s.toList.takeWhile fun c => !set.toList.contains c).length
          return (toString (if k < s.length then k + 1 else 0), rest)
      | a :: rest => return (a, rest)

/-- An expression whose operators bind no looser than `bound`. -/
def exprFrom : Nat → Nat → List String → Except ExprFault (String × List String)
  | 0, _, _ => .error (.form "too deep")
  | n + 1, bound, ws => do
      let (a, rest) ← exprOperand n ws
      exprLinks n bound a rest

/-- Go on after an operand. -/
def exprLinks : Nat → Nat → String → List String → Except ExprFault (String × List String)
  | 0, _, a, ws => .ok (a, ws)
  | n + 1, bound, a, ws => do
      match ws with
      | o :: rest =>
          match exprLooseness? o with
          | none => return (a, ws)
          | some k =>
              if bound < k then return (a, ws)
              else
                let (b, rest') ← match rest with
                  | [] => throw (.form ("missing argument after " ++ Quoted.escaped o))
                  | _ => exprOperand n rest
                let (b, rest) ← if 0 < k then exprLinks n (k - 1) b rest' else pure (b, rest')
                exprLinks n bound (← applyExpr o a b) rest
      | [] => return (a, [])

end

/-- Evaluate an expression given in words. -/
def expr : Tool := fun j =>
  match if j.arguments.head? == some "--" then j.arguments.drop 1 else j.arguments with
  | [] => j.misused "missing operand" 2
  | ws =>
      match exprFrom (8 * ws.length + 8) 4 ws with
      | .error e => j.fails e.message 2
      | .ok (a, []) =>
          { j.writes (a.toList ++ ['\n']) with status := if isNull a then 1 else 0 }
      | .ok (_, w :: _) => j.fails ("syntax error: unexpected argument " ++ Quoted.escaped w) 2

end FieldPattern.Shell.Tool
