import FieldPattern.Shell.Format
import FieldPattern.Shell.Tool.Basic

/-! # Tools for lines

Tools that choose, order and count the lines of their input: `cat`, `head`, `tail`, `wc`,
`sort`, `uniq`, `rev`, `tac` and `seq`.  A last line without newline counts as a line. -/

namespace FieldPattern.Shell.Tool

/-- Lines, each with a newline. -/
def joinLines (ls : List (List Char)) : List Char := ls.flatMap fun l => l ++ ['\n']

/-- The lines of a text with their newlines. -/
def fullLines (s : List Char) : List (List Char) :=
  let ls := (linesOf s).map (· ++ ['\n'])
  if s.getLast? == some '\n' then ls
  else ls.dropLast ++ (ls.getLast?.map List.dropLast).toList

/-- A number with blanks before it. -/
def aligned (width n : Nat) : List Char :=
  let ds := Nat.toDigits 10 n
  List.replicate (width - ds.length) ' ' ++ ds

/-- Number lines from `n` on. -/
def numberLines (n : Nat) : List (List Char) → List Char
  | [] => []
  | l :: rest => aligned 6 n ++ '\t' :: l ++ numberLines (n + 1) rest

/-- Whether a path leads to the file to which the output goes, and reading it would reach what is
written. -/
def meetsOutput (s : Streams) (path : String) : Bool :=
  match s.channel? 1 with
  | some (.file l position appends) =>
      let reached := if appends then (s.contentAt l).size else position
      let (source, start) := match path == "-", s.channel? 0, s.host.find (decode path) with
        | true, some (.file l start _), _ => (some l, start)
        | false, _, .ok place => (some place.location, 0)
        | _, _, _ => (none, 0)
      source == some l && start < reached
  | _ => false

/-- Write files one after the other. -/
def cat : Tool := fun j =>
  j.withOptions "AbeEnstTuv" "" 1 fun o =>
    if j.isMute then j.fails "standard output: Bad file descriptor" 1
    else
      let marked (s : List Char) : List Char :=
        if o.has 'E' || o.has 'A' || o.has 'e' then
          s.flatMap fun c => if c = '\n' then ['$', '\n'] else [c] else s
      if o.has 'n' then
        j.mapContents Job.plainComplaint o.others fun s => numberLines 1 (fullLines (marked s))
      else
        let paths := if o.others.isEmpty then ["-"] else o.others
        let written := (j.contentsOf paths).map fun (path, content) =>
          let report (text : String) : Nat × List Char :=
            (2, (j.name ++ ": " ++ text ++ "\n").toList)
          match content with
          | .ok s =>
              if meetsOutput j.streams path then
                report (Quoted.word false path ++ ": input file is output file")
              else (1, marked s)
          | .error cause => report (Job.plainComplaint path cause)
        let closing := if paths.contains "-" && (j.streams.channel? 0).isNone then
          [(2, (j.name ++ ": closing standard input: Bad file descriptor\n").toList)] else []
        let status := if written.any fun w => w.1 == 2 then 1 else 0
        ⟨written ++ closing, status, j.readsInput paths, j.host⟩

/-- A count of lines or bytes: whether it has a sign of its own, and the number. -/
structure Amount where
  sign : Option Char
  number : Nat
deriving DecidableEq, Repr

/-- Read an amount. -/
def Amount.read? (s : String) : Option Amount :=
  let (sign, ds) := match s.toList with
    | '+' :: ds => (some '+', ds)
    | '-' :: ds => (some '-', ds)
    | ds => (none, ds)
  if ds.isEmpty || !ds.all Char.isDigit then none else some ⟨sign, numberIn 10 ds⟩

/-- The arguments with a count such as `-5` written as `-n 5`. -/
def spellCount (arguments : List String) : List String :=
  match arguments with
  | a :: rest =>
      match a.toList with
      | '-' :: c :: cs =>
          if (c :: cs).all Char.isDigit then "-n" :: String.ofList (c :: cs) :: rest else arguments
      | _ => arguments
  | [] => []

/-- How a tool that looks at a part of a file reports that it cannot be read. -/
def partComplaint : Job.Complaint := fun path cause =>
  let shown := Quoted.word true path
  if cause = .isADirectory then "error reading " ++ shown ++ ": Is a directory"
  else "cannot open " ++ shown ++ " for reading: " ++ Job.causeWords cause

/-- Choose a part of each file by a count of lines or of bytes. -/
def part (choose : Amount → List (List Char) → List (List Char)) : Tool := fun j =>
  { j with arguments := spellCount j.arguments }.withOptions "qvz" "nc" 1 fun o =>
      let bytes := o.has 'c'
      let text := ((if bytes then o.value? 'c' else o.value? 'n').getD "10")
      match Amount.read? text with
      | none =>
          let kind := if bytes then "bytes" else "lines"
          let text := if text.startsWith "-" then String.ofList (text.toList.drop 1) else text
          j.fails ("invalid number of " ++ kind ++ ": " ++ Quoted.escaped text) 1
      | some amount =>
          let (read, errors) := j.contents partComplaint o.others
          let pick (s : List Char) : List Char :=
            (choose amount (if bytes then s.map ([·]) else fullLines s)).flatten
          let several := 1 < o.others.length && !o.has 'q' || o.has 'v'
          let shown := read.zipIdx.flatMap fun ((path, s), k) =>
            let title := if path == "-" then "standard input" else path
            (if several then ((if k = 0 then "" else "\n") ++ "==> " ++ title ++ " <==\n").toList
              else []) ++ pick s
          j.shows shown errors (if errors.isEmpty then 0 else 1)
            (o.others.isEmpty || o.others.contains "-")

/-- The first lines. -/
def head : Tool := part fun a ls =>
  if a.sign = some '-' then ls.take (ls.length - a.number) else ls.take a.number

/-- The last lines. -/
def tail : Tool := part fun a ls =>
  if a.sign = some '+' then ls.drop (a.number - 1) else ls.drop (ls.length - a.number)

/-- The number of words of a text. -/
def wordCount (s : List Char) : Nat :=
  (s.foldl (fun (n, inside) c =>
    if isSpace c then (n, false) else (if inside then n else n + 1, true)) (0, false)).1

/-- Count lines, words and bytes. -/
def wc : Tool := fun j =>
  j.withOptions "clLmw" "" 1 fun o =>
      let all := !(o.has 'l' || o.has 'w' || o.has 'c' || o.has 'm')
      let paths := if o.others.isEmpty then ["-"] else o.others
      let counts (s : List Char) : List Nat :=
        (if all || o.has 'l' then [(s.filter (· == '\n')).length] else [])
          ++ (if all || o.has 'w' then [wordCount s] else [])
          ++ (if o.has 'm' then [s.length] else [])
          ++ (if all || o.has 'c' then [s.length] else [])
      let read := j.contentsOf paths
      let rows := read.map fun (path, content) =>
        let title := if o.others.isEmpty then "" else " " ++ path
        match content with
        | .ok s => (some (counts s, title), none)
        | .error cause =>
            let row := if cause = .isADirectory then some (counts [], title) else none
            (row, some (j.name ++ ": " ++ Job.plainComplaint path cause ++ "\n"))
      let total := (rows.filterMap Prod.fst).foldl (fun sums (ns, _) =>
        List.zipWith (· + ·) sums ns) ((counts []).map fun _ => 0)
      let rows := if 1 < paths.length then rows ++ [(some (total, " total"), none)] else rows
      let isRegular (path : String) : Bool :=
        match j.host.node? (decode path) with
        | some (.file _) | some (.program _) => true
        | _ => (j.host.node? (decode path)).isNone && (j.streamOf? path).isNone
      let bytes := (read.flatMap fun r => r.2.toOption.getD []).length
      let width := if rows.length = 1 && total.length = 1 then 1
        else if paths.all isRegular then (Nat.toDigits 10 bytes).length else 7
      let written := rows.flatMap fun (row, report) =>
        (report.map fun r => (2, r.toList)).toList ++ (row.map fun (ns, title) =>
          (1, List.intercalate [' '] (ns.map (aligned width)) ++ title.toList ++ ['\n'])).toList
      let status := if rows.all fun r => r.2.isNone then 0 else 1
      ⟨written, status, j.readsInput paths, j.host⟩

/-- The number at the start of a line, in parts of 10⁻⁹; further places do not count. -/
def leadingNumber (s : List Char) : Int :=
  let s := s.dropWhile fun c => c == ' ' || c == '\t'
  let (negative, s) := match s with
    | '-' :: rest => (true, rest)
    | s => (false, s)
  let whole := s.takeWhile Char.isDigit
  let fraction := match s.drop whole.length with
    | '.' :: rest => rest.takeWhile Char.isDigit
    | _ => []
  let places := (fraction ++ List.replicate (9 - fraction.length) '0').take 9
  let n : Int := numberIn 10 (whole ++ places)
  if negative then -n else n

/-- The field of a line from number `k` on; fields stand between separators, or start with
blanks. -/
def fieldFrom (separator : Option Char) (k : Nat) (s : List Char) : List Char :=
  match k with
  | 0 => s
  | k + 1 =>
      match separator with
      | some c => fieldFrom separator k ((s.dropWhile (· != c)).drop 1)
      | none =>
          let blank (c : Char) : Bool := c == ' ' || c == '\t'
          fieldFrom separator k ((s.dropWhile blank).dropWhile fun c => !blank c)

/-- The key by which a line is ordered: fields from the first number to the second. -/
def sortKey (separator : Option Char) (first : Nat) (last : Option Nat) (s : List Char) :
    List Char :=
  let start := fieldFrom separator (first - 1) s
  match last with
  | none => start
  | some last =>
      let rest := fieldFrom separator last s
      let key := start.take (start.length - rest.length)
      match separator with
      | some c => if rest.isEmpty && key.getLast? != some c then key else key.dropLast
      | none => key

/-- Order lines. -/
def sort : Tool := fun j =>
  j.withOptions "bcCdfghiMmnrRsuVz" "kSTto" 2 fun o =>
      let complaint : Job.Complaint := fun path cause =>
        let shown := Quoted.word false path ++ ": " ++ Job.causeWords cause
        (if cause = .isADirectory then "read failed: " else "cannot read: ") ++ shown
      let unread := o.others.find? fun path => (j.content path).toOption.isNone
      match unread with
      | some path => { j.mapContents complaint [path] id with status := 2 }
      | none =>
      j.mapContents complaint o.others fun s =>
        let keyText := (o.value? 'k').getD ""
        let letters := keyText.toList.filter Char.isAlpha
        let has (c : Char) : Bool := o.has c || letters.contains c
        let bounds := (keyText.splitOn ",").map fun b =>
          numberIn 10 (b.toList.takeWhile Char.isDigit)
        let key (l : List Char) : List Char :=
          let l := match bounds with
            | [] => l
            | [first] => if first = 0 then l else sortKey ((o.value? 't').bind (·.toList.head?))
                first none l
            | first :: last :: _ => sortKey ((o.value? 't').bind (·.toList.head?)) first
                (some last) l
          let l := if has 'b' then l.dropWhile fun c => c == ' ' || c == '\t' else l
          if has 'f' then l.map Char.toUpper else l
        let before (a b : List Char) : Bool :=
          if has 'n' || has 'g' then leadingNumber a < leadingNumber b else a < b
        let less (a b : List Char) : Bool :=
          let (a', b') := if has 'r' then (b, a) else (a, b)
          if before (key a') (key b') then true
          else if before (key b') (key a') then false
          else if o.has 'u' || o.has 's' then false
          else if o.has 'r' then b < a else a < b
        let ordered := (linesOf s).mergeSort fun a b => !less b a
        let kept := if o.has 'u' then
          ordered.foldr (fun l ls =>
            match ls with
            | next :: _ => if less l next || less next l then l :: ls else l :: ls.drop 1
            | [] => [l]) [] else ordered
        joinLines kept

/-- Runs of equal lines, each with its length. -/
def runs (same : List Char → List Char → Bool) : List (List Char) → List (Nat × List Char)
  | [] => []
  | l :: rest =>
      match runs same rest with
      | (n, next) :: more => if same l next then (n + 1, l) :: more else (1, l) :: (n, next) :: more
      | [] => [(1, l)]

/-- Leave out lines that are equal to the one before; what is left goes to a second file if there
is one. -/
def uniq : Tool := fun j =>
  j.withOptions "0123456789cDdiuz" "fsw" 1 fun o =>
    let complaint : Job.Complaint := fun path cause =>
      if cause = .isADirectory then
        "error reading " ++ Quoted.word true path ++ ": Is a directory"
      else Job.plainComplaint path cause
    let shorten (s : List Char) : List Char :=
      let same (a b : List Char) : Bool :=
        if o.has 'i' then a.map Char.toLower == b.map Char.toLower else a == b
      let kept := (runs same (linesOf s)).filter fun (n, _) =>
        (!o.has 'd' || 1 < n) && (!o.has 'u' || n == 1)
      joinLines (kept.map fun (n, l) => if o.has 'c' then aligned 7 n ++ ' ' :: l else l)
    match o.others with
    | _ :: _ :: extra :: _ => j.misused ("extra operand " ++ Quoted.escaped extra) 1
    | [source, target] =>
        match j.content source, j.host.find (decode target) with
        | .error cause, _ => j.fails (complaint source cause) 1
        | .ok _, .error cause => j.fails (Job.plainComplaint target cause) 1
        | .ok s, .ok place =>
            let content := Machine.Node.file (toBytes (shorten s))
            let host := { j.host with disk := j.host.disk.put place.location content }
            { j.writes [] with host := host }
    | paths => j.mapContents complaint paths shorten

/-- Write each line backwards. -/
def rev : Tool := fun j =>
  let complaint : Job.Complaint := fun path cause =>
    "cannot open " ++ path ++ ": " ++ Job.causeWords cause
  j.mapContents complaint j.arguments fun s =>
    (fullLines s).flatMap fun l =>
      if l.getLast? == some '\n' then l.dropLast.reverse ++ ['\n'] else l.reverse

/-- Write the lines in reverse order. -/
def tac : Tool := fun j =>
  let complaint : Job.Complaint := fun path cause =>
    if cause = .isADirectory then path ++ ": read error: Invalid argument"
    else "failed to open " ++ Quoted.word true path ++ " for reading: " ++ Job.causeWords cause
  j.mapContents complaint j.arguments fun s => ((fullLines s).reverse).flatten

/-! ### Numbers -/

/-- A decimal number: an integer, and how many of its digits follow the point. -/
structure Decimal where
  value : Int
  places : Nat
deriving DecidableEq, Repr

namespace Decimal

/-- Read a decimal number, which may have an exponent. -/
def read? (s : String) : Option Decimal :=
  let (negative, cs) := Integer.sign (s.toList.dropWhile isSpace)
  let (m, digits, places, rest) := Real.pointed 10 cs
  let (k, rest) := Real.power 'e' rest
  if digits = 0 || !rest.isEmpty || 400 < k.natAbs then none
  else
    let m : Int := if k ≤ places then m else m * (Nat.pow 10 (k - places).toNat : Nat)
    some ⟨if negative then -m else m, (places - k).toNat⟩

/-- The integer for more digits after the point. -/
def scaled (d : Decimal) (places : Nat) : Int := d.value * (Nat.pow 10 (places - d.places) : Nat)

/-- The text of the number with this many digits after the point, in at least `width` characters
with zeros. -/
def spell (d : Decimal) (places width : Nat) : String :=
  let n := if places < d.places then d.value.tdiv (Nat.pow 10 (d.places - places) : Nat)
    else d.scaled places
  let lead := if n < 0 then "-" else ""
  let ds := Real.withPoint false places n.natAbs
  lead ++ String.ofList (List.replicate (width - (lead.length + ds.length)) '0' ++ ds)

end Decimal

/-- The numbers from `first` to `last` by steps, at most `count` of them. -/
def range (first step last : Int) : Nat → List Int
  | 0 => []
  | count + 1 =>
      if 0 < step && last < first || step < 0 && first < last then []
      else first :: range (first + step) step last count

/-- The width of a number as it is written, if it gets this many digits after the point. -/
def writtenWidth (word : String) (places : Nat) (d : Decimal) : Nat :=
  let word := if word.startsWith "+" then word.toList.drop 1 else word.toList
  if places = 0 then word.length - (if d.places = 0 then 0 else d.places + 1)
  else word.length + places - d.places + (if d.places = 0 then 1 else 0)

/-- Write numbers in order. -/
def seq : Tool := fun j =>
  let isNegative (a : String) : Bool :=
    match a.toList with
    | '-' :: c :: _ => c.isDigit || c == '.'
    | _ => false
  let flags := j.arguments.takeWhile fun a => !isNegative a
  let o := Options.readFirst ['w'] ['s', 'f'] flags
  let words := o.others ++ j.arguments.drop flags.length
  let numbers := words.map fun w => (w, Decimal.read? w)
  match o.fault, words, numbers.find? fun p => p.2.isNone with
  | some fault, _, _ => j.misused fault.message 1
  | none, [], _ => j.misused "missing operand" 1
  | none, _ :: _ :: _ :: extra :: _, _ => j.misused ("extra operand " ++ Quoted.escaped extra) 1
  | none, _, some (w, _) =>
      j.misused ("invalid floating point argument: " ++ Quoted.escaped w) 1
  | none, _, none =>
      let one : String × Decimal := ("1", ⟨1, 0⟩)
      let given := numbers.map fun (w, d) => (w, d.getD ⟨0, 0⟩)
      let (first, step, last) := match given with
        | [last] => (one, one, last)
        | [first, last] => (first, one, last)
        | first :: step :: last :: _ => (first, step, last)
        | [] => (one, one, one)
      if step.2.value = 0 then
        j.misused ("invalid Zero increment value: " ++ Quoted.escaped step.1) 1
      else
        let shown := max first.2.places step.2.places
        let places := max shown last.2.places
        let width := if o.has 'w' then
          max (writtenWidth first.1 shown first.2) (writtenWidth last.1 shown last.2) else 0
        let values := range (first.2.scaled places) (step.2.scaled places)
          (last.2.scaled places) 200000
        let texts := values.map fun n => (Decimal.mk n places).spell shown width
        let texts := match o.value? 'f' with
          | some format => texts.map fun t => String.ofList (printf .program format [t]).output
          | none => texts
        let s := ((o.value? 's').getD "\n").intercalate texts
        j.writes (if texts.isEmpty then [] else s.toList ++ ['\n'])

end FieldPattern.Shell.Tool
