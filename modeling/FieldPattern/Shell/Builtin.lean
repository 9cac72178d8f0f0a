import FieldPattern.Machine.Standard
import FieldPattern.Shell.Condition
import FieldPattern.Shell.Field
import FieldPattern.Shell.Format
import FieldPattern.Shell.Mask
import FieldPattern.Shell.Reader
import FieldPattern.Shell.State
import FieldPattern.Shell.Tool.Table

/-! # Commands of the shell's own

Some commands are part of the shell, because they read or change its state: its variables,
arguments, options, its working directory.  Those of `Reader.specialNames` are *special*: an
error in one of them ends the shell, and assignments before them last.

Here are the commands that run no script. -/

namespace FieldPattern.Shell.Builtin

/-- A command of the shell's own: the state after it. -/
abbrev Action := State → List String → State

/-- Report a number that is none. -/
def illegalNumber (sh : State) (text : String) : State := sh.fail ("Illegal number: " ++ text)

/-- Go on with a number that an argument writes, or with another one if there is no
argument. -/
def withNumber (sh : State) (argument : Option String) (usual : Nat) (go : Nat → State) : State :=
  match argument with
  | none => go usual
  | some text =>
      match Integer.count? text with
      | some n => go n
      | none => illegalNumber sh text

/-- Go on with the options and the other arguments; the first argument that is no option ends
the options. -/
def withOptions (sh : State) (known valued : List Char) (arguments : List String)
    (go : Options → State) : State :=
  let o := Options.readFirst known valued arguments
  match o.fault with
  | some (.noValue c) => sh.fail ("No arg for -" ++ String.singleton c ++ " option")
  | some (.unknown c) => sh.fail ("Illegal option -" ++ String.singleton c)
  | some (.named _) => sh.fail "Illegal option --"
  | none => go o

/-! ### Writing and testing -/

/-- Write the arguments. -/
def echo : Action := fun sh arguments => (sh.done 0).put (Echo.inShell arguments)

/-- The report on an argument of `printf`. -/
def complaintText (c : Complaint) : String :=
  c.argument ++ ": " ++ match c.fault with
    | .notNumeric => "expected numeric value"
    | .incomplete => "not completely converted"
    | .outOfRange => "Numerical result out of range"

/-- The report on a directive of `printf`. -/
def fatalText : DirectiveFault → String
  | .unfinished _ => "missing format character"
  | .unknown shown => shown ++ ": invalid directive"

/-- Write the arguments as a format says.  What has to be reported comes before what is
written. -/
def formatted : Action := fun sh arguments =>
  withOptions sh [] [] arguments fun o =>
    match o.others with
    | [] => sh.fail "usage: printf format [arg ...]"
    | format :: rest =>
        let f := printf .shell format rest
        let sh := f.complaints.foldl (fun sh c => sh.report (complaintText c)) sh
        let sh := sh.done (if f.complaints.isEmpty then 0 else 1)
        let sh := match f.fatal with
          | some fault => sh.fail (fatalText fault)
          | none => sh
        sh.put f.output

/-- Whether the file that a path leads to is as an operator says. -/
def fileIs (s : Streams) (o path : String) : Bool :=
  let can (operators : List String) : Bool :=
    (["-e", "-r", "-w", "-O", "-G"] ++ operators).contains o
  if o == "-h" || o == "-L" then
    match Tool.placeOf s.host path with
    | .ok (_, some (.link _)) => true
    | .ok (l, none) => ((Machine.streamAt? l).bind fun k => s.table.lookup k).isSome
    | _ => false
  else
    match s.target path with
    | .ok (_, some (.pipe _)) => can ["-p"]
    | .ok (l, some (.node n)) =>
        match n with
        | .directory =>
            can ["-x", "-d", "-s"] || o == "-k" && Machine.Standard.shared.contains l
        | .file content => can ["-f"] || o == "-s" && content.size != 0
        | .device _ => can ["-c"]
        | .program _ => can ["-x", "-f", "-s"]
        | .link _ => false
    | _ => false

/-- Whether the files that two paths lead to are to each other as an operator says. -/
def filesRelate (s : Streams) (o path path' : String) : Bool :=
  match s.target path, s.target path' with
  | .ok (l, some t), .ok (m, some t') =>
      if o == "-nt" then s.host.disk.isNewer l m
      else if o == "-ot" then s.host.disk.isNewer m l
      else
        match t, t' with
        | .pipe k, .pipe k' => k == k'
        | .node (.device d), .node (.device d') => d == d'
        | _, _ => l == m
  | _, _ => false

/-- Tell whether a condition holds. -/
def test (bracket : Bool) : Action := fun sh arguments =>
  let closed := !bracket || (arguments.getLast?.bind (·.toList.head?)) == some ']'
  if !closed then sh.fail "missing ]"
  else
    let words := if bracket then arguments.dropLast else arguments
    let files := ⟨fileIs sh.streams, filesRelate sh.streams⟩
    match Condition.evaluate files words.length.succ words with
    | .ok holds => sh.done (if holds then 0 else 1)
    | .error message => sh.fail message

/-! ### Going on elsewhere -/

/-- End the shell. -/
def exit : Action := fun sh arguments =>
  withNumber sh arguments.head? sh.status fun n =>
    { sh.done (n % 256) with stop := some .exit }

/-- Leave a function or a script. -/
def goBack : Action := fun sh arguments =>
  withNumber sh arguments.head? sh.status fun n =>
    { sh.done n with stop := some (.leaveFunction !arguments.isEmpty) }

/-- Leave loops, or start their next rounds. -/
def leave (make : Nat → Stop) : Action := fun sh arguments =>
  withNumber sh arguments.head? 1 fun n =>
    if n = 0 then illegalNumber sh (arguments.headD "")
    else if sh.loops = 0 then sh.done 0
    else { sh.done 0 with stop := some (make (min n sh.loops)) }

/-! ### Variables -/

/-- A value between single quotation marks. -/
def singleQuoted (s : String) : String :=
  let parts := (s.splitOn "'").map fun p => if p.isEmpty then "" else "'" ++ p ++ "'"
  if s.isEmpty then "''" else "\"'\"".intercalate parts

/-- The variables that `p` chooses, as commands that set them. -/
def listing (sh : State) (lead : String) (p : Variable → Bool) : List Char :=
  let chosen := (sh.bindings.filter fun v => p v.2).mergeSort fun a b => !(b.1 < a.1)
  chosen.flatMap fun (name, v) =>
    let value := match v.value with
      | some value => "=" ++ singleQuoted value
      | none => ""
    (lead ++ name ++ value ++ "\n").toList

/-- Mark variables, and give them values. -/
def mark (lead : String) (change : Variable → Variable) (p : Variable → Bool) : Action :=
  fun sh arguments =>
    withOptions sh ['p'] [] arguments fun o =>
      if o.others.isEmpty || o.has 'p' then (sh.done 0).put (listing sh lead p)
      else
        o.others.foldl (fun sh a =>
          if sh.stop.isSome then sh
          else
            let name := String.ofList (a.toList.takeWhile (· != '='))
            if !isName name then sh.fail (name ++ ": bad variable name")
            else
              let sh := if name.length < a.length then
                sh.assign name (String.ofList (a.toList.drop (name.length + 1))) else sh
              if sh.stop.isSome then sh
              else
                let v := (sh.bindings.lookup name).getD ⟨none, false, false⟩
                sh.setVariable name (some (change v))) (sh.done 0)

/-- Give variables to the programs that are started. -/
def exports : Action :=
  mark "export " (fun v => { v with exported := true }) Variable.exported

/-- Make variables keep their values. -/
def readonly : Action :=
  mark "readonly " (fun v => { v with fixed := true }) Variable.fixed

/-- Make variables local to the function being run; `-` stands for the options.  A name that is
none is only refused if it is neither set here nor before. -/
def locals : Action := fun sh arguments =>
  match sh.frames with
  | [] => sh.fail "not in a function"
  | frame :: others =>
      let (sh, frame) := arguments.foldl (fun ((sh : State), (frame : Frame)) a =>
        let name := String.ofList (a.toList.takeWhile (· != '='))
        let old := sh.bindings.lookup name
        if sh.stop.isSome then (sh, frame)
        else if a == "-" then
          (sh, { frame with switches := some (frame.switches.getD sh.switches) })
        else if !isName name && name == a && old.isNone then
          (sh.fail (name ++ ": bad variable name"), frame)
        else
          let known := frame.bindings.any fun v => v.1 == name
          let frame := if known then frame
            else { frame with bindings := (name, old) :: frame.bindings }
          let sh := if name.length < a.length then
            sh.assign name (String.ofList (a.toList.drop (name.length + 1))) else sh
          (sh, frame)) (sh.done 0, frame)
      { sh with frames := frame :: others }

/-- Remove variables or functions.  In the name of a variable, `=` and what follows it are passed
over. -/
def unset : Action := fun sh arguments =>
  withOptions sh ['f', 'v'] [] arguments fun o =>
    let functions := (o.letters.getLast?.map Prod.fst) == some 'f'
    o.others.foldl (fun sh name =>
      if sh.stop.isSome then sh
      else if functions then
        { sh with functions := sh.functions.filter fun f => f.1 != name }
      else
        let name := String.ofList (name.toList.takeWhile (· != '='))
        match isName name, sh.bindings.lookup name with
        | false, _ => sh.fail (name ++ ": bad variable name")
        | true, some v =>
            if v.fixed then sh.fail (name ++ ": is read only")
            else if name == "OPTIND" then sh.fail "Illegal number: "
            else sh.setVariable name none
        | true, none => sh) (sh.done 0)

/-! ### Arguments and options -/

/-- The letters of the options, with their long names, in the order in which they are listed. -/
def switchNames : List (Char × String) := [
  ('e', "errexit"), ('f', "noglob"), ('I', "ignoreeof"), ('i', "interactive"), ('m', "monitor"),
  ('n', "noexec"), ('s', "stdin"), ('x', "xtrace"), ('v', "verbose"), ('V', "vi"), ('E', "emacs"),
  ('C', "noclobber"), ('a', "allexport"), ('b', "notify"), ('u', "nounset"),
  ('p', "privileged")]

/-- Switch an option on or off; the letters stand in the opposite order of the names. -/
def switch (on : Bool) (switches : List Char) (c : Char) : List Char :=
  let others := switches.filter (· != c)
  if on then
    (switchNames.reverse.map Prod.fst).filter fun d => d = c ∨ others.contains d
  else others

/-- The letters of one argument as options, or the one that is none. -/
def switchAll (on : Bool) (switches letters : List Char) : Except Char (List Char) :=
  letters.foldlM (fun switches c =>
    if (switchNames.lookup c).isSome then .ok (switch on switches c) else .error c) switches

/-- The letter of the option with a long name. -/
def switchOf? (name : String) : Option Char :=
  (switchNames.find? fun s => s.2 == name).map Prod.fst

/-- The options with their states, or as arguments that switch them. -/
def switchListing (sh : State) (states : Bool) : List Char :=
  let padded (name : String) : List Char := name.toList ++ List.replicate (16 - name.length) ' '
  let one (name : String) (on : Bool) : List Char :=
    if states then padded name ++ (if on then "on\n" else "off\n").toList
    else ("set " ++ (if on then "-o " else "+o ") ++ name ++ "\n").toList
  (if states then "Current option settings\n".toList else [])
    ++ (switchNames.flatMap fun (c, name) => one name (sh.has c))
    ++ one "nolog" false ++ one "debug" false

/-- What is said where programs cannot be controlled. -/
def noTerminal : String := "can't access tty; job control turned off"

/-- Switch an option of the shell on or off; programs cannot be controlled without a terminal,
which only the outermost shell needs. -/
def switchHere (on : Bool) (sh : State) (c : Char) : State :=
  if on && c == 'm' && sh.depth = 0 then sh.report noTerminal
  else { sh with switches := switch on sh.switches c }

/-- Switch the options that letters stand for; `o` takes a long name from the other arguments,
or lists the options if there is none.  Gives what is left of the other arguments. -/
def switchFrom (on : Bool) : State → List Char → List String → State × List String
  | sh, [], rest => (sh, rest)
  | sh, c :: letters, rest =>
      if c = 'o' then
        match rest with
        | [] => switchFrom on (sh.put (switchListing sh on)) letters []
        | name :: rest =>
            match switchOf? name with
            | some c => switchFrom on (switchHere on sh c) letters rest
            | none =>
                if name == "nolog" || name == "debug" then switchFrom on sh letters rest
                else (sh.fail ("Illegal option -o " ++ name), rest)
      else if (switchNames.lookup c).isSome then
        switchFrom on (switchHere on sh c) letters rest
      else (sh.fail ("Illegal option -" ++ String.singleton c), rest)

/-- Change the options and the arguments of the shell.  The first argument bounds the number of
the others. -/
def setFrom : Nat → State → List String → State
  | 0, sh, _ => sh
  | _ + 1, sh, [] => sh
  | n + 1, sh, a :: rest =>
      match a.toList with
      | ['-'] =>
          let sh := { sh with switches := sh.switches.filter fun c => c != 'x' && c != 'v' }
          if rest.isEmpty then sh else sh.setArguments rest
      | ['-', '-'] => sh.setArguments rest
      | sign :: letters =>
          if sign = '-' ∨ sign = '+' then
            let (sh, rest) := switchFrom (sign == '-') sh letters rest
            if sh.stop.isSome then sh else setFrom n sh rest
          else sh.setArguments (a :: rest)
      | [] => sh.setArguments (a :: rest)

/-- Change the options and the arguments of the shell, or list its variables. -/
def set : Action := fun sh arguments =>
  match arguments with
  | [] => (sh.done 0).put (listing sh "" fun v => v.value.isSome)
  | arguments => setFrom arguments.length (sh.done 0) arguments

/-- Leave out the first arguments. -/
def shift : Action := fun sh arguments =>
  withNumber sh arguments.head? 1 fun n =>
    if sh.arguments.length < n then sh.fail "can't shift that many"
    else (sh.done 0).setArguments (sh.arguments.drop n)

/-- Whether the letter of an option takes a value, if the letter is among the known ones; a colon
after a letter says that it does. -/
def takesValue? (letter : Char) : List Char → Option Bool
  | [] => none
  | c :: rest =>
      if c = letter then some (rest.head? == some ':')
      else
        match rest with
        | ':' :: rest => takesValue? letter rest
        | rest => takesValue? letter rest

/-- What has been found where the next option may stand. -/
structure OptionFound where
  /-- The letter, `?` for one that is not known and `:` for one without its value; nothing at the
  end of the options. -/
  letter : Option Char
  /-- The new value of `OPTARG`, if it gets one or loses its old one. -/
  value : Option (Option String)
  report : String
  spot : OptionSpot

/-- Look at the option with this letter.  `rest` follows it in its argument, and `next` is the
number of the argument after that. -/
def optionAt (known : List Char) (words : List String) (letter : Char) (rest : List Char)
    (next : Nat) : OptionFound :=
  let silent := known.head? == some ':'
  let text := String.singleton letter
  let wrong (found : Char) (report : String) (spot : OptionSpot) : OptionFound :=
    if silent then ⟨some found, some (some text), "", spot⟩
    else ⟨some '?', some none, report, spot⟩
  let length := ((words[next - 2]?).getD "").length
  let here : OptionSpot := ⟨next, some (length - rest.length)⟩
  match takesValue? letter known, rest with
  | none, _ => wrong '?' ("Illegal option -" ++ text ++ "\n") here
  | some false, _ => ⟨some letter, some (some ""), "", here⟩
  | some true, [] =>
      match words[next - 1]? with
      | some value => ⟨some letter, some (some value), "", ⟨next + 1, none⟩⟩
      | none => wrong ':' ("No arg for -" ++ text ++ " option\n") ⟨next, none⟩
  | some true, rest => ⟨some letter, some (some (String.ofList rest)), "", ⟨next, none⟩⟩

/-- Find the next option among words. -/
def nextOption (known : List Char) (words : List String) (spot : OptionSpot) : OptionFound :=
  let left : List Char :=
    match spot.read with
    | some k => if spot.next < 2 then [] else ((words[spot.next - 2]?).getD "").toList.drop k
    | none => []
  match left, ((words[spot.next - 1]?).getD "").toList with
  | letter :: rest, _ => optionAt known words letter rest spot.next
  | [], ['-', '-'] => ⟨none, none, "", ⟨spot.next + 1, none⟩⟩
  | [], '-' :: letter :: rest => optionAt known words letter rest (spot.next + 1)
  | [], _ => ⟨none, none, "", ⟨spot.next, none⟩⟩

/-- Look at the next option among the arguments. -/
def getopts : Action := fun sh arguments =>
  match arguments with
  | letters :: variableText :: rest =>
      let name := String.ofList (variableText.toList.takeWhile (· != '='))
      let words := if rest.isEmpty then sh.arguments else rest
      let spot := if words.length + 1 < sh.optionSpot.next then .first else sh.optionSpot
      let found := nextOption letters.toList words spot
      let sh := sh.write 2 found.report.toList
      let sh := match found.value with
        | some (some value) => sh.assign "OPTARG" value
        | some none => sh.setVariable "OPTARG" none
        | none => sh
      let sh := if sh.stop.isSome then sh else sh.assign "OPTIND" (toString found.spot.next)
      let sh := if sh.stop.isSome then sh
        else if isName name then sh.assign name (String.singleton (found.letter.getD '?'))
        else sh.fail (name ++ ": bad variable name")
      if sh.stop.isSome then sh
      else { sh.done (if found.letter.isSome then 0 else 1) with optionSpot := found.spot }
  | _ => sh.fail "Usage: getopts optstring var [arg...]"

/-! ### Reading -/

/-- Read a line from the input: its characters, each with whether it is quoted, and whether the
line is complete.  The first argument bounds the number of characters. -/
def readLineFrom (raw : Bool) : Nat → Streams → List Mark × Bool × Streams
  | 0, s => ([], false, s)
  | n + 1, s =>
      match s.readByte 0 with
      | none => ([], false, s)
      | some ('\n', s) => ([], true, s)
      | some ('\x00', s) => readLineFrom raw n s
      | some (c, s) =>
          if c = '\\' ∧ !raw then
            match s.readByte 0 with
            | none => ([], false, s)
            | some ('\n', s) => readLineFrom raw n s
            | some (d, s) =>
                let (ms, complete, s) := readLineFrom raw n s
                ((d, true) :: ms, complete, s)
          else
            let (ms, complete, s) := readLineFrom raw n s
            ((c, false) :: ms, complete, s)

/-- Whether a character of a line separates fields. -/
def separates (separators : List Char) (m : Mark) : Bool := !m.2 && separators.contains m.1

/-- The first field of a line, and what follows the separators after it. -/
def firstField (separators : List Char) (line : List Mark) : List Mark × List Mark :=
  let blank (m : Mark) : Bool := separates separators m && isBlank m.1
  let field := line.takeWhile fun m => !separates separators m
  let rest := (line.drop field.length).dropWhile blank
  match rest with
  | m :: more => if separates separators m then (field, more.dropWhile blank) else (field, rest)
  | [] => (field, [])

/-- What the last variable gets: the rest of the line without blanks at its end, and without a
separator at its end if that is the only one. -/
def lastField (separators : List Char) (line : List Mark) : List Mark :=
  let blank (m : Mark) : Bool := separates separators m && isBlank m.1
  let trimmed := (line.reverse.dropWhile blank).reverse
  let (field, rest) := firstField separators trimmed
  if rest.isEmpty then field else trimmed

/-- Give a value to the variable that an argument names before an equals sign or its end. -/
def assignNamed (sh : State) (argument : String) (value : List Mark) : State :=
  let name := String.ofList (argument.toList.takeWhile (· != '='))
  if isName name then sh.assign name (String.ofList (value.map Prod.fst))
  else sh.fail (name ++ ": bad variable name")

/-- Give the fields of a line to variables. -/
def assignFields (separators : List Char) : State → List String → List Mark → State
  | sh, [], _ => sh
  | sh, [name], line => assignNamed sh name (lastField separators line)
  | sh, name :: others, line =>
      let (field, rest) := firstField separators line
      let sh := assignNamed sh name field
      if sh.stop.isSome then sh else assignFields separators sh others rest

/-- Read a line from the input into variables. -/
def read : Action := fun sh arguments =>
  withOptions sh ['r'] ['p'] arguments fun o =>
    if o.others.isEmpty then sh.fail "arg count"
    else
      let (line, complete, streams) := readLineFrom (o.has 'r') 1000000 sh.streams
      let separators := sh.separators
      let line := line.dropWhile fun m => separates separators m && isBlank m.1
      let sh := { sh.done (if complete then 0 else 1) with streams := streams }
      assignFields separators sh o.others line

/-! ### Directories -/

/-- The path of a working directory after a step along a path, without `.` and `..`.  Two slashes at
the start of a path stay. -/
def tidy (directory path : String) : String :=
  let joined := Machine.Path.join directory path
  let lead := match joined.toList with
    | '/' :: '/' :: '/' :: _ => "/"
    | '/' :: '/' :: _ => "//"
    | _ => "/"
  let names := (Machine.Path.names joined).foldl (fun names name =>
    if name == "." then names else if name == ".." then names.dropLast else names ++ [name]) []
  lead ++ "/".intercalate names

/-- The path that leads from the root directory to a location. -/
def pathOf (l : Machine.Location) : String := "/" ++ "/".intercalate l

/-- The first place for a directory among those of the search path for directories, and whether it
is to be shown. -/
def searchDirectory (sh : State) (path : String) : String × Bool :=
  let starts := (["/", "./", "../"].any fun start => path.startsWith start)
    || path == "." || path == ".."
  match if starts then none else sh.value? "CDPATH" with
  | none => (path, false)
  | some places =>
      let isDirectory (path : String) : Bool :=
        match sh.streams.host.node? (decode path) with
        | some .directory => true
        | _ => false
      let path := if path.isEmpty then "." else path
      match (places.splitOn ":").find? fun place => isDirectory (Machine.pathIn place path) with
      | some place => (Machine.pathIn place path, !place.isEmpty)
      | none => (path, false)

/-- Change the working directory.  Unless the option `P` is given last, `..` leads back on the path
that has been taken. -/
def cd : Action := fun sh arguments =>
  withOptions sh ['L', 'P'] [] arguments fun o =>
  let back := o.others.head? == some "-"
  let path := if back then sh.valueOf "OLDPWD" else o.others.headD (sh.valueOf "HOME")
  let (place, shown) := searchDirectory sh path
  let host := sh.streams.host
  let physical := (o.letters.getLast?.map Prod.fst) == some 'P'
  let target := if physical then decode place
    else if place.isEmpty then host.homePath else tidy host.homePath (decode place)
  match host.findDirectory target (Machine.Path.names target) with
  | .error _ => sh.fail ("can't cd to " ++ path)
  | .ok location =>
      let homePath := if physical then pathOf location else target
      let old := encode host.homePath
      let host := { host with home := location, homePath := homePath }
      let sh := { sh.done 0 with streams := { sh.streams with host := host } }
      let sh := (sh.assign "OLDPWD" old).assign "PWD" (encode homePath)
      if back || shown then sh.put (encode homePath ++ "\n").toList else sh

/-- Write the path of the working directory. -/
def pwd : Action := fun sh arguments =>
  withOptions sh ['L', 'P'] [] arguments fun o =>
    let host := sh.streams.host
    let physical := (o.letters.getLast?.map Prod.fst) == some 'P'
    (sh.done 0).put (encode (if physical then pathOf host.home else host.homePath) ++ "\n").toList

/-! ### Signals -/

/-- Send a signal to a program.  The first program of the machine takes no notice of it, and no
group of programs has the number of a job. -/
def signalTo (signal : Nat) (sh : State) (target : String) : State :=
  let gone : State := { sh.report "No such process\n" with status := 1 }
  if target.startsWith "%" then
    match sh.jobs.named target with
    | .error message => sh.fail message
    | .ok _ => gone
  else
    match Integer.strict? true target with
    | none => sh.fail ("Illegal number: " ++ target)
    | some n =>
        if n = 0 then sh.send sh.number signal
        else if n = 1 then sh
        else if 0 < n && sh.numbers.contains n.toNat then sh.send n.toNat signal
        else
          match sh.jobs.numbered? n.toNat with
          | some (place, job) =>
              if job.waited then gone
              else { sh with jobs := sh.jobs.change place fun b => some (b.struck signal) }
          | none => gone

/-- List the names of the signals, or tell the one by which a program with this status has
ended. -/
def signalListing (sh : State) (arguments : List String) : State :=
  match arguments with
  | [] => (sh.done 0).put (("0" :: Signal.names).flatMap fun name => (name ++ "\n").toList)
  | a :: _ =>
      withOptions sh [] [] arguments fun _ =>
      withNumber sh (some a) 0 fun n =>
        let signal := if 128 < n then n - 128 else n
        if 0 < signal ∧ signal < 65 ∧ n ≠ 128 then
          (sh.done 0).put (Signal.name signal ++ "\n").toList
        else sh.fail ("invalid signal number or exit status: " ++ a)

/-- Send a signal to programs, or list the signals. -/
def kill : Action := fun sh arguments =>
  let send (signal : Nat) : List String → State
    | [] => sh.fail
        "Usage: kill [-s sigspec | -signum | -sigspec] [pid | job]... or\nkill -l [exitstatus]"
    | targets => targets.foldl (fun sh target =>
        if sh.stop = some .fault then sh else signalTo signal sh target) (sh.done 0)
  match arguments with
  | "-l" :: rest => signalListing sh rest
  | ["-s"] => sh.fail "No arg for -s option"
  | "-s" :: name :: rest =>
      match Signal.ofText? name with
      | some signal => send signal rest
      | none => sh.fail ("invalid signal number or name: " ++ name)
  | "--" :: rest => send 15 rest
  | a :: rest =>
      if a.startsWith "-" && 1 < a.length then
        match Signal.ofText? (String.ofList (a.toList.drop 1)) with
        | some signal => send signal rest
        | none => sh.fail ("Illegal option -" ++ String.ofList ((a.toList.drop 1).take 1))
      else send 15 (a :: rest)
  | [] => send 15 []

/-- Catch signals. -/
def trap : Action := fun sh arguments =>
  withOptions sh [] [] arguments fun o =>
  match o.others with
  | [] =>
      (sh.done 0).put (sh.traps.flatMap fun (name, script) =>
        ("trap -- " ++ singleQuoted script ++ " " ++ name ++ "\n").toList)
  | first :: rest =>
      let (action, names) := if rest.isEmpty then ("-", [first])
        else if (Integer.digits? first).isSome then ("-", first :: rest) else (first, rest)
      let known := names.takeWhile fun name => (Signal.ofText? name).isSome
      let sh := known.foldl (fun sh name =>
        let name := Signal.name ((Signal.ofText? name).getD 0)
        let others := sh.traps.filter fun t => t.1 != name
        { sh with traps := if action == "-" then others else others ++ [(name, action)] })
        (sh.done 0)
      match names.drop known.length with
      | [] => sh
      | name :: _ => (sh.write 2 ("trap: " ++ name ++ ": bad trap\n").toList).done 1

/-! ### Permissions and limits -/

/-- Show or set the permissions that new files do not get. -/
def umask : Action := fun sh arguments =>
  withOptions sh ['S'] [] arguments fun o =>
    match o.others with
    | [] =>
        let text := if o.has 'S' then Mask.spell sh.mask else Mask.digits sh.mask
        (sh.done 0).put (text ++ "\n").toList
    | text :: _ =>
        let s := text.toList
        if s.head?.any Char.isDigit then
          match Mask.ofDigits? s with
          | some mask => { sh.done 0 with mask := mask }
          | none => illegalNumber sh text
        else
          match Mask.read? s sh.mask with
          | some mask => { sh.done 0 with mask := mask }
          | none => sh.fail ("Illegal mode: " ++ text)

/-- Show a limit on what programs may use.  Files may have any size. -/
def ulimit : Action := fun sh arguments =>
  withOptions sh "HSatfdscmlpnvwr".toList [] arguments fun o =>
    (sh.done 0).put (if o.others.isEmpty then "unlimited\n".toList else [])

/-- Show the time that the shell and the programs started by it have used, which is too short to
be measured. -/
def times : Action := fun sh _ =>
  let time := "0m0.000000s"
  let line := time ++ " " ++ time ++ "\n"
  (sh.done 0).put (line ++ line).toList

/-! ### Programs in the background -/

/-- Wait for the job at a place.  That a signal has ended it is told once. -/
def waitAt (sh : State) (place : Nat) (job : Background) : State :=
  let notice := if job.known then "" else (job.signal.map Signal.notice).getD ""
  let waited : Background := { job with known := true, waited := true }
  { (sh.write 2 notice.toList).done job.status with
    jobs := sh.jobs.change place fun _ => some waited }

/-- Wait for a job by its number or its name. -/
def waitFor (sh : State) (target : String) : State :=
  if target.startsWith "%" then
    match sh.jobs.named target with
    | .error message => sh.fail message
    | .ok (place, job) => waitAt sh place job
  else
    withNumber sh (some target) 0 fun number =>
      match sh.jobs.numbered? number with
      | some (place, job) => waitAt sh place job
      | none => sh.done 127

/-- Wait for jobs, all of which have ended. -/
def wait : Action := fun sh arguments =>
  withOptions sh [] [] arguments fun o =>
    if o.others.isEmpty then
      { sh.done 0 with
        jobs := sh.jobs.map fun job => job.map fun b => { b with known := true, waited := true } }
    else
      o.others.foldl (fun sh target => if sh.stop.isSome then sh else waitFor sh target)
        (sh.done 0)

/-- Show a job.  The place of one that is known to have ended becomes free. -/
def showJob (o : Options) (sh : State) (place : Nat) (job : Background) : State :=
  let text := if o.has 'p' then toString job.number ++ "\n"
    else sh.jobs.line (o.has 'l') place job
  { sh.put text.toList with
    jobs := sh.jobs.change place fun b => if b.known then none else some b }

/-- Show jobs. -/
def jobs : Action := fun sh arguments =>
  withOptions sh ['l', 'p'] [] arguments fun o =>
    if o.others.isEmpty then
      sh.jobs.newest.foldl (fun sh (place, job) => showJob o sh place job) (sh.done 0)
    else
      o.others.foldl (fun sh target =>
        if sh.stop.isSome then sh
        else
          match sh.jobs.named target with
          | .error message => sh.fail message
          | .ok (place, job) => showJob o sh place job) (sh.done 0)

/-- Let a job go on, which only a shell at a terminal can do. -/
def resume : Action := fun sh arguments =>
  withOptions sh [] [] arguments fun o =>
    match sh.jobs.named (o.others.headD "%") with
    | .error message => sh.fail message
    | .ok _ =>
        sh.fail ("job " ++ o.others.headD "(null)" ++ " not created under job control")

/-! ### Other names for commands -/

/-- The place of a name among `count` ones, which is that of its list in a table of names. -/
def rank (count : Nat) (name : String) : Nat :=
  let codes := name.toList.map Char.toNat
  (codes.foldl (· + ·) (16 * codes.headD 0)) % 32768 % count

/-- Names in the order in which they stand in a table of `count` lists. -/
def ranked (count : Nat) (names : List (String × String)) : List (String × String) :=
  names.mergeSort fun a b => rank count a.1 ≤ rank count b.1

/-- An alias as an assignment. -/
def spellAlias (a : String × String) : List Char :=
  (a.1 ++ "=" ++ singleQuoted a.2 ++ "\n").toList

/-- Give names to texts, or show them. -/
def aliases : Action := fun sh arguments =>
  if arguments.isEmpty then (sh.done 0).put ((ranked 39 sh.aliases).flatMap spellAlias)
  else
    arguments.foldl (fun sh a =>
      let (first, rest) := (a.toList.take 1, a.toList.drop 1)
      let name := String.ofList (first ++ rest.takeWhile (· != '='))
      if name.length < a.length then
        let text := String.ofList (a.toList.drop (name.length + 1))
        { sh with
          aliases := if sh.aliases.any fun p => p.1 == name then
              sh.aliases.map fun p => if p.1 == name then (name, text) else p
            else sh.aliases ++ [(name, text)] }
      else
        match sh.aliases.lookup name with
        | some text => sh.put (spellAlias (name, text))
        | none => (sh.write 2 ("alias: " ++ name ++ " not found\n").toList).done 1) (sh.done 0)

/-- Forget names of texts. -/
def forgetAliases : Action := fun sh arguments =>
  withOptions sh ['a'] [] arguments fun o =>
    if o.has 'a' then { sh.done 0 with aliases := [] }
    else
      o.others.foldl (fun sh name =>
        if (sh.aliases.lookup name).isSome then
          { sh with aliases := sh.aliases.filter fun p => p.1 != name }
        else (sh.write 2 ("unalias: " ++ name ++ " not found\n").toList).done 1) (sh.done 0)

/-! ### Names of commands -/

/-- The names of the shell's own commands. -/
def ownNames : List String := [
  ".", ":", "[", "alias", "bg", "break", "cd", "chdir", "command", "continue", "echo", "eval",
  "exec", "exit", "export", "false", "fg", "getopts", "hash", "jobs", "kill", "local", "printf",
  "pwd", "read", "readonly", "return", "set", "shift", "test", "times", "trap", "true", "type",
  "ulimit", "umask", "unalias", "unset", "wait"]

/-- Whether a command is the shell's own. -/
def isKnown (name : String) : Bool := ownNames.contains name

/-- The path of what has been found by a name, or is found now. -/
def pathOf? (sh : State) (name : String) : Option String :=
  match sh.found.lookup name with
  | some path => some path
  | none =>
      if name.toList.contains '/' then
        if sh.streams.host.pathExists (decode name) then some name else none
      else (sh.program name).toOption.map Prod.fst

/-- Keep the path at which a program has been found by its name. -/
def keep (sh : State) (name path : String) : State :=
  if name.toList.contains '/' || (sh.found.lookup name).isSome then sh
  else { sh with found := sh.found ++ [(name, path)] }

/-- Tell what a name means as a command, to the shell's output; `brief` for the bare name or
path. -/
def describe (brief : Bool) (sh : State) (name : String) : State :=
  let say (text : String) : State := sh.put ((if brief then name else name ++ text) ++ "\n").toList
  if keywords.contains name then say " is a shell keyword"
  else if let some text := sh.aliases.lookup name then
    if brief then sh.put ("alias ".toList ++ spellAlias (name, text))
    else say (" is an alias for " ++ text)
  else if (sh.functions.lookup name).isSome && !specialNames.contains name then
    say " is a shell function"
  else if specialNames.contains name then say " is a special shell builtin"
  else if isKnown name then say " is a shell builtin"
  else
    match pathOf? sh name with
    | some path =>
        let kept := if (sh.found.lookup name).isSome then " is a tracked alias for " else " is "
        keep (sh.put ((if brief then path else name ++ kept ++ path) ++ "\n").toList) name path
    | none =>
        if brief then sh.done 127 else (sh.put (name ++ ": not found\n").toList).done 127

/-- Say what names mean as commands. -/
def type : Action := fun sh names => names.foldl (describe false) (sh.done 0)

/-- Look for commands, or list those that have been found. -/
def hash : Action := fun sh arguments =>
  withOptions sh ['r'] [] arguments fun o =>
    if o.has 'r' then { sh.done 0 with found := [] }
    else if o.others.isEmpty then
      (sh.done 0).put ((ranked 31 sh.found).flatMap fun f => (f.2 ++ "\n").toList)
    else
      o.others.foldl (fun sh name =>
        if isKnown name || (sh.functions.lookup name).isSome || name.toList.contains '/' then sh
        else
          match sh.program name with
          | .ok (path, _) => keep sh name path
          | .error cause =>
              (sh.report (name ++ ": " ++ Streams.causeText "not found" cause)).done 1) (sh.done 0)

/-! ### The table -/

/-- Do nothing, successfully. -/
def nothing : Action := fun sh _ => sh.done 0

/-- The commands that run no script, by name. -/
def table : List (String × Action) := [
  (":", nothing), ("[", test true), ("alias", aliases), ("bg", resume),
  ("break", leave .leaveLoops), ("cd", cd), ("chdir", cd), ("continue", leave .nextRound),
  ("echo", echo), ("exit", exit), ("export", exports), ("false", fun sh _ => sh.done 1),
  ("fg", resume), ("getopts", getopts), ("hash", hash), ("jobs", jobs), ("kill", kill),
  ("local", locals), ("printf", formatted), ("pwd", pwd), ("read", read), ("readonly", readonly),
  ("return", goBack), ("set", set), ("shift", shift), ("test", test false), ("times", times),
  ("trap", trap), ("true", nothing), ("type", type), ("ulimit", ulimit),
  ("umask", umask),
  ("unalias", forgetAliases), ("unset", unset), ("wait", wait)]

end FieldPattern.Shell.Builtin
