import FieldPattern.Shell.Builtin
import FieldPattern.Shell.Home

/-! # Running scripts

`exec` runs a script in a shell, and `expand` gives the items of a word; they need each other,
since an expansion may run a script.  A script in parentheses, in a pipeline or in an expansion
runs in a shell of its own, which starts with the state of the shell around it and shares its
streams and its disk.  The commands of a pipeline run one after the other.

A command is *tested* where its failure is expected, as in a condition; elsewhere it ends a
shell with the option `e`.  It is the *last* one if the shell ends right after it and was started
for it; what is run then takes the place of the shell (`Standing`).

Loops need not end.  Every function takes a bound on its steps, and a shell runs only so many
commands; one that uses them up is stopped as by a signal. -/

namespace FieldPattern.Shell

open Machine (Host)

/-- Where a command stands. -/
structure Standing where
  /-- Its failure is expected. -/
  tested : Bool
  /-- Nothing is left to be done after it. -/
  last : Bool
deriving DecidableEq, Repr

namespace Standing

/-- A command that is not tested, and not the last one. -/
def usual : Standing := ⟨false, false⟩

/-- A condition. -/
def condition : Standing := ⟨true, false⟩

/-- A command for which a shell has been started. -/
def alone : Standing := ⟨false, true⟩

/-- A command after which something else may follow. -/
def followed (spot : Standing) : Standing := { spot with last := false }

end Standing

/-- Running something in a shell. -/
abbrev Run := StateM State

namespace Run

/-- Stop the shell because it has taken too many steps. -/
def exhausted : Run Unit := modify fun sh => { sh with stop := some .exhausted }

/-- Whether something keeps the shell from going on. -/
def stopped : Run Bool := return (← get).stop.isSome

/-- End with a status. -/
def finish (status : Nat) : Run Unit := modify fun sh => sh.done status

/-- End a shell with the option `e` after a command that failed and was not tested. -/
def check (spot : Standing) : Run Unit := modify fun sh =>
  if !spot.tested && sh.status != 0 && sh.has 'e' && sh.stop.isNone then
    { sh with stop := some .exit }
  else sh

/-- What a loop does after a command in it. -/
inductive Next where
  | goOn
  | again
  | leave
deriving DecidableEq, Repr

/-- Find out what a loop does now. -/
def next : Run Next := do
  let sh ← get
  match sh.stop with
  | none => return .goOn
  | some (.leaveLoops count) =>
      set { sh with stop := if count ≤ 1 then none else some (.leaveLoops (count - 1)) }
      return .leave
  | some (.nextRound count) =>
      if count ≤ 1 then
        set { sh with stop := none }
        return .again
      else
        set { sh with stop := some (.nextRound (count - 1)) }
        return .leave
  | some _ => return .leave

/-- Let a command of the shell's own run.  What it could not write is reported at its end. -/
def builtin (b : Builtin.Action) (name : String) (special : Bool) (arguments : List String) :
    Run Unit := modify fun sh =>
  let after := b { sh with running := some name, unwritten := false } arguments
  let after :=
    if after.unwritten ∧ after.stop ≠ some .fault then
      (after.report (name ++ ": I/O error")).done (after.status ||| 1)
    else after
  { after with
    running := sh.running
    stop := if after.stop = some .fault ∧ !special then none else after.stop }

/-- Let a tool run, called by this name.  What cannot be written is reported at the end. -/
def tool (t : Tool) (name : String) (arguments : List String) : Run Unit := modify fun sh =>
  let streams := sh.streams
  let result := t ⟨name, arguments, streams⟩
  let streams := if result.reads then streams.skipLeft 0 else streams
  let host := { streams.host with disk := result.host.disk }
  let sh := { sh with streams := { streams with host := host }, jobs := sh.jobs.pass }
  let after := (result.written.foldl (fun sh (stream, text) => sh.write stream text) sh).done
    result.status
  match (result.textOf 1).isEmpty, sh.streams.write 1 ['\n'] with
  | false, .refused cause =>
      (after.write 2 (name ++ ": write error: " ++ cause ++ "\n").toList).done 1
  | _, _ => after

/-- Report that a command is not there, or cannot be run. -/
def missing (name : String) (cause : Machine.FileCause) : Run Unit := modify fun sh =>
  let found := cause == .denied && name.toList.contains '/' || cause == .argumentsTooLong
  let words := Streams.causeText "not found" cause
  (sh.report (name ++ ": " ++ words)).done (if found then 126 else 127)

/-- Give back what the innermost frame holds.  This fails if a variable is to be removed whose name
is none. -/
def closeFrame : Run Unit := modify fun sh =>
  match sh.frames with
  | [] => sh
  | frame :: others =>
      let restored :=
        { sh.giveBack frame.bindings with
          frames := others
          switches := frame.switches.getD sh.switches }
      match frame.bindings.find? fun (name, v) => v.isNone && !isName name, sh.stopAround with
      | some (name, _), none => restored.fail (name ++ ": bad variable name")
      | _, _ => restored

/-- Run something in a frame of its own, whose errors do not end the shell. -/
def framed (running : Run Unit) : Run Unit := do
  modify fun sh => { sh with frames := .empty :: sh.frames }
  running
  modify fun sh => { sh with stop := if sh.stop = some .fault then none else sh.stop }
  closeFrame

/-- The value of a parameter for an expansion; a shell with the option `u` fails if there is
none. -/
def demand (name : String) : Run (Option String) := do
  let sh ← get
  match sh.parameter? name with
  | some value => return some value
  | none =>
      if sh.has 'u' then
        set (sh.fail (name ++ ": parameter not set"))
      return none

/-- What the arguments of a shell say before the script and its own arguments. -/
structure Start where
  /-- The letters of the options that are on. -/
  switches : List Char
  /-- Whether the script is an argument. -/
  script : Bool
  others : List String

/-- Read the letters of one argument: `c` for a script, `l` without meaning, `o` for an option whose
long name is the next argument, and those of the options. -/
def startLetters (on : Bool) : Start → List Char → Except String Start
  | start, [] => .ok start
  | start, c :: letters =>
      if c = 'c' then startLetters on { start with script := true } letters
      else if c = 'l' then startLetters on start letters
      else if c = 'o' then
        match start.others with
        | [] => startLetters on start letters
        | name :: others =>
            match Builtin.switchOf? name with
            | some c =>
                let switches := Builtin.switch on start.switches c
                startLetters on { start with switches := switches, others := others } letters
            | none => .error ("Illegal option -o " ++ name)
      else
        match Builtin.switchAll on start.switches [c] with
        | .ok switches => startLetters on { start with switches := switches } letters
        | .error c => .error ("Illegal option -" ++ String.singleton c)

/-- Read the options among the arguments of a shell.  The first argument bounds the number of the
others. -/
def startOptions : Nat → Start → Except String Start
  | 0, start => .ok start
  | n + 1, start =>
      match start.others with
      | [] => .ok start
      | a :: others =>
          match a.toList with
          | ['-'] | ['-', '-'] => .ok { start with others := others }
          | sign :: letters =>
              if sign = '-' ∨ sign = '+' then do
                startOptions n
                  (← startLetters (sign == '-') { start with others := others } letters)
              else .ok start
          | [] => .ok start

/-- A word with home directories in their places.  `assigns` says that it may be an assignment,
in the value of which they may also stand after colons. -/
def home (assigns : Bool) (w : Word) : Run Word := do
  let sh ← get
  match w.assignment? with
  | some (name, value) =>
      if assigns then
        return .text (name.toList ++ ['=']) false :: value.homes (sh.value? "HOME") true true
      else return w
  | none => return w.homes (sh.value? "HOME") false true

/-- The value of an assignment with home directories in their places. -/
def homeIn (value : Word) : Run Word :=
  return value.homes ((← get).value? "HOME") true true

/-- A word inside of an expansion with the home directory in its place, unless it is quoted. -/
def homeUnless (quoted : Bool) (w : Word) : Run Word :=
  if quoted then return w else home false w

mutual

/-- The items of a word.  `full` says that the word becomes fields, `splits` that its text
outside of quotation marks may end fields. -/
def expand : Nat → Bool → Bool → Word → Run (List Item)
  | 0, _, _, _ => do
      exhausted
      return []
  | _ + 1, _, _, [] => return []
  | n + 1, full, splits, p :: rest => do
      let items ← match p with
        | .text s quoted =>
            pure ((if quoted then [.mark] else []) ++ Item.ofText quoted (splits && !quoted) s)
        | .parameter name use quoted => expandParameter n full name use quoted
        | .arithmetic source quoted => do
            let source := Item.text (← expand n false false source)
            let sh ← get
            if sh.stop.isSome then pure []
            else
              match Arithmetic.evaluate sh.value? source with
              | .error .quotientTooLarge => do
                  set { sh with stop := some (.signal 8) }
                  pure []
              | .error fault => do
                  set (sh.fail (fault.message source))
                  pure []
              | .ok (k, assigned) => do
                  set (sh.assignAll assigned)
                  pure (Item.ofText quoted (!quoted) (Integer.render k).toList)
        | .output script quoted => do
            let text ← capture n script
            pure (Item.ofText quoted (!quoted) text)
      if ← stopped then return []
      return items ++ (← expand n full splits rest)

/-- The items of a parameter. -/
def expandParameter : Nat → Bool → String → Use → Bool → Run (List Item)
  | 0, _, _, _, _ => do
      exhausted
      return []
  | n + 1, full, name, use, quoted => do
      let sh ← get
      let all := full && (name == "@" || name == "*" && !quoted)
      let items (value : String) : List Item :=
        if all then Item.ofTexts quoted (!quoted) sh.arguments
        else Item.ofText quoted (!quoted) value.toList
      let value := sh.parameter? name
      let here (orEmpty : Bool) : Bool := value.any fun v => !orEmpty || !v.isEmpty
      match use with
      | .bad => do
          set (sh.fail "Bad substitution")
          return []
      | .value => return ((← demand name).map items).getD []
      | .length => do
          let length := match ← demand name with
            | some value => value.length
            | none => 0
          return Item.ofText quoted (!quoted) (toString length).toList
      | .fallback orEmpty word =>
          if here orEmpty then return items (value.getD "")
          else expand n full (!quoted) (← homeUnless quoted word)
      | .alternative orEmpty word =>
          if here orEmpty then expand n full (!quoted) (← homeUnless quoted word)
          else return []
      | .assign orEmpty word =>
          if here orEmpty then return items (value.getD "")
          else if !isName name then do
            set (sh.fail (name ++ ": bad variable name"))
            return []
          else do
            let text := Item.text (← expand n false false (← homeUnless quoted word))
            if ← stopped then return []
            modify fun sh => sh.assign name text
            return Item.ofText quoted (!quoted) text.toList
      | .require orEmpty word =>
          if here orEmpty then return items (value.getD "")
          else do
            let text := Item.text (← expand n false false (← homeUnless quoted word))
            let message := if word.isEmpty then
              "parameter not set" ++ (if orEmpty then " or null" else "") else text
            modify fun sh => if sh.stop.isSome then sh else sh.fail (name ++ ": " ++ message)
            return []
      | .trim atEnd longest pattern => do
          let value := (← demand name).getD ""
          let marks := Item.marks (← expand n false false (← home false pattern))
          let cut (texts : List (List Char)) : List String :=
            (if atEnd then Pattern.trimEnds longest marks texts
              else Pattern.trimStarts longest marks texts).map String.ofList
          if all then return Item.ofTexts quoted (!quoted) (cut (sh.arguments.map String.toList))
          else return (cut [value.toList]).flatMap fun s => Item.ofText quoted (!quoted) s.toList

/-- Write what is about to be run to the stream for errors, in a shell with the option `x`; the
streams are those from before the redirections of the command. -/
def trace : Nat → List (Nat × Nat) → List (String × String) → List String → Run Unit
  | 0, _, _, _ => exhausted
  | n + 1, table, assignments, fields => do
      let sh ← get
      if sh.has 'x' then
        let switches := sh.switches
        set { sh with switches := switches.filter (· != 'x') }
        let lead ← expand n false false (Source.openText (sh.valueOf "PS4").toList)
        let texts := assignments.map (fun (name, value) => name ++ "=" ++ value) ++ fields
        let text := Item.text lead ++ " ".intercalate texts ++ "\n"
        modify fun after =>
          let before := { after with streams := { after.streams with table := table } }
          let written := before.write 2 text.toList
          { written with
            streams := { written.streams with table := after.streams.table }
            switches := switches, status := sh.status }

/-- The output of a script without the newlines at its end. -/
def capture : Nat → Script → Run (List Char)
  | 0, _ => do
      exhausted
      return []
  | n + 1, script => do
      let sh ← get
      let size := sh.streams.channels.size
      set { sh.inside with streams := sh.streams.openAs 1 (.sink none []) }
      exec n .alone script
      endInner n
      let inner ← get
      let text := (inner.streams.taken size).filter (· != '\x00')
      let after := sh.absorb inner false
      set { after with status := sh.status, innerStatus := after.status }
      return (text.reverse.dropWhile (· == '\n')).reverse

/-- End a shell inside of another one. -/
def endInner : Nat → Run Unit
  | 0 => exhausted
  | n + 1 => do
      let sh ← get
      match sh.stop, sh.traps.lookup "EXIT" with
      | some (.signal _), _ | some .exhausted, _ => return
      | some .brokenPipe, _ => finish 141
      | _, none => return
      | _, some text => do
          let traps := sh.traps.filter fun t => t.1 != "EXIT"
          set { sh with stop := none, traps := traps }
          runLines n .usual false (Source.start text.toList 1 sh.nextDocument)
          let after ← get
          if after.stop != some .exit && after.stop != some .fault then
            set { after with status := sh.status }

/-- The fields of words.  Where `declares` holds, an assignment stays one field. -/
def expandWords : Nat → Bool → List Word → Run (List String)
  | 0, _, _ => do
      exhausted
      return []
  | _ + 1, _, [] => return []
  | n + 1, declares, w :: rest => do
      let assignment := declares && w.assignment?.isSome
      let items ← expand n (!assignment) false (← home declares w)
      if ← stopped then return []
      let sh ← get
      let fields := if assignment then [Item.text items]
        else
          (split sh.separators items).flatMap fun marks =>
            if sh.has 'f' then [String.ofList (marks.map Prod.fst)]
            else paths sh.streams.host marks
      return fields ++ (← expandWords n declares rest)

/-- Carry out assignments; the values that the variables had before are given back. -/
def assignments : Nat → List (String × Word) → Run (List (String × Option Variable) × List String)
  | 0, _ => do
      exhausted
      return ([], [])
  | _ + 1, [] => return ([], [])
  | n + 1, (name, w) :: rest => do
      let value := Item.text (← expand n false false (← homeIn w))
      if ← stopped then return ([], [])
      let old := (← get).bindings.lookup name
      modify fun sh => sh.assign name value
      if ← stopped then return ([(name, old)], [])
      let (olds, values) ← assignments n rest
      return ((name, old) :: olds, value :: values)

/-- Redirect a stream; false if that cannot be done.  Where the streams are `kept` for afterwards,
the stream is closed before it leads to another one, and so is no longer there for reports. -/
def redirect : Nat → Bool → Redirection → Run Bool
  | 0, _, _ => do
      exhausted
      return false
  | n + 1, kept, .mk stream arrow target => do
      let word ← match arrow with
        | .document k => pure (((← get).documents.lookup k).getD [])
        | _ => home false target
      let text := Item.text (← expand n false false word)
      if ← stopped then
        if arrow matches .document _ then modify fun sh =>
          { sh with stop := if sh.stop = some .fault then none else sh.stop }
        return false
      let sh ← get
      let put (streams : Streams) : Run Bool := do
        set { sh with streams := streams }
        return true
      let refuse (sh : State) (message : String) : Run Bool := do
        set (sh.report message)
        return false
      let opened (verb : String) : Except String Streams → Run Bool
        | .ok streams => put streams
        | .error message => refuse sh ("cannot " ++ verb ++ " " ++ text ++ ": " ++ message)
      match arrow with
      | .document _ => put (sh.streams.openAs stream (.source none (toBytes text.toList) 0))
      | .copy =>
          if text == "-" then put (sh.streams.close stream)
          else if text.length = 1 ∧ text.toList.all Char.isDigit then
            let source := numberIn 10 text.toList
            if source = stream then return true
            else
              match sh.streams.table.lookup source with
              | some k => put (sh.streams.connect stream k)
              | none =>
                  let sh := if kept then { sh with streams := sh.streams.close stream } else sh
                  refuse sh (text ++ ": Bad file descriptor")
          else do
            set { { sh with line := sh.reached }.fail "Syntax error: Bad fd number" with
              line := sh.line }
            return false
      | .input => opened "open" (sh.streams.openInput stream text)
      | .output =>
          let way := if sh.has 'C' then .created else .emptied
          opened "create" (sh.streams.openOutput stream text way)
      | .replace => opened "create" (sh.streams.openOutput stream text .emptied)
      | .append => opened "create" (sh.streams.openOutput stream text .appended)
      | .both => opened "create" (sh.streams.openOutput stream text .kept)

/-- Redirect streams, up to the first one for which that cannot be done.  A stream that is `kept`
is kept once. -/
def redirectAll : Nat → (Nat → Bool) → List Redirection → Run Bool
  | 0, _, _ => do
      exhausted
      return false
  | _ + 1, _, [] => return true
  | n + 1, kept, .mk stream arrow target :: rest => do
      if ← redirect n (kept stream) (.mk stream arrow target) then
        redirectAll n (fun k => kept k && k != stream) rest
      else return false

/-- Run what is left of a script; the second flag says that a command of it has been run.  A
script without commands succeeds. -/
def runLines : Nat → Standing → Bool → Source → Run Unit
  | 0, _, _, _ => exhausted
  | n + 1, spot, begun, source => do
      match { source with aliases := (← get).aliases }.readLine with
      | .error fault =>
          modify fun sh =>
            { sh with line := fault.line }.fail ("Syntax error: " ++ fault.cause.message)
      | .ok (none, _) => if !begun then finish 0
      | .ok (some script, source) => do
          let before := (← get).reached
          modify fun sh =>
            { sh with
              reached := source.line
              documents := source.documents ++ sh.documents
              nextDocument := max sh.nextDocument source.next }
          exec n spot script
          if ← stopped then return
          runLines n spot (begun || !script.isSkip) { source with documents := [] }
          modify fun sh => { sh with reached := before }

/-- Run the scripts for the signals that have come in. -/
def runCaught : Nat → Run Unit
  | 0 => exhausted
  | n + 1 => do
      let sh ← get
      match sh.caught with
      | [] => return
      | name :: rest => do
          set { sh with caught := rest }
          let text := (sh.traps.lookup name).getD ""
          runLines n .usual false (Source.start text.toList 1 sh.nextDocument)
          if ← stopped then return
          finish sh.status
          runCaught n

/-- Call a function. -/
def callFunction : Nat → Standing → Script → List String → Run Unit
  | 0, _, _, _ => exhausted
  | n + 1, spot, body, arguments => do
      let sh ← get
      if State.maxCalls ≤ sh.frames.length then
        set (sh.fail "Maximum function recursion depth (1000) reached")
      else
      set { sh.setArguments arguments with frames := .empty :: sh.frames, loops := 0 }
      exec n spot.followed body
      modify fun after =>
        { after with
          arguments := sh.arguments, optionSpot := sh.optionSpot, loops := sh.loops
          stop := after.stopAround }
      closeFrame

/-- Run a text in a shell of its own, which is at its start.  If that is `replaced`, it takes the
place of the shell around it. -/
def runStarted : Nat → Bool → List Char → State → Run Unit
  | 0, _, _, _ => exhausted
  | n + 1, replaced, text, inner => do
      let sh ← get
      set inner
      runLines n .usual false (Source.start text 1 0)
      endInner n
      set (sh.absorb (← get) replaced)

/-- Start a shell as a program, called by this name, with arguments. -/
def runShell : Nat → Bool → String → List String → Run Unit
  | 0, _, _, _ => exhausted
  | n + 1, replaced, name, arguments => do
      let sh ← get
      let exported := sh.bindings.filter fun v => v.2.exported
      let fail (message : String) : Run Unit :=
        modify fun sh => (sh.write 2 (name ++ ": 0: " ++ message ++ "\n").toList).done 2
      let run (shown : String) (arguments : List String) (switches : List Char)
          (streams : Streams) (text : List Char) : Run Unit := do
        let started := State.start shown arguments (switches.filter (· != 'm')) exported streams
          sh.numbers sh.mask
        let complaint := name ++ ": 0: " ++ Builtin.noTerminal ++ "\n"
        let started := if switches.contains 'i' || switches.contains 'm' then
          started.write 2 complaint.toList else started
        runStarted n replaced text started
      match startOptions arguments.length ⟨[], false, arguments⟩ with
      | .error message => fail message
      | .ok ⟨_, true, []⟩ => fail "-c requires an argument"
      | .ok ⟨switches, true, text :: rest⟩ =>
          run (rest.headD name) (rest.drop 1) switches sh.streams text.toList
      | .ok ⟨switches, false, others⟩ =>
          match if switches.contains 's' then none else others.head? with
          | none =>
              run name others (Builtin.switch true switches 's') (sh.streams.skipLeft 0)
                (sh.streams.left 0)
          | some path =>
              match sh.streams.openInput 0 path with
              | .error message => fail ("cannot open " ++ path ++ ": " ++ message)
              | .ok opened => run path (others.drop 1) switches sh.streams (opened.left 0)

/-- Run a program by name. -/
def runProgram : Nat → Bool → String → List String → Run Unit
  | 0, _, _, _ => exhausted
  | n + 1, replaced, name, arguments => do
      match (← get).program name with
      | .error cause => missing name cause
      | .ok (path, program) => do
          modify fun sh => Builtin.keep sh name path
          if (← get).exceeds arguments then missing name .argumentsTooLong
          else
            match Tool.ofName? program with
            | some t => tool t name arguments
            | none => runShell n replaced name arguments

/-- Run a command by name.  `plain` says that functions do not count, and that no command is
special. -/
def dispatch : Nat → Standing → Bool → String → List String → Run Unit
  | 0, _, _, _, _ => exhausted
  | n + 1, spot, plain, name, arguments => do
      let sh ← get
      let special := !plain && specialNames.contains name
      let inside (running : Run Unit) : Run Unit := do
        modify fun sh => { sh with running := some name }
        running
        modify fun after => { after with running := sh.running }
      let apart (running : Run Unit) : Run Unit :=
        if plain then framed (inside running) else inside running
      match if plain || special then none else sh.functions.lookup name with
      | some body => callFunction n spot body arguments
      | none =>
          match Builtin.table.lookup name with
          | some b =>
              if plain && name == "local" then framed (builtin b name special arguments)
              else builtin b name special arguments
          | none =>
              if name == "eval" then
                let text := " ".intercalate arguments
                apart (runLines n spot.followed false (Source.start text.toList 1 sh.nextDocument))
              else if name == "." then
                apart (runFile n arguments)
              else if name == "exec" then
                match arguments with
                | [] => finish 0
                | name :: arguments => do
                    let found := sh.program name
                    inside (runProgram n true name arguments)
                    modify fun sh =>
                      { sh with
                        stop := sh.stop.orElse fun _ => some .exit
                        status := if found matches .error .denied then 126 else sh.status
                        traps := if found.toOption.isSome then [] else sh.traps }
              else if name == "command" then runCommand n spot arguments
              else runProgram n (spot.last && sh.traps.isEmpty) name arguments

/-- Run a command that is no function, or say what a name means. -/
def runCommand : Nat → Standing → List String → Run Unit
  | 0, _, _ => exhausted
  | n + 1, spot, arguments => do
      let o := Options.readFirst ['p', 'v', 'V'] [] arguments
      let path := (← get).bindings.lookup "PATH"
      if o.has 'p' then
        modify fun sh => sh.setVariable "PATH" (some ⟨some Machine.searchPathText, true, false⟩)
      match o.fault, o.others with
      | some _, _ =>
          let check (sh : State) (arguments : List String) : State :=
            Builtin.withOptions sh ['p', 'v', 'V'] [] arguments fun _ => sh
          builtin check "command" false arguments
      | none, [] => finish 0
      | none, name :: rest =>
          if o.has 'v' || o.has 'V' then
            let tell (sh : State) (names : List String) : State :=
              names.foldl (Builtin.describe !(o.has 'V')) (sh.done 0)
            builtin tell "command" false [name]
          else dispatch n spot true name rest
      if o.has 'p' then modify fun sh => sh.setVariable "PATH" path

/-- Run the script in a file. -/
def runFile : Nat → List String → Run Unit
  | 0, _ => exhausted
  | n + 1, arguments => do
      let o := Options.readFirst [] [] arguments
      match o.fault, o.others with
      | some _, _ => modify fun sh => Builtin.withOptions sh [] [] arguments fun _ => sh
      | none, [] => finish 0
      | none, path :: _ => do
          let sh ← get
          match sh.openScript path with
          | .error message => set (sh.fail message)
          | .ok (path, opened) => do
              let text := opened.left 10
              set { sh with running := some path }
              runLines n .usual false (Source.start text 1 sh.nextDocument)
              modify fun after =>
                { after with stop := after.stopAround }

/-- Whether a command keeps its redirections for the commands after it. -/
def keepsStreams : List String → Bool
  | "command" :: "-p" :: rest | "command" :: "--" :: rest | "command" :: rest => keepsStreams rest
  | ["exec"] => true
  | _ => false

/-- Run a simple command. -/
def runSimple : Nat → Standing → List (String × Word) → List Word → List Redirection → Run Unit
  | 0, _, _, _, _ => exhausted
  | n + 1, spot, sets, words, redirections => do
      modify fun sh => { sh with innerStatus := 0 }
      let declares := match words.head?.bind Word.plain? with
        | some name => ["export", "readonly", "local"].contains name
        | none => false
      let fields ← expandWords n declares words
      if ← stopped then return
      let before := (← get).streams
      let special := fields.head?.any specialNames.contains
      let restore : Run Unit := modify fun sh =>
        { sh with streams := sh.streams.restore before (redirections.map fun
            | .mk stream _ _ => stream) }
      if !(← redirectAll n (fun _ => true) redirections) then
        if ← stopped then return
        modify fun sh =>
          { sh.done 2 with stop := if special then some .fault else sh.stop }
        if !keepsStreams fields then restore
      else
        let (olds, values) ← assignments n sets
        if ← stopped then return
        if !(sets.isEmpty && fields.isEmpty) then
          trace n before.table ((sets.map Prod.fst).zip values) fields
        match fields with
        | [] => modify fun sh => sh.done sh.innerStatus
        | name :: arguments => do
            if !special then
              olds.forM fun (name, _) => modify fun sh =>
                match sh.bindings.lookup name with
                | some v => sh.setVariable name (some { v with exported := true })
                | none => sh
            dispatch n spot false name arguments
            if !special then modify fun sh => sh.giveBack olds
        if !keepsStreams fields then restore
        runCaught n

/-- Keep where the program of a simple command is found, if its name is given as it is. -/
def lookAhead : Script → Run Unit
  | .simple _ _ (w :: _) _ => modify fun sh =>
      match Word.plain? w with
      | none => sh
      | some name =>
          if Builtin.isKnown name || (sh.functions.lookup name).isSome then sh
          else
            match sh.program name with
            | .ok (path, _) => Builtin.keep sh name path
            | .error _ => sh
  | _ => return

/-- Run the commands of a pipeline, after the output of those before them. -/
def runPipeline : Nat → Standing → Option (List Char) → List Script → Run Unit
  | 0, _, _, _ => exhausted
  | _ + 1, _, _, [] => return
  | n + 1, spot, input, script :: rest => do
      lookAhead script
      let sh ← get
      let streams := match input with
        | some text => sh.streams.openAs 0 (.source none (toBytes text) 0)
        | none => sh.streams
      let size := streams.channels.size
      let streams := if rest.isEmpty then streams
        else streams.openAs 1 (.sink (some Streams.maxPipe) [])
      set { sh.inside with streams := streams }
      exec n { spot with last := true } script
      endInner n
      let inner ← get
      let text := inner.streams.taken size
      let after := sh.absorb inner false
      set { after with status := if rest.isEmpty then after.status else sh.status }
      if ← stopped then return
      runPipeline n spot (some text) rest

/-- Repeat a body; `last` is the status of its last round. -/
def runLoop : Nat → Standing → Bool → Script → Script → Nat → Run Unit
  | 0, _, _, _, _, _ => exhausted
  | n + 1, spot, whileFails, condition, body, last => do
      exec n .condition condition
      match (← get).stop with
      | some (.leaveFunction false) | some (.leaveLoops _) | some (.nextRound _) => finish last
      | _ => pure ()
      match ← next with
      | .leave => return
      | .again => runLoop n spot whileFails condition body last
      | .goOn =>
          let succeeded := (← get).status == 0
          if succeeded == whileFails then finish last
          else
            exec n spot.followed body
            match ← next with
            | .leave => return
            | _ => runLoop n spot whileFails condition body (← get).status

/-- Run a body for each value. -/
def runEach : Nat → Standing → String → List String → Script → Run Unit
  | 0, _, _, _, _ => exhausted
  | _ + 1, _, _, [], _ => return
  | n + 1, spot, name, value :: rest, body => do
      modify fun sh => sh.assign name value
      if ← stopped then return
      exec n spot.followed body
      match ← next with
      | .leave => return
      | _ => runEach n spot name rest body

/-- The script of the first case with a pattern that matches. -/
def chooseCase : Nat → List Char → List (List Word × Script) → Run (Option Script)
  | 0, _, _ => do
      exhausted
      return none
  | _ + 1, _, [] => return none
  | n + 1, s, ([], _) :: rest => chooseCase n s rest
  | n + 1, s, (w :: ws, script) :: rest => do
      let marks := Item.marks (← expand n false false (← home false w))
      if ← stopped then return none
      if Pattern.accepts marks s then return some script
      else chooseCase n s ((ws, script) :: rest)

/-- Run a script with redirected streams, which may be `kept` for afterwards. -/
def runRedirected : Nat → Bool → List Redirection → Run Unit → Run Unit
  | 0, _, _, _ => exhausted
  | n + 1, kept, redirections, running => do
      let before := (← get).streams
      let restore : Run Unit := modify fun sh =>
        { sh with streams := sh.streams.restore before (redirections.map fun
            | .mk stream _ _ => stream) }
      if ← redirectAll n (fun _ => kept) redirections then
        running
        restore
      else
        if ← stopped then return
        finish 2
        restore

/-- Run a script. -/
def exec : Nat → Standing → Script → Run Unit
  | 0, _, _ => exhausted
  | n + 1, spot, script => do
      let sh ← get
      if sh.stop.isSome || sh.has 'n' then return
      if sh.budget = 0 then exhausted
      else
      set { sh with budget := sh.budget - 1 }
      match script with
      | .skip => return
      | .simple line sets words redirections => do
          modify fun sh => { sh with line := line }
          runSimple n spot sets words redirections
          check spot
      | .pipeline commands => do
          runPipeline n spot none commands
          check spot
          runCaught n
      | .negate script => do
          exec n .condition script
          if ← stopped then return
          modify fun sh => sh.done (if sh.status = 0 then 1 else 0)
      | .both first second => do
          exec n .condition first
          if ← stopped then return
          if (← get).status = 0 then exec n spot second
      | .either first second => do
          exec n .condition first
          if ← stopped then return
          if (← get).status != 0 then exec n spot second
      | .sequence first second => do
          exec n spot.followed first
          if ← stopped then return
          exec n spot second
      | .background script => do
          let sh ← get
          set { sh.inside with streams := sh.streams.openAs 0 .nothing }
          match script with
          | .redirected line script redirections => do
              modify fun sh => { sh with line := line }
              runRedirected n false redirections (exec n .alone script)
          | script => exec n .alone script
          endInner n
          let inner ← get
          let signal := match inner.stop with
            | some (.signal k) => some k
            | _ => none
          let inner := if signal.isSome then { inner with stop := none } else inner
          let after := sh.absorb inner false
          let status := (signal.map (128 + ·)).getD after.status
          let job : Background := ⟨sh.nextJob, status, signal, false, false⟩
          set { after with
            status := 0
            lastJob := some job.number
            jobs := sh.jobs.insert job }
          runCaught n
      | .inner line script redirections => do
          modify fun sh => { sh with line := line }
          let sh ← get
          let replaced := spot.last && sh.traps.isEmpty
          set { sh.inside with depth := if replaced then sh.depth else sh.depth + 1 }
          runRedirected n false redirections do
            exec n { spot with last := true } script
            endInner n
          let inner ← get
          set (sh.absorb inner replaced)
          check spot
          runCaught n
      | .redirected line script redirections => do
          modify fun sh => { sh with line := line }
          runRedirected n true redirections (exec n spot.followed script)
      | .branch condition yes no => do
          exec n .condition condition
          if ← stopped then return
          if (← get).status = 0 then exec n spot yes
          else
            match no with
            | .skip => finish 0
            | no => exec n spot no
      | .loop whileFails condition body => do
          modify fun sh => { sh with loops := sh.loops + 1 }
          runLoop n spot whileFails condition body 0
          modify fun sh => { sh with loops := sh.loops - 1 }
      | .each line name words body => do
          modify fun sh => { sh with line := line }
          let values ← expandWords n false words
          if ← stopped then return
          if values.isEmpty then finish 0
          modify fun sh => { sh with loops := sh.loops + 1 }
          runEach n spot name values body
          modify fun sh => { sh with loops := sh.loops - 1 }
      | .choice line word cases => do
          modify fun sh => { sh with line := line }
          let text := Item.text (← expand n false false (← home false word))
          if ← stopped then return
          match ← chooseCase n text.toList cases with
          | some .skip => finish 0
          | some script => exec n spot script
          | none => if ← stopped then return else finish 0
      | .define name body => modify fun sh =>
          let others := sh.functions.filter fun f => f.1 != name
          { sh.done 0 with functions := (name, body) :: others }

end

end Run

/-- How a shell has ended: its status, or the signal that ended it; what it has written, and the
machine after it. -/
structure Ended where
  status : Nat
  signal : Option Nat
  output : List Char
  errors : List Char
  host : Host

/-- The variables that a shell is started with. -/
def environment : List (String × Variable) := [
  ("HOME", ⟨some "/root", true, false⟩),
  ("PATH", ⟨some Machine.searchPathText, true, false⟩)]

/-- The permissions that new files do not get if nothing else is said. -/
def usualMask : Nat := 18

/-- Start the shell on a machine as a program, called by this name, with arguments. -/
def start (host : Host) (name : String) (arguments : List String) : Ended :=
  let streams := Streams.start host
  let sh := State.start "" [] [] environment streams [] usualMask
  let sh := { sh with numbers := [0] }
  let steps := 2 * State.maxCommands
  let (_, after) := (Run.runShell steps true (encode name) (arguments.map encode)).run sh
  let signal := match after.stop with
    | some (.signal k) => some k
    | some .exhausted => some 9
    | _ => none
  ⟨after.status % 256, signal, after.streams.taken 1, after.streams.taken 2,
    { host with disk := after.streams.host.disk }⟩

end FieldPattern.Shell
