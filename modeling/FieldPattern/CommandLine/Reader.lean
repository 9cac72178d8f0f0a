import FieldPattern.CommandLine.Slot

/-! # Reading the arguments of a call

The arguments of a call are read from left to right.  By its form an argument is

* `dashes`, the text `--`, after which no argument is an option;
* `long`, two dashes and a name, with a value after `=` or without;
* `short`, a dash and letters, each of them a switch;
* `word`, anything else, a lone dash included.

The texts for a slot wait until the next argument for another one, or the end, and are put into
the slot then.  So an unknown argument is reported before a text that does not fit its slot. -/

namespace FieldPattern.CommandLine

/-- The forms of arguments. -/
inductive Argument where
  | dashes
  | long (name : String) (value : Option String)
  | short (letters : List Char)
  | word
deriving DecidableEq, Repr

namespace Argument

/-- The form of an argument. -/
def ofText (text : String) : Argument :=
  match text.toList with
  | ['-', '-'] => dashes
  | '-' :: '-' :: rest =>
      match Command.splitAt? '=' rest with
      | some (name, value) => long (String.ofList name) (some (String.ofList value))
      | none => long (String.ofList rest) none
  | ['-'] => word
  | '-' :: letters => short letters
  | _ => word

end Argument

/-- What a call comes to. -/
inductive Call where
  | help
  | version
  | request (r : Request)
deriving DecidableEq, Repr

/-- The state of reading the arguments of a subcommand. -/
structure Reading where
  verb : Verb
  draft : Draft
  /-- The positional slots that are not filled. -/
  slots : List Slot
  /-- The slot that texts wait for, and the texts. -/
  waiting : Option (Slot × List String)
  /-- Whether the next word is the value of an option. -/
  wantsValue : Bool
  /-- Whether all arguments are words. -/
  wordsOnly : Bool

namespace Reading

/-- Put the texts that wait into their slot. -/
def settle (r : Reading) : Except UsageError Reading := do
  match r.waiting with
  | none => return r
  | some (slot, texts) =>
      if texts.isEmpty then throw (.valueMissing slot.shown)
      if r.draft.has slot then throw (.repeated slot.shown)
      let draft ← texts.foldlM (fun d text => d.put slot text) r.draft
      return { r with draft, waiting := none }

/-- Read a word. -/
def word (r : Reading) (text : String) : Except UsageError Reading := do
  match r.waiting, r.wantsValue && !r.wordsOnly with
  | some (slot, _), true => return { r with waiting := some (slot, [text]), wantsValue := false }
  | _, _ =>
      match r.slots with
      | [] => throw (.unexpected text)
      | slot :: rest =>
          match slot.takesAll, r.waiting with
          | true, some (.commands, texts) =>
              return { r with waiting := some (slot, texts ++ [text]) }
          | all, _ =>
              let r ← r.settle
              return { r with
                slots := if all then r.slots else rest
                waiting := some (slot, [text])
                wantsValue := false }

/-- Turn a switch on. -/
def switch (r : Reading) (s : Switch) : Except UsageError Reading := do
  let r ← r.settle
  return { r with draft := ← r.draft.turnOn s, wantsValue := false }

/-- Read an argument with a long name; nothing if help is asked for. -/
def long (r : Reading) (name : String) (value : Option String) :
    Except UsageError (Option Reading) := do
  match r.verb.option? name with
  | some slot =>
      let r ← r.settle
      match value with
      | some text =>
          let r ← settle { r with waiting := some (slot, [text]) }
          return some { r with wantsValue := false }
      | none => return some { r with waiting := some (slot, []), wantsValue := true }
  | none =>
      let noValue (shown : String) : Except UsageError Unit :=
        match value with
        | some text => throw (.surplusValue text shown)
        | none => return ()
      match r.verb.switch? name with
      | some s => noValue s.shown; return some (← r.switch s)
      | none =>
          if name == "verbose" then
            noValue "--verbose..."
            return some { ← r.settle with wantsValue := false }
          else if name == "help" then
            noValue "--help"
            let _ ← r.settle
            return none
          else throw (.unexpected ("--" ++ name))

/-- Read letters; nothing if help is asked for. -/
def short (r : Reading) : List Char → Except UsageError (Option Reading)
  | [] => return some r
  | c :: rest => do
      match r.verb.letter? c with
      | some s => (← r.switch s).short rest
      | none =>
          if c = 'v' then short { ← r.settle with wantsValue := false } rest
          else if c = 'h' then
            let _ ← r.settle
            return none
          else throw (.unexpected (String.ofList ['-', c]))

/-- Read the arguments of a subcommand. -/
def arguments (r : Reading) : List String → Except UsageError Call
  | [] => do
      let r ← r.settle
      return .request (← r.draft.request r.verb)
  | text :: rest => do
      let next ← match if r.wordsOnly then .word else Argument.ofText text with
        | .dashes => pure (some { r with wordsOnly := true })
        | .long name value => r.long name value
        | .short letters => r.short letters
        | .word => do pure (some (← r.word text))
      match next with
      | some r => r.arguments rest
      | none => return .help

end Reading

namespace Call

/-- Read the arguments of a subcommand. -/
def ofArguments (v : Verb) (arguments : List String) : Except UsageError Call :=
  Reading.arguments ⟨v, {}, v.positionals, none, false, false⟩ arguments

/-- Whether a word names a subcommand or the help about one. -/
def isSubcommand (word : String) : Bool := word == "help" || (Verb.ofName? word).isSome

/-- Read the words after `help`: at most one, a subcommand. -/
def ofHelp : List String → Except UsageError Call
  | [] => .ok .help
  | word :: rest =>
      if isSubcommand word then
        match rest with
        | [] => .ok .help
        | other :: _ => .error (.subcommandUnknown other)
      else .error (.subcommandUnknown word)

/-- Read letters that stand before the subcommand: `none` to go on. -/
def ofLetters : List Char → Except UsageError (Option Call)
  | [] => .ok none
  | 'v' :: rest => ofLetters rest
  | 'h' :: _ => .ok (some .help)
  | 'V' :: _ => .ok (some .version)
  | c :: _ => .error (.unexpected (String.ofList ['-', c]))

/-- Read a long name that stands before the subcommand: `none` to go on. -/
def ofLong (name : String) (value : Option String) : Except UsageError (Option Call) :=
  let flag (shown : String) (call : Option Call) : Except UsageError (Option Call) :=
    match value with
    | some text => .error (.surplusValue text shown)
    | none => .ok call
  if name == "verbose" then flag "--verbose..." none
  else if name == "help" then flag "--help" (some .help)
  else if name == "version" then flag "--version" (some .version)
  else .error (.unexpected ("--" ++ name))

/-- The end of a call without a subcommand, `asked` telling whether there are other arguments. -/
def noSubcommand (asked : Bool) : UsageError :=
  if asked then .subcommandMissing else .nothingAsked

/-- Read a call from its first argument on, `asked` telling whether others stood before. -/
def readFrom (asked : Bool) : List String → Except UsageError Call
  | [] => .error (noSubcommand asked)
  | text :: rest =>
      match Verb.ofName? text with
      | some v => ofArguments v rest
      | none =>
          if text == "help" then ofHelp rest
          else
            match Argument.ofText text with
            | .dashes =>
                match rest with
                | [] => .error (noSubcommand asked)
                | word :: _ =>
                    .error (if isSubcommand word then .unexpected word else .subcommandUnknown word)
            | .word => .error (.subcommandUnknown text)
            | .short letters => do
                match ← ofLetters letters with
                | some call => return call
                | none => readFrom true rest
            | .long name value => do
                match ← ofLong name value with
                | some call => return call
                | none => readFrom true rest

/-- Read a call. -/
def read (arguments : List String) : Except UsageError Call := readFrom false arguments

end Call

end FieldPattern.CommandLine
