import FieldPattern.Shell.Tool.Basic

/-! # Tools for files

Tools that make, copy, move, remove and list files and directories: `touch`, `mkdir`, `rmdir`,
`rm`, `cp`, `mv`, `ls` and `tee`. -/

namespace FieldPattern.Shell.Tool

open Machine (Disk Host Location Node)

/-- Where a path leads on a machine; a link at its end is not followed. -/
def placeOf (h : Host) (path : String) : Except String (Location × Option Node) :=
  let path := decode path
  match Host.checkPath path with
  | .error cause => .error (Streams.causeText "No such file or directory" cause)
  | .ok () =>
      match h.disk.walk false (Machine.Path.endsWithSlash path) Machine.maxLinks (h.origin path)
          (Machine.Path.names path) with
      | .ok place => .ok (place.location, place.node)
      | .error .notADirectory => .error "Not a directory"
      | .error cause => .error (Streams.causeText "No such file or directory" cause)

/-- Carry out a step for each path; a step that cannot be done is reported. -/
def forEach (j : Job) (paths : List String)
    (step : Host → String → Except String Host) : ToolResult :=
  let (host, errors) := paths.foldl (fun (h, errors) path =>
    match step h path with
    | .ok h => (h, errors)
    | .error e => (h, errors ++ j.name ++ ": " ++ e ++ "\n")) (j.host, "")
  { j.shows [] errors (if errors.isEmpty then 0 else 1) false with host := host }

/-- Put a node on the disk of a machine. -/
def putNode (h : Host) (l : Location) (n : Node) : Host := { h with disk := h.disk.put l n }

/-- Whether something stands below a location. -/
def isFilled (d : Disk) (l : Location) : Bool := !(d.children l).isEmpty

/-- Make files that are not there, and let the others be changed now. -/
def touch : Tool := fun j =>
  j.withOptions "acfhm" "dtr" 1 fun o =>
  if o.others.isEmpty then
    j.misused "missing file operand" 1
  else
    forEach j o.others fun h path =>
      match placeOf h path with
      | .error e => .error ("cannot touch " ++ Quoted.word true path ++ ": " ++ e)
      | .ok (l, none) => .ok (if o.has 'c' then h else putNode h l (.file ByteArray.empty))
      | .ok (l, some _) => .ok { h with disk := h.disk.stamp l }

/-- Make directories. -/
def mkdir : Tool := fun j =>
  j.withOptions "pvZ" "m" 1 fun o =>
  if o.others.isEmpty then
    j.misused "missing operand" 1
  else
    forEach j o.others fun h path =>
      let above := (Machine.Path.names (decode path)).dropLast
      let h := if o.has 'p' then
        let start := h.origin (decode path)
        (List.range (above.length + 1)).foldl (fun (h : Host) k =>
          let l := start ++ above.take k
          if (h.disk.node? l).isSome then h else putNode h l .directory) h
        else h
      let fault (e : String) : Except String Host :=
        .error ("cannot create directory " ++ Quoted.word true path ++ ": " ++ e)
      match placeOf h path with
      | .error e => fault e
      | .ok (l, none) => .ok (putNode h l .directory)
      | .ok (_, some .directory) => if o.has 'p' then .ok h else fault "File exists"
      | .ok _ => fault "File exists"

/-- Remove empty directories. -/
def rmdir : Tool := fun j =>
  j.withOptions "pv" "" 1 fun o =>
  if o.others.isEmpty then j.misused "missing operand" 1
  else forEach j o.others fun h path =>
    let fault (e : String) : Except String Host :=
      .error ("failed to remove " ++ Quoted.word true path ++ ": " ++ e)
    match placeOf h path with
    | .error e => fault e
    | .ok (_, none) => fault "No such file or directory"
    | .ok (l, some .directory) =>
        if isFilled h.disk l then fault "Directory not empty"
        else .ok { h with disk := h.disk.without l }
    | .ok _ => fault "Not a directory"

/-- Remove files, and directories with all that is in them. -/
def rm : Tool := fun j =>
  j.withOptions "dfirvIR" "" 1 fun o =>
    if o.others.isEmpty && !o.has 'f' then j.misused "missing operand" 1
    else
      forEach j o.others fun h path =>
        let fault (e : String) : Except String Host :=
          .error ("cannot remove " ++ Quoted.word true path ++ ": " ++ e)
        match placeOf h path with
        | .error e => if o.has 'f' then .ok h else fault e
        | .ok (_, none) => if o.has 'f' then .ok h else fault "No such file or directory"
        | .ok (l, some .directory) =>
            if o.has 'r' || o.has 'R' then .ok { h with disk := h.disk.without l }
            else fault "Is a directory"
        | .ok (l, some _) => .ok { h with disk := h.disk.without l }

/-- The location at which something gets the name of a target: the target, or a place in it if
it is a directory. -/
def targetOf (h : Host) (source : Location) (target : String) : Except String Location :=
  match placeOf h target with
  | .error e => .error e
  | .ok (l, some .directory) => .ok (l ++ source.getLast?.toList)
  | .ok (l, _) => .ok l

/-- Copy or move files into place. -/
def transfer (move : Bool) : Tool := fun j =>
  j.withOptions (if move then "bfinTuvZ" else "abdfHilLnPprRsTuvxZ") "St" 1 fun o =>
  let sources := o.others.dropLast
  match o.others.getLast?, sources with
  | some target, _ :: _ =>
      forEach j sources fun h path =>
        let shown := Quoted.word true path
        let what := (if move then "cannot move " else "cannot stat ") ++ shown
        match placeOf h path with
        | .error e => .error ("cannot stat " ++ shown ++ ": " ++ e)
        | .ok (_, none) => .error ("cannot stat " ++ shown ++ ": No such file or directory")
        | .ok (l, some n) =>
            match n, targetOf h l target with
            | _, .error e => .error (what ++ ": " ++ e)
            | .directory, .ok t =>
                if !move && !(o.has 'r' || o.has 'R' || o.has 'a') then
                  .error ("-r not specified; omitting directory " ++ shown)
                else .ok { h with disk := if move then h.disk.moved l t else h.disk.copied l t }
            | .device d, .ok t =>
                .ok (putNode h t (.file (d.content.toOption.getD ByteArray.empty)))
            | n, .ok t =>
                .ok { h with disk := if move && t != l then h.disk.moved l t else h.disk.put t n }
  | some one, [] =>
      j.misused ("missing destination file operand after " ++ Quoted.word true one) 1
  | none, _ =>
      j.misused "missing file operand" 1

/-- Copy files. -/
def cp : Tool := transfer false

/-- Move files. -/
def mv : Tool := transfer true

/-- List the names in directories, in order. -/
def ls : Tool := fun j =>
  j.withOptions "1aAdCF" "" 2 fun o =>
  let paths := if o.others.isEmpty then ["."] else o.others
  let ordered (names : List String) : List String := names.mergeSort fun a b => !(b < a)
  let fault (path cause : String) : String :=
    j.name ++ ": cannot access " ++ Quoted.word true path ++ ": " ++ cause ++ "\n"
  let (files, directories, errors) := (ordered paths).foldl (fun (files, directories, errors) p =>
    match placeOf j.host p with
    | .ok (_, some .directory) =>
        if o.has 'd' then (files ++ [p], directories, errors)
        else (files, directories ++ [p], errors)
    | .ok (_, some _) => (files ++ [p], directories, errors)
    | .ok (_, none) => (files, directories, errors ++ fault p "No such file or directory")
    | .error e => (files, directories, errors ++ fault p e))
    (([] : List String), ([] : List String), "")
  let listing (path : String) : List String :=
    let names := (j.host.list (decode path)).map fun p => encode p.1
    let names := if o.has 'a' then "." :: ".." :: names else names
    ordered (names.filter fun n => !n.startsWith "." || o.has 'a'
      || (o.has 'A' && n != "." && n != ".."))
  let titled := 1 < paths.length
  let blocks := (if files.isEmpty then [] else [files])
    ++ directories.map fun d => (if titled then [d ++ ":"] else []) ++ listing d
  let lines := List.intercalate [""] blocks
  j.shows (lines.flatMap fun l => l.toList ++ ['\n']) errors (if errors.isEmpty then 0 else 2) false

/-- Write the input to files and to the output. -/
def tee : Tool := fun j =>
  j.withOptions "aip" "" 1 fun o =>
  let (streams, paths) := o.others.partition fun path => (j.streamOf? path).isSome && path != "-"
  let result := forEach j paths fun h path =>
    match placeOf h path with
    | .error e => .error (Quoted.word false path ++ ": " ++ e)
    | .ok (_, some .directory) => .error (Quoted.word false path ++ ": Is a directory")
    | .ok (_, some (.device .full)) =>
        .error (Quoted.word false path ++ ": No space left on device")
    | .ok (_, some (.device _)) => .ok h
    | .ok (l, n) =>
        let before := match n with
          | some (.file content) => if o.has 'a' then content else ByteArray.empty
          | _ => ByteArray.empty
        .ok (putNode h l (.file (before ++ toBytes j.input)))
  let copies := (1 :: streams.filterMap j.streamOf?).map fun k => (k, j.input)
  { result with written := result.written ++ copies, reads := true }

end FieldPattern.Shell.Tool
