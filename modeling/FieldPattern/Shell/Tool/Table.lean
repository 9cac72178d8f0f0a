import FieldPattern.Shell.Format
import FieldPattern.Shell.Tool.Files
import FieldPattern.Shell.Tool.Text

/-! # The table of tools

The tools that stand in the usual directories, by name. -/

namespace FieldPattern.Shell.Tool

/-- Write the arguments. -/
def echo : Tool := fun j => j.writes (Echo.program j.arguments)

/-- The report on an argument of `printf`. -/
def complaintText (c : Complaint) : String :=
  Quoted.escaped c.argument ++ ": " ++ match c.fault with
    | .notNumeric => "expected a numeric value"
    | .incomplete => "value not completely converted"
    | .outOfRange => "Numerical result out of range"

/-- The report on a directive of `printf`. -/
def fatalText : DirectiveFault → String
  | .unfinished shown | .unknown shown => shown ++ ": invalid conversion specification"

/-- Write the arguments as a format says. -/
def formatted : Tool := fun j =>
  match if j.arguments.head? == some "--" then j.arguments.drop 1 else j.arguments with
  | [] => j.misused "missing operand" 1
  | format :: arguments =>
      let f := printf .program format arguments
      let reports := f.complaints.map Tool.complaintText ++ (f.fatal.map Tool.fatalText).toList
      let warnings := f.unused.head?.map fun a =>
        "warning: ignoring excess arguments, starting with " ++ Quoted.escaped a
      let lines := (reports ++ warnings.toList).map fun r => j.name ++ ": " ++ r ++ "\n"
      j.shows f.output ("".intercalate lines) (if reports.isEmpty then 0 else 1) false

/-- Do nothing, and end with a status. -/
def ends (status : Nat) : Tool := fun j => { j.writes [] with status := status }

/-- Wait for a time.  Nothing else happens until it has passed. -/
def sleep : Tool := fun j =>
  j.withOptions "" "" 1 fun o =>
    let isTime (a : String) : Bool :=
      let s := a.toList
      let number := if "smhd".toList.any fun c => s.getLast? == some c then s.dropLast else s
      match Decimal.read? (String.ofList number) with
      | some d => 0 ≤ d.value
      | none => "infinity".startsWith (String.ofList number) && 3 ≤ number.length
    let wrong := o.others.filter fun a => !isTime a
    if o.others.isEmpty then j.misused "missing operand" 1
    else if wrong.isEmpty then
      { j.writes [] with host := { j.host with disk := j.host.disk.pause } }
    else
      let report := fun a => "invalid time interval " ++ Quoted.escaped a
      j.misused (("\n" ++ j.name ++ ": ").intercalate (wrong.map report)) 1

/-- The tools with their names. -/
def table : List (String × Tool) := [
  ("basename", basename), ("cat", cat), ("chmod", ends 0), ("cp", cp), ("cut", cut),
  ("dirname", dirname), ("echo", echo), ("expr", expr), ("false", ends 1), ("fold", fold),
  ("head", head), ("ls", ls), ("mkdir", mkdir), ("mv", mv), ("paste", paste),
  ("printf", formatted), ("rev", rev), ("rm", rm), ("rmdir", rmdir), ("seq", seq),
  ("sleep", sleep), ("sort", sort), ("sync", ends 0), ("tac", tac), ("tail", tail), ("tee", tee),
  ("touch", touch), ("tr", tr), ("true", ends 0), ("uniq", uniq), ("wc", wc), ("yes", yes)]

/-- The tool of this name. -/
def ofName? (name : String) : Option Tool := table.lookup name

end FieldPattern.Shell.Tool
