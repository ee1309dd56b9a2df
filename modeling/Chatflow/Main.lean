import Chatflow.Cli.Command
import Chatflow.Session

/-!
# The program

Takes the command line, the variables and the files from the system, performs the command and shows
what comes of it.
-/

namespace Chatflow

/-- The variables that settings are read from. -/
def settingVariables : List String :=
  ((Settings.standard.value.entries?.getD []).map (·.1)).map fun name =>
    String.ofList ((Settings.variableStem ++ name).toList.map Char.toUpper)

/-- The values of the variables that are set. -/
def readVariables : IO (List (String × String)) :=
  settingVariables.filterMapM fun name => do
    return (← IO.getEnv name).map (name, ·)

/-- The text of a file, if it can be read. -/
def readFile? (path : String) : IO (Option String) := do
  try
    return some (← IO.FS.readFile path)
  catch _ =>
    return none

/-- The texts of all files that some paths name, by the normal forms of the paths. -/
def readFiles (paths : List String) : IO (List (String × String)) :=
  (paths.map PlanTable.normalPath).filterMapM fun path => do
    return (← readFile? path).map (path, ·)

/-- Seconds since 1970, as the system stamps a new file. -/
def wallSeconds : IO Int := do
  let (_, path) ← IO.FS.createTempFile
  let stamp ← path.metadata
  IO.FS.removeFile path
  return stamp.modified.sec

/-- A random name for a run, in the form of identifiers of version four. -/
def freshRunId : IO String := do
  let digits (count : Nat) : IO String := do
    let n ← IO.rand 0 (Nat.pow 16 count - 1)
    return String.ofList (Text.hexDigits n count)
  let variant ← IO.rand 8 11
  return (← digits 8) ++ "-" ++ (← digits 4) ++ "-4" ++ (← digits 3) ++ "-"
    ++ String.ofList (Text.hexDigits variant 1) ++ (← digits 3) ++ "-" ++ (← digits 12)

/-- The paths at which a command may look: its arguments, and every value of a variable, of which
one may name a table of plans. -/
def wantedPaths (args : List String) (vars : List (String × String))
    (variableFile : Option String) : List String :=
  args ++ [Surroundings.variableFile] ++ vars.map (·.2)
    ++ ((variableFile.map Settings.entriesOfFile).getD []).map (·.2)

end Chatflow

open Chatflow in
def main (args : List String) : IO UInt32 := do
  let vars ← readVariables
  let variableFile ← readFile? Surroundings.variableFile
  let texts ← readFiles (wantedPaths args vars variableFile)
  let surroundings : Surroundings :=
    ⟨vars, fun path => Table.get? texts (PlanTable.normalPath path)⟩
  let runId ← freshRunId
  let epoch := Float.ofInt (← wallSeconds)
  let env := surroundings.env .discard (Context.blank runId)
  let (outcome, _) :=
    Exec.outcome (Exec.commandLine surroundings.files runId args) env (.start epoch .none)
  match outcome with
  | .error fault =>
    IO.eprintln (fault.name ++ ": " ++ fault.message)
    return 1
  | .ok shown =>
    IO.print shown.output
    match shown.ending with
    | .exit code => return code.toUInt32
    | .fault fault =>
      IO.eprintln (fault.name ++ ": " ++ fault.message)
      return 1
