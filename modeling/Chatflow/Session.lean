import Chatflow.Exec

/-!
# Sessions

The state in which executions begin: settings from the surroundings, the table of plans that they
name, and the log for operators.
-/

namespace Chatflow

/-- What surrounds the program: variables, and files by their paths. -/
structure Surroundings where
  vars : List (String × String)
  files : String → Option String

namespace Surroundings

/-- The name of the file that may hold further variables. -/
def variableFile : String := ".env"

def settings? (s : Surroundings) : Except Schema.Invalid Settings :=
  Settings.read? s.vars (s.files variableFile)

/-- The table of plans that the settings name. -/
def planTable? (s : Surroundings) : Except Fault PlanTable :=
  match s.settings? with
  | .ok settings => PlanTable.configured? s.files settings.planTablePath?
  | .error invalid => .error (.invalid invalid)

/-- The log for operators, if they want one; its least rank is a setting. -/
def sink? (s : Surroundings) (logging : Bool) : Except Fault Log.Sink :=
  if logging then
    match s.settings? with
    | .error invalid => .error (.invalid invalid)
    | .ok settings =>
      match Log.rankOfName? settings.logLevel with
      | some rank => .ok (.keep rank)
      | none => .error (.misuse .content ("Unknown level: " ++ Text.quoted settings.logLevel))
  else .ok .discard

/-- The environment of executions in a context. -/
def env (s : Surroundings) (sink : Log.Sink) (c : Context) : Env :=
  ⟨c, s.settings?, s.planTable?, sink⟩

end Surroundings

/-- The world at a time, with some collaborators. -/
def World.start (epoch : Float) (services : Service.Bundle) : World :=
  ⟨.start epoch, .empty, services, [], []⟩

end Chatflow
