import Chatflow.Cli.Arguments
import Chatflow.Flow.File
import Chatflow.Text.Unit
import Chatflow.Trial

/-!
# Commands

The commands of the program: listing nodes, validating a flow file and running one for trial. A
command gives the text to show and how the program ends.
-/

namespace Chatflow

namespace Cli

inductive Command where
  | help
  | nodes (asJson : Bool)
  | validate (path : String) (plan : Option String) (asJson : Bool)
  | testRun (path : String) (event : TrialEvent) (plan : Option String) (asJson : Bool)

/-! ### Reading the command -/

def helpOption : OptionSpec := ⟨"help", "--help", none, false⟩
def jsonOption : OptionSpec := ⟨"json", "--json", none, false⟩
def planOption : OptionSpec := ⟨"plan", "--plan", some 'p', true⟩

def globalOptions : List OptionSpec :=
  [⟨"verbose", "--verbose", some 'v', false⟩, ⟨"quiet", "--quiet", some 'q', false⟩, helpOption]

def nodesOptions : List OptionSpec := [jsonOption, helpOption]

def validateOptions : List OptionSpec := [planOption, jsonOption, helpOption]

def testRunOptions : List OptionSpec :=
  [⟨"trigger", "--trigger", some 't', true⟩, ⟨"message", "--message", some 'm', true⟩,
    ⟨"sender", "--sender", none, true⟩, ⟨"comment", "--comment-id", none, true⟩,
    ⟨"media", "--media-id", none, true⟩, ⟨"follower", "--follower", none, false⟩,
    ⟨"response", "--ai-response", none, true⟩, planOption, jsonOption, helpOption]

/-- The one argument that names a file that is there. -/
def filePath? (files : String → Option String) (a : Arguments) : Option String :=
  match a.others with
  | [path] => if (files path).isSome then some path else none
  | _ => none

/-- A kind of event by its name in any case. -/
def triggerType? (name : String) : Option String :=
  triggerTypes.find? (· == String.ofList (name.toList.map Char.toUpper))

/-- The event that the options of a trial run describe. -/
def trialEvent? (a : Arguments) : Option TrialEvent := do
  let standard := TrialEvent.standard
  let kind ← triggerType? ((a.value? "trigger").getD standard.triggerType)
  return { standard with
    triggerType := kind
    messageText := a.value? "message" <|> standard.messageText
    senderId := (a.value? "sender").getD standard.senderId
    commentId := a.value? "comment"
    mediaId := a.value? "media"
    isFollower := a.has "follower"
    responses := a.valuesOf "response" }

/-- Reads the arguments of a command. -/
def commandOf? (files : String → Option String) (name : String) (args : List String) :
    Option Command := do
  if name = "nodes" then
    let a ← readArguments nodesOptions true .none args
    if a.has "help" then return .help
    else if a.others.isEmpty then return .nodes (a.has "json")
    else none
  else if name = "validate" then
    let a ← readArguments validateOptions true .none args
    if a.has "help" then return .help
    else return .validate (← filePath? files a) (a.value? "plan") (a.has "json")
  else if name = "test-run" then
    let a ← readArguments testRunOptions true .none args
    if a.has "help" then return .help
    else
      return .testRun (← filePath? files a) (← trialEvent? a) (a.value? "plan") (a.has "json")
  else none

/-- A command, and the least rank of the records that are logged meanwhile, if one is set. -/
structure Invocation where
  command : Command
  logRank : Option Nat

/-- The rank that the options before the command set. -/
def logRank? (a : Arguments) : Option Nat :=
  if a.has "verbose" then some Log.Severity.debug.rank
  else if a.has "quiet" then some Log.Severity.error.rank
  else none

/-- Reads a command line; nothing if it makes no sense. -/
def invocation? (files : String → Option String) (args : List String) : Option Invocation := do
  let a ← readArguments globalOptions false .none args
  if a.has "help" then return ⟨.help, none⟩
  else
    match a.others with
    | [] => none
    | name :: rest => return ⟨← commandOf? files name rest, logRank? a⟩

/-- The commands in short. -/
def usageLines : List String :=
  ["nodes [--json]", "validate FLOW_FILE [--plan PLAN] [--json]",
    "test-run FLOW_FILE [--trigger KIND] [--message TEXT] [--sender ID] [--comment-id ID]",
    "  [--media-id ID] [--follower] [--ai-response TEXT]... [--plan PLAN] [--json]"]

/-! ### Showing the outcome -/

/-- How the program ends. -/
inductive Ending where
  | exit (code : Nat)
  | fault (cause : Fault)

/-- What the program shows, and how it ends. -/
structure Shown where
  output : String
  ending : Ending

namespace Shown

/-- Half characters cannot be shown. -/
def isShowable (line : String) : Bool := line.toList.all fun c => (Text.carriedUnit? c).isNone

/-- Shows lines up to the first that cannot be shown. -/
def ofLines (code : Nat) (lines : List String) : Shown :=
  let shown := lines.takeWhile isShowable
  let output := String.join (shown.map (· ++ "\n"))
  if shown.length = lines.length then ⟨output, .exit code⟩
  else ⟨output, .fault (.misuse .encoding "")⟩

end Shown

def exitCode (good : Bool) : Nat := if good then 0 else 1

/-- One line for each executor, by category and subtype. -/
def nodeLines (definitions : List NodeDefinition) : List String :=
  let before (a b : NodeDefinition) : Bool :=
    decide (a.category < b.category)
      || (a.category == b.category && decide (a.subType ≤ b.subType))
  ("Nodes (" ++ toString definitions.length ++ "):")
    :: (definitions.mergeSort before).map fun d =>
      "  " ++ Text.padRight d.category 10 ++ " " ++ Text.padRight d.subType 18 ++ " "
        ++ d.description ++ (if d.source = "legacy" then " [legacy]" else "")

def showNodes (asJson : Bool) (definitions : List NodeDefinition) : Shown :=
  .ofLines 0
    (if asJson then [Json.write .indented (.list (definitions.map NodeDefinition.value))]
    else nodeLines definitions)

def reportLines (r : Report) : List String :=
  ["Plan: " ++ r.plan]
    ++ (r.violations.map fun v => "  ERROR   " ++ v.code.name ++ ": " ++ v.text)
    ++ (r.warnings.map fun w => "  WARNING " ++ w.code.name ++ ": " ++ w.text)
    ++ [if r.ok then "Flow is valid"
      else "Flow is invalid (" ++ toString r.violations.length ++ " violation(s))"]

def showReport (asJson : Bool) (r : Report) : Shown :=
  .ofLines (exitCode r.ok)
    (if asJson then
      [Json.write .indented
        (.obj ((r.value.entries?.getD []) ++ [("ok", .bool r.ok)]))]
    else reportLines r)

def nodeRunLine (r : NodeRun) : String :=
  "  " ++ Text.padRight r.nodeId 16 ++ " " ++ Text.padRight r.subType 18 ++ " "
    ++ Text.padRight (if r.success then "ok" else "FAILED") 7 ++ " " ++ r.text.getD ""

def callLine (c : Service.OutboundCall) : String :=
  "  " ++ Text.padRight c.kind.name 16 ++ " "
    ++ c.text.getD (Json.write .spaced (.obj c.payload))

/-- Lines under a heading that follows an empty line; nothing without any. -/
def headed (heading : String) : List String → List String
  | [] => []
  | lines => ["", heading] ++ lines

def trialLines (t : Trial) : List String :=
  ["Run: " ++ t.result.runId, "Status: " ++ t.result.status.name, "Message: " ++ t.result.text]
    ++ (t.result.violations.map fun v => "  VIOLATION " ++ v.code.name ++ ": " ++ v.text)
    ++ headed "Nodes:" (t.result.nodes.map nodeRunLine)
    ++ (if t.result.skipped.isEmpty then []
      else ["", "Skipped: " ++ ", ".intercalate t.result.skipped])
    ++ headed "Outbound calls:" (t.calls.map callLine)

def trialValue (t : Trial) : Value :=
  .obj (t.result.fields ++ [("success", .bool t.result.success),
    ("outboundCalls", .list (t.calls.map Service.OutboundCall.value))])

def showTrial (asJson : Bool) (t : Trial) : Shown :=
  .ofLines (exitCode t.result.success)
    (if asJson then [Json.write .indented (trialValue t)] else trialLines t)

/-- How the program ends after a fault: a wrong use is told to the user. -/
def showFault : Fault → Shown
  | .usage text => ⟨"Error: " ++ text ++ "\n", .exit 1⟩
  | fault => ⟨"", .fault fault⟩

end Cli

namespace Exec

/-- Validates the flow in a file. -/
def validateFile (files : String → Option String) (path : String) (plan : Option String) :
    Exec Report := do
  let file ← ofExcept (FlowFile.load? files path)
  validateMembers (.chosen none none) none plan file.nodes file.edges

/-- Runs the flow in a file for trial. -/
def testRunFile (files : String → Option String) (runId path : String) (event : TrialEvent)
    (plan : Option String) : Exec Trial := do
  let file ← ofExcept (FlowFile.load? files path)
  prepareTrial event
  runTrial runId event (← ofExcept file.draft?) plan

/-- Performs a command. -/
def perform (files : String → Option String) (runId : String) (command : Cli.Command) :
    Exec Cli.Shown := do
  match command with
  | .help => return .ofLines 0 Cli.usageLines
  | .nodes asJson =>
    return Cli.showNodes asJson (← ofExcept (Dispatch.bridged .builtin).definitions)
  | .validate path plan asJson => return Cli.showReport asJson (← validateFile files path plan)
  | .testRun path event plan asJson =>
    return Cli.showTrial asJson (← testRunFile files runId path event plan)

/-- Reads and performs a command line. One that makes no sense ends the program with code 2. -/
def commandLine (files : String → Option String) (runId : String) (args : List String) :
    Exec Cli.Shown := do
  match Cli.invocation? files args with
  | none => return ⟨"", .exit 2⟩
  | some called =>
    match ← attempt (withLogRank called.logRank (perform files runId called.command)) with
    | .ok shown => return shown
    | .error fault => return Cli.showFault fault

end Exec

end Chatflow
