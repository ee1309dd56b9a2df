import Chatflow.Context
import Chatflow.Handoff
import Chatflow.Log.Record
import Chatflow.Plan.Table
import Chatflow.Retry
import Chatflow.Service.Bundle
import Chatflow.Settings.Basic
import Chatflow.Time.Clock

/-!
# Executions

The computations of nodes and runs. They read the context and the settings, change the hand-off of
texts, the collaborators, the clock and the logs, and end with a value or a fault. What was changed
before a fault stays changed.
-/

namespace Chatflow

/-- All that changes while a run goes on. The journal holds the entries of the node at work. -/
structure World where
  clock : Time.Clock
  handoff : Handoff
  services : Service.Bundle
  journal : List Log.Entry
  records : List Log.Record

/-- All that stays the same while a run goes on. -/
structure Env where
  context : Context
  settings : Except Schema.Invalid Settings
  planTable : Except Fault PlanTable
  sink : Log.Sink

abbrev Exec : Type → Type := ReaderT Env (ExceptT Fault (StateM World))

namespace Exec

variable {α : Type}

/-- The outcome of an execution in an environment and a world. -/
def outcome (body : Exec α) (env : Env) (world : World) : Except Fault α × World :=
  ((body.run env).run).run world

/-- Runs to the end: a fault becomes a value. -/
def attempt (body : Exec α) : Exec (Except Fault α) := fun env =>
  ExceptT.mk do
    let r ← (body env).run
    return .ok r

def context : Exec Context := return (← read).context

/-- Executes with another context. -/
def withContext (c : Context) (body : Exec α) : Exec α := fun env => body { env with context := c }

/-- Executes with a log from a rank on, if one is given. -/
def withLogRank (rank : Option Nat) (body : Exec α) : Exec α := fun env =>
  body { env with sink := (rank.map env.sink.withRank).getD env.sink }

def settings : Exec Settings := do
  match (← read).settings with
  | .ok s => return s
  | .error e => throw (.invalid e)

/-- The table of plans in use. It is found through the settings. -/
def planTable : Exec PlanTable := do
  let _ ← settings
  match (← read).planTable with
  | .ok table => return table
  | .error e => throw e

/-- Whole milliseconds since 1970. -/
def now : Exec Int := return (← get).clock.milliseconds

/-- Seconds slept so far. -/
def elapsed : Exec Float := return (← get).clock.elapsed

def sleep (seconds : Float) : Exec Unit :=
  modify fun w => { w with clock := w.clock.sleep seconds }

/-- Logs a record for operators. A record that is severe enough must not have a field with a name
of its own; one that is not is dropped unseen. -/
def emit (logger : String) (severity : Log.Severity) (text : String)
    (fields : Entries Value) : Exec Unit := do
  let sink := (← read).sink
  if sink.rankFor logger ≤ severity.rank then
    match Log.Record.clash? fields with
    | some name =>
      throw (.misuse .entry ("\"Attempt to overwrite " ++ Text.quoted name ++ " in LogRecord\""))
    | none =>
      match sink with
      | .discard => pure ()
      | .keep _ => modify fun w =>
        { w with records := w.records ++ [⟨w.clock.stamp, severity, logger, text, fields⟩] }

/-! ### The journal of the node at work -/

def openJournal : Exec Unit := modify fun w => { w with journal := [] }

def journal : Exec (List Log.Entry) := return (← get).journal

/-- Adds an entry to the journal and shows it to operators. -/
def record (logger : String) (trace : Entries Value) (level : Log.Level) (text : String)
    (data : Entries Value) : Exec Unit := do
  let entry := Log.Entry.make (← now) level text data
  modify fun w => { w with journal := w.journal ++ [entry] }
  let more := if data.isEmpty then [] else [("data", Value.obj data)]
  emit logger level.severity text (trace.merge more)

/-- What places the entries of a node in its run. -/
def trace (subType : String) : Exec (Entries Value) := do
  let c ← context
  let h := (← get).handoff
  return [("run_id", .str c.runId)]
    ++ (c.automationId.map fun a => ("automation_id", Value.str a)).toList
    ++ (h.current.map fun n => ("node_id", Value.str n)).toList
    ++ [("sub_type", .str subType)]

/-- An entry of a node. -/
def note (subType : String) (level : Log.Level) (text : String) (data : Entries Value) :
    Exec Unit := do
  record ("node." ++ subType) (← trace subType) level text data

/-! ### The hand-off of texts -/

def handoff : Exec Handoff := return (← get).handoff

def setHandoff (h : Handoff) : Exec Unit := modify fun w => { w with handoff := h }

def enterNode (node : Option String) (scope : Option (List String)) : Exec Unit := do
  setHandoff ((← handoff).enter node scope)

def putText (text : String) (producer : Option String) : Exec Unit := do
  match (← handoff).put text producer with
  | .ok h => setHandoff h
  | .error earlier => throw (.occupied earlier)

def takeText : Exec (Option String) := do
  let (text, h) := (← handoff).take
  setHandoff h
  return text

def discardText (producer : String) : Exec (Option String) := do
  let (text, h) := (← handoff).discard producer
  setHandoff h
  return text

/-! ### The collaborators -/

def services : Exec Service.Bundle := return (← get).services

def setServices (services : Service.Bundle) : Exec Unit := modify fun w => { w with services }

/-- The value of a result, or its fault. -/
def ofExcept : Except Fault α → Exec α
  | .ok a => return a
  | .error e => throw e

/-- A collaborator that must be there. -/
def required (capability : Service.Capability) : Option α → Exec α
  | some a => return a
  | none => throw (.unavailable capability.name)

def send (call : Service.OutboundCall) : Exec Service.SendResult := do
  let b ← services
  let messenger ← required .messaging b.messaging
  let (result, messenger) := messenger.send call
  setServices { b with messaging := some messenger }
  ofExcept result

def isFollower (user : String) : Exec Bool := do
  let b ← services
  let content ← required .content b.content
  let (result, content) := content.isFollower user
  setServices { b with content := some content }
  ofExcept result

def mediaHashtags (media : String) : Exec (List String) := do
  let b ← services
  let content ← required .content b.content
  let (result, content) := content.mediaHashtags media
  setServices { b with content := some content }
  ofExcept result

def generate (prompt : Service.Prompt) : Exec Value := do
  let b ← services
  let ai ← required .ai b.ai
  let (result, ai) := ai.generate prompt
  setServices { b with ai := some ai }
  ofExcept result

def appendRow (spreadsheet sheet : String) (headers : List String) (row : List Value) :
    Exec Service.SendResult := do
  let b ← services
  let sheets ← required .sheets b.sheets
  let (result, sheets) := sheets.append spreadsheet sheet headers row
  setServices { b with sheets := some sheets }
  ofExcept result

/-- Whether the cache of flags is there, and the flag under a key. -/
def readFlag (key : String) : Exec (Option Bool) := do
  let b ← services
  match b.flags with
  | none => return none
  | some flags =>
    let (result, flags) := flags.read key
    setServices { b with flags := some flags }
    ofExcept result

def writeFlag (key : String) (flag : Bool) : Exec Unit := do
  let b ← services
  match b.flags with
  | none => return ()
  | some flags =>
    let (result, flags) := flags.write key flag
    setServices { b with flags := some flags }
    ofExcept result

/-- Whether a call of a subject is within its limit. Without a limiter all calls are. -/
def acquire (subject capability : String) : Exec Bool := do
  let b ← services
  match b.rateLimiter with
  | none => return true
  | some limiter =>
    let (result, limiter) := limiter.acquire subject capability (← elapsed)
    setServices { b with rateLimiter := some limiter }
    ofExcept result

/-- The newest turns of a conversation; none without a history. -/
def recentTurns (page sender : String) (limit : Exec Int) : Exec (List Service.Turn) := do
  match (← services).chatHistory with
  | none => return []
  | some history =>
    let (result, history) := history.recent page sender (← limit)
    setServices { ← services with chatHistory := some history }
    ofExcept result

def appendTurn (page sender : String) (turn : Service.Turn) : Exec Unit := do
  match (← services).chatHistory with
  | none => return ()
  | some history =>
    let (result, history) := history.append page sender turn
    setServices { ← services with chatHistory := some history }
    ofExcept result

/-! ### Retrying -/

def retryLogger : String := "flow_engine.node_sdk.retry"

/-- Waits before the next attempt and says so. -/
def pauseBetween (attempts : Int) (count : Nat) (delay : Float) (fault : Fault) : Exec Unit := do
  emit retryLogger .warning
    ("[retry] Transient error (" ++ fault.name ++ "). Retrying in "
      ++ Decimal.fixed 1 delay ++ "s (" ++ toString count ++ "/" ++ toString attempts ++ ")...") []
  sleep delay

/-- The calls after which a delay can be computed. The factor of the next one is not a
floating-point number. -/
def delayedCalls : Nat := 1024

/-- Computing the delay after a call fails when its factor is too large. -/
def checkDelay (count : Nat) : Exec Unit :=
  if count ≤ delayedCalls then return ()
  else throw (.misuse .size "int too large to convert to float")

/-- The policy for calls of collaborators. -/
def retryPolicy (s : Settings) : RetryPolicy Exec Fault Float where
  attempts := s.retryAttempts
  delay := doubling (fun base n => base * Float.ofNat n) s.retryBackoff
  isTransient := Fault.isTransient
  pause := fun count delay fault => do
    checkDelay count
    pauseBetween s.retryAttempts count delay fault

/-- Makes a call again while its faults are passing. -/
def retrying (call : Exec α) : Exec α := do
  ofExcept (← (retryPolicy (← settings)).retry (attempt call))

end Exec

end Chatflow
