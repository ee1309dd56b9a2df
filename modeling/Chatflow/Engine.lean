import Chatflow.Run

/-!
# The engine

Validates a flow and runs it if it may run. A flow that may not is rejected with everything that was
found in it, and nothing of it is executed.
-/

namespace Chatflow

namespace Dispatch

/-- The executors that the engine works with: those of the given registry, or the built-in ones when
there is none or an empty one; and the given bridge, or one over that registry. -/
def chosen (registry : Option Registry) (bridge : Option Bridge) : Dispatch :=
  let registry := (registry.filter fun r => !r.executors.isEmpty).getD .builtin
  ⟨registry, some (bridge.getD ⟨some registry⟩)⟩

end Dispatch

namespace Exec

def engineLogger : String := "flow_engine.engine"

/-- The result for a flow that may not run. -/
def rejected (report : Report) (kind : String) (started : Float) : Exec RunResult := do
  let c ← context
  return {
    runId := c.runId, status := .rejected, triggerType := Text.upper kind, triggerNodeId := none,
    automationId := c.automationId
    text := "Flow failed validation with " ++ toString report.violations.length
      ++ " violation(s)"
    nodes := [], logs := [], softFailures := [], skipped := [], fatal := none,
    violations := report.violations, dryRun := c.dryRun
    duration := (← get).clock.since started }

/-- Keeps the record of a run. That it cannot be kept is only told to operators. -/
def audit (store : Service.AuditStore) (result : RunResult) : Exec Service.AuditStore := do
  let (kept, store) := store.record (result.auditRecord (← now))
  if let .error fault := kept then
    emitInRun engineLogger .error "Could not record run" [("error", .str fault.message)]
  return store

/-- The first of two names that says something. -/
def firstName (first second : Option String) : Option String :=
  first.filter (!·.isEmpty) <|> second

/-- Validates and runs a flow. The plan of the account comes before the given one. -/
def runFlow (d : Dispatch) (draft : Draft) (kind : String) (items : Option (List Item))
    (plan : Option String) (table : Option PlanTable) : Exec RunResult := do
  let c ← context
  let plan := firstName c.subscription plan
  let started ← elapsed
  let report ← validate d table plan draft
  if report.ok then runDraft d draft kind items
  else
    emitInRun engineLogger .warning "Flow rejected"
      [("plan", .str report.plan), ("violations", .texts report.codes)]
    rejected report kind started

/-- Validates and runs a flow, and keeps the record of the run if there is a store for it. -/
def runAudited (d : Dispatch) (draft : Draft) (kind : String) (items : Option (List Item))
    (plan : Option String) (table : Option PlanTable) (store : Option Service.AuditStore) :
    Exec (RunResult × Option Service.AuditStore) := do
  let result ← runFlow d draft kind items plan table
  match store with
  | some store => return (result, some (← audit store result))
  | none => return (result, none)

end Exec

namespace Service.Bundle

/-- Collaborators that keep everything to themselves. -/
def dryRun (s : Settings) (followers : List String) (responses : List Value) : Bundle :=
  { messaging := some .recording
    content := some (.ofFollowers followers)
    ai := some (.scripted responses (.str "Thanks for reaching out!"))
    chatHistory := some .empty
    flags := some (.ofEntries [])
    rateLimiter := some (.ofRate ⟨s.aiRateLimit, Float.ofInt s.aiRateWindow⟩)
    sheets := some .empty }

end Service.Bundle

end Chatflow
