import Chatflow.Engine

/-!
# The worker

Runs a flow for an event that was queued. The host gives the collaborators; without them a run takes
place all the same, and its actions fail.
-/

namespace Chatflow

namespace Exec

def workerLogger : String := "flow_engine.integrations.tasks"

/-- The context that an event describes, for a kind of event. -/
def eventContext (runId : String) (event kind : Value) : Exec Context := do
  match event with
  | .obj entries =>
    match Context.read? runId (.obj (Table.put entries "triggerType" kind)) with
    | .ok c => return c
    | .error invalid => throw (.invalid invalid)
  | _ => throw (.misuse .kind ("'" ++ event.kindName ++ "' object is not a mapping"))

/-- Fields that place a record in a run. -/
def runTrace (c : Context) (others : Entries Value) : Entries Value :=
  Log.traceFields (.str c.runId) .null .null .null others

/-- The collaborators of a run, as the host gives them. -/
def hireServices (c : Context) (host : Option Service.Bundle) : Exec Unit := do
  match host with
  | some bundle => setServices bundle
  | none =>
    emit workerLogger .warning "No capabilities configured, actions will fail"
      [("run_id", .str c.runId)]
    setServices .none

/-- Runs the flow of a task. -/
def runTask (nodes edges : Value) (kind : String) (store : Option Service.AuditStore) :
    Exec (RunResult × Option Service.AuditStore) := do
  let nodes ← ofExcept (Draft.members nodes)
  let edges ← ofExcept (Draft.members edges)
  runAudited (.chosen none none) (.ofValues nodes edges) kind none none none store

/-- Executes one queued task: the record of its run, and the store of records after it. -/
def performTask (runId : String) (host : Option Service.Bundle)
    (store : Option Service.AuditStore) (kind nodes edges event : Value) :
    Exec (Value × Option Service.AuditStore) := do
  let c ← eventContext runId event kind
  hireServices c host
  emit workerLogger .info "Starting flow task"
    (Log.traceFields (.str c.runId) (.ofText? c.automationId) .null .null [("task_id", .null)])
  match ← attempt (withContext c (runTask nodes edges c.triggerType store)) with
  | .error fault =>
    emit workerLogger .error "Flow task failed" (runTrace c [("error", .str fault.message)])
    throw fault
  | .ok (result, store) =>
    emit workerLogger .info "Flow task finished"
      (runTrace c [("status", .str result.status.name)])
    return (.obj (result.auditRecord (← now)), store)

end Exec

end Chatflow
