import Chatflow.Validation

/-!
# Runs

A run takes a flow from its trigger on. Which node comes when follows from the flow alone: each node
once everything that leads to it is settled. What a node receives follows from the outcomes of the
nodes before it; a node that receives nothing is skipped. Generated texts that nobody can send any
more are dropped on the way.
-/

namespace Chatflow

inductive RunStatus where
  | success
  | partly
  | failed
  | rejected
deriving Repr, DecidableEq

def RunStatus.name : RunStatus → String
  | success => "success"
  | partly => "partial"
  | failed => "failed"
  | rejected => "rejected"

inductive FatalCode where
  | missingTrigger
  | unresolvedSubType
  | executorRaised
deriving Repr, DecidableEq

def FatalCode.name : FatalCode → String
  | missingTrigger => "MISSING_TRIGGER"
  | unresolvedSubType => "UNRESOLVED_SUBTYPE"
  | executorRaised => "EXECUTOR_RAISED"

/-- What ends a run at once. -/
structure FatalError where
  code : FatalCode
  text : String
  nodeId : Option String
  subType : Option String
deriving Repr, DecidableEq

namespace FatalError

def missingTrigger (kind : String) : FatalError :=
  ⟨.missingTrigger, "No " ++ kind ++ " trigger found in flow", none, none⟩

def unresolved (n : FlowNode) : FatalError :=
  ⟨.unresolvedSubType, "No executor registered for subtype '" ++ n.subType ++ "'", some n.id,
    some n.subType⟩

def raised (n : FlowNode) (fault : Fault) : FatalError :=
  ⟨.executorRaised,
    "Executor for " ++ n.subType ++ " raised " ++ fault.name ++ ": " ++ fault.message,
    some n.id, some n.subType⟩

def stray (n : FlowNode) (kindName : String) : FatalError :=
  ⟨.executorRaised, "Executor for " ++ n.subType ++ " returned " ++ kindName, some n.id,
    some n.subType⟩

def value (e : FatalError) : Value :=
  .obj [("code", .str e.code.name), ("message", .str e.text), ("node_id", .ofText? e.nodeId),
    ("sub_type", .ofText? e.subType)]

end FatalError

/-- An entry of the log of a run, with the node that it is about. -/
structure RunEntry where
  nodeId : Option String
  entry : Log.Entry

def RunEntry.value (e : RunEntry) : Value := .obj (("node_id", .ofText? e.nodeId) :: e.entry.fields)

/-- What became of one executed node. -/
structure NodeRun where
  nodeId : String
  subType : String
  source : Source
  success : Bool
  items : List Item
  text : Option String
  logs : List Log.Entry
  duration : Float

namespace NodeRun

/-- A failed node hands nothing on. -/
def ofResult (n : FlowNode) (source : Source) (r : NodeResult) (duration : Float) : NodeRun :=
  { nodeId := n.id, subType := n.subType, source, success := r.success,
    items := if r.success then r.items else [], text := r.text, logs := r.logs, duration }

def outcome (r : NodeRun) : Option String := r.items.head?.bind Item.branch

/-- The items that are delivered to the nodes behind. -/
def handedOn (r : NodeRun) : List Item := if r.success then r.items else []

def value (r : NodeRun) : Value :=
  .obj [("node_id", .str r.nodeId), ("sub_type", .str r.subType),
    ("executor_source", .str r.source.name), ("success", .bool r.success),
    ("items", .list (r.items.map Item.value)), ("message", .ofText? r.text),
    ("logs", .list (r.logs.map Log.Entry.value)), ("duration_ms", .float r.duration)]

end NodeRun

structure RunResult where
  runId : String
  status : RunStatus
  triggerType : String
  triggerNodeId : Option String
  automationId : Option String
  text : String
  nodes : List NodeRun
  logs : List RunEntry
  softFailures : List String
  skipped : List String
  fatal : Option FatalError
  violations : List Violation
  dryRun : Bool
  duration : Float

namespace RunResult

def success (r : RunResult) : Bool := r.status = .success

def executed (r : RunResult) : List String := r.nodes.map NodeRun.nodeId

/-- What became of a node, if it was executed. -/
def find? (r : RunResult) (id : String) : Option NodeRun := r.nodes.find? (·.nodeId == id)

def fields (r : RunResult) : Entries Value :=
  [("run_id", .str r.runId), ("status", .str r.status.name), ("trigger_type", .str r.triggerType),
    ("trigger_node_id", .ofText? r.triggerNodeId), ("automation_id", .ofText? r.automationId),
    ("message", .str r.text), ("node_results", .list (r.nodes.map NodeRun.value)),
    ("logs", .list (r.logs.map RunEntry.value)), ("soft_failures", .texts r.softFailures),
    ("skipped_node_ids", .texts r.skipped),
    ("fatal_error", (r.fatal.map FatalError.value).getD .null),
    ("violations", .list (r.violations.map Violation.value)), ("dry_run", .bool r.dryRun),
    ("duration_ms", .float r.duration)]

/-- The record of a run that is kept, at a time. -/
def auditRecord (r : RunResult) (now : Int) : Entries Value :=
  r.fields ++ [("success", .bool r.success), ("recorded_at", .int now)]

end RunResult

/-! ### Deliveries -/

/-- The items that wait for each node, in the order of their delivery. -/
abbrev Inbox := Table String (List Item)

namespace Inbox

/-- What waits for a node. -/
def itemsOf (inbox : Inbox) (id : String) : List Item := (inbox.get? id).getD []

def add (inbox : Inbox) (id : String) (items : List Item) : Inbox :=
  inbox.put id (inbox.itemsOf id ++ items)

end Inbox

namespace Graph

/-- Whether a run from a node delivers over an arc: it never comes back to its start, and no node
feeds itself. -/
def carries (start : String) (a : Arc) : Bool := a.target != start && a.target != a.source

/-- Delivers the items of a node over each of its edges that is followed for their outcome. The
items lose their outcome and name the node as their source. -/
def deliver (g : Graph) (start id : String) (now : Int) (items : List Item) (inbox : Inbox) :
    Inbox :=
  match items with
  | [] => inbox
  | first :: _ =>
    let sent := items.map (·.sendOn now (some id) none)
    (g.outgoing id).foldl
      (fun inbox a =>
        if carries start a && g.follows a.edge first.branch then inbox.add a.target sent
        else inbox)
      inbox

/-- Whether everything behind a producer is settled. -/
def isStranded (g : Graph) (start : String) (settled : List String) (producer : String) : Bool :=
  (g.reachable [producer]).all fun id => id == producer || id == start || settled.contains id

end Graph

/-! ### Traversal -/

/-- A flow that runs from a trigger, with what executes its nodes. -/
structure Course where
  dispatch : Dispatch
  graph : Graph
  start : String

/-- How far a run has come. -/
structure Progress where
  inbox : Inbox
  settled : List String
  nodes : List NodeRun
  skipped : List String
  logs : List RunEntry

namespace Progress

def failures (p : Progress) : List String := (p.nodes.filter (!·.success)).map NodeRun.nodeId

end Progress

namespace Exec

def runLogger : String := "flow_engine.workflow_runtime.runner"

/-- Logs a record of the run at work. -/
def emitInRun (logger : String) (severity : Log.Severity) (text : String)
    (fields : Entries Value) : Exec Unit := do
  let c ← context
  emit logger severity text
    (Table.merge [("run_id", .str c.runId), ("automation_id", .ofText? c.automationId)] fields)

/-- An entry of the run's own. -/
def runEntry (level : Log.Level) (text : String) (nodeId : Option String) : Exec RunEntry :=
  return ⟨nodeId, Log.Entry.make (← now) level text []⟩

/-- Executes a node with its items. While it is at work it sees the texts of the nodes before it. -/
def executeNode (course : Course) (n : FlowNode) (items : List Item) :
    Exec (Except FatalError NodeRun) := do
  match course.dispatch.find? n.subType with
  | none => return .error (.unresolved n)
  | some (executor, source) =>
    let started ← elapsed
    enterNode (some n.id) (some (course.graph.ancestors n.id))
    let outcome ← attempt (executor.execute (.obj n.config) items)
    enterNode none none
    match outcome with
    | .error fault => return .error (.raised n fault)
    | .ok (.stray kindName) => return .error (.stray n kindName)
    | .ok (.result r) => return .ok (.ofResult n source r ((← get).clock.since started))

/-- Settles a node that hands on some items, or none. -/
def settle (course : Course) (p : Progress) (id : String) (items : List Item) : Exec Progress := do
  let inbox := course.graph.deliver course.start id (← now) items p.inbox
  return { p with inbox, settled := id :: p.settled }

/-- Notes that a node is skipped. -/
def noteSkip (p : Progress) (n : FlowNode) : Exec Progress := do
  emitInRun runLogger .debug "Node skipped" [("node_id", .str n.id)]
  return { p with skipped := p.skipped ++ [n.id] }

/-- Skips a node that has received nothing. -/
def skipNode (course : Course) (p : Progress) (n : FlowNode) : Exec Progress := do
  settle course (← noteSkip p n) n.id []

/-- Notes the run of a node. -/
def noteRun (p : Progress) (r : NodeRun) : Exec Progress := do
  let p := { p with
    nodes := p.nodes ++ [r]
    logs := p.logs ++ r.logs.map fun entry => ⟨some r.nodeId, entry⟩ }
  if r.success then return p
  else
    let reason := (r.text.filter (!·.isEmpty)).getD "no message"
    let entry ← runEntry .warn ("Node " ++ r.subType ++ " failed: " ++ reason) (some r.nodeId)
    emitInRun runLogger .warning "Node failed"
      [("node_id", .str r.nodeId), ("sub_type", .str r.subType), ("reason", .ofText? r.text)]
    return { p with logs := p.logs ++ [entry] }

/-- Takes the run of a node into account. -/
def acceptRun (course : Course) (p : Progress) (r : NodeRun) : Exec Progress := do
  settle course (← noteRun p r) r.nodeId r.handedOn

/-- Drops the texts of some producers, with a warning for each. -/
def dropTexts (p : Progress) : List String → Exec Progress
  | [] => return p
  | producer :: rest => do
    let _ ← discardText producer
    let entry ← runEntry .warn ("Generated text from '" ++ producer ++ "' was never sent")
      (some producer)
    emitInRun runLogger .info "Generated text dropped" [("node_id", .str producer)]
    dropTexts { p with logs := p.logs ++ [entry] } rest

/-- Drops the texts that no node can send any more. -/
def dropStranded (course : Course) (p : Progress) : Exec Progress := do
  dropTexts p
    ((← handoff).producers.filter (course.graph.isStranded course.start p.settled))

/-- Skips or executes a node. -/
def visitNode (course : Course) (p : Progress) (n : FlowNode) :
    Exec (Except FatalError Progress) := do
  match p.inbox.itemsOf n.id with
  | [] => return .ok (← dropStranded course (← skipNode course p n))
  | items =>
    match ← executeNode course n items with
    | .error fatal => return .error fatal
    | .ok r => return .ok (← dropStranded course (← acceptRun course p r))

/-- Visits nodes in order, up to the first fatal error. -/
def visitNodes (course : Course) : Progress → List FlowNode → Exec (Progress × Option FatalError)
  | p, [] => return (p, none)
  | p, n :: rest => do
    match ← visitNode course p n with
    | .error fatal => return (p, some fatal)
    | .ok p => visitNodes course p rest

/-! ### Results -/

/-- How a run ended, and what is said about it. -/
def verdict (failures : List String) : Option FatalError → RunStatus × String
  | some fatal => (.failed, "Flow execution failed: " ++ fatal.text)
  | none =>
    if failures.isEmpty then (.success, "Flow completed")
    else
      (.partly, "Flow completed with " ++ toString failures.length ++ " failed node(s)")

/-- The result of a run, of which operators are told. -/
def finishRun (kind : String) (started : Float) (trigger : Option String) (p : Progress)
    (status : RunStatus) (text : String) (fatal : Option FatalError) : Exec RunResult := do
  let c ← context
  let duration := (← get).clock.since started
  emitInRun runLogger .info "Run finished"
    [("status", .str status.name), ("nodes_executed", .int p.nodes.length),
      ("soft_failures", .int p.failures.length),
      ("duration_ms", .float (Decimal.roundPlaces 2 duration))]
  return {
    runId := c.runId, status, triggerType := kind, triggerNodeId := trigger,
    automationId := c.automationId, text, nodes := p.nodes, logs := p.logs,
    softFailures := p.failures, skipped := p.skipped, fatal, violations := [],
    dryRun := c.dryRun, duration }

/-- Notes that a run starts. -/
def noteStart (start kind : String) : Exec Progress := do
  let first ← runEntry .info ("Starting flow from trigger: " ++ start) (some start)
  emitInRun runLogger .info "Run started"
    [("trigger_node_id", .str start), ("trigger_type", .str kind)]
  return ⟨[], [], [], [], [first]⟩

/-- Starts a run: its trigger is settled with the items of the event. -/
def openRun (course : Course) (kind : String) (items : List Item) : Exec Progress := do
  settle course (← noteStart course.start kind) course.start items

/-- Notes the error that ended a run, if there was one. -/
def noteFatal (p : Progress) : Option FatalError → Exec Progress
  | none => return p
  | some fatal => do
    let entry ← runEntry .error fatal.text fatal.nodeId
    emitInRun runLogger .error "Run aborted"
      [("node_id", .ofText? fatal.nodeId), ("code", .str fatal.code.name),
        ("reason", .str fatal.text)]
    return { p with logs := p.logs ++ [entry] }

/-- Ends a run. -/
def closeRun (kind : String) (started : Float) (trigger : String) (p : Progress)
    (fatal : Option FatalError) : Exec RunResult := do
  let p ← noteFatal p fatal
  let (status, text) := verdict p.failures fatal
  finishRun kind started (some trigger) p status text fatal

/-- Runs a graph from a trigger with some items. -/
def runFrom (d : Dispatch) (g : Graph) (kind : String) (started : Float) (trigger : FlowNode)
    (items : List Item) : Exec RunResult := do
  let course : Course := ⟨d, g, trigger.id⟩
  let p ← openRun course kind items
  let (p, fatal) ← visitNodes course p (course.graph.runNodes course.start)
  closeRun kind started trigger.id p fatal

/-- Runs a flow for a kind of event, with the given items or those of the event. -/
def run (d : Dispatch) (f : Flow) (kind : String) (items : Option (List Item)) :
    Exec RunResult := do
  let started ← elapsed
  let kind := Text.upper kind
  let g := Graph.ofFlow f
  match g.trigger? kind with
  | none =>
    let fatal := FatalError.missingTrigger kind
    let entry ← runEntry .error fatal.text none
    finishRun kind started none ⟨[], [], [], [], [entry]⟩ .failed fatal.text (some fatal)
  | some trigger =>
    let items ← match items with
      | some items => pure items
      | none => pure ((← context).initialItems (← now))
    runFrom d g kind started trigger items

/-- Runs a flow that still has to be read. -/
def runDraft (d : Dispatch) (draft : Draft) (kind : String) (items : Option (List Item)) :
    Exec RunResult := do
  match draft.flow? with
  | .ok f => run d f kind items
  | .error invalid => throw (.invalid invalid)

end Exec

end Chatflow
