import Chatflow.Flow.Graph
import Chatflow.Registry

/-!
# Validation

Everything that keeps a flow from running, and what its author should know besides. Each rule gives
its own list of violations; a report joins them all.
-/

namespace Chatflow

inductive ViolationCode where
  | invalidDefinition
  | duplicateNodeId
  | danglingEdge
  | noTrigger
  | unknownSubType
  | missingConfig
  | cycleDetected
  | handoffConflict
  | unknownPlan
  | planLimitsUnavailable
  | subTypeNotAllowed
  | nodeLimitExceeded
  | depthLimitExceeded
  | orphanedNode
  | deadEnd
  | unconsumedText
deriving Repr, DecidableEq

namespace ViolationCode

def name : ViolationCode → String
  | invalidDefinition => "INVALID_DEFINITION"
  | duplicateNodeId => "DUPLICATE_NODE_ID"
  | danglingEdge => "DANGLING_EDGE"
  | noTrigger => "NO_TRIGGER"
  | unknownSubType => "UNKNOWN_SUBTYPE"
  | missingConfig => "MISSING_CONFIG"
  | cycleDetected => "CYCLE_DETECTED"
  | handoffConflict => "HANDOFF_CONFLICT"
  | unknownPlan => "UNKNOWN_PLAN"
  | planLimitsUnavailable => "PLAN_LIMITS_UNAVAILABLE"
  | subTypeNotAllowed => "SUBTYPE_NOT_ALLOWED"
  | nodeLimitExceeded => "NODE_LIMIT_EXCEEDED"
  | depthLimitExceeded => "DEPTH_LIMIT_EXCEEDED"
  | orphanedNode => "ORPHANED_NODE"
  | deadEnd => "DEAD_END"
  | unconsumedText => "UNCONSUMED_GENERATED_TEXT"

/-- Whether a flow may run all the same. -/
def isWarning : ViolationCode → Bool
  | orphanedNode | deadEnd | unconsumedText => true
  | _ => false

end ViolationCode

structure Violation where
  code : ViolationCode
  text : String
  nodeId : Option String
  edgeId : Option String
  subType : Option String
deriving Repr, DecidableEq

namespace Violation

def ofFlow (code : ViolationCode) (text : String) : Violation := ⟨code, text, none, none, none⟩

def ofNode (code : ViolationCode) (text nodeId : String) : Violation :=
  ⟨code, text, some nodeId, none, none⟩

def ofSubType (code : ViolationCode) (text nodeId subType : String) : Violation :=
  ⟨code, text, some nodeId, none, some subType⟩

def value (v : Violation) : Value :=
  .obj [("code", .str v.code.name), ("message", .str v.text),
    ("severity", .str (if v.code.isWarning then "warning" else "error")),
    ("node_id", .ofText? v.nodeId), ("edge_id", .ofText? v.edgeId),
    ("sub_type", .ofText? v.subType)]

end Violation

/-- What was found in a flow that is to run on a plan. -/
structure Report where
  plan : String
  violations : List Violation
  warnings : List Violation
deriving Repr, DecidableEq

namespace Report

/-- A flow without violations may run. -/
def ok (r : Report) : Bool := r.violations.isEmpty

def codes (r : Report) : List String := r.violations.map (·.code.name)

def value (r : Report) : Value :=
  .obj [("plan", .str r.plan), ("violations", .list (r.violations.map Violation.value)),
    ("warnings", .list (r.warnings.map Violation.value))]

/-- The first violations in one line, and how many more there are. -/
def complaint? (r : Report) : Option String :=
  if r.ok then none
  else
    let first := "; ".intercalate ((r.violations.take 3).map (·.text))
    let more := r.violations.length - 3
    some ("Flow failed validation: " ++ first
      ++ (if 0 < more then " (+" ++ toString more ++ " more)" else ""))

end Report

namespace Validation

/-! ### Structure -/

/-- The parts that can be read, and a violation for each that cannot. -/
def readParts {α : Type} (noun : String) (read : Record α → Except Schema.Invalid α) :
    Nat → List (Record α) → List α × List Violation
  | _, [] => ([], [])
  | index, r :: rest =>
    let (parts, violations) := readParts noun read (index + 1) rest
    match read r with
    | .ok part => (part :: parts, violations)
    | .error invalid =>
      let text := "Invalid " ++ noun ++ " at index " ++ toString index ++ ": " ++ invalid.firstText
      (parts, .ofFlow .invalidDefinition text :: violations)

/-- Ids that an earlier node has, each once, where it is first met again. -/
def repeatedIds (seen reported : List String) : List FlowNode → List String
  | [] => []
  | n :: rest =>
    if seen.contains n.id && !reported.contains n.id then
      n.id :: repeatedIds seen (n.id :: reported) rest
    else repeatedIds (n.id :: seen) reported rest

def duplicates (nodes : List FlowNode) : List Violation :=
  (repeatedIds [] [] nodes).map fun id =>
    .ofNode .duplicateNodeId ("Node ID '" ++ id ++ "' is used more than once") id

/-- The ends of an edge that are not nodes. -/
def missingEnds (g : Graph) (e : FlowEdge) : List String :=
  [e.source, e.target].filter fun id => !g.has id

def danglingEdges (g : Graph) : List Violation :=
  g.dangling.map fun a =>
    ⟨.danglingEdge,
      "Edge " ++ a.edge.label ++ " references missing node(s): "
        ++ ", ".intercalate (missingEnds g a.edge),
      none, a.edge.id, none⟩

def withoutTrigger (g : Graph) : List Violation :=
  if g.triggers.isEmpty then [.ofFlow .noTrigger "Flow has no trigger node"] else []

def unknownSubTypes (d : Dispatch) (g : Graph) : List Violation :=
  (g.nodes.filter fun n => (d.resolve? n.subType).isNone).map fun n =>
    .ofSubType .unknownSubType ("Node '" ++ n.id ++ "' has unknown subtype '" ++ n.subType ++ "'")
      n.id n.subType

/-- The nodes that have executors, with them. -/
def resolved (d : Dispatch) (g : Graph) : List (FlowNode × Executor) :=
  g.nodes.filterMap fun n => (d.resolve? n.subType).map (n, ·)

/-- How messages show a node. -/
def nodeTitle (n : FlowNode) : String := "Node '" ++ n.id ++ "' (" ++ n.subType ++ ")"

def invalidSettings (n : FlowNode) (e : Executor) : List Violation :=
  (e.problems (.obj n.config)).map fun problem =>
    .ofSubType .missingConfig (nodeTitle n ++ " has invalid config: " ++ problem) n.id n.subType

/-- The ids of the nodes that generate texts. -/
def producers (d : Dispatch) (g : Graph) : List String :=
  ((resolved d g).filter (·.2.producesText)).map (·.1.id)

/-- Whether a node that sends a text can find none: neither in its settings nor from a producer
before it. -/
def lacksText (g : Graph) (producers : List String) (n : FlowNode) (e : Executor) : Bool :=
  e.consumesText && !e.hasStaticText n.config
    && !(g.ancestors n.id).any producers.contains

def missingText (g : Graph) (producers : List String) (n : FlowNode) (e : Executor) :
    List Violation :=
  if lacksText g producers n e then
    [.ofSubType .missingConfig
      (nodeTitle n ++ " needs text: configure " ++ " or ".intercalate e.textKeys
        ++ " or connect an AI node upstream")
      n.id n.subType]
  else []

def settings (d : Dispatch) (g : Graph) : List Violation :=
  (resolved d g).flatMap fun (n, e) => invalidSettings n e ++ missingText g (producers d g) n e

/-! ### Graph -/

def cycles (g : Graph) (starts : List String) : List Violation :=
  (g.backArcs starts).map fun a =>
    ⟨.cycleDetected,
      "Cycle detected: edge " ++ a.edge.label ++ " (" ++ a.source ++ " -> " ++ a.target
        ++ ") loops back",
      some a.target, a.edge.id, none⟩

def executorOf? (d : Dispatch) (g : Graph) (id : String) : Option Executor :=
  (g.get? id).bind fun n => d.resolve? n.subType

/-- A node on a path from a trigger, with the producer whose text is not sent yet when the path
comes there. -/
structure HandoffState where
  node : String
  pending : Option String
deriving Repr, DecidableEq

namespace HandoffState

variable (executors : String → Option Executor) (g : Graph)

/-- The producer whose text is still waiting when the node has sent its own. -/
def waiting (s : HandoffState) : Option String :=
  if (executors s.node).any (·.consumesText) then none else s.pending

def produces (s : HandoffState) : Bool := (executors s.node).any (·.producesText)

/-- The producer whose text is waiting behind the node. -/
def after (s : HandoffState) : Option String :=
  if s.produces executors then some s.node else s.waiting executors

def next (s : HandoffState) : List HandoffState :=
  (g.outgoing s.node).map fun a => ⟨a.target, s.after executors⟩

/-- A producer whose text is waiting where a second one generates, and that second one. -/
def clash? (s : HandoffState) : Option (String × String) :=
  if s.produces executors then (s.waiting executors).map (·, s.node) else none

/-- The producer whose text is waiting where the path ends. -/
def unsent? (s : HandoffState) : Option String :=
  if (g.outgoing s.node).isEmpty then s.after executors else none

end HandoffState

section Handoff

variable (executors : String → Option Executor) (g : Graph) (starts : List String)

/-- Everything that paths from some nodes come by. There are at most as many states as pairs of a
node and a producer or none. -/
def handoffStates : List HandoffState :=
  walk (HandoffState.next executors g) (starts.length + (g.nodes.length + 1) * g.arcs.length)
    (starts.map (⟨·, none⟩))

/-- A second text while one of an earlier producer is waiting. -/
def conflictOf (earlier id : String) : Violation :=
  ⟨.handoffConflict,
    "Node '" ++ id ++ "' generates text while text from '" ++ earlier
      ++ "' has not been sent yet",
    some id, none, (executors id).map (·.subType)⟩

def handoffConflicts : List Violation :=
  ((handoffStates executors g starts).filterMap (HandoffState.clash? executors)).map fun clash =>
    conflictOf executors clash.1 clash.2

def unsentText (id : String) : Violation :=
  .ofNode .unconsumedText ("Text generated by '" ++ id ++ "' is never sent on some path") id

def unsentTexts : List Violation :=
  ((handoffStates executors g starts).filterMap
    (HandoffState.unsent? executors g)).eraseDups.map unsentText

end Handoff

/-! ### Plan -/

/-- The subtypes that a plan does not allow, each with its nodes. -/
def refusedSubTypes (limit : PlanLimit) (g : Graph) : List (String × List String) :=
  let refused := g.nodes.filter fun n => !limit.allows n.subType
  (refused.map FlowNode.subType).eraseDups.map fun subType =>
    (subType, (refused.filter (·.subType == subType)).map FlowNode.id)

def beyondLimits (limit : PlanLimit) (plan : String) (g : Graph) (starts : List String) :
    List Violation :=
  let subTypes := (refusedSubTypes limit g).map fun (subType, ids) =>
    (⟨.subTypeNotAllowed,
      "Subtype '" ++ subType ++ "' is not available on the " ++ plan ++ " plan (nodes: "
        ++ ", ".intercalate ids ++ ")",
      ids.head?, none, some subType⟩ : Violation)
  let count := g.nodes.length
  let nodes : List Violation :=
    if limit.maxNodes < count then
      [.ofFlow .nodeLimitExceeded
        ("Flow has " ++ toString count ++ " nodes; the " ++ plan ++ " plan allows "
          ++ toString limit.maxNodes)]
    else []
  let depth := g.longestDepth starts
  let depths : List Violation :=
    if limit.maxDepth < depth then
      [.ofFlow .depthLimitExceeded
        ("Flow depth is " ++ toString depth ++ "; the " ++ plan ++ " plan allows "
          ++ toString limit.maxDepth)]
    else []
  subTypes ++ nodes ++ depths

/-- What a table of plans says about a flow; a table that cannot be used allows nothing. -/
def planRules (table : Except PlanTableFault PlanTable) (plan : String) (g : Graph)
    (starts : List String) : List Violation :=
  match table with
  | .error cause =>
    [.ofFlow .planLimitsUnavailable ("Plan limits could not be loaded: " ++ cause.message)]
  | .ok table =>
    match table.get? plan with
    | some limit => beyondLimits limit plan g starts
    | none =>
      [.ofFlow .unknownPlan
        ("Unknown plan '" ++ plan ++ "' (known: " ++ ", ".intercalate table.names ++ ")")]

/-! ### Warnings -/

def orphans (g : Graph) (starts : List String) : List Violation :=
  if starts.isEmpty then []
  else
    let reach := g.reachable starts
    (g.nodes.filter fun n => !reach.contains n.id).map fun n =>
      .ofNode .orphanedNode ("Node '" ++ n.id ++ "' is not reachable from any trigger") n.id

def deadEnds (g : Graph) : List Violation :=
  (g.nodes.filter fun n => Graph.decides n && (g.outgoing n.id).isEmpty).map fun n =>
    .ofNode .deadEnd ("Condition node '" ++ n.id ++ "' has no outgoing connections") n.id

/-- Checks a flow against the executors and a plan. A table of plans that cannot be used is a
violation like any other. -/
def report (d : Dispatch) (table : Except PlanTableFault PlanTable) (plan : String)
    (draft : Draft) : Report :=
  let (nodes, badNodes) := readParts "node" Record.node? 0 draft.nodes
  let (edges, badEdges) := readParts "edge" Record.edge? 0 draft.edges
  let g := Graph.ofFlow ⟨nodes, edges⟩
  let starts := g.triggers.map FlowNode.id
  { plan
    violations :=
      badNodes ++ badEdges ++ duplicates nodes ++ danglingEdges g ++ withoutTrigger g
        ++ unknownSubTypes d g ++ settings d g ++ cycles g starts
        ++ handoffConflicts (executorOf? d g) g starts ++ planRules table plan g starts
    warnings := unsentTexts (executorOf? d g) g starts ++ orphans g starts ++ deadEnds g }

end Validation

namespace Exec

def validationLogger : String := "flow_engine.workflow_runtime.validator"

/-- The table to check against: the given one, or the one in use. -/
def usableTable (table : Option PlanTable) : Exec (Except PlanTableFault PlanTable) := do
  match table with
  | some table => return .ok table
  | none =>
    match ← attempt planTable with
    | .ok table => return .ok table
    | .error (.planTable cause) => return .error cause
    | .error fault => throw fault

/-- The name of a plan in its normal form; without one, the plan that the settings name. -/
def planName (plan : Option String) : Exec String := do
  match plan.filter (!·.isEmpty) with
  | some plan => return Settings.planName plan
  | none => return Settings.planName (← settings).defaultPlan

/-- Validates a flow for a plan, and tells operators when it may not run. -/
def validateFor (plan : String) (d : Dispatch) (table : Option PlanTable) (draft : Draft) :
    Exec Report := do
  let table ← usableTable table
  let report := Validation.report d table plan draft
  if let .error cause := table then
    emit validationLogger .error "Plan limits unavailable"
      [("plan", .str plan), ("error", .str cause.message)]
  if !report.ok then
    emit validationLogger .info "Flow rejected"
      [("plan", .str plan), ("violation_codes", .texts report.codes)]
  return report

def validate (d : Dispatch) (table : Option PlanTable) (plan : Option String) (draft : Draft) :
    Exec Report := do
  validateFor (← planName plan) d table draft

/-- Validates the flow whose nodes and edges are the members of two values. The plan is looked up
before the values are opened. -/
def validateMembers (d : Dispatch) (table : Option PlanTable) (plan : Option String)
    (nodes edges : Value) : Exec Report := do
  let plan ← planName plan
  let nodes ← ofExcept (Draft.membersOrNone nodes)
  let edges ← ofExcept (Draft.membersOrNone edges)
  validateFor plan d table (.ofValues nodes edges)

end Exec

end Chatflow
