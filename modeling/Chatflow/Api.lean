import Chatflow.Trial

/-!
# The service

The answers of the service that lists nodes, validates flows and runs them for trial.
-/

namespace Chatflow

namespace Api

open Schema (Field)

/-- A flow to validate. Nodes and edges are dictionaries of any content. -/
structure FlowRequest where
  nodes : List Value
  edges : List Value
  plan : Option String

namespace FlowRequest

/-- Dictionaries, which are read later. -/
def readParts : Schema.Reading (List Value) :=
  Schema.listOf fun v => (Schema.dictionary v).map Value.obj

def nodesField : Field := .named "nodes"
def edgesField : Field := .named "edges"
def planField : Field := .named "plan"

def ofEntries (es : Entries Value) : Schema.Checked FlowRequest :=
  FlowRequest.mk
    <$> nodesField.orDefault [] readParts es
    <*> edgesField.orDefault [] readParts es
    <*> planField.orDefault none (Schema.optional Schema.text) es

def read? (v : Value) : Except Schema.Invalid FlowRequest :=
  ((Schema.plainRecord "FlowBody" v).andThen ofEntries).named "FlowBody"

def draft (r : FlowRequest) : Draft := .ofValues r.nodes r.edges

end FlowRequest

/-- A flow to run for trial, with the event. -/
structure TrialRequest where
  flow : FlowRequest
  event : TrialEvent

namespace TrialRequest

/-- Reads an event of a kind that is known already. -/
def readEvent (v : Value) : Schema.Checked (String → TrialEvent) :=
  let text? := Schema.optional Schema.text
  let standard := TrialEvent.standard
  (Schema.plainRecord "MockInput" v).andThen fun es =>
    (fun message sender page comment media follower responses kind =>
      ⟨kind, message, sender, page, comment, media, follower, responses⟩)
      <$> (Field.aliased "message_text" "messageText").orDefault standard.messageText text? es
      <*> (Field.aliased "sender_id" "senderId").orDefault standard.senderId Schema.text es
      <*> (Field.aliased "page_id" "pageId").orDefault standard.pageId Schema.text es
      <*> (Field.aliased "comment_id" "commentId").orDefault none text? es
      <*> (Field.aliased "media_id" "mediaId").orDefault none text? es
      <*> (Field.aliased "is_follower" "isFollower").orDefault false Schema.flag es
      <*> (Field.aliased "ai_responses" "aiResponses").orDefault [] (Schema.listOf Schema.text) es

def read? (v : Value) : Except Schema.Invalid TrialRequest :=
  let checked := (Schema.plainRecord "TestRunRequest" v).andThen fun es =>
    (fun flow kind event => TrialRequest.mk flow (event kind))
      <$> FlowRequest.ofEntries es
      <*> (Field.aliased "trigger_type" "triggerType").orDefault "DM"
        (Schema.member triggerTypes) es
      <*> (Field.aliased "mock_input" "mockInput").orDefault
        (fun kind => { TrialEvent.standard with triggerType := kind }) readEvent es
  checked.named "TestRunRequest"

end TrialRequest

/-! ### Answers -/

def serviceName : String := "flow-engine"

def version : String := "0.1.0"

def root : Value :=
  .obj [("service", .str serviceName), ("version", .str version), ("docs", .str "/docs")]

def health : Value :=
  .obj [("status", .str "healthy"), ("service", .str serviceName),
    ("nodes", .int Registry.builtin.size)]

def nodesValue (definitions : List NodeDefinition) : Value :=
  .obj [("count", .int definitions.length),
    ("nodes", .list (definitions.map NodeDefinition.value))]

def reportValue (r : Report) : Value :=
  .obj [("ok", .bool r.ok), ("plan", .str r.plan),
    ("violations", .list (r.violations.map Violation.value)),
    ("warnings", .list (r.warnings.map Violation.value))]

def trialValue (t : Trial) : Value :=
  .obj (t.result.fields ++ [("success", .bool t.result.success), ("dryRun", .bool true),
    ("outboundCalls", .list (t.calls.map Service.OutboundCall.value))])

end Api

namespace Exec

/-- Answers with all executors that there are. -/
def answerNodes : Exec Value := do
  return Api.nodesValue (← ofExcept (Dispatch.bridged .builtin).definitions)

/-- Answers a request to validate a flow. -/
def answerValidate (r : Api.FlowRequest) : Exec Value := do
  return Api.reportValue (← validate (.chosen none none) none r.plan r.draft)

/-- Answers a request to run a flow for trial. -/
def answerTrial (runId : String) (r : Api.TrialRequest) : Exec Value := do
  prepareTrial r.event
  emit "flow_engine.api.routes.flows" .info "Test run requested"
    [("run_id", .str runId), ("trigger_type", .str r.event.triggerType)]
  return Api.trialValue (← runTrial runId r.event r.flow.draft r.flow.plan)

end Exec

end Chatflow
