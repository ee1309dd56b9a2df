import Chatflow.Engine

/-!
# Trial runs

A run for a made-up event, with collaborators that keep everything to themselves. Nothing is sent;
the calls that would have been sent are kept.
-/

namespace Chatflow

/-- A made-up event. -/
structure TrialEvent where
  triggerType : String
  messageText : Option String
  senderId : String
  pageId : String
  commentId : Option String
  mediaId : Option String
  isFollower : Bool
  responses : List String

namespace TrialEvent

def standard : TrialEvent :=
  { triggerType := "DM", messageText := some "Hello", senderId := "test-sender",
    pageId := "test-page", commentId := none, mediaId := none, isFollower := false,
    responses := [] }

/-- The context of a trial run. -/
def context (e : TrialEvent) (runId : String) : Context :=
  { Context.blank runId with
    token := "dry-run", pageId := e.pageId, senderId := e.senderId, triggerType := e.triggerType,
    messageText := e.messageText, commentId := e.commentId, mediaId := e.mediaId, dryRun := true }

/-- The collaborators of a trial run. -/
def services (e : TrialEvent) (s : Settings) : Service.Bundle :=
  .dryRun s (if e.isFollower then [e.senderId] else []) (e.responses.map Value.str)

end TrialEvent

/-- What came of a trial run, and the calls that it would have made. -/
structure Trial where
  result : RunResult
  calls : List Service.OutboundCall

namespace Exec

/-- Prepares a trial run: its collaborators take the place of those before. -/
def prepareTrial (e : TrialEvent) : Exec Unit := do setServices (e.services (← settings))

/-- The calls of a trial run so far. -/
def trialCalls : Exec (List Service.OutboundCall) := do
  return ((← services).messaging.map (·.calls)).getD []

/-- Validates and runs a flow for a made-up event that was prepared. -/
def runTrial (runId : String) (e : TrialEvent) (draft : Draft) (plan : Option String) :
    Exec Trial := do
  let result ← withContext (e.context runId)
    (runFlow (.chosen none none) draft e.triggerType none plan none)
  return ⟨result, ← trialCalls⟩

end Exec

end Chatflow
