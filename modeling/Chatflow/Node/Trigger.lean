import Chatflow.Node.Executor

/-!
# Triggers

The nodes at which flows start. A run begins behind its trigger and never executes it; an execution
on its own hands the items on.
-/

namespace Chatflow

/-- Settings of nodes that take none: whatever is given is kept. -/
def readNoSettings (v : Value) : Except Schema.Invalid Value :=
  ((Schema.openRecord "EmptyConfig" v).map fun es => Schema.dump [] es).named "EmptyConfig"

def triggerHome : String := "flow_engine.nodes.triggers"

def trigger (subType description name : String) : Executor :=
  { subType, category := .trigger, description, name, home := triggerHome, consumesText := false,
    producesText := false, textKeys := [], readConfig := readNoSettings,
    execute := fun _ items => return .result (.ok items (some "Trigger processed") []) }

def directMessage : Executor := trigger "DM" "Start the flow on a direct message" "DMTriggerNode"

def comment : Executor := trigger "COMMENT" "Start the flow on a comment" "CommentTriggerNode"

def storyReply : Executor :=
  trigger "STORY_REPLY" "Start the flow on a story reply" "StoryReplyTriggerNode"

def mention : Executor := trigger "MENTION" "Start the flow on a story mention" "MentionTriggerNode"

end Chatflow
