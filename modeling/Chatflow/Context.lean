import Chatflow.Item

/-!
# The context of a run

The account and the event for which a flow runs.
-/

namespace Chatflow

/-- The kinds of events that start a flow. -/
def triggerTypes : List String := ["DM", "COMMENT", "STORY_REPLY", "MENTION"]

structure Context where
  runId : String
  automationId : Option String
  userId : Option String
  token : String
  pageId : String
  senderId : String
  triggerType : String
  messageText : Option String
  commentId : Option String
  mediaId : Option String
  isStoryReply : Bool
  subscription : Option String
  dryRun : Bool
deriving Repr, DecidableEq

namespace Context

open Schema (Field)

/-- A context in which only the run and the kind of event are known. -/
def blank (runId : String) : Context :=
  { runId, automationId := none, userId := none, token := "", pageId := "", senderId := "",
    triggerType := "DM", messageText := none, commentId := none, mediaId := none,
    isStoryReply := false, subscription := none, dryRun := false }

/-- Reads the fields of a context. A run without an id gets the given one. -/
def read (freshId : String) (v : Value) : Schema.Checked Context :=
  let text? := Schema.optional Schema.text
  (Schema.plainRecord "ExecutionContext" v).andThen fun es =>
    Context.mk
      <$> (Field.aliased "run_id" "runId").orDefault freshId Schema.text es
      <*> (Field.aliased "automation_id" "automationId").orDefault none text? es
      <*> (Field.aliased "user_id" "userId").orDefault none text? es
      <*> (Field.named "token").orDefault "" Schema.text es
      <*> (Field.aliased "page_id" "pageId").orDefault "" Schema.text es
      <*> (Field.aliased "sender_id" "senderId").orDefault "" Schema.text es
      <*> (Field.aliased "trigger_type" "triggerType").orDefault "DM"
        (Schema.member triggerTypes) es
      <*> (Field.aliased "message_text" "messageText").orDefault none text? es
      <*> (Field.aliased "comment_id" "commentId").orDefault none text? es
      <*> (Field.aliased "media_id" "mediaId").orDefault none text? es
      <*> (Field.aliased "is_story_reply" "isStoryReply").orDefault false Schema.flag es
      <*> (Field.aliased "subscription" "userSubscription").orDefault none text? es
      <*> (Field.aliased "dry_run" "dryRun").orDefault false Schema.flag es

def read? (freshId : String) (v : Value) : Except Schema.Invalid Context :=
  (read freshId v).named "ExecutionContext"

def value (c : Context) : Value :=
  .obj [("run_id", .str c.runId), ("automation_id", .ofText? c.automationId),
    ("user_id", .ofText? c.userId), ("token", .str c.token), ("page_id", .str c.pageId),
    ("sender_id", .str c.senderId), ("trigger_type", .str c.triggerType),
    ("message_text", .ofText? c.messageText), ("comment_id", .ofText? c.commentId),
    ("media_id", .ofText? c.mediaId), ("is_story_reply", .bool c.isStoryReply),
    ("subscription", .ofText? c.subscription), ("dry_run", .bool c.dryRun)]

/-- The data of the event with which a run starts. -/
def eventData (c : Context) : Entries Value :=
  [("messageText", .ofText? c.messageText), ("senderId", .str c.senderId),
    ("commentId", .ofText? c.commentId), ("mediaId", .ofText? c.mediaId),
    ("triggerType", .str c.triggerType)]

/-- The one item with which a run starts. -/
def initialItems (c : Context) (now : Int) : List Item :=
  [⟨c.eventData, some ⟨none, some now, none⟩⟩]

end Context

end Chatflow
