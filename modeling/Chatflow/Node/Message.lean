import Chatflow.Node.Sending

/-!
# Messages and replies

Nodes that send one text: a generated one that waits for them, or the one in their settings. A
message may also take its text from the item that it gets.
-/

namespace Chatflow

def messagingHome : String := "flow_engine.nodes.messaging"

def replyHome : String := "flow_engine.nodes.replies"

/-! ### Messages -/

structure MessageConfig where
  message : Option String
  typingIndicator : Bool
  more : Entries Value

namespace MessageConfig

def messageField : Schema.Field := .named "message"
def typingField : Schema.Field := .aliased "typing_indicator" "typingIndicator"

def fields : List Schema.Field := [messageField, typingField]

def read (v : Value) : Schema.Checked MessageConfig :=
  (Schema.openRecord "MessageConfig" v).andThen fun es =>
    (MessageConfig.mk · · (Schema.extras fields es))
      <$> messageField.orDefault none (Schema.optional Schema.text) es
      <*> typingField.orDefault false Schema.flag es

def read? (v : Value) : Except Schema.Invalid MessageConfig := (read v).named "MessageConfig"

def value (c : MessageConfig) : Value :=
  Schema.dump
    [("message", .ofText? c.message), ("typing_indicator", .bool c.typingIndicator)] c.more

end MessageConfig

/-- Where the text of a message comes from. -/
inductive TextSource where
  | generated
  | config
  | item
deriving Repr, DecidableEq

namespace TextSource

def name : TextSource → String
  | generated => "generated"
  | config => "config"
  | item => "item"

end TextSource

/-- The text in the first item. -/
def itemText? (items : List Item) : Option String :=
  items.head?.bind fun item => (item.get? "message").bind Value.text?

/-- The text of a message and its source. A generated text that is empty counts as none, and a
blank text is only sent if no item comes to replace it; then there is nothing to send. -/
def messageText? (generated configured : Option String) (items : List Item) :
    Option (String × TextSource) :=
  let (text, source) := match generated with
    | some t => if t.isEmpty then (configured, TextSource.config) else (some t, .generated)
    | none => (configured, .config)
  match presentText? text with
  | some t => some (t, source)
  | none => (presentText? (itemText? items)).map (·, .item)

/-- An executor that sends a text to the sender of the event, for nodes of some subtype. -/
def messageSender (subType name home : String) : Executor :=
  { subType, category := .action, description := "Send a direct message", name, home,
    consumesText := true, producesText := false, textKeys := ["message"],
    readConfig := fun v => (MessageConfig.read? v).map MessageConfig.value,
    execute := fun config items => do
      let note := Exec.note subType
      Exec.openJournal
      Exec.withConfig subType MessageConfig.read? config fun parsed => do
        match messageText? (← Exec.takeText) parsed.message items with
        | none =>
          note .error "No message text available" []
          Exec.failWith "No message text"
        | some (text, source) =>
          let context ← Exec.context
          note .info "Sending DM"
            [("recipientId", .str context.senderId), ("messagePreview", Exec.preview text),
              ("source", .str source.name)]
          Exec.showTyping subType config
          Exec.sendOr subType "Failed to send message"
            (.message context.pageId context.senderId text) fun result => do
              let id := Value.ofText? result.messageId
              note .info "DM sent" [("messageId", id)]
              Exec.succeed (Exec.extendAll items [("messageSent", .str text), ("messageId", id)])
                "Message sent" }

def message : Executor := messageSender "MESSAGE" "MessageNode" messagingHome

/-! ### Replies -/

structure ReplyCommentConfig where
  reply : Option String
  more : Entries Value

namespace ReplyCommentConfig

def replyField : Schema.Field := .aliased "comment_reply" "commentReply"

def read (v : Value) : Schema.Checked ReplyCommentConfig :=
  (Schema.openRecord "ReplyCommentConfig" v).andThen fun es =>
    (ReplyCommentConfig.mk · (Schema.extras [replyField] es))
      <$> replyField.orDefault none (Schema.optional (Schema.textWithin 0 (some 2200))) es

def read? (v : Value) : Except Schema.Invalid ReplyCommentConfig :=
  (read v).named "ReplyCommentConfig"

def value (c : ReplyCommentConfig) : Value :=
  Schema.dump [("comment_reply", .ofText? c.reply)] c.more

end ReplyCommentConfig

structure ReplyMentionConfig where
  reply : Option String
  more : Entries Value

namespace ReplyMentionConfig

def replyField : Schema.Field := .named "message"

def read (v : Value) : Schema.Checked ReplyMentionConfig :=
  (Schema.openRecord "ReplyMentionConfig" v).andThen fun es =>
    (ReplyMentionConfig.mk · (Schema.extras [replyField] es))
      <$> replyField.orDefault none (Schema.optional (Schema.textWithin 0 (some 1000))) es

def read? (v : Value) : Except Schema.Invalid ReplyMentionConfig :=
  (read v).named "ReplyMentionConfig"

def value (c : ReplyMentionConfig) : Value :=
  Schema.dump [("message", .ofText? c.reply)] c.more

end ReplyMentionConfig

/-- The text of a reply: a generated one unless it is empty, else the configured one. -/
def replyText? (generated configured : Option String) : Option String :=
  presentText? (generated.filter (!·.isEmpty) <|> configured)

namespace Exec

/-- Goes on with the text of a reply, or fails without one. -/
def withReplyText (subType : String) (configured : Option String) (body : String → Exec Reply) :
    Exec Reply := do
  match replyText? (← takeText) configured with
  | some text => body text
  | none =>
    note subType .error "No reply text available" []
    failWith "No reply text"

end Exec

def replyComment : Executor :=
  { subType := "REPLY_COMMENT", category := .action,
    description := "Reply publicly to the triggering comment", name := "ReplyCommentNode",
    home := replyHome, consumesText := true, producesText := false, textKeys := ["commentReply"],
    readConfig := fun v => (ReplyCommentConfig.read? v).map ReplyCommentConfig.value,
    execute := fun config items => do
      let subType := "REPLY_COMMENT"
      let note := Exec.note subType
      Exec.openJournal
      Exec.withConfig subType ReplyCommentConfig.read? config fun parsed => do
        match (← Exec.context).commentId.filter (!·.isEmpty) with
        | none =>
          note .error "No comment to reply to" []
          Exec.failWith "No comment ID in context"
        | some comment =>
          Exec.withReplyText subType parsed.reply fun text => do
            note .info "Replying to comment"
              [("commentId", .str comment), ("replyPreview", Exec.preview text)]
            Exec.sendOr subType "Failed to reply to comment" (.commentReply comment text)
              fun result => do
                let id := Value.ofText? result.messageId
                note .info "Comment reply sent" [("replyId", id)]
                Exec.succeed
                  (Exec.extendAll items [("commentReplied", .bool true), ("replyId", id)])
                  "Comment reply sent" }

def replyMention : Executor :=
  { subType := "REPLY_MENTION", category := .action, description := "Reply to a story mention",
    name := "ReplyMentionNode", home := replyHome, consumesText := true, producesText := false,
    textKeys := ["message"],
    readConfig := fun v => (ReplyMentionConfig.read? v).map ReplyMentionConfig.value,
    execute := fun config items => do
      let subType := "REPLY_MENTION"
      let note := Exec.note subType
      Exec.openJournal
      Exec.withConfig subType ReplyMentionConfig.read? config fun parsed => do
        let context ← Exec.context
        match context.mediaId.filter (!·.isEmpty) with
        | none =>
          note .error "No media to reply to" []
          Exec.failWith "No media ID in context"
        | some media =>
          Exec.withReplyText subType parsed.reply fun text => do
            note .info "Replying to mention"
              [("mediaId", .str media), ("commentId", .ofText? context.commentId),
                ("replyPreview", Exec.preview text)]
            Exec.sendOr subType "Failed to reply to mention"
              (.mentionReply context.pageId media text context.commentId) fun result => do
                let id := Value.ofText? result.messageId
                note .info "Mention reply sent" [("replyId", id)]
                Exec.succeed
                  (Exec.extendAll items [("mentionReplied", .bool true), ("replyId", id)])
                  "Mention reply sent" }

end Chatflow
