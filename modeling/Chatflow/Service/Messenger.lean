import Chatflow.Fault
import Chatflow.Service.Script

/-!
# The messenger

Outbound calls to the platform. Every call that arrives is recorded, also one that the platform
rejects; a call that fails on its way is not.
-/

namespace Chatflow.Service

/-- What a platform answers to a call. -/
structure SendResult where
  success : Bool
  messageId : Option String
  error : Option String
deriving Repr, DecidableEq

namespace SendResult

def accepted (messageId : Option String) : SendResult := ⟨true, messageId, none⟩

def rejected (error : Option String) : SendResult := ⟨false, none, error⟩

def value (r : SendResult) : Value :=
  .obj [("success", .bool r.success), ("message_id", .ofText? r.messageId),
    ("error", .ofText? r.error)]

end SendResult

inductive CallKind where
  | text
  | carousel
  | buttonTemplate
  | quickReplies
  | productTemplate
  | senderAction
  | commentReply
  | mentionReply
  | iceBreakers
  | persistentMenu
deriving Repr, DecidableEq

namespace CallKind

def name : CallKind → String
  | text => "text"
  | carousel => "carousel"
  | buttonTemplate => "button_template"
  | quickReplies => "quick_replies"
  | productTemplate => "product_template"
  | senderAction => "sender_action"
  | commentReply => "comment_reply"
  | mentionReply => "mention_reply"
  | iceBreakers => "ice_breakers"
  | persistentMenu => "persistent_menu"

end CallKind

/-- One call to the platform. -/
structure OutboundCall where
  kind : CallKind
  recipient : Option String
  text : Option String
  payload : Entries Value

namespace OutboundCall

def message (page recipient text : String) : OutboundCall :=
  ⟨.text, some recipient, some text, [("page_id", .str page)]⟩

def carousel (page recipient : String) (elements : List Value) : OutboundCall :=
  ⟨.carousel, some recipient, none, [("page_id", .str page), ("elements", .list elements)]⟩

def buttonTemplate (page recipient text : String) (buttons : List Value) : OutboundCall :=
  ⟨.buttonTemplate, some recipient, some text,
    [("page_id", .str page), ("buttons", .list buttons)]⟩

def quickReplies (page recipient text : String) (replies : List Value) : OutboundCall :=
  ⟨.quickReplies, some recipient, some text,
    [("page_id", .str page), ("quick_replies", .list replies)]⟩

def productTemplate (page recipient : String) (products : List Value) : OutboundCall :=
  ⟨.productTemplate, some recipient, none,
    [("page_id", .str page), ("product_ids", .list products)]⟩

def senderAction (page recipient action : String) : OutboundCall :=
  ⟨.senderAction, some recipient, none, [("page_id", .str page), ("action", .str action)]⟩

def commentReply (comment text : String) : OutboundCall :=
  ⟨.commentReply, none, some text, [("comment_id", .str comment)]⟩

def mentionReply (page media text : String) (comment : Option String) : OutboundCall :=
  ⟨.mentionReply, none, some text,
    [("page_id", .str page), ("media_id", .str media), ("comment_id", .ofText? comment)]⟩

def iceBreakers (breakers : List Value) : OutboundCall :=
  ⟨.iceBreakers, none, none, [("ice_breakers", .list breakers)]⟩

def persistentMenu (items : List Value) : OutboundCall :=
  ⟨.persistentMenu, none, none, [("menu_items", .list items)]⟩

def value (c : OutboundCall) : Value :=
  .obj [("kind", .str c.kind.name), ("recipient_id", .ofText? c.recipient),
    ("text", .ofText? c.text), ("payload", .obj c.payload)]

/-- Whether a user sees the call as a message or a reply. -/
def isVisible (c : OutboundCall) : Bool := c.kind ≠ .senderAction

end OutboundCall

/-- What can go wrong with a call to a platform. -/
inductive SendFault where
  | lost (fault : Fault)
  | rejected (error : Option String)

/-- The calls that arrived, oldest first, the kinds of calls that are always rejected, and what
goes wrong with single calls. -/
structure Messenger where
  calls : List OutboundCall
  rejects : List String
  script : Script SendFault

namespace Messenger

def recording : Messenger := ⟨[], [], .silent⟩

def record (m : Messenger) (call : OutboundCall) : Messenger :=
  { m with calls := m.calls ++ [call] }

/-- The id of the newest call. -/
def newestId (m : Messenger) : String := "dry-" ++ toString m.calls.length

/-- Sends one call. -/
def send (m : Messenger) (call : OutboundCall) : Except Fault SendResult × Messenger :=
  let (event, script) := m.script.next
  let m := { m with script }
  match event with
  | some (.lost fault) => (.error fault, m)
  | some (.rejected error) => (.ok (.rejected error), m.record call)
  | none =>
    let m := m.record call
    if m.rejects.contains call.kind.name then
      (.ok (.rejected (some (call.kind.name ++ " rejected"))), m)
    else (.ok (.accepted (some m.newestId)), m)

/-- Texts of messages and replies that users see, in the order in which they were sent. -/
def sentTexts (m : Messenger) : List String :=
  (m.calls.filter OutboundCall.isVisible).filterMap (·.text)

end Messenger

end Chatflow.Service
