import Chatflow.Node.Message

/-!
# Structured messages

Carousels, button templates and quick replies. Each is a message with parts of fixed shape, which
are sent without the fields that say nothing.
-/

namespace Chatflow

open Schema (Field)

/-- Entries without the ones that are nothing. -/
def withoutNulls (v : Value) : Value :=
  match v with
  | .obj es => .obj (es.filter fun e => !isNull e.2)
  | v => v
where
  isNull : Value → Bool
    | .null => true
    | _ => false

/-- Whether an optional text says something. -/
def saysSomething (text : Option String) : Bool := text.any (!·.isEmpty)

/-! ### Buttons -/

structure TemplateButton where
  kind : String
  title : String
  url : Option String
  payload : Option String
  more : Entries Value

namespace TemplateButton

def fields : List Field := [.named "type", .named "title", .named "url", .named "payload"]

/-- A button has a target of its kind. -/
def checkTarget (v : Value) (b : TemplateButton) : Schema.Checked TemplateButton :=
  if b.kind == "web_url" && !saysSomething b.url then
    .defect v (.rule "web_url button requires url")
  else if b.kind == "postback" && !saysSomething b.payload then
    .defect v (.rule "postback button requires payload")
  else .ok b

def read (v : Value) : Schema.Checked TemplateButton :=
  (Schema.openRecord "TemplateButton" v).andThen fun es =>
    ((TemplateButton.mk · · · · (Schema.extras fields es))
      <$> (Field.named "type").orDefault "postback" (Schema.literal ["web_url", "postback"]) es
      <*> (Field.named "title").required (Schema.textWithin 1 (some 20)) es
      <*> (Field.named "url").orDefault none (Schema.optional Schema.text) es
      <*> (Field.named "payload").orDefault none (Schema.optional Schema.text) es).andThen
    (checkTarget v)

def value (b : TemplateButton) : Value :=
  Schema.dump [("type", .str b.kind), ("title", .str b.title), ("url", .ofText? b.url),
    ("payload", .ofText? b.payload)] b.more

end TemplateButton

/-! ### Carousels -/

structure CarouselElement where
  title : String
  subtitle : Option String
  imageUrl : Option String
  defaultAction : Option (Entries Value)
  buttons : List TemplateButton
  more : Entries Value

namespace CarouselElement

def fields : List Field :=
  [.named "title", .named "subtitle", .aliased "image_url" "imageUrl",
    .aliased "default_action" "defaultAction", .named "buttons"]

def read (v : Value) : Schema.Checked CarouselElement :=
  (Schema.openRecord "CarouselElement" v).andThen fun es =>
    (CarouselElement.mk · · · · · (Schema.extras fields es))
      <$> (Field.named "title").required (Schema.textWithin 1 (some 80)) es
      <*> (Field.named "subtitle").orDefault none
        (Schema.optional (Schema.textWithin 0 (some 80))) es
      <*> (Field.aliased "image_url" "imageUrl").orDefault none (Schema.optional Schema.text) es
      <*> (Field.aliased "default_action" "defaultAction").orDefault none
        (Schema.optional Schema.dictionary) es
      <*> (Field.named "buttons").orDefault []
        (Schema.listWithin 0 (some 3) TemplateButton.read) es

def value (e : CarouselElement) : Value :=
  Schema.dump [("title", .str e.title), ("subtitle", .ofText? e.subtitle),
    ("image_url", .ofText? e.imageUrl),
    ("default_action", (e.defaultAction.map Value.obj).getD .null),
    ("buttons", .list (e.buttons.map TemplateButton.value))] e.more

/-- The card as the platform gets it. -/
def payload (e : CarouselElement) : Value :=
  let text? (name : String) (text : Option String) : Entries Value :=
    match text with
    | some t => if t.isEmpty then [] else [(name, .str t)]
    | none => []
  let action : Entries Value := match e.defaultAction with
    | some a => if a.isEmpty then [] else [("default_action", .obj a)]
    | none => []
  let buttons : Entries Value := if e.buttons.isEmpty then []
    else [("buttons", .list (e.buttons.map fun b => withoutNulls b.value))]
  .obj ([("title", .str e.title)] ++ text? "subtitle" e.subtitle ++ text? "image_url" e.imageUrl
    ++ action ++ buttons)

end CarouselElement

structure CarouselConfig where
  elements : List CarouselElement
  typingIndicator : Bool
  more : Entries Value

namespace CarouselConfig

def fields : List Field := [.named "elements", MessageConfig.typingField]

def read (v : Value) : Schema.Checked CarouselConfig :=
  (Schema.openRecord "CarouselConfig" v).andThen fun es =>
    (CarouselConfig.mk · · (Schema.extras fields es))
      <$> (Field.named "elements").required
        (Schema.listWithin 1 (some 10) CarouselElement.read) es
      <*> MessageConfig.typingField.orDefault false Schema.flag es

def read? (v : Value) : Except Schema.Invalid CarouselConfig := (read v).named "CarouselConfig"

def value (c : CarouselConfig) : Value :=
  Schema.dump [("elements", .list (c.elements.map CarouselElement.value)),
    ("typing_indicator", .bool c.typingIndicator)] c.more

end CarouselConfig

def carousel : Executor :=
  { subType := "CAROUSEL", category := .action, description := "Send a carousel of up to 10 cards",
    name := "CarouselNode", home := messagingHome, consumesText := false, producesText := false,
    textKeys := [],
    readConfig := fun v => (CarouselConfig.read? v).map CarouselConfig.value,
    execute := fun config items => do
      let subType := "CAROUSEL"
      let note := Exec.note subType
      Exec.openJournal
      Exec.withConfig subType CarouselConfig.read? config fun parsed => do
        let elements := parsed.elements.map CarouselElement.payload
        note .info "Sending carousel" [("elementCount", .int elements.length)]
        Exec.showTyping subType config
        let context ← Exec.context
        Exec.sendOr subType "Failed to send carousel"
          (.carousel context.pageId context.senderId elements) fun result => do
            let id := Value.ofText? result.messageId
            note .info "Carousel sent" [("messageId", id)]
            Exec.succeed
              (Exec.extendAll items [("carouselSent", .bool true), ("messageId", id)])
              ("Carousel sent with " ++ toString elements.length ++ " elements") }

/-! ### Button templates -/

structure ButtonTemplateConfig where
  text : String
  buttons : List TemplateButton
  typingIndicator : Bool
  more : Entries Value

namespace ButtonTemplateConfig

def fields : List Field := [.named "text", .named "buttons", MessageConfig.typingField]

/-- Where there is no text, the message is the text. -/
def acceptMessage (es : Entries Value) : Entries Value :=
  if ((es.get? "text").getD .null).truthy then es
  else match es.get? "message" with
    | some message => if message.truthy then es.put "text" message else es
    | none => es

def read (v : Value) : Schema.Checked ButtonTemplateConfig :=
  (Schema.openRecord "ButtonTemplateConfig" v).andThen fun given =>
    let es := acceptMessage given
    (ButtonTemplateConfig.mk · · · (Schema.extras fields es))
      <$> (Field.named "text").required (Schema.textWithin 1 (some 640)) es
      <*> (Field.named "buttons").required
        (Schema.listWithin 1 (some 3) TemplateButton.read) es
      <*> MessageConfig.typingField.orDefault false Schema.flag es

def read? (v : Value) : Except Schema.Invalid ButtonTemplateConfig :=
  (read v).named "ButtonTemplateConfig"

def value (c : ButtonTemplateConfig) : Value :=
  Schema.dump [("text", .str c.text), ("buttons", .list (c.buttons.map TemplateButton.value)),
    ("typing_indicator", .bool c.typingIndicator)] c.more

end ButtonTemplateConfig

def buttonTemplate : Executor :=
  { subType := "BUTTON_TEMPLATE", category := .action,
    description := "Send a text message with up to 3 buttons", name := "ButtonTemplateNode",
    home := messagingHome, consumesText := false, producesText := false, textKeys := [],
    readConfig := fun v => (ButtonTemplateConfig.read? v).map ButtonTemplateConfig.value,
    execute := fun config items => do
      let subType := "BUTTON_TEMPLATE"
      let note := Exec.note subType
      Exec.openJournal
      Exec.withConfig subType ButtonTemplateConfig.read? config fun parsed => do
        let buttons := parsed.buttons.map fun b => withoutNulls b.value
        note .info "Sending button template"
          [("buttonCount", .int buttons.length), ("messagePreview", Exec.preview parsed.text)]
        Exec.showTyping subType config
        let context ← Exec.context
        Exec.sendOr subType "Failed to send button template"
          (.buttonTemplate context.pageId context.senderId parsed.text buttons) fun result => do
            let id := Value.ofText? result.messageId
            note .info "Button template sent" [("messageId", id)]
            Exec.succeed
              (Exec.extendAll items [("buttonTemplateSent", .bool true), ("messageId", id)])
              "Button template sent" }

/-! ### Quick replies -/

structure QuickReply where
  contentType : String
  title : Option String
  payload : Option String
  imageUrl : Option String
  more : Entries Value

namespace QuickReply

def fields : List Field :=
  [.named "content_type", .named "title", .named "payload", .named "image_url"]

/-- A reply of text has a title and a payload. -/
def checkText (v : Value) (r : QuickReply) : Schema.Checked QuickReply :=
  if r.contentType == "text" && !(saysSomething r.title && saysSomething r.payload) then
    .defect v (.rule "text quick reply requires title and payload")
  else .ok r

def read (v : Value) : Schema.Checked QuickReply :=
  (Schema.openRecord "QuickReply" v).andThen fun es =>
    ((QuickReply.mk · · · · (Schema.extras fields es))
      <$> (Field.named "content_type").orDefault "text"
        (Schema.literal ["text", "user_phone_number", "user_email"]) es
      <*> (Field.named "title").orDefault none
        (Schema.optional (Schema.textWithin 0 (some 20))) es
      <*> (Field.named "payload").orDefault none
        (Schema.optional (Schema.textWithin 0 (some 1000))) es
      <*> (Field.named "image_url").orDefault none (Schema.optional Schema.text) es).andThen
    (checkText v)

def value (r : QuickReply) : Value :=
  Schema.dump [("content_type", .str r.contentType), ("title", .ofText? r.title),
    ("payload", .ofText? r.payload), ("image_url", .ofText? r.imageUrl)] r.more

end QuickReply

structure QuickRepliesConfig where
  text : String
  replies : List QuickReply
  typingIndicator : Bool
  more : Entries Value

namespace QuickRepliesConfig

def repliesField : Field := .aliased "quick_replies" "quickReplies"

def fields : List Field := [.named "text", repliesField, MessageConfig.typingField]

def readText (v : Value) : Schema.Checked String :=
  (Schema.textWithin 1 (some 2000) v).andThen
    (Schema.Checked.require v (!Text.allBlank ·) (.rule "text must not be blank"))

def read (v : Value) : Schema.Checked QuickRepliesConfig :=
  (Schema.openRecord "QuickRepliesConfig" v).andThen fun es =>
    (QuickRepliesConfig.mk · · · (Schema.extras fields es))
      <$> (Field.named "text").required readText es
      <*> repliesField.required (Schema.listWithin 1 (some 13) QuickReply.read) es
      <*> MessageConfig.typingField.orDefault false Schema.flag es

def read? (v : Value) : Except Schema.Invalid QuickRepliesConfig :=
  (read v).named "QuickRepliesConfig"

def value (c : QuickRepliesConfig) : Value :=
  Schema.dump [("text", .str c.text), ("quick_replies", .list (c.replies.map QuickReply.value)),
    ("typing_indicator", .bool c.typingIndicator)] c.more

end QuickRepliesConfig

def quickReplies : Executor :=
  { subType := "QUICK_REPLIES", category := .action,
    description := "Send a message with quick reply chips", name := "QuickRepliesNode",
    home := messagingHome, consumesText := false, producesText := false, textKeys := [],
    readConfig := fun v => (QuickRepliesConfig.read? v).map QuickRepliesConfig.value,
    execute := fun config items => do
      let subType := "QUICK_REPLIES"
      let note := Exec.note subType
      Exec.openJournal
      Exec.withConfig subType QuickRepliesConfig.read? config fun parsed => do
        let replies := parsed.replies.map fun r => withoutNulls r.value
        note .info "Sending quick replies" [("replyCount", .int replies.length)]
        Exec.showTyping subType config
        let context ← Exec.context
        Exec.sendOr subType "Failed to send quick replies"
          (.quickReplies context.pageId context.senderId parsed.text replies) fun result => do
            let id := Value.ofText? result.messageId
            note .info "Quick replies sent" [("messageId", id)]
            Exec.succeed
              (Exec.extendAll items [("quickRepliesSent", .bool true), ("messageId", id)])
              "Quick replies sent" }

end Chatflow
