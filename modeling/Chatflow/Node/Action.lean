import Chatflow.Node.Sending

/-!
# Sender actions and delays

Nodes that show the typing indicator or a read receipt, and a node that waits.
-/

namespace Chatflow

def senderActionHome : String := "flow_engine.nodes.sender_actions"

def utilityHome : String := "flow_engine.nodes.utility"

/-- A node that sends one action and hands its items on. -/
def senderAction (subType description name action done : String) : Executor :=
  { subType, category := .action, description, name, home := senderActionHome,
    consumesText := false, producesText := false, textKeys := [], readConfig := readNoSettings,
    execute := fun _ items => do
      let note := Exec.note subType
      Exec.openJournal
      let context ← Exec.context
      note .debug "Sending sender action"
        [("action", .str action), ("recipientId", .str context.senderId)]
      Exec.sendOr subType ("Failed to send " ++ action)
        (.senderAction context.pageId context.senderId action) fun _ => do
          note .info done []
          Exec.succeed (Exec.passThrough items) done }

def typingOn : Executor :=
  senderAction "TYPING_ON" "Show the typing indicator" "TypingOnNode" "typing_on"
    "Typing indicator shown"

def typingOff : Executor :=
  senderAction "TYPING_OFF" "Hide the typing indicator" "TypingOffNode" "typing_off"
    "Typing indicator hidden"

def markSeen : Executor :=
  senderAction "MARK_SEEN" "Mark the conversation as seen" "MarkSeenNode" "mark_seen"
    "Message marked as seen"

/-! ### Delays -/

structure DelayConfig where
  delay : Option Float
  seconds : Option Float
  more : Entries Value

namespace DelayConfig

def fields : List Schema.Field := [.named "delay", .named "seconds"]

/-- One of the two durations is given. -/
def checkDuration (v : Value) (c : DelayConfig) : Schema.Checked DelayConfig :=
  if c.delay.isNone && c.seconds.isNone then .defect v (.rule "delay or seconds is required")
  else .ok c

def read (v : Value) : Schema.Checked DelayConfig :=
  (Schema.openRecord "DelayConfig" v).andThen fun es =>
    ((DelayConfig.mk · · (Schema.extras fields es))
      <$> (Schema.Field.named "delay").orDefault none (Schema.optional Schema.nonNegative) es
      <*> (Schema.Field.named "seconds").orDefault none
        (Schema.optional Schema.nonNegative) es).andThen
    (checkDuration v)

def read? (v : Value) : Except Schema.Invalid DelayConfig := (read v).named "DelayConfig"

def value (c : DelayConfig) : Value :=
  let number (x : Option Float) : Value := (x.map Value.float).getD .null
  Schema.dump [("delay", number c.delay), ("seconds", number c.seconds)] c.more

/-- The duration in seconds; the delay counts before the seconds. -/
def duration (c : DelayConfig) : Float := (c.delay <|> c.seconds).getD 0.0

end DelayConfig

def delay : Executor :=
  { subType := "DELAY", category := .action, description := "Wait before continuing",
    name := "DelayNode", home := utilityHome, consumesText := false, producesText := false,
    textKeys := [],
    readConfig := fun v => (DelayConfig.read? v).map DelayConfig.value,
    execute := fun config items => do
      let note := Exec.note "DELAY"
      Exec.openJournal
      match DelayConfig.read? (Executor.settingsOf config) with
      | .error invalid =>
        note .error "Invalid delay configuration" [("detail", .str invalid.firstLine)]
        Exec.failWith ("Invalid DELAY configuration: " ++ invalid.firstLine)
      | .ok parsed =>
        let limit := (← Exec.settings).maxDelay
        let capped := limit < parsed.duration
        if capped then
          note .warn "Delay capped" [("requested", .float parsed.duration), ("cap", .float limit)]
        let seconds := if capped then limit else parsed.duration
        note .info ("Waiting " ++ Decimal.general seconds ++ "s") [("seconds", .float seconds)]
        if 0.0 < seconds then Exec.sleep seconds
        Exec.succeed (Exec.passThrough items) ("Delayed " ++ Decimal.general seconds ++ "s") }

end Chatflow
