import Chatflow.Node.Trigger

/-!
# Sending

The parts that nodes with an outbound call share: their settings, the typing indicator, and the call
itself with its retries.
-/

namespace Chatflow.Exec

open Service (OutboundCall SendResult)

/-- Goes on with the settings of a node, or fails because of them. -/
def withConfig {γ : Type} (subType : String) (read? : Value → Except Schema.Invalid γ)
    (config : Value) (body : γ → Exec Reply) : Exec Reply := do
  match read? (Executor.settingsOf config) with
  | .ok parsed => body parsed
  | .error invalid =>
    note subType .error "Invalid configuration"
      [("errors", .int invalid.issues.length), ("detail", .str invalid.firstLine)]
    failWith ("Invalid " ++ subType ++ " configuration: " ++ invalid.firstLine)

/-- Shows the typing indicator and waits for a moment. -/
def typingOn : Exec Unit := do
  let c ← context
  let _ ← send (.senderAction c.pageId c.senderId "typing_on")
  let delay := (← settings).typingDelay
  if 0.0 < delay then sleep delay

/-- Whether settings ask for the typing indicator. Only an object can be asked. -/
def asksForTyping : Value → Except Fault Bool
  | .obj es => .ok (((Value.obj es).field? "typingIndicator").any Value.truthy)
  | .keyed _ => .ok false
  | v => .error (.misuse .operation
    ("'" ++ v.kindName ++ "' object has no attribute 'get'"))

/-- Shows the typing indicator if the settings ask for it. Its faults only leave a note. -/
def showTyping (subType : String) (config : Value) : Exec Unit := do
  if ← ofExcept (asksForTyping config) then
    match ← attempt do
      typingOn
      note subType .debug "Typing indicator shown" [] with
    | .ok _ => pure ()
    | .error fault =>
      note subType .warn "Could not show typing indicator" [("error", .str fault.message)]

/-- Makes an outbound call with retries. A call that is not accepted fails the node. -/
def sendOr (subType failure : String) (call : OutboundCall) (accepted : SendResult → Exec Reply) :
    Exec Reply := do
  match ← attempt (retrying (send call)) with
  | .error fault =>
    note subType .error ("Exception: " ++ failure)
      [("error", .str fault.message), ("errorType", .str fault.name)]
    failWith (failure ++ ": " ++ fault.message)
  | .ok result =>
    if result.success then accepted result
    else
      note subType .error failure [("error", .ofText? result.error)]
      failWith ((result.error.filter (!·.isEmpty)).getD failure)

end Chatflow.Exec
