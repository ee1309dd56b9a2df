import Chatflow.Node.Keywords

/-!
# Generated texts

The node that asks for a generated text. It sends nothing: the text waits for the next node that
sends one, and both sides of the exchange become turns of the conversation.
-/

namespace Chatflow

def generateHome : String := "flow_engine.nodes.smart_ai"

structure GenerateConfig where
  message : Option String
  prompt : Option String
  more : Entries Value

namespace GenerateConfig

def fields : List Schema.Field := [.named "message", .named "prompt"]

/-- The instruction: the message, or the prompt where the message is blank. -/
def instruction (c : GenerateConfig) : String :=
  let message := Text.strip (c.message.getD "")
  if message.isEmpty then Text.strip (c.prompt.getD "") else message

/-- There is an instruction. -/
def checkInstruction (v : Value) (c : GenerateConfig) : Schema.Checked GenerateConfig :=
  if c.instruction.isEmpty then .defect v (.rule "message or prompt is required") else .ok c

def read (v : Value) : Schema.Checked GenerateConfig :=
  (Schema.openRecord "SmartAIConfig" v).andThen fun es =>
    ((GenerateConfig.mk · · (Schema.extras fields es))
      <$> (Schema.Field.named "message").orDefault none (Schema.optional Schema.text) es
      <*> (Schema.Field.named "prompt").orDefault none (Schema.optional Schema.text) es).andThen
    (checkInstruction v)

def read? (v : Value) : Except Schema.Invalid GenerateConfig := (read v).named "SmartAIConfig"

def value (c : GenerateConfig) : Value :=
  Schema.dump [("message", .ofText? c.message), ("prompt", .ofText? c.prompt)] c.more

end GenerateConfig

namespace Exec

/-- The newest turns of the conversation at hand; none if they cannot be had. -/
def loadTurns (subType : String) : Exec (List Service.Turn) := do
  let c ← context
  match ← attempt (recentTurns c.pageId c.senderId (return (← settings).chatHistoryLimit)) with
  | .ok turns => return turns
  | .error fault =>
    note subType .warn "Could not load chat history" [("error", .str fault.message)]
    return []

/-- Adds the message, unless it is empty, and the response to the conversation at hand. -/
def saveTurns (subType message response : String) : Exec Unit := do
  let c ← context
  let save : Exec Unit := do
    if !message.isEmpty then appendTurn c.pageId c.senderId ⟨.user, message⟩
    appendTurn c.pageId c.senderId ⟨.model, response⟩
  match ← attempt save with
  | .ok _ => return ()
  | .error fault =>
    note subType .warn "Could not save chat history" [("error", .str fault.message)]

/-- Asks for a text, with retries. -/
def generateText (prompt : Service.Prompt) : Exec Value := do
  let _ ← required .ai (← services).ai
  retrying (generate prompt)

/-- Goes on if the sender is within the limit of generated texts. -/
def withinLimit (subType : String) (body : Exec Reply) : Exec Reply := do
  let sender := (← context).senderId
  match ← attempt (acquire sender "ai") with
  | .error fault =>
    note subType .error "Rate limiter unavailable" [("error", .str fault.message)]
    failWith ("Rate limiter unavailable: " ++ fault.message)
  | .ok false =>
    note subType .warn "AI rate limit reached" [("senderId", .str sender)]
    failWith "AI rate limited"
  | .ok true => body

end Exec

/-- A response that can be sent: a text that is not blank. -/
def usableResponse? (response : Value) : Option String := presentText? response.text?

def generate : Executor :=
  { subType := "SMARTAI", category := .action,
    description := "Generate an AI response for the next message node", name := "SmartAINode",
    home := generateHome, consumesText := false, producesText := true, textKeys := [],
    readConfig := fun v => (GenerateConfig.read? v).map GenerateConfig.value,
    execute := fun config items => do
      let subType := "SMARTAI"
      let note := Exec.note subType
      Exec.openJournal
      match GenerateConfig.read? (Executor.settingsOf config) with
      | .error invalid =>
        note .error "Invalid AI configuration" [("detail", .str invalid.firstLine)]
        Exec.failWith ("Invalid SMARTAI configuration: " ++ invalid.firstLine)
      | .ok parsed =>
        Exec.withinLimit subType do
          let message := (← Exec.context).messageText.getD ""
          let instruction := parsed.instruction
          let turns ← Exec.loadTurns subType
          note .info "Generating AI response"
            [("promptPreview", Exec.preview instruction), ("messagePreview", Exec.preview message),
              ("historyTurns", .int turns.length)]
          match ← Exec.attempt (Exec.generateText ⟨instruction, message, turns⟩) with
          | .error fault =>
            note .error "AI generation failed"
              [("error", .str fault.message), ("errorType", .str fault.name)]
            Exec.failWith ("AI generation failed: " ++ fault.message)
          | .ok response =>
            match usableResponse? response with
            | none =>
              note .error "AI returned an empty response" []
              Exec.failWith "AI returned an empty response"
            | some text =>
              match ← Exec.attempt (Exec.putText text (← Exec.handoff).current) with
              | .error (.occupied producer) =>
                note .error "Generated text slot occupied"
                  [("producerNodeId", .ofText? producer)]
                Exec.failWith (Fault.occupied producer).message
              | .error fault => throw fault
              | .ok _ =>
                note .info "AI response ready"
                  [("responsePreview", Exec.preview text), ("length", .int text.length)]
                Exec.saveTurns subType message text
                Exec.succeed
                  (Exec.extendAll items
                    [("aiResponse", .str text), ("prompt", .str instruction),
                      ("userMessage", .str message)])
                  "AI response generated" }

end Chatflow
