import Chatflow.Proofs.Handoff.Builtin
import Chatflow.Proofs.Node.Sharing
import Chatflow.Proofs.Service.Chat

/-!
# What the generation of a text leaves

The node that asks for a generated text either fails and leaves the hand-off and all turns as they
are, or puts the text under its id and adds the exchange to the conversation.
-/

namespace Chatflow

open Service

namespace Env

def recent (env : Env) (history : Option ChatHistory) :
    Except Fault (List Turn) × Option ChatHistory :=
  match history with
  | none => (.ok [], none)
  | some h =>
    match env.settings with
    | .error invalid => (.error (.invalid invalid), some h)
    | .ok s =>
      let (turns, h) := h.recent env.context.pageId env.context.senderId s.chatHistoryLimit
      (turns, some h)

/-- Reading the conversation at hand changes no conversation. -/
theorem map_conversation_recent (env : Env) (history : Option ChatHistory) :
    (env.recent history).2.map ChatHistory.conversation =
      history.map ChatHistory.conversation := by
  unfold recent
  cases history with
  | none => rfl
  | some h =>
    cases env.settings with
    | error invalid => rfl
    | ok s => exact congrArg some (h.conversation_recent ..)

theorem recent_of_reliable (env : Env) {h : ChatHistory} (reliable : h.Reliable) :
    (∀ s, env.settings = .ok s → (env.recent (some h)).1 =
      .ok (newest s.chatHistoryLimit (h.conversation env.context.pageId env.context.senderId))) ∧
    ∃ h', (env.recent (some h)).2 = some h' ∧ h'.Reliable ∧ h'.conversation = h.conversation := by
  unfold recent
  cases env.settings with
  | error invalid => exact ⟨nofun, h, rfl, reliable, rfl⟩
  | ok s =>
    obtain ⟨reads, reliable'⟩ :=
      reliable.recent env.context.pageId env.context.senderId s.chatHistoryLimit
    refine ⟨?_, _, rfl, reliable', h.conversation_recent ..⟩
    rintro _ ⟨⟩
    exact reads

def remember (env : Env) (text : String) (history : Option ChatHistory) : Option ChatHistory :=
  history.map fun h => (h.extend env.context.pageId env.context.senderId
    (exchange (env.context.messageText.getD "") text)).2

end Env

namespace Exec

variable {env : Env} {w : World}

/-! ### Parts of the node -/

theorem exists_outcome_acquire (env : Env) (w : World) (subject capability : String) :
    ∃ ended limiter w', outcome (acquire subject capability) env w = (ended, w') ∧
      w'.handoff = w.handoff ∧ w'.services = { w.services with rateLimiter := limiter } := by
  rw [outcome_acquire]
  rcases Option.eq_none_or_eq_some w.services.rateLimiter with absent | ⟨limiter, there⟩
  · rw [outcome_calling_of_none (p := .rateLimiter) absent]
    exact ⟨_, _, w, rfl, rfl, rfl⟩
  · rw [outcome_calling_of_some (p := .rateLimiter) there]
    exact ⟨_, _, _, rfl, rfl, rfl⟩

theorem outcome_recentTurns_eq (env : Env) (w : World) :
    outcome (recentTurns env.context.pageId env.context.senderId
        (return (← settings).chatHistoryLimit)) env w =
      ((env.recent w.services.chatHistory).1,
        { w with services := { w.services with
            chatHistory := (env.recent w.services.chatHistory).2 } }) := by
  rw [outcome_recentTurns _ _ (outcome_historyLimit env)]
  unfold Env.recent
  rcases found : w.services.chatHistory with - | h
  · rw [outcome_calling_of_none (p := .chatHistory) found]
    dsimp only
    rw [← found]
  · rw [outcome_calling_of_some (p := .chatHistory) found]
    cases env.settings <;> rfl

theorem exists_outcome_loadTurns (env : Env) (w : World) (subType : String) :
    ∃ w', outcome (loadTurns subType) env w =
        (.ok ((env.recent w.services.chatHistory).1.toOption.getD []), w') ∧
      w'.handoff = w.handoff ∧
      w'.services =
        { w.services with chatHistory := (env.recent w.services.chatHistory).2 } := by
  unfold loadTurns
  rw [outcome_bind_ok outcome_context, outcome_bind_ok (outcome_attempt _),
    outcome_recentTurns_eq]
  cases (env.recent w.services.chatHistory).1 with
  | ok turns => exact ⟨_, rfl, rfl, rfl⟩
  | error fault =>
    dsimp only
    obtain ⟨v, noted, handoff, services⟩ := exists_outcome_aside subType .warn
      "Could not load chat history" [("error", .str fault.message)] env
      { w with services := { w.services with
          chatHistory := (env.recent w.services.chatHistory).2 } }
    exact ⟨v, outcome_bind_ok noted _, handoff, services⟩

/-- Turns are added one after the other. By induction on these. -/
theorem outcome_forM_appendTurn {h : ChatHistory} (there : w.services.chatHistory = some h)
    (page sender : String) (turns : List Turn) :
    outcome (forM turns (appendTurn page sender)) env w =
      ((h.extend page sender turns).1,
        w.placing .chatHistory (h.extend page sender turns).2) := by
  induction turns generalizing h w with
  | nil => exact Prod.ext rfl (World.placing_get (p := .chatHistory) there).symm
  | cons turn rest ih =>
    rw [List.forM_cons, outcome_bind, outcome_appendTurn,
      outcome_calling_of_some (p := .chatHistory) there, ChatHistory.extend]
    rcases h.append page sender turn with ⟨fault | _, h'⟩
    · rfl
    · dsimp only
      rw [ih (Place.chatHistory.get_set w.services h')]
      rfl

theorem outcome_forM_appendTurn_of_none (absent : w.services.chatHistory = none)
    (page sender : String) (turns : List Turn) :
    outcome (forM turns (appendTurn page sender)) env w = (.ok (), w) := by
  induction turns with
  | nil => rfl
  | cons turn rest ih =>
    have skips : outcome (appendTurn page sender turn) env w = (.ok (), w) := by
      rw [outcome_appendTurn, outcome_calling_of_none (p := .chatHistory) absent]
    rw [List.forM_cons, outcome_bind_ok skips, ih]

theorem save_eq (page sender message response : String) :
    (do
      if !message.isEmpty then appendTurn page sender ⟨.user, message⟩
      appendTurn page sender ⟨.model, response⟩) =
      forM (exchange message response) (appendTurn page sender) := by
  unfold exchange
  cases message.isEmpty <;> simp

theorem exists_outcome_saveTurns (env : Env) (w : World) (subType text : String) :
    ∃ w', outcome (saveTurns subType (env.context.messageText.getD "") text) env w = (.ok (), w') ∧
      w'.handoff = w.handoff ∧
      w'.services = { w.services with
        chatHistory := env.remember text w.services.chatHistory } := by
  unfold saveTurns
  rw [outcome_bind_ok outcome_context]
  dsimp only
  rw [save_eq, outcome_bind_ok (outcome_attempt _)]
  rcases found : w.services.chatHistory with - | h
  · rw [outcome_forM_appendTurn_of_none found]
    exact ⟨w, rfl, rfl, by rw [Env.remember, Option.map_none, ← found]⟩
  · rw [outcome_forM_appendTurn found]
    cases (h.extend env.context.pageId env.context.senderId
      (exchange (env.context.messageText.getD "") text)).1 with
    | ok _ => exact ⟨_, rfl, rfl, rfl⟩
    | error fault =>
      dsimp only
      obtain ⟨v, noted, handoff, services⟩ := exists_outcome_aside subType .warn
        "Could not save chat history" [("error", .str fault.message)] env
        (w.placing .chatHistory (h.extend env.context.pageId env.context.senderId
          (exchange (env.context.messageText.getD "") text)).2)
      exact ⟨v, noted, handoff, services⟩

/-- A generator that is asked with retries is given the same prompt at each call, and a text is the
response that it gave next. -/
theorem persist_generate (s : Settings) (prompt : Prompt) (g : Generator) :
    ∃ n, (s.persist (·.generate prompt) g).2.prompts = g.prompts ++ List.replicate n prompt ∧
      ∀ response, (s.persist (·.generate prompt) g).1 = .ok response → response = g.response := by
  obtain ⟨m, y, ⟨given, next⟩, left, answered⟩ := s.exists_last_askFrom
    (·.generate prompt)
    (P := fun n y => y.prompts = g.prompts ++ List.replicate n prompt ∧ y.response = g.response)
    (fun {n x fault} held lost => by
      obtain ⟨recorded, answer | ⟨-, kept⟩⟩ := x.generate_cases prompt
      · rw [answer] at lost
        cases lost
      · rw [recorded, held.1, List.append_assoc, List.replicate_succ']
        exact ⟨rfl, kept.trans held.2⟩)
    (s.retryAttempts.toNat - 1) 1 (n := 0) (x := g) ⟨(List.append_nil _).symm, rfl⟩
  obtain ⟨recorded, answer⟩ := y.generate_cases prompt
  refine ⟨m + 1, ?_, fun response text => ?_⟩
  · unfold Settings.persist
    rw [left, recorded, given, List.append_assoc, List.replicate_succ']
  · have last := answered response text
    rcases answer with answer | ⟨⟨fault, lost⟩, -⟩
    · rw [answer] at last
      rw [← Except.ok.inj last, next]
    · rw [lost] at last
      cases last

/-- Asking for a text changes no collaborator but the generator. The prompts that it is given are
all the same, and there are none when the settings cannot be read. A text is the next response. -/
theorem exists_outcome_generateText (env : Env) (w : World) (prompt : Prompt) :
    ∃ ended ai w' n, outcome (generateText prompt) env w = (ended, w') ∧
      w'.handoff = w.handoff ∧ w'.services = { w.services with ai } ∧
      w'.services.prompts = w.services.prompts ++ List.replicate n prompt ∧
      (n ≠ 0 → ∃ s, env.settings = .ok s) ∧
      ∀ response, ended = .ok response → ∃ g, w.services.ai = some g ∧ response = g.response := by
  unfold generateText
  rw [outcome_bind_ok outcome_services]
  rcases found : w.services.ai with - | g
  · refine ⟨_, none, w, 0, rfl, rfl, by rw [← found], ?_, nofun, nofun⟩
    exact (List.append_nil _).symm
  · obtain ⟨clock, records, asks⟩ := exists_outcome_retrying env w .ai .ai (·.generate prompt)
    rw [← generate_eq] at asks
    change outcome (retrying (generate prompt)) env w =
      ((env.persist .ai (·.generate prompt) w.services.ai).1,
        { w.leaving .ai (env.persist .ai (·.generate prompt) w.services.ai).2 with
          clock, records }) at asks
    have before : w.services.prompts = g.prompts := by rw [Bundle.prompts, found]; rfl
    rw [found] at asks
    unfold Env.persist at asks
    rw [before]
    cases settings : env.settings with
    | error invalid =>
      rw [settings] at asks
      exact ⟨_, some g, _, 0, asks, rfl, rfl, (List.append_nil _).symm, nofun, nofun⟩
    | ok s =>
      rw [settings] at asks
      obtain ⟨n, given, answered⟩ := persist_generate s prompt g
      exact ⟨_, some (s.persist (·.generate prompt) g).2, _, n, asks, rfl, rfl, given,
        fun _ => ⟨s, rfl⟩, fun response text => ⟨g, rfl, answered response text⟩⟩

theorem exists_outcome_failure (env : Env) (w : World) (subType : String) (level : Log.Level)
    (said : String) (data : Entries Value) (text : String) :
    ∃ r w', outcome (do note subType level said data; failWith text) env w =
        (.ok (.result r), w') ∧
      r.success = false ∧ w'.handoff = w.handoff ∧ w'.services = w.services := by
  obtain ⟨v, noted, handoff, services⟩ := exists_outcome_aside subType level said data env w
  exact ⟨_, v, outcome_bind_ok noted _, rfl, handoff, services⟩

/-- Beyond the limit a node fails; within it the body goes on. Only the limiter has changed. -/
theorem exists_outcome_withinLimit (env : Env) (w : World) (subType : String) (body : Exec Reply) :
    ∃ limiter,
      (∃ r w', outcome (withinLimit subType body) env w = (.ok (.result r), w') ∧
        r.success = false ∧ w'.handoff = w.handoff ∧
        w'.services = { w.services with rateLimiter := limiter }) ∨
      ∃ v, outcome (withinLimit subType body) env w = outcome body env v ∧
        v.handoff = w.handoff ∧ v.services = { w.services with rateLimiter := limiter } := by
  unfold withinLimit
  rw [outcome_bind_ok outcome_context, outcome_bind_ok (outcome_attempt _)]
  obtain ⟨granted, limiter, v, acquires, handoff, services⟩ :=
    exists_outcome_acquire env w env.context.senderId "ai"
  rw [acquires]
  refine ⟨limiter, ?_⟩
  match granted with
  | .error fault =>
    obtain ⟨r, w', ends, failed, handoff', services'⟩ := exists_outcome_failure env v subType .error
      "Rate limiter unavailable" [("error", .str fault.message)]
      ("Rate limiter unavailable: " ++ fault.message)
    exact .inl ⟨r, w', ends, failed, handoff'.trans handoff, services'.trans services⟩
  | .ok false =>
    obtain ⟨r, w', ends, failed, handoff', services'⟩ := exists_outcome_failure env v subType .warn
      "AI rate limit reached" [("senderId", .str env.context.senderId)] "AI rate limited"
    exact .inl ⟨r, w', ends, failed, handoff'.trans handoff, services'.trans services⟩
  | .ok true => exact .inr ⟨v, rfl, handoff, services⟩

theorem outcome_putText (text : String) (producer : Option String) :
    outcome (putText text producer) env w = match w.handoff.put text producer with
      | .ok h => (.ok (), { w with handoff := h })
      | .error earlier => (.error (.occupied earlier), w) := by
  unfold putText
  rw [outcome_bind_ok outcome_handoff]
  cases w.handoff.put text producer <;> rfl

/-- The text is put into the slot, and then the exchange is added to the conversation. Nothing is
changed when the slot is occupied. -/
theorem exists_outcome_handOver (env : Env) (w : World) (text said : String)
    (data : Entries Value) (out : List Item) :
    ∃ r w', outcome (do
        match ← attempt (putText text (← handoff).current) with
        | .error (.occupied producer) =>
          note "SMARTAI" .error "Generated text slot occupied"
            [("producerNodeId", .ofText? producer)]
          failWith (Fault.occupied producer).message
        | .error fault => throw fault
        | .ok _ =>
          note "SMARTAI" .info "AI response ready" data
          saveTurns "SMARTAI" (env.context.messageText.getD "") text
          succeed out said) env w = (.ok (.result r), w') ∧
      (r.success = false ∧ w'.handoff = w.handoff ∧ w'.services = w.services ∨
        r.success = true ∧ w.handoff.put text w.handoff.current = .ok w'.handoff ∧
          w'.services = { w.services with
            chatHistory := env.remember text w.services.chatHistory }) := by
  rw [outcome_bind_ok outcome_handoff, outcome_bind_ok (outcome_attempt _), outcome_putText]
  cases w.handoff.put text w.handoff.current with
  | error earlier =>
    obtain ⟨r, w', ends, failed⟩ := exists_outcome_failure env w "SMARTAI" .error
      "Generated text slot occupied" [("producerNodeId", .ofText? earlier)]
      (Fault.occupied earlier).message
    exact ⟨r, w', ends, .inl failed⟩
  | ok h =>
    obtain ⟨v, noted, handoff, services⟩ := exists_outcome_aside "SMARTAI" .info
      "AI response ready" data env { w with handoff := h }
    obtain ⟨w', saves, handoff', services'⟩ := exists_outcome_saveTurns env v "SMARTAI" text
    refine ⟨.ok out (some said) w'.journal, w', ?_,
      .inr ⟨rfl, congrArg _ (handoff'.trans handoff).symm, ?_⟩⟩
    · dsimp only
      rw [outcome_bind_ok noted, outcome_bind_ok saves]
      rfl
    · rw [services', services]

end Exec

/-! ### The node -/

/-- What an execution does. It sends nothing, and every prompt that it gives has the turns that were
found. A failure leaves the hand-off and all but the reading of the turns undone. A success puts the
text of the generator under the node at work, and adds the exchange to the conversation. -/
structure Generates (env : Env) (w : World) (r : NodeResult) (w' : World) : Prop where
  sends : w'.services.messaging = w.services.messaging
  asks : ∃ calls, w'.services.prompts = w.services.prompts ++ calls ∧
    ∀ call ∈ calls, (∃ s, env.settings = .ok s) ∧
      call.history = (env.recent w.services.chatHistory).1.toOption.getD []
  fails : r.success = false → w'.handoff = w.handoff ∧
    (w'.services.chatHistory = w.services.chatHistory ∨
      w'.services.chatHistory = (env.recent w.services.chatHistory).2)
  succeeds : r.success = true → ∃ g text, w.services.ai = some g ∧
    usableResponse? g.response = some text ∧
    w.handoff.put text w.handoff.current = .ok w'.handoff ∧
    w'.services.chatHistory = env.remember text (env.recent w.services.chatHistory).2

namespace Generates

variable {env : Env} {v w u w' : World} {r : NodeResult} {limiter : Option (RateLimiter Float)}

theorem of_early_failure (failed : r.success = false) (handoff : w'.handoff = w.handoff)
    (services : w'.services = { w.services with rateLimiter := limiter }) :
    Generates env w r w' where
  sends := by rw [services]
  asks := ⟨[], by rw [services, List.append_nil]; rfl, nofun⟩
  fails _ := ⟨handoff, .inl (by rw [services])⟩
  succeeds success := by rw [failed] at success; cases success

structure Asked (env : Env) (w u : World) : Prop where
  handoff : u.handoff = w.handoff
  services : ∃ limiter ai, u.services = { w.services with
    rateLimiter := limiter, chatHistory := (env.recent w.services.chatHistory).2, ai }
  prompts : ∃ calls, u.services.prompts = w.services.prompts ++ calls ∧
    ∀ call ∈ calls, (∃ s, env.settings = .ok s) ∧
      call.history = (env.recent w.services.chatHistory).1.toOption.getD []

theorem Asked.failure (asked : Asked env w u) (failed : r.success = false)
    (handoff : w'.handoff = u.handoff) (services : w'.services = u.services) :
    Generates env w r w' := by
  obtain ⟨limiter, ai, left⟩ := asked.services
  rw [left] at services
  exact {
    sends := by rw [services]
    asks := by rw [services, ← left]; exact asked.prompts
    fails := fun _ => ⟨handoff.trans asked.handoff, .inr (by rw [services])⟩
    succeeds := fun success => by rw [failed] at success; cases success }

theorem Asked.exists_failure (asked : Asked env w u) (level : Log.Level) (said : String)
    (data : Entries Value) (text : String) :
    ∃ r w', Exec.outcome (do
        Exec.note "SMARTAI" level said data
        Exec.failWith text) env u = (.ok (.result r), w') ∧ Generates env w r w' := by
  obtain ⟨r, w', ends, failed, handoff, services⟩ :=
    Exec.exists_outcome_failure env u "SMARTAI" level said data text
  exact ⟨r, w', ends, asked.failure failed handoff services⟩

theorem Asked.success (asked : Asked env w u) {g : Generator} {text : String}
    (there : w.services.ai = some g) (usable : usableResponse? g.response = some text)
    (success : r.success = true) (put : u.handoff.put text u.handoff.current = .ok w'.handoff)
    (services : w'.services =
      { u.services with chatHistory := env.remember text u.services.chatHistory }) :
    Generates env w r w' := by
  obtain ⟨limiter, ai, left⟩ := asked.services
  obtain ⟨calls, given, same⟩ := asked.prompts
  rw [asked.handoff] at put
  rw [left] at services
  exact {
    sends := by rw [services]
    asks := ⟨calls, by rw [services, ← given, left]; rfl, same⟩
    fails := fun failed => by rw [failed] at success; cases success
    succeeds := fun _ => ⟨g, text, there, usable, put, by rw [services]⟩ }

theorem Asked.of_limited (asked : Asked env v u) (handoff : v.handoff = w.handoff)
    (services : v.services = { w.services with rateLimiter := limiter }) : Asked env w u := by
  obtain ⟨limiter', ai, left⟩ := asked.services
  have prompts := asked.prompts
  rw [services] at left prompts
  exact ⟨asked.handoff.trans handoff, ⟨limiter', ai, left⟩, prompts⟩

theorem exists_outcome_asking {β : Type} (env : Env) (v : World) (system message : String)
    (data : List Turn → Entries Value) (next : Except Fault Value → Exec β) :
    ∃ ended u, Exec.outcome (do
        let turns ← Exec.loadTurns "SMARTAI"
        Exec.note "SMARTAI" .info "Generating AI response" (data turns)
        next (← Exec.attempt (Exec.generateText ⟨system, message, turns⟩))) env v =
        Exec.outcome (next ended) env u ∧
      Asked env v u ∧
      ∀ response, ended = .ok response → ∃ g, v.services.ai = some g ∧ response = g.response := by
  obtain ⟨v₁, loads, handoff₁, services₁⟩ := Exec.exists_outcome_loadTurns env v "SMARTAI"
  obtain ⟨v₂, noted, handoff₂, services₂⟩ := Exec.exists_outcome_aside "SMARTAI" .info
    "Generating AI response" (data ((env.recent v.services.chatHistory).1.toOption.getD [])) env v₁
  let prompt : Prompt := ⟨system, message, (env.recent v.services.chatHistory).1.toOption.getD []⟩
  obtain ⟨ended, ai, u, n, calls, handoff₃, services₃, given, readable, answers⟩ :=
    Exec.exists_outcome_generateText env v₂ prompt
  have found : v₂.services = { v.services with
      chatHistory := (env.recent v.services.chatHistory).2 } := by
    rw [services₂, services₁]
  refine ⟨ended, u, ?_, ⟨?_, ?_, List.replicate n prompt, ?_, ?_⟩, fun response text => ?_⟩
  · rw [Exec.outcome_bind_ok loads, Exec.outcome_bind_ok noted,
      Exec.outcome_bind_ok (Exec.outcome_attempt _), calls]
  · exact handoff₃.trans (handoff₂.trans handoff₁)
  · exact ⟨v.services.rateLimiter, ai, by rw [services₃, found]⟩
  · exact given.trans (by rw [found]; rfl)
  · intro call mem
    obtain ⟨some, rfl⟩ := List.mem_replicate.mp mem
    exact ⟨readable some, rfl⟩
  · obtain ⟨g, there, same⟩ := answers response text
    exact ⟨g, by rw [← there, found], same⟩

end Generates

theorem exists_outcome_generate (env : Env) (w : World) (config : Value) (items : List Item) :
    ∃ r w', Exec.outcome (generate.execute config items) env w = (.ok (.result r), w') ∧
      Generates env w r w' := by
  unfold generate
  dsimp only
  rw [Exec.outcome_bind_ok Exec.outcome_openJournal]
  cases GenerateConfig.read? (Executor.settingsOf config) with
  | error invalid =>
    obtain ⟨r, w', ends, failed, handoff, services⟩ := Exec.exists_outcome_failure env
      { w with journal := [] } "SMARTAI" .error "Invalid AI configuration"
      [("detail", .str invalid.firstLine)] ("Invalid SMARTAI configuration: " ++ invalid.firstLine)
    exact ⟨r, w', ends, .of_early_failure failed handoff services⟩
  | ok parsed =>
    dsimp only
    obtain ⟨limiter, ⟨r, w', ends, failed, handoff, services⟩ | ⟨v, goes, handoff, services⟩⟩ :=
      Exec.exists_outcome_withinLimit env { w with journal := [] } "SMARTAI" _
    · exact ⟨r, w', ends, .of_early_failure failed handoff services⟩
    rw [goes, Exec.outcome_bind_ok Exec.outcome_context]
    obtain ⟨ended, u, asks, asked, answers⟩ := Generates.exists_outcome_asking env v
      parsed.instruction (env.context.messageText.getD "") _ _
    have asked : Generates.Asked env w u := asked.of_limited handoff services
    rw [asks]
    cases ended with
    | error fault => exact asked.exists_failure ..
    | ok response =>
      obtain ⟨g, there, rfl⟩ := answers response rfl
      have own : w.services.ai = some g := by rw [← there, services]
      dsimp only
      cases usable : usableResponse? g.response with
      | none => exact asked.exists_failure ..
      | some text =>
        obtain ⟨r, w', ends, ⟨failed, handoff', services'⟩ | ⟨success, put, services'⟩⟩ :=
          Exec.exists_outcome_handOver env u text "AI response generated" _ _
        · exact ⟨r, w', ends, asked.failure failed handoff' services'⟩
        · exact ⟨r, w', ends, asked.success own usable success put services'⟩

end Chatflow
