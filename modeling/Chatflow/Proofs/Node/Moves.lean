import Chatflow.Proofs.Node.Calls
import Chatflow.Proofs.Node.Sharing

/-!
# What executions do to the messenger

What a node with an outbound call does to the messenger is a function of the messenger alone: first
the typing indicator is shown if the raw settings ask for it, and then the call is made with its
retries. There is one lemma for each part of the executors and one for each executor.
-/

namespace Chatflow

open Service

variable {config : Entries Value}

def Context.typingCall (c : Context) : OutboundCall := .senderAction c.pageId c.senderId "typing_on"

/-- Whether settings ask for the typing indicator before they are read. -/
def wantsTyping (config : Entries Value) : Bool :=
  (config.get? "typingIndicator").any Value.truthy

namespace Env

def called (env : Env) (call : OutboundCall) (m : Option Messenger) : Option Messenger :=
  (env.persist .messaging (·.send call) m).2

def indicated (env : Env) (m : Option Messenger) : Option Messenger :=
  m.map fun m => (m.send env.context.typingCall).2

/-- The messenger that the call of a node finds, when the typing indicator may go ahead of it. -/
def prepared (env : Env) (config : Entries Value) (m : Option Messenger) : Option Messenger :=
  if wantsTyping config then env.indicated m else m

end Env

namespace Exec

variable {α β : Type} {env : Env} {w : World} {body : Exec α} {call : OutboundCall}
  {f g : Option Messenger → Option Messenger}

/-! ### Parts of executors -/

/-- The messenger after the execution is a function of the one before. -/
structure Moves (env : Env) (f : Option Messenger → Option Messenger) (body : Exec α) : Prop where
  ends : ∀ w, (outcome body env w).2.services.messaging = f w.services.messaging

theorem Moves.attempt (own : Moves env f body) : Moves env f (attempt body) := ⟨own.ends⟩

theorem Moves.bind {next : α → Exec β} (safe : Safe body) (first : Moves env f body)
    (rest : ∀ a, Moves env g (next a)) : Moves env (g ∘ f) (body >>= next) := by
  refine ⟨fun w => ?_⟩
  have moved := first.ends w
  obtain ⟨a, v, ends⟩ := safe.ends env w
  rw [ends] at moved
  rw [outcome_bind_ok ends, (rest a).ends v, moved]
  rfl

/-- What follows may also not take place when it does nothing to the messenger. -/
theorem Moves.bind_leaves {next : α → Exec β} (first : Moves env f body)
    (rest : ∀ a m, Leaves m (next a)) : Moves env f (body >>= next) := by
  refine ⟨fun w => ?_⟩
  have moved := first.ends w
  rw [outcome_bind]
  generalize outcome body env w = ends at moved ⊢
  obtain ⟨ended, v⟩ := ends
  cases ended with
  | error fault => exact moved
  | ok a => exact ((rest a _).keeps env v rfl).trans moved

theorem Leaves.bind_moves {next : α → Exec β} (safe : Safe body) (first : ∀ m, Leaves m body)
    (rest : ∀ a, Moves env f (next a)) : Moves env f (body >>= next) :=
  Moves.bind safe ⟨fun w => (first _).keeps env w rfl⟩ rest

theorem moves_note_bind {next : PUnit → Exec β} (subType : String) (level : Log.Level)
    (text : String) (data : Entries Value) (rest : Moves env f (next ⟨⟩)) :
    Moves env f (note subType level text data >>= next) :=
  Leaves.bind_moves (safe_note ..) (fun _ => leaves_note ..) fun _ => rest

theorem moves_context_bind {next : Context → Exec β} (rest : Moves env f (next env.context)) :
    Moves env f (context >>= next) :=
  ⟨fun w => by rw [outcome_bind_ok outcome_context, rest.ends]⟩

theorem moves_send (call : OutboundCall) :
    Moves env (Option.map fun m => (m.send call).2) (send call) := by
  refine ⟨fun w => ?_⟩
  rw [send_eq]
  cases there : w.services.messaging with
  | none => rw [outcome_calling_of_none (p := .messaging) there, there]; rfl
  | some m => rw [outcome_calling_of_some (p := .messaging) there]; rfl

theorem moves_retrying (call : OutboundCall) :
    Moves env (env.called call) (retrying (send call)) := by
  refine ⟨fun w => ?_⟩
  rw [send_eq]
  obtain ⟨clock, records, ends⟩ :=
    exists_outcome_retrying env w .messaging .messaging (·.send call)
  rw [ends]
  change (w.leaving .messaging (env.called call w.services.messaging)).services.messaging = _
  cases there : w.services.messaging with
  | none =>
    have absent : env.called call none = none := by
      unfold Env.called Env.persist
      cases env.settings <;> rfl
    rw [absent]
    exact there
  | some m =>
    obtain ⟨m', left⟩ : ∃ m', env.called call (some m) = some m' := by
      unfold Env.called Env.persist
      cases env.settings <;> exact ⟨_, rfl⟩
    rw [left]
    rfl

/-- The wait after the typing indicator may fail, which does not call it back. -/
theorem moves_typingOn : Moves env env.indicated typingOn := by
  refine moves_context_bind ((moves_send _).bind_leaves fun _ m => leaves_settings.bind fun s => ?_)
  dsimp only
  split
  · exact leaves_sleep _
  · exact leaves_pure _

theorem moves_showTyping (subType : String) :
    Moves env (env.prepared config) (showTyping subType (.obj config)) := by
  have asks : outcome (ofExcept (asksForTyping (.obj config))) env =
      fun w => (.ok (wantsTyping config), w) := rfl
  refine ⟨fun w => ?_⟩
  unfold showTyping Env.prepared
  rw [outcome_bind_ok (congrFun asks w)]
  cases wantsTyping config with
  | false => rfl
  | true =>
    refine Moves.ends (.bind_leaves (moves_typingOn.bind_leaves ?_).attempt fun shown m => ?_) w
    · exact fun _ m => leaves_note ..
    · cases shown <;> grind

theorem moves_sendOr (subType failure : String) {accepted : SendResult → Exec Reply}
    (own : ∀ result m, Leaves m (accepted result)) :
    Moves env (env.called call) (sendOr subType failure call accepted) := by
  refine (moves_retrying call).attempt.bind_leaves fun sent m => ?_
  cases sent with
  | error fault => grind
  | ok result =>
    dsimp only
    split
    · exact own result m
    · grind

/-- A structured message is announced, and then the typing indicator may be shown before it is
sent. -/
theorem moves_structured (subType said failure : String) (data : Entries Value)
    {call : Context → OutboundCall} {accepted : SendResult → Exec Reply}
    (own : ∀ result m, Leaves m (accepted result)) :
    Moves env (env.called (call env.context) ∘ env.prepared config) (do
      note subType .info said data
      showTyping subType (.obj config)
      let c ← context
      sendOr subType failure (call c) accepted) := by
  refine moves_note_bind _ _ _ _ ((moves_showTyping _).bind (safe_showTyping ..) fun _ => ?_)
  exact moves_context_bind (moves_sendOr _ _ own)

/-! ### Executors -/

theorem outcome_withConfig {γ : Type} {subType : String} {read? : Value → Except Schema.Invalid γ}
    {v : Value} {parsed : γ} {next : γ → Exec Reply}
    (valid : read? (Executor.settingsOf v) = .ok parsed) :
    outcome (do openJournal; withConfig subType read? v next) env w =
      outcome (next parsed) env { w with journal := [] } := by
  rw [outcome_bind_ok outcome_openJournal, withConfig, valid]

theorem messaging_message {parsed : MessageConfig}
    (valid : MessageConfig.read? (Executor.settingsOf (.obj config)) = .ok parsed)
    (items : List Item) (env : Env) (w : World) :
    (outcome (message.execute (.obj config) items) env w).2.services.messaging =
      (((messageText? w.handoff.take.1 parsed.message items).map (·.1)).map fun text =>
        env.called (.message env.context.pageId env.context.senderId text)
          (env.prepared config w.services.messaging)).getD w.services.messaging := by
  have takes : outcome takeText env { w with journal := [] } =
      (.ok w.handoff.take.1, { w with journal := [], handoff := w.handoff.take.2 }) := rfl
  dsimp only [message, messageSender]
  rw [outcome_withConfig valid, outcome_bind_ok takes]
  cases messageText? w.handoff.take.1 parsed.message items with
  | none =>
    have leaves : ∀ m, Leaves m (do
        note "MESSAGE" .error "No message text available" []
        failWith "No message text") := by grind
    exact (leaves _).keeps env _ rfl
  | some sends =>
    refine Moves.ends (f := env.called _ ∘ env.prepared config) (moves_context_bind ?_) _
    refine moves_note_bind _ _ _ _ ((moves_showTyping _).bind (safe_showTyping ..) fun _ => ?_)
    exact moves_sendOr _ _ fun _ _ => by grind

theorem messaging_withReplyText {subType said failure : String} {configured : Option String}
    {data : String → Entries Value} {call : String → OutboundCall}
    {accepted : SendResult → Exec Reply} (own : ∀ result m, Leaves m (accepted result))
    (env : Env) (w : World) :
    (outcome (withReplyText subType configured fun text => do
      note subType .info said (data text)
      sendOr subType failure (call text) accepted) env w).2.services.messaging =
      ((replyText? w.handoff.take.1 configured).map fun text =>
        env.called (call text) w.services.messaging).getD w.services.messaging := by
  have takes : outcome takeText env w =
      (.ok w.handoff.take.1, { w with handoff := w.handoff.take.2 }) := rfl
  unfold withReplyText
  rw [outcome_bind_ok takes]
  cases replyText? w.handoff.take.1 configured with
  | none =>
    have leaves : ∀ m, Leaves m (do
        note subType .error "No reply text available" []; failWith "No reply text") := by grind
    exact (leaves _).keeps env _ rfl
  | some text =>
    refine Moves.ends (f := env.called (call text)) (moves_note_bind _ _ _ _ ?_) _
    exact moves_sendOr subType failure own

theorem messaging_replyComment {parsed : ReplyCommentConfig} {comment : String}
    (valid : ReplyCommentConfig.read? (Executor.settingsOf (.obj config)) = .ok parsed)
    (target : env.context.commentId.filter (!·.isEmpty) = some comment)
    (items : List Item) (w : World) :
    (outcome (replyComment.execute (.obj config) items) env w).2.services.messaging =
      ((replyText? w.handoff.take.1 parsed.reply).map fun text =>
        env.called (.commentReply comment text) w.services.messaging).getD
          w.services.messaging := by
  dsimp only [replyComment]
  rw [outcome_withConfig valid, outcome_bind_ok outcome_context, target]
  exact messaging_withReplyText (fun _ _ => by grind) env { w with journal := [] }

theorem messaging_replyMention {parsed : ReplyMentionConfig} {media : String}
    (valid : ReplyMentionConfig.read? (Executor.settingsOf (.obj config)) = .ok parsed)
    (target : env.context.mediaId.filter (!·.isEmpty) = some media)
    (items : List Item) (w : World) :
    (outcome (replyMention.execute (.obj config) items) env w).2.services.messaging =
      ((replyText? w.handoff.take.1 parsed.reply).map fun text =>
        env.called (.mentionReply env.context.pageId media text env.context.commentId)
          w.services.messaging).getD w.services.messaging := by
  dsimp only [replyMention]
  rw [outcome_withConfig valid, outcome_bind_ok outcome_context, target]
  exact messaging_withReplyText (fun _ _ => by grind) env { w with journal := [] }

end Exec

end Chatflow
