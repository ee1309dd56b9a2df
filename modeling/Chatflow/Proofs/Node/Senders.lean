import Chatflow.Proofs.Handoff.Builtin
import Chatflow.Proofs.Node.Safe

/-!
# Senders without a text

A node that sends a text takes the newest generated text that it sees. Without one it takes the text
in its settings, and a message also that of the first item. Where it finds none it fails, and says
so in the only entry of its log (`Dispatch.sender_builtin`).
-/

namespace Chatflow

/-- The node failed because it had no text to send. The log decides this: when the messenger refuses
a call, the text of the failure is the messenger's own. -/
def NodeResult.LacksText (r : NodeResult) : Prop :=
  r.success = false ∧
    (r.text = some "No message text" ∧ r.logs.map (·.text) = ["No message text available"] ∨
      r.text = some "No reply text" ∧ r.logs.map (·.text) = ["No reply text available"])

instance (r : NodeResult) : Decidable r.LacksText := inferInstanceAs (Decidable (_ ∧ _))

/-- The text that a node of a subtype sends when it takes a generated text, or none. -/
def sentText? (subType : String) (config : Value) (generated : Option String)
    (items : List Item) : Option String :=
  let settings := Executor.settingsOf config
  match subType with
  | "MESSAGE" =>
    (MessageConfig.read? settings).toOption.bind fun c =>
      (messageText? generated c.message items).map (·.1)
  | "REPLY_COMMENT" =>
    (ReplyCommentConfig.read? settings).toOption.bind fun c => replyText? generated c.reply
  | "REPLY_MENTION" =>
    (ReplyMentionConfig.read? settings).toOption.bind fun c => replyText? generated c.reply
  | _ => none

theorem isEmpty_eq_false {text : String} (present : Text.allBlank text = false) :
    text.isEmpty = false := by
  by_contra empty
  obtain rfl : text = "" := by simpa using empty
  cases present

theorem presentText?_some {text : String} (present : Text.allBlank text = false) :
    presentText? (some text) = some text := by
  simp [presentText?, Option.filter_some, present]

theorem messageText?_of_present {text : String} (present : Text.allBlank text = false)
    (configured : Option String) (items : List Item) :
    messageText? (some text) configured items = some (text, .generated) := by
  simp [messageText?, isEmpty_eq_false present, presentText?_some present]

theorem replyText?_of_present {text : String} (present : Text.allBlank text = false)
    (configured : Option String) : replyText? (some text) configured = some text := by
  simp [replyText?, Option.filter_some, isEmpty_eq_false present, presentText?_some present]

namespace Exec

variable {α : Type} {body : Exec α} {env : Env} {w w' : World} {r : NodeResult}

/-! ### Logs of results -/

def Reports (body : Exec Reply) : Prop := Yields (fun r w => r.logs = w.journal) body

@[grind ←] theorem Reports.bind {next : α → Exec Reply} (rest : ∀ a, Reports (next a)) :
    Reports (body >>= next) := Yields.bind rest

@[grind ←] theorem reports_succeed (items : List Item) (text : String) :
    Reports (succeed items text) := by
  refine ⟨fun env w r w' ends => ?_⟩
  cases ends
  rfl

@[grind ←] theorem reports_failWith (text : String) : Reports (failWith text) := by
  refine ⟨fun env w r w' ends => ?_⟩
  cases ends
  rfl

@[grind ←] theorem reports_sendOr (subType failure : String) (call : Service.OutboundCall)
    {accepted : Service.SendResult → Exec Reply} (own : ∀ result, Reports (accepted result)) :
    Reports (sendOr subType failure call accepted) :=
  yields_sendOr reports_failWith subType failure call own

/-- A node that first says what it sends does not lack a text. -/
theorem not_lacksText_of_note {subType said : String} {level : Log.Level} {data : Entries Value}
    {rest : Exec Reply} (plain : Plain rest) (reports : Reports rest) (fresh : w.journal = [])
    (other : said ≠ "No message text available" ∧ said ≠ "No reply text available")
    (ends : outcome (do note subType level said data; rest) env w = (.ok (.result r), w')) :
    ¬r.LacksText := by
  obtain ⟨records, notes⟩ := exists_outcome_note subType level said data env w
  rw [outcome_bind_ok notes] at ends
  have grows := plain.grows env
    { w with journal := w.journal ++ [.make w.clock.milliseconds level said data], records }
  rw [ends] at grows
  obtain ⟨more, journal⟩ := grows
  have logs := reports.holds _ _ _ _ ends
  dsimp only at journal
  rw [← journal, fresh, List.nil_append] at logs
  rintro ⟨-, ⟨-, only⟩ | ⟨-, only⟩⟩
  · rw [logs] at only
    exact other.1 (List.cons.inj only).1
  · rw [logs] at only
    exact other.2 (List.cons.inj only).1

/-- A node that fails after its only entry says nothing else. -/
theorem eq_fail_of_note {subType said text : String} {level : Log.Level} {data : Entries Value}
    (fresh : w.journal = [])
    (ends : outcome (do note subType level said data; failWith text) env w =
      (.ok (.result r), w')) :
    r = .fail text [.make w.clock.milliseconds level said data] := by
  obtain ⟨records, notes⟩ := exists_outcome_note subType level said data env w
  rw [outcome_bind_ok notes] at ends
  cases ends
  rw [fresh]
  rfl

/-! ### The senders -/

theorem lacksText_message {config : Value} {parsed : MessageConfig} {items : List Item}
    (valid : MessageConfig.read? (Executor.settingsOf config) = .ok parsed)
    (ends : outcome (message.execute config items) env w = (.ok (.result r), w')) :
    r.LacksText ↔ messageText? w.handoff.take.1 parsed.message items = none := by
  have opens : outcome openJournal env w = (.ok (), { w with journal := [] }) := rfl
  have takes : outcome takeText env { w with journal := [] } =
      (.ok w.handoff.take.1, { w with journal := [], handoff := w.handoff.take.2 }) := rfl
  dsimp only [message, messageSender] at ends
  rw [outcome_bind_ok opens, withConfig, valid] at ends
  dsimp only at ends
  rw [outcome_bind_ok takes] at ends
  cases found : messageText? w.handoff.take.1 parsed.message items with
  | none =>
    rw [found] at ends
    rw [eq_fail_of_note rfl ends]
    exact iff_of_true ⟨rfl, .inl ⟨rfl, rfl⟩⟩ rfl
  | some sends =>
    obtain ⟨text, source⟩ := sends
    rw [found] at ends
    dsimp only at ends
    rw [outcome_bind_ok outcome_context] at ends
    exact iff_of_false (not_lacksText_of_note (by grind) (by grind) rfl (by decide) ends) (by simp)

theorem lacksText_withReplyText {subType said : String} {configured : Option String}
    {data : String → Entries Value} {rest : String → Exec Reply}
    (plain : ∀ text, Plain (rest text)) (reports : ∀ text, Reports (rest text))
    (fresh : w.journal = [])
    (other : said ≠ "No message text available" ∧ said ≠ "No reply text available")
    (ends : outcome (withReplyText subType configured fun text => do
      note subType .info said (data text); rest text) env w = (.ok (.result r), w')) :
    r.LacksText ↔ replyText? w.handoff.take.1 configured = none := by
  have takes : outcome takeText env w =
      (.ok w.handoff.take.1, { w with handoff := w.handoff.take.2 }) := rfl
  have clean : ({ w with handoff := w.handoff.take.2 } : World).journal = [] := fresh
  unfold withReplyText at ends
  rw [outcome_bind_ok takes] at ends
  cases found : replyText? w.handoff.take.1 configured with
  | none =>
    rw [found] at ends
    rw [eq_fail_of_note clean ends]
    exact iff_of_true ⟨rfl, .inr ⟨rfl, rfl⟩⟩ rfl
  | some text =>
    rw [found] at ends
    exact iff_of_false (not_lacksText_of_note (plain text) (reports text) clean other ends)
      (by simp)

theorem lacksText_replyComment {config : Value} {parsed : ReplyCommentConfig} {items : List Item}
    (valid : ReplyCommentConfig.read? (Executor.settingsOf config) = .ok parsed)
    (ends : outcome (replyComment.execute config items) env w = (.ok (.result r), w')) :
    r.LacksText ↔ ¬env.context.LacksTarget "REPLY_COMMENT" ∧
      replyText? w.handoff.take.1 parsed.reply = none := by
  have opens : outcome openJournal env w = (.ok (), { w with journal := [] }) := rfl
  dsimp only [replyComment] at ends
  rw [outcome_bind_ok opens, withConfig, valid] at ends
  dsimp only at ends
  rw [outcome_bind_ok outcome_context] at ends
  split at ends
  · rename_i none
    rw [eq_fail_of_note rfl ends]
    exact iff_of_false (by simp [NodeResult.LacksText, NodeResult.fail]) fun both =>
      both.1 (lacksTarget_replyComment.mpr none)
  · rename_i comment some
    have lacks := lacksText_withReplyText (fun text => by grind) (fun text => by grind) rfl
      (by decide) ends
    rw [lacks, and_iff_right]
    rw [lacksTarget_replyComment, some]
    simp

theorem lacksText_replyMention {config : Value} {parsed : ReplyMentionConfig} {items : List Item}
    (valid : ReplyMentionConfig.read? (Executor.settingsOf config) = .ok parsed)
    (ends : outcome (replyMention.execute config items) env w = (.ok (.result r), w')) :
    r.LacksText ↔ ¬env.context.LacksTarget "REPLY_MENTION" ∧
      replyText? w.handoff.take.1 parsed.reply = none := by
  have opens : outcome openJournal env w = (.ok (), { w with journal := [] }) := rfl
  dsimp only [replyMention] at ends
  rw [outcome_bind_ok opens, withConfig, valid] at ends
  dsimp only at ends
  rw [outcome_bind_ok outcome_context] at ends
  split at ends
  · rename_i none
    rw [eq_fail_of_note rfl ends]
    exact iff_of_false (by simp [NodeResult.LacksText, NodeResult.fail]) fun both =>
      both.1 (lacksTarget_replyMention.mpr none)
  · rename_i media some
    have lacks := lacksText_withReplyText (fun text => by grind) (fun text => by grind) rfl
      (by decide) ends
    rw [lacks, and_iff_right]
    rw [lacksTarget_replyMention, some]
    simp

end Exec

/-! ### Texts in settings -/

theorem messageText?_of_static {text : String} (present : Text.allBlank text = false)
    (items : List Item) : messageText? none (some text) items = some (text, .config) := by
  simp [messageText?, presentText?_some present]

theorem replyText?_of_static {text : String} (present : Text.allBlank text = false) :
    replyText? none (some text) = some text := by
  simp [replyText?, presentText?_some present]

namespace Executor

theorem exists_of_holdsText {config : Entries Value} {key : String}
    (holds : holdsText config key = true) :
    ∃ text, config.get? key = some (.str text) ∧ Text.allBlank text = false := by
  unfold holdsText at holds
  split at holds
  · rename_i text found
    exact ⟨text, found, by simpa using holds⟩
  · cases holds

theorem settingsOf_of_get? {config : Entries Value} {key : String} {v : Value}
    (found : config.get? key = some v) : settingsOf (.obj config) = .obj config := by
  cases config with
  | nil => cases found
  | cons e rest => rfl

end Executor

theorem MessageConfig.message_of_read? {config : Entries Value} {parsed : MessageConfig}
    {text : String} (found : config.get? "message" = some (.str text))
    (valid : MessageConfig.read? (Executor.settingsOf (.obj config)) = .ok parsed) :
    parsed.message = some text := by
  rw [Executor.settingsOf_of_get? found] at valid
  have read := Schema.Checked.named_eq_ok_iff.mp valid
  obtain ⟨_, _, first, -, rfl⟩ := Schema.Checked.seq_eq_ok_iff.mp read
  obtain ⟨_, field, rfl⟩ := Schema.Checked.map_eq_ok_iff.mp first
  have finds : messageField.find? config = some ("message", .str text) := by
    simp [messageField, Schema.Field.find?, Schema.Field.named, found]
  exact Schema.eq_of_orDefault_text finds (fun _ => Schema.eq_of_text) field

theorem ReplyCommentConfig.reply_of_read? {config : Entries Value} {parsed : ReplyCommentConfig}
    {text : String} (found : config.get? "commentReply" = some (.str text))
    (valid : ReplyCommentConfig.read? (Executor.settingsOf (.obj config)) = .ok parsed) :
    parsed.reply = some text := by
  rw [Executor.settingsOf_of_get? found] at valid
  have read := Schema.Checked.named_eq_ok_iff.mp valid
  obtain ⟨_, field, rfl⟩ := Schema.Checked.map_eq_ok_iff.mp read
  have finds : replyField.find? config = some ("commentReply", .str text) := by
    simp [replyField, Schema.Field.find?, Schema.Field.aliased, found]
  exact Schema.eq_of_orDefault_text finds (fun _ => Schema.eq_of_textWithin) field

theorem ReplyMentionConfig.reply_of_read? {config : Entries Value} {parsed : ReplyMentionConfig}
    {text : String} (found : config.get? "message" = some (.str text))
    (valid : ReplyMentionConfig.read? (Executor.settingsOf (.obj config)) = .ok parsed) :
    parsed.reply = some text := by
  rw [Executor.settingsOf_of_get? found] at valid
  have read := Schema.Checked.named_eq_ok_iff.mp valid
  obtain ⟨_, field, rfl⟩ := Schema.Checked.map_eq_ok_iff.mp read
  have finds : replyField.find? config = some ("message", .str text) := by
    simp [replyField, Schema.Field.find?, Schema.Field.named, found]
  exact Schema.eq_of_orDefault_text finds (fun _ => Schema.eq_of_textWithin) field

/-! ### The dispatch -/

structure Executor.Sender (e : Executor) (config : Entries Value) : Prop where
  /-- It lacks a text when it gets as far as that and finds none. -/
  lacks : ∀ items env w r w', Exec.outcome (e.execute (.obj config) items) env w =
      (.ok (.result r), w') →
    (r.LacksText ↔ ¬env.context.LacksTarget e.subType ∧
      sentText? e.subType (.obj config) w.handoff.take.1 items = none)
  /-- A generated text that is not blank is one to send. -/
  generated : ∀ text items, Text.allBlank text = false →
    sentText? e.subType (.obj config) (some text) items ≠ none
  /-- So is a text that the check finds in the settings. -/
  static : e.hasStaticText config = true → ∀ items,
    sentText? e.subType (.obj config) none items ≠ none

namespace Executor

variable {config : Entries Value}

theorem sender_message (faultless : message.problems (.obj config) = []) :
    message.Sender config := by
  obtain ⟨parsed, read⟩ : ∃ parsed, MessageConfig.read? (settingsOf (.obj config)) = .ok parsed :=
    exists_read_of_problems MessageConfig.honest_read rfl faultless
  have sends : ∀ generated items, sentText? "MESSAGE" (.obj config) generated items =
      (messageText? generated parsed.message items).map (·.1) := fun generated items => by
    simp [sentText?, read, Except.toOption]
  refine ⟨fun items env w r w' ends => ?_, fun text items present => ?_, fun holds items => ?_⟩
  · rw [Exec.lacksText_message read ends]
    change _ ↔ _ ∧ sentText? "MESSAGE" _ _ _ = none
    rw [sends, Option.map_eq_none_iff, and_iff_right]
    simp [Context.LacksTarget, message, messageSender]
  · change sentText? "MESSAGE" _ _ _ ≠ none
    rw [sends, messageText?_of_present present]
    simp
  · obtain ⟨text, found, present⟩ : ∃ text, config.get? "message" = some (.str text) ∧
        Text.allBlank text = false :=
      exists_of_holdsText (by simpa [hasStaticText, message, messageSender] using holds)
    change sentText? "MESSAGE" _ _ _ ≠ none
    rw [sends, MessageConfig.message_of_read? found read, messageText?_of_static present]
    simp

theorem sender_replyComment (faultless : replyComment.problems (.obj config) = []) :
    replyComment.Sender config := by
  obtain ⟨parsed, read⟩ :
      ∃ parsed, ReplyCommentConfig.read? (settingsOf (.obj config)) = .ok parsed :=
    exists_read_of_problems ReplyCommentConfig.honest_read rfl faultless
  have sends : ∀ generated items, sentText? "REPLY_COMMENT" (.obj config) generated items =
      replyText? generated parsed.reply := fun generated items => by
    simp [sentText?, read, Except.toOption]
  refine ⟨fun items env w r w' ends => ?_, fun text items present => ?_, fun holds items => ?_⟩
  · rw [Exec.lacksText_replyComment read ends]
    change _ ↔ _ ∧ sentText? "REPLY_COMMENT" _ _ _ = none
    rw [sends]
    rfl
  · change sentText? "REPLY_COMMENT" _ _ _ ≠ none
    rw [sends, replyText?_of_present present]
    simp
  · obtain ⟨text, found, present⟩ : ∃ text, config.get? "commentReply" = some (.str text) ∧
        Text.allBlank text = false :=
      exists_of_holdsText (by simpa [hasStaticText, replyComment] using holds)
    change sentText? "REPLY_COMMENT" _ _ _ ≠ none
    rw [sends, ReplyCommentConfig.reply_of_read? found read, replyText?_of_static present]
    simp

theorem sender_replyMention (faultless : replyMention.problems (.obj config) = []) :
    replyMention.Sender config := by
  obtain ⟨parsed, read⟩ :
      ∃ parsed, ReplyMentionConfig.read? (settingsOf (.obj config)) = .ok parsed :=
    exists_read_of_problems ReplyMentionConfig.honest_read rfl faultless
  have sends : ∀ generated items, sentText? "REPLY_MENTION" (.obj config) generated items =
      replyText? generated parsed.reply := fun generated items => by
    simp [sentText?, read, Except.toOption]
  refine ⟨fun items env w r w' ends => ?_, fun text items present => ?_, fun holds items => ?_⟩
  · rw [Exec.lacksText_replyMention read ends]
    change _ ↔ _ ∧ sentText? "REPLY_MENTION" _ _ _ = none
    rw [sends]
    rfl
  · change sentText? "REPLY_MENTION" _ _ _ ≠ none
    rw [sends, replyText?_of_present present]
    simp
  · obtain ⟨text, found, present⟩ : ∃ text, config.get? "message" = some (.str text) ∧
        Text.allBlank text = false :=
      exists_of_holdsText (by simpa [hasStaticText, replyMention] using holds)
    change sentText? "REPLY_MENTION" _ _ _ ≠ none
    rw [sends, ReplyMentionConfig.reply_of_read? found read, replyText?_of_static present]
    simp

end Executor

/-- Every built-in executor that sends texts does so in this way. -/
theorem Dispatch.sender_builtin {bridge : Option Bridge} {subType : String} {e : Executor}
    (found : (⟨.builtin, bridge⟩ : Dispatch).resolve? subType = some e)
    (consumes : e.consumesText = true) {config : Entries Value}
    (faultless : e.problems (.obj config) = []) : e.Sender config := by
  rcases (builtin_resolves found).2 with rfl | rfl | rfl | rfl | silent
  · exact Executor.sender_message faultless
  · exact Executor.sender_replyComment faultless
  · exact Executor.sender_replyMention faultless
  · cases consumes
  · exact absurd (silent.consumes.symm.trans consumes) Bool.false_ne_true

end Chatflow
