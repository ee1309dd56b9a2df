import Chatflow.Proofs.Node.Answers
import Chatflow.Proofs.Node.Moves
import Chatflow.Proofs.Node.Transparent

/-!
# Texts that the check finds

Before a run it is checked whether the settings of a node hold a text to send, by the keys of the
settings as they are. The node takes its text from the settings as they were read. What the check
finds is sent, but the node also sends a text that the check misses: the one that stands under the
name of the field, where the check only knows its alias (`hidden_reply_sent`).
-/

namespace Chatflow

open Service

variable {config : Entries Value} {items : List Item} {env : Env} {w : World}

def Env.SendsText (env : Env) (text : String) (before after : Option Messenger) : Prop :=
  ∃ call m, call.isVisible = true ∧ call.text = some text ∧
    (m = before ∨ m = env.indicated before) ∧ after = env.called call m

/-- A node with a text of its own sends it, and without one it lacks a text. -/
structure NodeResult.Tells (r : NodeResult) (env : Env) (own : Option String)
    (before after : Option Messenger) : Prop where
  lacks : r.LacksText ↔ own = none
  keeps : own = none → after = before
  sends : ∀ text, own = some text → env.SendsText text before after

/-- The execution ends with a result and tells the text in the settings of the node, if there is
one. -/
def Executor.TellsOwn (e : Executor) (config : Entries Value) (items : List Item) (env : Env)
    (w : World) : Prop :=
  ∃ r w', Exec.outcome (e.execute (.obj config) items) env w = (.ok (.result r), w') ∧
    r.Tells env (presentText? (staticText? e.subType config)) w.services.messaging
      w'.services.messaging

/-! ### The check -/

namespace Executor

theorem holdsText_eq (config : Entries Value) (key : String) :
    holdsText config key = (presentText? ((config.get? key).bind Value.text?)).isSome := by
  unfold holdsText presentText?
  cases config.get? key with
  | none => rfl
  | some v => cases v <;> simp [Value.text?, Option.filter_some, apply_ite Option.isSome]

theorem hasStaticText_message :
    message.hasStaticText config = (presentText? (staticText? "MESSAGE" config)).isSome := by
  simp [hasStaticText, message, messageSender, holdsText_eq, staticText?]

theorem hasStaticText_replyMention :
    replyMention.hasStaticText config =
      (presentText? (staticText? "REPLY_MENTION" config)).isSome := by
  simp [hasStaticText, replyMention, holdsText_eq, staticText?]

theorem hasStaticText_replyComment :
    replyComment.hasStaticText config = holdsText config "commentReply" := by
  simp [hasStaticText, replyComment]

/-- The text of a reply to a comment stands under the alias of its field, or else under its name. -/
theorem staticText?_replyComment :
    (presentText? (staticText? "REPLY_COMMENT" config)).isSome =
      match config.get? "commentReply" with
      | some _ => holdsText config "commentReply"
      | none => holdsText config "comment_reply" := by
  simp only [holdsText_eq, staticText?, ReplyCommentConfig.replyField, Schema.Field.find?,
    Schema.Field.aliased]
  cases config.get? "commentReply" with
  | some v => rfl
  | none => cases config.get? "comment_reply" <;> rfl

/-- The text of a reply to a comment stands only under the name of its field. -/
def HidesText (e : Executor) (config : Entries Value) : Prop :=
  e.subType = "REPLY_COMMENT" ∧ config.get? "commentReply" = none ∧
    holdsText config "comment_reply" = true

/-- The texts in settings are those that the check finds and those that are hidden from it. -/
theorem static_or_hidden {e : Executor} (sends : e ∈ [message, replyComment, replyMention])
    (config : Entries Value) :
    (presentText? (staticText? e.subType config) ≠ none ↔
        e.hasStaticText config = true ∨ e.HidesText config) ∧
      (e.HidesText config → e.hasStaticText config = false) := by
  rw [← Option.isSome_iff_ne_none]
  simp only [List.mem_cons, List.not_mem_nil, or_false] at sends
  rcases sends with rfl | rfl | rfl
  · rw [hasStaticText_message]
    exact ⟨(or_iff_left fun hides => absurd hides.1 (by decide)).symm,
      fun hides => absurd hides.1 (by decide)⟩
  · have own : (presentText? (staticText? replyComment.subType config)).isSome = _ :=
      staticText?_replyComment
    have hides : replyComment.HidesText config ↔
        config.get? "commentReply" = none ∧ holdsText config "comment_reply" = true :=
      and_iff_right rfl
    rw [hasStaticText_replyComment, hides, own]
    cases found : config.get? "commentReply" with
    | some v => simp
    | none => simp [holdsText, found]
  · rw [hasStaticText_replyMention]
    exact ⟨(or_iff_left fun hides => absurd hides.1 (by decide)).symm,
      fun hides => absurd hides.1 (by decide)⟩

end Executor

/-! ### The nodes -/

theorem Handoff.take_of_empty {h : Handoff} (empty : h.pending = []) : h.take.1 = none := by
  simp [Handoff.take, Handoff.visible, Handoff.producers, Table.names, empty]

theorem itemText?_eq_none (untexted : ∀ item ∈ items, item.get? "message" = none) :
    itemText? items = none := by
  cases items with
  | nil => rfl
  | cons item rest => simp [itemText?, untexted item (by simp)]

theorem NodeResult.tells_of_call {r : NodeResult} {own : Option String}
    {before m after : Option Messenger} {call : String → OutboundCall}
    (lacks : r.LacksText ↔ own = none)
    (shows : ∀ text, (call text).isVisible = true ∧ (call text).text = some text)
    (finds : m = before ∨ m = env.indicated before)
    (moves : after = (own.map fun text => env.called (call text) m).getD before) :
    r.Tells env own before after := by
  refine ⟨lacks, fun absent => ?_, fun text found => ?_⟩
  · rw [moves, absent]
    rfl
  · rw [found] at moves
    exact ⟨call text, m, (shows text).1, (shows text).2, finds, moves⟩

theorem tells_message (faultless : message.problems (.obj config) = [])
    (empty : w.handoff.pending = []) (untexted : ∀ item ∈ items, item.get? "message" = none) :
    message.TellsOwn config items env w := by
  obtain ⟨parsed, read⟩ : ∃ parsed,
      MessageConfig.read? (Executor.settingsOf (.obj config)) = .ok parsed :=
    Executor.exists_read_of_problems MessageConfig.honest_read rfl faultless
  have answers : Exec.Answers (message.execute (.obj config) items) := Exec.answers_messageSender ..
  obtain ⟨r, w', ends, -⟩ := answers.ends env w
  have lacks := Exec.lacksText_message read ends
  have moves := Exec.messaging_message read items env w
  have own : (messageText? none parsed.message items).map (·.1) =
      presentText? (staticText? "MESSAGE" config) := by
    have alone : ∀ t : Option String, (t <|> presentText? none) = t := fun t => by
      cases t <;> rfl
    rw [messageText?_none, itemText?_eq_none untexted, MessageConfig.message_eq read, alone]
    rfl
  rw [ends, Handoff.take_of_empty empty, own] at moves
  rw [Handoff.take_of_empty empty, ← Option.map_eq_none_iff, own] at lacks
  refine ⟨r, w', ends, NodeResult.tells_of_call lacks (fun text => ⟨rfl, rfl⟩) ?_ moves⟩
  unfold Env.prepared
  split <;> simp

theorem tells_replyComment (faultless : replyComment.problems (.obj config) = [])
    (empty : w.handoff.pending = []) (target : ¬env.context.LacksTarget "REPLY_COMMENT") :
    replyComment.TellsOwn config items env w := by
  obtain ⟨parsed, read⟩ : ∃ parsed,
      ReplyCommentConfig.read? (Executor.settingsOf (.obj config)) = .ok parsed :=
    Executor.exists_read_of_problems ReplyCommentConfig.honest_read rfl faultless
  obtain ⟨comment, given⟩ :=
    Option.ne_none_iff_exists'.mp (mt lacksTarget_replyComment.mpr target)
  obtain ⟨r, w', ends, -⟩ := (Exec.answers_replyComment items (.obj config)).ends env w
  have lacks := Exec.lacksText_replyComment read ends
  have moves := Exec.messaging_replyComment read given items w
  have own : replyText? none parsed.reply = presentText? (staticText? "REPLY_COMMENT" config) := by
    rw [ReplyCommentConfig.reply_eq read]
    rfl
  rw [ends, Handoff.take_of_empty empty, own] at moves
  rw [and_iff_right target, Handoff.take_of_empty empty, own] at lacks
  exact ⟨r, w', ends, NodeResult.tells_of_call lacks (fun text => ⟨rfl, rfl⟩) (.inl rfl) moves⟩

theorem tells_replyMention (faultless : replyMention.problems (.obj config) = [])
    (empty : w.handoff.pending = []) (target : ¬env.context.LacksTarget "REPLY_MENTION") :
    replyMention.TellsOwn config items env w := by
  obtain ⟨parsed, read⟩ : ∃ parsed,
      ReplyMentionConfig.read? (Executor.settingsOf (.obj config)) = .ok parsed :=
    Executor.exists_read_of_problems ReplyMentionConfig.honest_read rfl faultless
  obtain ⟨media, given⟩ :=
    Option.ne_none_iff_exists'.mp (mt lacksTarget_replyMention.mpr target)
  obtain ⟨r, w', ends, -⟩ := (Exec.answers_replyMention items (.obj config)).ends env w
  have lacks := Exec.lacksText_replyMention read ends
  have moves := Exec.messaging_replyMention read given items w
  have own : replyText? none parsed.reply = presentText? (staticText? "REPLY_MENTION" config) := by
    rw [ReplyMentionConfig.reply_eq read]
    rfl
  rw [ends, Handoff.take_of_empty empty, own] at moves
  rw [and_iff_right target, Handoff.take_of_empty empty, own] at lacks
  exact ⟨r, w', ends, NodeResult.tells_of_call lacks (fun text => ⟨rfl, rfl⟩) (.inl rfl) moves⟩

/-! ### The check and the nodes -/

/-- A node of one of the kinds that send a text, with settings that were accepted, an event to reply
to and no generated text, sends the text in its settings that is not blank, or it lacks a text and
sends nothing. What the check finds is sent. It misses a text only in the settings of a reply to a
comment: where there is no entry under the alias of the field, but a text under its name. -/
theorem static_text_sent {e : Executor} (sends : e ∈ [message, replyComment, replyMention])
    (faultless : e.problems (.obj config) = []) (items : List Item) (env : Env) (w : World)
    (empty : w.handoff.pending = []) (comment : env.context.commentId.getD "" ≠ "")
    (media : env.context.mediaId.getD "" ≠ "")
    (untexted : ∀ item ∈ items, item.get? "message" = none) :
    ∃ r w', Exec.outcome (e.execute (.obj config) items) env w = (.ok (.result r), w') ∧
      (r.LacksText → w'.services.messaging = w.services.messaging) ∧
      (¬r.LacksText → ∃ text, staticText? e.subType config = some text ∧
        Text.allBlank text = false ∧
        env.SendsText text w.services.messaging w'.services.messaging) ∧
      (¬r.LacksText ↔ e.hasStaticText config = true ∨ e.HidesText config) ∧
      (e.HidesText config → e.hasStaticText config = false) := by
  have tells : e.TellsOwn config items env w := by
    simp only [List.mem_cons, List.not_mem_nil, or_false] at sends
    rcases sends with rfl | rfl | rfl
    · exact tells_message faultless empty untexted
    · exact tells_replyComment faultless empty (by simp [Context.LacksTarget, comment])
    · exact tells_replyMention faultless empty (by simp [Context.LacksTarget, media])
  obtain ⟨r, w', ends, tells⟩ := tells
  obtain ⟨found, missed⟩ := Executor.static_or_hidden sends config
  refine ⟨r, w', ends, fun lacks => tells.keeps (tells.lacks.mp lacks), fun has => ?_, ?_, missed⟩
  · obtain ⟨text, own⟩ := Option.ne_none_iff_exists'.mp (mt tells.lacks.mpr has)
    obtain ⟨static, present⟩ := Option.filter_eq_some_iff.mp own
    exact ⟨text, static, by simpa using present, tells.sends text own⟩
  · rw [tells.lacks, ← found]

def Env.commented : Env :=
  { Env.standard "run" with
    context := { Context.blank "run" with commentId := some "comment", mediaId := some "post" } }

/-- A reply stands under the alias of its field. -/
theorem listed_reply_sent :
    replyComment.problems (.obj [("commentReply", .str "Thanks")]) = [] ∧
      ∃ r w', Exec.outcome (replyComment.execute (.obj [("commentReply", .str "Thanks")]) [.empty])
          .commented .bare = (.ok (.result r), w') ∧ ¬r.LacksText := by
  have faultless : replyComment.problems (.obj [("commentReply", .str "Thanks")]) = [] := by
    decide
  obtain ⟨r, w', ends, -, -, found, -⟩ :=
    static_text_sent (e := replyComment) (by simp) faultless [.empty] .commented .bare rfl
      (by decide) (by decide) (by decide)
  exact ⟨faultless, r, w', ends, found.mpr (.inl (by decide))⟩

/-- A reply stands under the name of its field. The check does not find it, and it is sent. -/
theorem hidden_reply_sent :
    replyComment.problems (.obj [("comment_reply", .str "Thanks")]) = [] ∧
      replyComment.hasStaticText [("comment_reply", .str "Thanks")] = false ∧
      ∃ r w', Exec.outcome (replyComment.execute (.obj [("comment_reply", .str "Thanks")]) [.empty])
          .commented .sending = (.ok (.result r), w') ∧
        ¬r.LacksText ∧ w'.services.messaging.map Messenger.sentTexts = some ["Thanks"] := by
  have faultless : replyComment.problems (.obj [("comment_reply", .str "Thanks")]) = [] := by
    decide
  have tellsOwn : replyComment.TellsOwn [("comment_reply", .str "Thanks")] [.empty] .commented
      .sending := tells_replyComment faultless rfl (by decide)
  obtain ⟨r, w', ends, tells⟩ := tellsOwn
  have lacks : ¬r.LacksText := by
    rw [tells.lacks]
    decide
  refine ⟨faultless, by decide, r, w', ends, lacks, ?_⟩
  have sent :
      (Exec.outcome (replyComment.execute (.obj [("comment_reply", .str "Thanks")]) [.empty])
      .commented .sending).2.services.messaging.map
        Messenger.sentTexts = some ["Thanks"] := by decide +kernel
  rw [ends] at sent
  exact sent

end Chatflow
