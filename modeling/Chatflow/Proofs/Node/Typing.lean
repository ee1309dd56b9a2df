import Chatflow.Proofs.Node.Moves
import Chatflow.Proofs.Node.Transparent
import Chatflow.Proofs.Schema.Flag

/-!
# The typing indicator

Nodes of four kinds can show the typing indicator before they send something. Their settings say so
under the name of the field or under its alias, in one of several ways to write a flag. What was
read of them does not decide: the indicator is shown when the entry under the alias counts as true,
as it is. The two differ for a text that is read as false, and for an entry under the name of the
field (`typing_shown_unasked`).
-/

namespace Chatflow

open Service

variable {config : Entries Value} {asked : Bool}

/-! ### Settings -/

/-- Whether valid settings of a node of a subtype ask for the typing indicator once they are
read. -/
def typingSetting? (subType : String) (config : Entries Value) : Option Bool :=
  let settings := Executor.settingsOf (.obj config)
  match subType with
  | "MESSAGE" => (MessageConfig.read? settings).toOption.map (·.typingIndicator)
  | "CAROUSEL" => (CarouselConfig.read? settings).toOption.map (·.typingIndicator)
  | "BUTTON_TEMPLATE" => (ButtonTemplateConfig.read? settings).toOption.map (·.typingIndicator)
  | "QUICK_REPLIES" => (QuickRepliesConfig.read? settings).toOption.map (·.typingIndicator)
  | _ => none

/-- The entry under the alias agrees with what was read: there is one if the settings ask for the
typing indicator, and if not it is no text. -/
def TypingAgrees (config : Entries Value) : Bool → Prop
  | true => config.get? "typingIndicator" ≠ none
  | false => ∀ text, config.get? "typingIndicator" ≠ some (.str text)

/-- An entry under the alias counts as true if it was read so or is a text. -/
theorem wantsTyping_eq
    (read : MessageConfig.typingField.orDefault false Schema.flag config = .ok asked) :
    wantsTyping config =
      (config.get? "typingIndicator").any fun v => asked || v.text?.isSome := by
  unfold wantsTyping
  cases found : config.get? "typingIndicator" with
  | none => rfl
  | some v =>
    have finds : MessageConfig.typingField.find? config = some ("typingIndicator", v) := by
      simp [MessageConfig.typingField, Schema.Field.find?, Schema.Field.aliased, found]
    unfold Schema.Field.orDefault at read
    rw [finds] at read
    exact Schema.truthy_of_flag (Schema.Checked.under_eq_ok read)

theorem wantsTyping_iff
    (read : MessageConfig.typingField.orDefault false Schema.flag config = .ok asked) :
    (wantsTyping config = true ↔ asked = true) ↔ TypingAgrees config asked := by
  rw [wantsTyping_eq read]
  unfold TypingAgrees
  cases config.get? "typingIndicator" with
  | none => cases asked <;> simp
  | some v => cases asked <;> cases v <;> simp [Value.text?]

/-- The text that a message puts in place does not bear on the typing indicator. -/
theorem get?_acceptMessage (config : Entries Value) (key : String) (other : key ≠ "text") :
    (ButtonTemplateConfig.acceptMessage config).get? key = config.get? key := by
  unfold ButtonTemplateConfig.acceptMessage
  split
  · rfl
  · split
    · split
      · exact Table.get?_put_of_ne config _ other
      · rfl
    · rfl

theorem typing_of_acceptMessage {shown : Bool}
    (typing : MessageConfig.typingField.orDefault false Schema.flag
      (ButtonTemplateConfig.acceptMessage config) = .ok shown) :
    MessageConfig.typingField.orDefault false Schema.flag config = .ok shown := by
  have finds : MessageConfig.typingField.find? (ButtonTemplateConfig.acceptMessage config) =
      MessageConfig.typingField.find? config := by
    simp [MessageConfig.typingField, Schema.Field.find?, Schema.Field.aliased, get?_acceptMessage]
  unfold Schema.Field.orDefault at typing ⊢
  rwa [finds] at typing

/-- The settings of each kind read the typing indicator in the same way. -/
theorem MessageConfig.typing_of_read? {parsed : MessageConfig}
    (valid : read? (Executor.settingsOf (.obj config)) = .ok parsed) :
    typingField.orDefault false Schema.flag config = .ok parsed.typingIndicator := by
  rw [Executor.settingsOf_obj] at valid
  obtain ⟨_, asked, first, typing, rfl⟩ :=
    Schema.Checked.seq_eq_ok_iff.mp (Schema.Checked.named_eq_ok_iff.mp valid)
  obtain ⟨_, -, rfl⟩ := Schema.Checked.map_eq_ok_iff.mp first
  exact typing

theorem CarouselConfig.typing_of_read? {parsed : CarouselConfig}
    (valid : read? (Executor.settingsOf (.obj config)) = .ok parsed) :
    MessageConfig.typingField.orDefault false Schema.flag config = .ok parsed.typingIndicator := by
  rw [Executor.settingsOf_obj] at valid
  obtain ⟨_, asked, first, typing, rfl⟩ :=
    Schema.Checked.seq_eq_ok_iff.mp (Schema.Checked.named_eq_ok_iff.mp valid)
  obtain ⟨_, -, rfl⟩ := Schema.Checked.map_eq_ok_iff.mp first
  exact typing

theorem ButtonTemplateConfig.typing_of_read? {parsed : ButtonTemplateConfig}
    (valid : read? (Executor.settingsOf (.obj config)) = .ok parsed) :
    MessageConfig.typingField.orDefault false Schema.flag config = .ok parsed.typingIndicator := by
  rw [Executor.settingsOf_obj] at valid
  obtain ⟨_, asked, both, typing, rfl⟩ :=
    Schema.Checked.seq_eq_ok_iff.mp (Schema.Checked.named_eq_ok_iff.mp valid)
  obtain ⟨_, _, first, -, rfl⟩ := Schema.Checked.seq_eq_ok_iff.mp both
  obtain ⟨_, -, rfl⟩ := Schema.Checked.map_eq_ok_iff.mp first
  exact typing_of_acceptMessage typing

theorem QuickRepliesConfig.typing_of_read? {parsed : QuickRepliesConfig}
    (valid : read? (Executor.settingsOf (.obj config)) = .ok parsed) :
    MessageConfig.typingField.orDefault false Schema.flag config = .ok parsed.typingIndicator := by
  rw [Executor.settingsOf_obj] at valid
  obtain ⟨_, asked, both, typing, rfl⟩ :=
    Schema.Checked.seq_eq_ok_iff.mp (Schema.Checked.named_eq_ok_iff.mp valid)
  obtain ⟨_, _, first, -, rfl⟩ := Schema.Checked.seq_eq_ok_iff.mp both
  obtain ⟨_, -, rfl⟩ := Schema.Checked.map_eq_ok_iff.mp first
  exact typing

/-! ### Messengers that lose nothing -/

namespace Service.Messenger

def Reliable (m : Messenger) : Prop := ∀ call fault, m.script.disturbance call ≠ some (.lost fault)

theorem Reliable.send {m : Messenger} (reliable : m.Reliable) (call : OutboundCall) :
    (∃ result, (m.send call).1 = .ok result) ∧ (m.send call).2.calls = m.calls ++ [call] ∧
      (m.send call).2.Reliable := by
  have arrives := reliable m.script.calls
  unfold Messenger.send Script.next
  dsimp only
  cases event : m.script.disturbance m.script.calls with
  | none =>
    dsimp only
    split
    · exact ⟨⟨_, rfl⟩, rfl, reliable⟩
    · exact ⟨⟨_, rfl⟩, rfl, reliable⟩
  | some what =>
    cases what with
    | lost fault => exact absurd event (arrives fault)
    | rejected error => exact ⟨⟨_, rfl⟩, rfl, reliable⟩

end Service.Messenger

theorem Env.called_of_reliable {env : Env} {m : Messenger} (reliable : m.Reliable)
    (call : OutboundCall) :
    env.called call (some m) = some (if env.settings.isOk then (m.send call).2 else m) := by
  obtain ⟨⟨result, answers⟩, -⟩ := reliable.send call
  unfold Env.called Env.persist
  cases env.settings with
  | error defect => rfl
  | ok s =>
    dsimp only
    rw [s.persist_of_ok answers]
    rfl

/-! ### The executors -/

/-- With settings that ask for the typing indicator or not, an executor makes its call with retries,
perhaps after the typing indicator. It makes none when it is a message without a text. -/
structure Executor.Announces (e : Executor) (config : Entries Value) (asked : Bool) : Prop where
  agrees : (wantsTyping config = true ↔ asked = true) ↔ TypingAgrees config asked
  moves : ∀ items env w,
    let w' := (Exec.outcome (e.execute (.obj config) items) env w).2
    e.subType = "MESSAGE" ∧ sentText? "MESSAGE" (.obj config) w.handoff.take.1 items = none ∧
        w'.services.messaging = w.services.messaging ∨
      ∃ call, call.isVisible = true ∧
        w'.services.messaging = env.called call (env.prepared config w.services.messaging)

theorem exists_read_of_setting {γ ε : Type} {read : Except ε γ} {setting : γ → Bool}
    (own : read.toOption.map setting = some asked) :
    ∃ parsed, read = .ok parsed ∧ setting parsed = asked := by
  cases read with
  | error invalid => cases own
  | ok parsed => exact ⟨parsed, rfl, Option.some.inj own⟩

theorem announces_message (setting : typingSetting? "MESSAGE" config = some asked) :
    message.Announces config asked := by
  obtain ⟨parsed, valid, rfl⟩ := exists_read_of_setting setting
  refine ⟨wantsTyping_iff (MessageConfig.typing_of_read? valid), fun items env w => ?_⟩
  have sends : sentText? "MESSAGE" (.obj config) w.handoff.take.1 items =
      (messageText? w.handoff.take.1 parsed.message items).map (·.1) := by
    simp only [sentText?, valid, Except.toOption, Option.bind_some]
  have moves := Exec.messaging_message valid items env w
  rw [← sends] at moves
  cases found : sentText? "MESSAGE" (.obj config) w.handoff.take.1 items with
  | none =>
    rw [found] at moves
    exact .inl ⟨rfl, rfl, moves⟩
  | some text =>
    rw [found] at moves
    exact .inr ⟨_, rfl, moves⟩

theorem announces_carousel (setting : typingSetting? "CAROUSEL" config = some asked) :
    carousel.Announces config asked := by
  obtain ⟨parsed, valid, rfl⟩ := exists_read_of_setting setting
  refine ⟨wantsTyping_iff (CarouselConfig.typing_of_read? valid), fun items env w => .inr ?_⟩
  let call (c : Context) : OutboundCall := .carousel c.pageId c.senderId
    (parsed.elements.map CarouselElement.payload)
  refine ⟨call env.context, rfl, ?_⟩
  dsimp only [carousel]
  rw [Exec.outcome_withConfig valid]
  refine Exec.Moves.ends (f := env.called (call env.context) ∘ env.prepared config) ?_ _
  exact Exec.moves_structured _ _ _ _ fun result m => by grind

theorem announces_buttonTemplate (setting : typingSetting? "BUTTON_TEMPLATE" config = some asked) :
    buttonTemplate.Announces config asked := by
  obtain ⟨parsed, valid, rfl⟩ := exists_read_of_setting setting
  refine ⟨wantsTyping_iff (ButtonTemplateConfig.typing_of_read? valid), fun items env w => .inr ?_⟩
  let call (c : Context) : OutboundCall := .buttonTemplate c.pageId c.senderId parsed.text
    (parsed.buttons.map fun b => withoutNulls b.value)
  refine ⟨call env.context, rfl, ?_⟩
  dsimp only [buttonTemplate]
  rw [Exec.outcome_withConfig valid]
  refine Exec.Moves.ends (f := env.called (call env.context) ∘ env.prepared config) ?_ _
  exact Exec.moves_structured _ _ _ _ fun result m => by grind

theorem announces_quickReplies (setting : typingSetting? "QUICK_REPLIES" config = some asked) :
    quickReplies.Announces config asked := by
  obtain ⟨parsed, valid, rfl⟩ := exists_read_of_setting setting
  refine ⟨wantsTyping_iff (QuickRepliesConfig.typing_of_read? valid), fun items env w => .inr ?_⟩
  let call (c : Context) : OutboundCall := .quickReplies c.pageId c.senderId parsed.text
    (parsed.replies.map fun r => withoutNulls r.value)
  refine ⟨call env.context, rfl, ?_⟩
  dsimp only [quickReplies]
  rw [Exec.outcome_withConfig valid]
  refine Exec.Moves.ends (f := env.called (call env.context) ∘ env.prepared config) ?_ _
  exact Exec.moves_structured _ _ _ _ fun result m => by grind

/-! ### The calls -/

namespace Env

variable {env : Env} {call shown : OutboundCall}

def made (env : Env) (config : Entries Value) (call : OutboundCall) : List OutboundCall :=
  (if wantsTyping config then [env.context.typingCall] else []) ++
    if env.settings.isOk then [call] else []

theorem made_of_readable (readable : env.settings.isOk = true) :
    env.made config call =
      if wantsTyping config then [env.context.typingCall, call] else [call] := by
  rw [made, if_pos readable]
  split <;> rfl

theorem eq_of_mem_made (mem : shown ∈ env.made config call) (visible : shown.isVisible = true) :
    shown = call ∧ env.settings.isOk = true := by
  have hidden : env.context.typingCall.isVisible = false := rfl
  rcases List.mem_append.mp mem with typing | own
  · split at typing
    · rw [List.mem_singleton.mp typing, hidden] at visible
      cases visible
    · cases typing
  · split at own
    · exact ⟨List.mem_singleton.mp own, ‹_›⟩
    · cases own

theorem exists_called_prepared {m : Messenger} (reliable : m.Reliable) (config : Entries Value)
    (env : Env) (call : OutboundCall) :
    ∃ m', env.called call (env.prepared config (some m)) = some m' ∧
      m'.calls = m.calls ++ env.made config call := by
  obtain ⟨m₁, shown, found, reliable₁⟩ : ∃ m₁, env.prepared config (some m) = some m₁ ∧
      m₁.calls = m.calls ++ (if wantsTyping config then [env.context.typingCall] else []) ∧
      m₁.Reliable := by
    unfold prepared
    split
    · exact ⟨_, rfl, (reliable.send _).2⟩
    · exact ⟨m, rfl, (List.append_nil _).symm, reliable⟩
  refine ⟨_, by rw [shown, called_of_reliable reliable₁], ?_⟩
  rw [made, ← List.append_assoc, ← found]
  split
  · exact (reliable₁.send call).2.1
  · exact (List.append_nil _).symm

end Env

/-- A node of one of the four kinds, with valid settings and a messenger that loses nothing, shows
the typing indicator right before it sends something when the entry under the alias counts as true.
That is what was read of the settings if and only if the entry agrees with it: where there is none,
the settings may still ask for the typing indicator under the name of the field, and an entry that
is a text may say that they do not. -/
theorem typing_follows_entry {e : Executor}
    (sends : e ∈ [message, carousel, buttonTemplate, quickReplies])
    (setting : typingSetting? e.subType config = some asked) (items : List Item) (env : Env)
    {w : World} {m : Messenger} (there : w.services.messaging = some m) (reliable : m.Reliable) :
    ∃ m' made, (Exec.outcome (e.execute (.obj config) items) env w).2.services.messaging = some m' ∧
      m'.calls = m.calls ++ made ∧
      (env.settings.isOk = true → (e.subType = "MESSAGE" →
          sentText? "MESSAGE" (.obj config) w.handoff.take.1 items ≠ none) →
        ∃ call ∈ made, call.isVisible = true) ∧
      ∀ call ∈ made, call.isVisible = true →
        (made = [env.context.typingCall, call] ∨ made = [call]) ∧
        (made = [env.context.typingCall, call] ↔ wantsTyping config = true) ∧
        ((made = [env.context.typingCall, call] ↔ asked = true) ↔ TypingAgrees config asked) := by
  have announces : e.Announces config asked := by
    simp only [List.mem_cons, List.not_mem_nil, or_false] at sends
    rcases sends with rfl | rfl | rfl | rfl
    · exact announces_message setting
    · exact announces_carousel setting
    · exact announces_buttonTemplate setting
    · exact announces_quickReplies setting
  rcases announces.moves items env w with ⟨isMessage, textless, kept⟩ | ⟨sent, visible, called⟩
  · exact ⟨m, [], kept.trans there, (List.append_nil _).symm,
      fun _ texts => absurd textless (texts isMessage), List.forall_mem_nil _⟩
  · obtain ⟨m', left, made⟩ := Env.exists_called_prepared reliable config env sent
    rw [there, left] at called
    refine ⟨m', _, called, made, fun readable _ => ⟨sent, ?_, visible⟩, fun call mem shown => ?_⟩
    · rw [Env.made_of_readable readable]
      split <;> simp
    · obtain ⟨rfl, readable⟩ := Env.eq_of_mem_made mem shown
      rw [Env.made_of_readable readable]
      have follows : (if wantsTyping config then [env.context.typingCall, call] else [call]) =
          [env.context.typingCall, call] ↔ wantsTyping config = true := by
        split <;> simp_all
      refine ⟨?_, follows, (iff_congr follows Iff.rfl).trans announces.agrees⟩
      split <;> simp

def greetingTyping (key : String) (entry : Value) : Entries Value :=
  [("message", .str "Hi"), (key, entry)]

/-- The settings ask for the typing indicator with a number. -/
theorem typing_shown_asked :
    typingSetting? message.subType (greetingTyping "typingIndicator" (.int 1)) = some true ∧
      Messenger.recording.Reliable ∧
      ∃ m', (Exec.outcome (message.execute (.obj (greetingTyping "typingIndicator" (.int 1))) [])
          (.standard "run") .sending).2.services.messaging = some m' ∧
        ∃ call, m'.calls = [(Env.standard "run").context.typingCall, call] := by
  have setting : typingSetting? message.subType (greetingTyping "typingIndicator" (.int 1)) =
      some true := by decide
  have reliable : Messenger.recording.Reliable := nofun
  obtain ⟨m', made, left, calls, sends, shows⟩ := typing_follows_entry (e := message) (by simp)
    setting [] (.standard "run") (w := .sending) rfl reliable
  obtain ⟨call, mem, visible⟩ := sends rfl fun _ => by decide
  have shown := ((shows call mem visible).2.2.mpr nofun).mpr rfl
  exact ⟨setting, reliable, m', left, call, calls.trans shown⟩

/-- The settings say with a text that the typing indicator is not to be shown, and it is. -/
theorem typing_shown_unasked :
    typingSetting? "MESSAGE" (greetingTyping "typingIndicator" (.str "false")) = some false ∧
      Messenger.recording.Reliable ∧
      ((Exec.outcome (message.execute (.obj (greetingTyping "typingIndicator" (.str "false"))) [])
          (.standard "run") .sending).2.services.messaging.map fun m => m.calls.map (·.kind)) =
        some [.senderAction, .text] :=
  ⟨by decide +kernel, nofun, by decide +kernel⟩

end Chatflow
