import Chatflow.Proofs.Handoff.Discipline
import Chatflow.Proofs.Node.Plain
import Chatflow.Proofs.Schema.Honest

/-!
# What the built-in executors do with the hand-off

A node that sends texts takes the newest one that it sees, unless it is a reply and the event has
nothing to reply to. A node that generates texts puts one or none. No other node touches the
hand-off.
-/

namespace Chatflow

def Reply.Succeeded : Except Fault Reply → Prop
  | .ok (.result r) => r.success = true
  | _ => False

namespace Handoff

/-- The node at work puts a text that is not blank, or it does nothing and has no success. -/
def PutsOne (h : Handoff) (ended : Except Fault Reply) (h' : Handoff) : Prop :=
  h' = h ∧ ¬Reply.Succeeded ended ∨
    ∃ text, Text.allBlank text = false ∧ h.put text h.current = .ok h'

def TakesOne (h h' : Handoff) : Prop := h' = h ∨ h' = h.take.2

/-- What a node does that takes what there is to take. -/
def taking (h : Handoff) (node : String) : List TextEvent :=
  match h.visible.getLast? with
  | none => []
  | some producer => ((h.pending.get? producer).map (.taken node producer ·)).toList

theorem moves_taking (l : Liberty) (h : Handoff) (node : String) :
    Moves l node h (h.taking node) h.take.2 := by
  unfold taking
  split
  · rename_i none
    rw [take_of_nothing (List.getLast?_eq_none_iff.mp none)]
    exact .done h
  · rename_i producer newest
    obtain ⟨text, held⟩ := exists_held (List.mem_of_getLast? newest)
    rw [held]
    exact (Move.take newest held).single

end Handoff

/-- The event has nothing to which the reply of a subtype could go. -/
def Context.LacksTarget (c : Context) (subType : String) : Prop :=
  subType = "REPLY_COMMENT" ∧ c.commentId.getD "" = "" ∨
  subType = "REPLY_MENTION" ∧ c.mediaId.getD "" = ""

instance (c : Context) (subType : String) : Decidable (c.LacksTarget subType) :=
  inferInstanceAs (Decidable (_ ∨ _))

theorem filter_eq_none_iff (text : Option String) :
    text.filter (!·.isEmpty) = none ↔ text.getD "" = "" := by
  cases text <;> simp [Option.filter_eq_none_iff]

theorem lacksTarget_replyComment {c : Context} :
    c.LacksTarget "REPLY_COMMENT" ↔ c.commentId.filter (!·.isEmpty) = none := by
  rw [filter_eq_none_iff]
  simp [Context.LacksTarget]

theorem lacksTarget_replyMention {c : Context} :
    c.LacksTarget "REPLY_MENTION" ↔ c.mediaId.filter (!·.isEmpty) = none := by
  rw [filter_eq_none_iff]
  simp [Context.LacksTarget]

theorem usableResponse?_eq_some_iff {response : Value} {text : String} :
    usableResponse? response = some text ↔
      response = .str text ∧ Text.allBlank text = false := by
  unfold usableResponse? presentText?
  rw [Option.filter_eq_some_iff]
  cases response <;> simp [Value.text?]

namespace Exec

variable {α β : Type}

/-! ### Nodes that send texts -/

variable (env : Env) (w : World)

theorem handoff_takeText_bind {next : Option String → Exec β} (rest : ∀ text, Plain (next text)) :
    (outcome (takeText >>= next) env w).2.handoff = w.handoff.take.2 :=
  (rest w.handoff.take.1).quiet.keeps env { w with handoff := w.handoff.take.2 }

theorem handoff_messageSender (subType name home : String) {config : Value}
    {parsed : MessageConfig} (valid : MessageConfig.read? (Executor.settingsOf config) = .ok parsed)
    (items : List Item) :
    (outcome ((messageSender subType name home).execute config items) env w).2.handoff =
      w.handoff.take.2 := by
  have opens : outcome openJournal env w = (.ok (), { w with journal := [] }) := rfl
  dsimp only [messageSender]
  rw [outcome_bind_ok opens, withConfig, valid]
  exact handoff_takeText_bind env _ fun text => by grind

theorem handoff_withReplyText (subType : String) (configured : Option String)
    {body : String → Exec Reply} (own : ∀ text, Plain (body text)) :
    (outcome (withReplyText subType configured body) env w).2.handoff = w.handoff.take.2 :=
  handoff_takeText_bind env w fun text => by grind

theorem handoff_replyComment {config : Value} {parsed : ReplyCommentConfig}
    (valid : ReplyCommentConfig.read? (Executor.settingsOf config) = .ok parsed)
    (items : List Item) :
    (outcome (replyComment.execute config items) env w).2.handoff =
      if env.context.LacksTarget "REPLY_COMMENT" then w.handoff else w.handoff.take.2 := by
  have opens : outcome openJournal env w = (.ok (), { w with journal := [] }) := rfl
  dsimp only [replyComment]
  rw [outcome_bind_ok opens, withConfig, valid]
  dsimp only
  rw [outcome_bind_ok outcome_context]
  split
  · rename_i none
    rw [if_pos (lacksTarget_replyComment.mpr none)]
    exact (show Plain _ by grind).quiet.keeps env _
  · rename_i given
    rw [if_neg (fun none => by simp [lacksTarget_replyComment.mp none] at given)]
    exact handoff_withReplyText env _ _ _ fun text => by grind

theorem handoff_replyMention {config : Value} {parsed : ReplyMentionConfig}
    (valid : ReplyMentionConfig.read? (Executor.settingsOf config) = .ok parsed)
    (items : List Item) :
    (outcome (replyMention.execute config items) env w).2.handoff =
      if env.context.LacksTarget "REPLY_MENTION" then w.handoff else w.handoff.take.2 := by
  have opens : outcome openJournal env w = (.ok (), { w with journal := [] }) := rfl
  dsimp only [replyMention]
  rw [outcome_bind_ok opens, withConfig, valid]
  dsimp only
  rw [outcome_bind_ok outcome_context]
  split
  · rename_i none
    rw [if_pos (lacksTarget_replyMention.mpr none)]
    exact (show Plain _ by grind).quiet.keeps env _
  · rename_i given
    rw [if_neg (fun none => by simp [lacksTarget_replyMention.mp none] at given)]
    exact handoff_withReplyText env _ _ _ fun text => by grind

theorem handoff_withConfig_of_invalid {γ : Type} {subType : String}
    {read? : Value → Except Schema.Invalid γ} {config : Value} {body : γ → Exec Reply}
    {invalid : Schema.Invalid} (unread : read? (Executor.settingsOf config) = .error invalid) :
    (outcome (do openJournal; withConfig subType read? config body) env w).2.handoff =
      w.handoff := by
  have opens : outcome openJournal env w = (.ok (), { w with journal := [] }) := rfl
  rw [outcome_bind_ok opens, withConfig, unread]
  exact (show Plain _ by grind).quiet.keeps env _

theorem takesOne_message (config : Value) (items : List Item) :
    Handoff.TakesOne w.handoff (outcome (message.execute config items) env w).2.handoff := by
  cases read : MessageConfig.read? (Executor.settingsOf config) with
  | ok parsed => exact .inr (handoff_messageSender env w _ _ _ read items)
  | error invalid => exact .inl (handoff_withConfig_of_invalid env w read)

theorem takesOne_replyComment (config : Value) (items : List Item) :
    Handoff.TakesOne w.handoff (outcome (replyComment.execute config items) env w).2.handoff := by
  cases read : ReplyCommentConfig.read? (Executor.settingsOf config) with
  | ok parsed =>
    rw [handoff_replyComment env w read]
    split
    · exact .inl rfl
    · exact .inr rfl
  | error invalid => exact .inl (handoff_withConfig_of_invalid env w read)

theorem takesOne_replyMention (config : Value) (items : List Item) :
    Handoff.TakesOne w.handoff (outcome (replyMention.execute config items) env w).2.handoff := by
  cases read : ReplyMentionConfig.read? (Executor.settingsOf config) with
  | ok parsed =>
    rw [handoff_replyMention env w read]
    split
    · exact .inl rfl
    · exact .inr rfl
  | error invalid => exact .inl (handoff_withConfig_of_invalid env w read)

/-! ### Nodes that generate texts -/

/-- The execution puts a text that is not blank, or it has no success. -/
structure Makes (body : Exec Reply) : Prop where
  relates : ∀ (env : Env) (w : World),
    w.handoff.PutsOne (outcome body env w).1 (outcome body env w).2.handoff

theorem Quiet.bind_makes {body : Exec α} {next : α → Exec Reply} (first : Quiet body)
    (rest : ∀ a, Makes (next a)) : Makes (body >>= next) := by
  refine ⟨fun env w => ?_⟩
  have kept := first.keeps env w
  rw [outcome_bind]
  generalize outcome body env w = ends at kept ⊢
  obtain ⟨ended, v⟩ := ends
  cases ended with
  | error e => exact .inl ⟨kept, id⟩
  | ok a => exact kept ▸ (rest a).relates env v

theorem Plain.bind_makes {body : Exec α} {next : α → Exec Reply} (first : Plain body)
    (rest : ∀ a, Makes (next a)) : Makes (body >>= next) := first.quiet.bind_makes rest

theorem makes_throw (fault : Fault) : Makes (throw fault) := ⟨fun _ _ => .inl ⟨rfl, id⟩⟩

theorem makes_failWith (text : String) : Makes (failWith text) :=
  ⟨fun _ _ => .inl ⟨rfl, nofun⟩⟩

theorem makes_failure (subType : String) (level : Log.Level) (said : String)
    (data : Entries Value) (text : String) :
    Makes (do note subType level said data; failWith text) :=
  (plain_note ..).bind_makes fun _ => makes_failWith text

theorem makes_withinLimit (subType : String) {body : Exec Reply} (own : Makes body) :
    Makes (withinLimit subType body) := by
  refine plain_context.bind_makes fun c => ?_
  refine (plain_acquire _ _).attempt.bind_makes fun granted => ?_
  match granted with
  | .error fault => exact makes_failure ..
  | .ok false => exact makes_failure ..
  | .ok true => exact own

theorem makes_putText_bind {text : String} (present : Text.allBlank text = false)
    {next : Except Fault Unit → Exec Reply} (put : Plain (next (.ok ())))
    (refused : ∀ fault, Makes (next (.error fault))) :
    Makes (handoff >>= fun h => attempt (putText text h.current) >>= next) := by
  refine ⟨fun env w => ?_⟩
  rw [outcome_bind_ok outcome_handoff, outcome_bind_ok (outcome_attempt _), putText,
    outcome_bind_ok outcome_handoff]
  cases puts : w.handoff.put text w.handoff.current with
  | ok h =>
    have kept := put.quiet.keeps env { w with handoff := h }
    exact .inr ⟨text, present, puts.trans (congrArg Except.ok kept.symm)⟩
  | error earlier => exact (refused (.occupied earlier)).relates env w

theorem makes_generate (config : Value) (items : List Item) :
    Makes (Chatflow.generate.execute config items) := by
  refine Quiet.bind_makes ⟨fun _ _ => rfl⟩ fun _ => ?_
  split
  · exact makes_failure ..
  · refine makes_withinLimit _ (plain_context.bind_makes fun c => ?_)
    refine (plain_loadTurns _).bind_makes fun turns => (plain_note ..).bind_makes fun _ => ?_
    refine (plain_generateText _).attempt.bind_makes fun response => ?_
    split
    · exact makes_failure ..
    · split
      · exact makes_failure ..
      · rename_i text usable
        have present := (usableResponse?_eq_some_iff.mp usable).2
        refine makes_putText_bind present (by grind) fun fault => ?_
        cases fault with
        | occupied producer => exact makes_failure ..
        | _ => exact makes_throw _

/-! ### Other nodes -/

theorem detached_trigger (subType description name : String) (config : Value)
    (items : List Item) : Detached ((trigger subType description name).execute config items) :=
  (plain_pure _).toDetached

theorem detached_branchNode (subType description name : String) (config : Value)
    (items : List Item) : Detached ((branchNode subType description name).execute config items) :=
  (plain_pure _).toDetached

theorem detached_keywords (config : Value) (items : List Item) :
    Detached (keywords.execute config items) := by
  refine Plain.detached_open ?_
  split
  · grind
  · refine plain_context.bind fun c => (plain_note ..).seq ?_
    dsimp only
    split <;> grind

theorem detached_followerCheck (config : Value) (items : List Item) :
    Detached (Chatflow.isFollower.execute config items) := by
  refine Plain.detached_open (plain_context.bind fun c => (plain_note ..).seq ?_)
  exact (plain_lookUp _ _ (plain_isFollower _) id).bind fun found => by grind

theorem detached_hasTag (config : Value) (items : List Item) :
    Detached (hasTag.execute config items) := by
  refine Plain.detached_open ?_
  split
  · grind
  · refine plain_context.bind fun c => (plain_note ..).seq ?_
    dsimp only
    split
    · refine .bind ?_ fun found => by grind
      rw [← bind_pure_comp]
      exact (plain_lookUp _ _ (plain_mediaTags _) _).bind fun _ => plain_pure _
    · exact (plain_pure _).bind fun found => by grind

theorem detached_senderAction (subType description name action done : String) (config : Value)
    (items : List Item) :
    Detached ((senderAction subType description name action done).execute config items) :=
  Plain.detached_open (by grind)

theorem detached_delay (config : Value) (items : List Item) :
    Detached (delay.execute config items) := by
  refine Plain.detached_open ?_
  split
  · grind
  · refine plain_settings.bind fun s => ?_
    dsimp only
    split <;> grind

theorem detached_carousel (config : Value) (items : List Item) :
    Detached (carousel.execute config items) := by
  refine Plain.detached_open (plain_withConfig _ _ _ fun parsed => (plain_note ..).seq ?_)
  refine (plain_showTyping ..).seq (plain_context.bind fun c => plain_sendOr _ _ _ fun result => ?_)
  grind

theorem detached_buttonTemplate (config : Value) (items : List Item) :
    Detached (buttonTemplate.execute config items) := by
  refine Plain.detached_open (plain_withConfig _ _ _ fun parsed => (plain_note ..).seq ?_)
  refine (plain_showTyping ..).seq (plain_context.bind fun c => plain_sendOr _ _ _ fun result => ?_)
  grind

theorem detached_quickReplies (config : Value) (items : List Item) :
    Detached (quickReplies.execute config items) := by
  refine Plain.detached_open (plain_withConfig _ _ _ fun parsed => (plain_note ..).seq ?_)
  refine (plain_showTyping ..).seq (plain_context.bind fun c => plain_sendOr _ _ _ fun result => ?_)
  grind

theorem detached_executeLegacy (subType : String) (config : Value) :
    Detached (executeLegacy subType config) := by
  refine Plain.detached_open ?_
  split <;> grind

theorem detached_legacy (kind : LegacyKind) (config : Value) (items : List Item) :
    Detached (kind.executor.execute config items) :=
  (detached_executeLegacy kind.subType config).bind fun _ => (plain_pure _).toDetached

end Exec

/-! ### The dispatch -/

structure Executor.Silent (e : Executor) : Prop where
  consumes : e.consumesText = false
  produces : e.producesText = false
  detached : ∀ config items, Exec.Detached (e.execute config items)

namespace Executor

open Exec

theorem Silent.quiet {e : Executor} (silent : e.Silent) (config : Value) (items : List Item) :
    Quiet (e.execute config items) := (silent.detached config items).quiet

theorem silent_trigger (subType description name : String) :
    (trigger subType description name).Silent := ⟨rfl, rfl, detached_trigger _ _ _⟩

theorem silent_branchNode (subType description name : String) :
    (branchNode subType description name).Silent := ⟨rfl, rfl, detached_branchNode _ _ _⟩

theorem silent_senderAction (subType description name action done : String) :
    (senderAction subType description name action done).Silent :=
  ⟨rfl, rfl, detached_senderAction _ _ _ _ _⟩

theorem silent_legacy (kind : LegacyKind) : kind.executor.Silent :=
  ⟨rfl, rfl, detached_legacy kind⟩

/-- The built-in executors that deal with texts are three senders and a generator. -/
theorem builtin_cases {e : Executor} (mem : e ∈ builtinExecutors) :
    e = message ∨ e = replyComment ∨ e = replyMention ∨ e = Chatflow.generate ∨ e.Silent := by
  have silent : ∀ e ∈ [directMessage, comment, storyReply, mention, keywords, Chatflow.isFollower,
      hasTag, yesBranch, noBranch, carousel, buttonTemplate, quickReplies, typingOn, typingOff,
      markSeen, delay], e.Silent := by
    simp only [List.forall_mem_cons, List.not_mem_nil, false_imp_iff, implies_true, and_true]
    exact ⟨silent_trigger .., silent_trigger .., silent_trigger .., silent_trigger ..,
      ⟨rfl, rfl, detached_keywords⟩, ⟨rfl, rfl, detached_followerCheck⟩,
      ⟨rfl, rfl, detached_hasTag⟩,
      silent_branchNode .., silent_branchNode .., ⟨rfl, rfl, detached_carousel⟩,
      ⟨rfl, rfl, detached_buttonTemplate⟩, ⟨rfl, rfl, detached_quickReplies⟩,
      silent_senderAction ..,
      silent_senderAction .., silent_senderAction .., ⟨rfl, rfl, detached_delay⟩⟩
  have parts : e = message ∨ e = replyComment ∨ e = replyMention ∨ e = Chatflow.generate ∨
      e ∈ [directMessage, comment, storyReply, mention, keywords, Chatflow.isFollower, hasTag,
        yesBranch, noBranch, carousel, buttonTemplate, quickReplies, typingOn, typingOff, markSeen,
        delay] := by
    simp only [builtinExecutors, List.mem_cons, List.not_mem_nil, or_false] at mem ⊢
    tauto
  exact parts.imp_right (.imp_right (.imp_right (.imp_right (silent e))))

end Executor

namespace Dispatch

variable {bridge : Option Bridge} {subType : String} {e : Executor}

theorem resolves_builtin (found : (⟨.builtin, bridge⟩ : Dispatch).resolve? subType = some e) :
    e.subType = subType ∧ (e ∈ builtinExecutors ∨ ∃ kind : LegacyKind, e = kind.executor) := by
  unfold resolve? at found
  split at found
  · rename_i own registered
    obtain rfl : own = e := Option.some.inj found
    exact ⟨by simpa using List.find?_some registered,
      .inl (List.mem_of_find?_eq_some registered)⟩
  · obtain ⟨b, -, serves⟩ := Option.bind_eq_some_iff.mp found
    unfold Bridge.resolve? at serves
    split at serves
    · cases serves
    · obtain ⟨kind, known, rfl⟩ := Option.map_eq_some_iff.mp serves
      refine ⟨?_, .inr ⟨kind, rfl⟩⟩
      change kind.subType = subType
      simpa using List.find?_some known

theorem builtin_resolves (found : (⟨.builtin, bridge⟩ : Dispatch).resolve? subType = some e) :
    e.subType = subType ∧ (e = message ∨ e = replyComment ∨ e = replyMention ∨
      e = generate ∨ e.Silent) := by
  obtain ⟨same, registered | ⟨kind, rfl⟩⟩ := resolves_builtin found
  · exact ⟨same, Executor.builtin_cases registered⟩
  · exact ⟨same, .inr (.inr (.inr (.inr (Executor.silent_legacy kind))))⟩

end Dispatch

/-! ### Effects -/

theorem Executor.exists_read_of_problems {e : Executor} {γ : Type} {record : String}
    {read : Value → Schema.Checked γ} {value : γ → Value} {config : Value}
    (honest : ∀ v, (read v).Honest)
    (reads : e.readConfig = fun v => ((read v).named record).map value)
    (faultless : e.problems config = []) :
    ∃ parsed, (read (settingsOf config)).named record = .ok parsed := by
  refine (honest _).exists_of_named fun invalid unread => ?_
  rw [problems, reads] at faultless
  simpa [unread, Except.map] using faultless

/-- What an executor does with the hand-off that it finds, for nodes of its subtype. -/
inductive Executor.Effect (e : Executor) (c : Context) (h : Handoff) (ended : Except Fault Reply)
    (h' : Handoff) : Prop
  | sends (consumes : e.consumesText = true) (produces : e.producesText = false)
      (takes : h' = if c.LacksTarget e.subType then h else h.take.2)
  | generates (consumes : e.consumesText = false) (produces : e.producesText = true)
      (puts : h.PutsOne ended h')
  | silent (consumes : e.consumesText = false) (produces : e.producesText = false)
      (keeps : h' = h)

theorem Dispatch.builtin_effect {bridge : Option Bridge} {subType : String} {e : Executor}
    (found : (⟨.builtin, bridge⟩ : Dispatch).resolve? subType = some e) {config : Value}
    (faultless : e.problems config = []) (items : List Item) (env : Env) (w : World) :
    e.Effect env.context w.handoff (Exec.outcome (e.execute config items) env w).1
      (Exec.outcome (e.execute config items) env w).2.handoff := by
  rcases (builtin_resolves found).2 with rfl | rfl | rfl | rfl | silent
  · obtain ⟨parsed, read⟩ := Executor.exists_read_of_problems MessageConfig.honest_read rfl
      faultless
    have target : ¬env.context.LacksTarget message.subType := by
      simp [Context.LacksTarget, message, messageSender]
    refine .sends rfl rfl ?_
    rw [if_neg target]
    exact Exec.handoff_messageSender env w _ _ _ read items
  · obtain ⟨parsed, read⟩ := Executor.exists_read_of_problems ReplyCommentConfig.honest_read rfl
      faultless
    exact .sends rfl rfl (Exec.handoff_replyComment env w read items)
  · obtain ⟨parsed, read⟩ := Executor.exists_read_of_problems ReplyMentionConfig.honest_read rfl
      faultless
    exact .sends rfl rfl (Exec.handoff_replyMention env w read items)
  · exact .generates rfl rfl ((Exec.makes_generate config items).relates env w)
  · exact .silent silent.consumes silent.produces ((silent.quiet config items).keeps env w)

/-! ### Discipline -/

namespace Handoff

variable {h h' : Handoff} {node : String}

theorem putTexts_taking (h : Handoff) (node : String) : putTexts (h.taking node) = [] := by
  unfold taking
  split
  · rfl
  · cases h.pending.get? _ <;> rfl

theorem TakesOne.exists_moves (takes : TakesOne h h') (l : Liberty) :
    ∃ uses, Moves l node h uses h' ∧ putTexts uses = [] := by
  rcases takes with rfl | rfl
  · exact ⟨[], .done h', rfl⟩
  · exact ⟨_, moves_taking l h node, putTexts_taking h node⟩

theorem PutsOne.exists_moves {ended : Except Fault Reply} (puts : PutsOne h ended h')
    (l : Liberty) (working : h.current = some node) :
    ∃ uses, Moves l node h uses h' ∧ (putTexts uses).length ≤ 1 ∧
      (∀ producer text, .put producer text ∈ uses →
        h.visible = [] ∧ Text.allBlank text = false) ∧
      (∀ taker producer text, .taken taker producer text ∉ uses) ∧
      (Reply.Succeeded ended → ∃ text, .put node text ∈ uses) := by
  rcases puts with ⟨rfl, failed⟩ | ⟨text, present, puts⟩
  · exact ⟨[], .done h', Nat.zero_le 1, nofun, nofun, fun success => absurd success failed⟩
  · have move : Move l node h (.put node text) h' := by
      refine .put puts ?_
      rw [working, producerName, working]
      split <;> rfl
    refine ⟨_, move.single, Nat.le_refl 1, fun producer other mem => ?_, by simp,
      fun _ => ⟨text, ?_⟩⟩
    · cases List.mem_singleton.mp mem
      exact ⟨(put_eq_ok_iff.mp puts).1, present⟩
    · exact List.mem_singleton_self _

end Handoff

/-- The effect of an executor consists of what its node does with texts. -/
theorem Executor.Effect.exists_moves {e : Executor} {c : Context} {h h' : Handoff} {node : String}
    {ended : Except Fault Reply} (effect : e.Effect c h ended h') (l : Handoff.Liberty)
    (working : h.current = some node) :
    ∃ uses, Handoff.Moves l node h uses h' ∧ (putTexts uses).length ≤ 1 ∧
      (e.consumesText = true →
        uses = if c.LacksTarget e.subType then [] else h.taking node) ∧
      (∀ producer text, .put producer text ∈ uses →
        h.visible = [] ∧ e.producesText = true ∧ Text.allBlank text = false) ∧
      (∀ taker producer text, .taken taker producer text ∈ uses → e.consumesText = true) ∧
      (e.producesText = true → Reply.Succeeded ended → ∃ text, .put node text ∈ uses) := by
  cases effect with
  | sends consumes produces takes =>
    by_cases lacks : c.LacksTarget e.subType
    · rw [if_pos lacks] at takes
      rw [takes, if_pos lacks]
      exact ⟨[], .done h, Nat.zero_le 1, fun _ => rfl, nofun, nofun, by simp [produces]⟩
    · rw [if_neg lacks] at takes
      rw [takes, if_neg lacks]
      have none := Handoff.putTexts_taking h node
      refine ⟨h.taking node, Handoff.moves_taking l h node, by simp [none], fun _ => rfl, ?_,
        fun _ _ _ _ => consumes, by simp [produces]⟩
      intro producer text put
      have mem := mem_putTexts_iff.mpr put
      rw [none] at mem
      cases mem
  | generates consumes produces puts =>
    obtain ⟨uses, moves, few, own, untaken, made⟩ := puts.exists_moves l working
    refine ⟨uses, moves, few, by simp [consumes], fun producer text put => ?_,
      fun taker producer text took => absurd took (untaken taker producer text), fun _ => made⟩
    exact ⟨(own producer text put).1, produces, (own producer text put).2⟩
  | silent consumes produces keeps =>
    rw [keeps]
    exact ⟨[], .done h, Nat.zero_le 1, by simp [consumes], nofun, nofun, by simp [produces]⟩

/-- A node served by a built-in executor or a legacy kind puts at most one text, and no blank
one. -/
theorem Dispatch.builtin_moves {bridge : Option Bridge} {subType : String} {e : Executor}
    (found : (⟨.builtin, bridge⟩ : Dispatch).resolve? subType = some e) (l : Handoff.Liberty)
    (config : Value) (items : List Item) (env : Env) (w : World) {node : String}
    (working : w.handoff.current = some node) :
    ∃ uses, Handoff.Moves l node w.handoff uses
        (Exec.outcome (e.execute config items) env w).2.handoff ∧
      (putTexts uses).length ≤ 1 ∧
      ∀ producer text, .put producer text ∈ uses → Text.allBlank text = false := by
  have sender : w.handoff.TakesOne (Exec.outcome (e.execute config items) env w).2.handoff →
      ∃ uses, Handoff.Moves l node w.handoff uses
          (Exec.outcome (e.execute config items) env w).2.handoff ∧
        (putTexts uses).length ≤ 1 ∧
        ∀ producer text, .put producer text ∈ uses → Text.allBlank text = false := by
    intro takes
    obtain ⟨uses, moves, none⟩ := takes.exists_moves l
    refine ⟨uses, moves, by simp [none], fun producer text put => ?_⟩
    have mem := mem_putTexts_iff.mpr put
    rw [none] at mem
    cases mem
  rcases (builtin_resolves found).2 with rfl | rfl | rfl | rfl | silent
  · exact sender (Exec.takesOne_message env w config items)
  · exact sender (Exec.takesOne_replyComment env w config items)
  · exact sender (Exec.takesOne_replyMention env w config items)
  · obtain ⟨uses, moves, few, own, -⟩ :=
      ((Exec.makes_generate config items).relates env w).exists_moves l working
    exact ⟨uses, moves, few, fun producer text put => (own producer text put).2⟩
  · exact sender (.inl ((silent.quiet config items).keeps env w))

theorem Dispatch.conducts_builtin (l : Handoff.Liberty) (bridge : Option Bridge) :
    (⟨.builtin, bridge⟩ : Dispatch).Conducts l := by
  intro subType e found config items env w node working
  obtain ⟨uses, moves, few, -⟩ := builtin_moves found l config items env w working
  exact ⟨uses, moves, few⟩

end Chatflow
