import Chatflow.Node.Builtin
import Chatflow.Node.Legacy
import Chatflow.Proofs.Node.Lines

/-!
# Executors with an interrupted collaborator

What an executor does when the faults are still ahead of it. There is one lemma for each executor,
from those for the calls that it makes; the call with retries gets over the faults, and after it the
effects are the same.
-/

namespace Chatflow

open Service

variable {σ : Type} {l : Line σ} {env : Env} {faults : List Fault} {gap : Nat}

theorem Reply.untimed_withItems (items : List Item) (r : Reply) :
    (r.withItems items).untimed = r.untimed.withItems (items.map Item.untimed) := by
  cases r with
  | stray kindName => rfl
  | result r =>
    simp only [withItems, untimed]
    split <;> rfl

namespace Exec

variable {α β γ : Type}

/-- A part that comes before the call with retries. -/
theorem Carries.ahead {body : Exec α} {next : α → Exec β} {f : β → γ}
    (first : Carries env (l.Ahead faults) (l.Ahead faults) id body)
    (rest : ∀ a, Carries env (l.Ahead faults) Outside.SameEffect f (next a)) :
    Carries env (l.Ahead faults) Outside.SameEffect f (body >>= next) :=
  first.bind_fade rest Line.Ahead.same

theorem Carries.uncalled {body : Exec α} {f : α → γ}
    (own : Carries env (l.Ahead faults) (l.Ahead faults) f body) :
    Carries env (l.Ahead faults) Outside.SameEffect f body :=
  own.fade Line.Ahead.same

/-! ### Messages -/

theorem carries_sendOr (passing : Passing env faults) (subType failure : String)
    (call : OutboundCall) {accepted : SendResult → Exec Reply}
    (own : ∀ result,
      Carries env Outside.SameEffect Outside.SameEffect Reply.untimed (accepted result)) :
    Carries env ((Line.messaging 0).Ahead faults) Outside.SameEffect Reply.untimed
      (sendOr subType failure call accepted) := by
  have sends : Carries env ((Line.messaging 0).Ahead faults) Outside.SameEffect id
      (retrying (send call)) := by
    rw [send_eq]
    exact (Line.retried_send call).carries_retrying .messaging passing
  refine sends.attempt.bind fun answer => ?_
  cases answer <;> grind

theorem carries_send_ahead (call : OutboundCall) :
    Carries env ((Line.messaging (gap + 1)).Ahead faults) ((Line.messaging gap).Ahead faults) id
      (send call) := by
  refine ⟨fun {v w} alike => ?_⟩
  obtain ⟨clock, same, held⟩ := alike.outside
  rw [send_eq]
  generalize own : (Line.messaging (gap + 1)).outside v.outside = m at held
  generalize other : (Line.messaging (gap + 1)).outside w.outside = m' at held
  cases held with
  | none =>
    rw [outcome_calling_of_none (w := v) own, outcome_calling_of_none (w := w) other]
    refine ⟨rfl, { alike with outside := ⟨clock, same, ?_⟩ }⟩
    exact own.symm ▸ other.symm ▸ .none
  | @some a b held =>
    obtain ⟨delays, steady⟩ := held
    obtain ⟨answer, left⟩ := delays.step call
    rw [outcome_calling_of_some (w := v) own, outcome_calling_of_some (w := w) other, answer]
    have kept := (Line.messaging gap).kept (alike.imp fun ahead => ahead.same) left
    exact ⟨rfl, { kept with
      outside := ⟨clock, kept.outside, .some ⟨left, fun some => (steady some).step call⟩⟩ }⟩

@[grind ←] theorem carries_sleep (seconds : Float) :
    Carries env (l.Ahead faults) (l.Ahead faults) id (sleep seconds) := by
  refine ⟨fun {v w} alike => ⟨rfl, { alike with outside := ?_ }⟩⟩
  obtain ⟨clock, same, held⟩ := alike.outside
  refine ⟨congrArg (·.sleep seconds) clock,
    ⟨same.messaging, same.content, same.ai, same.sheets⟩, ?_⟩
  change Option.Rel _ (l.outside { v.outside with clock := v.clock.sleep seconds })
    (l.outside { w.outside with clock := w.clock.sleep seconds })
  rw [l.timeless v.outside, l.timeless w.outside]
  exact held

def typingCalls (config : Value) : Nat :=
  match asksForTyping config with
  | .ok true => 1
  | _ => 0

theorem carries_typingOn :
    Carries env ((Line.messaging 1).Ahead faults) ((Line.messaging 0).Ahead faults) id
      typingOn := by
  refine carries_reading_bind (fun _ => rfl) ?_
  refine (carries_send_ahead _).bind fun _ => carries_settings.bind fun s => ?_
  dsimp only
  split
  · exact carries_sleep _
  · exact carries_pure _

theorem carries_showTyping (subType : String) (config : Value) :
    Carries env ((Line.messaging (typingCalls config)).Ahead faults)
      ((Line.messaging 0).Ahead faults) id (showTyping subType config) := by
  unfold showTyping typingCalls
  match asksForTyping config with
  | .error fault => exact carries_const fun _ => outcome_bind_error rfl _
  | .ok false => exact carries_const fun _ => rfl
  | .ok true =>
    refine carries_reading_bind (fun _ => rfl) ?_
    rw [if_pos rfl]
    refine (carries_typingOn.bind fun _ => carries_note ..).attempt.bind fun shown => ?_
    cases shown <;> grind

theorem carries_showTyping_bind {subType : String} {config : Value} {next : Unit → Exec Reply}
    (rest : Carries env ((Line.messaging 0).Ahead faults) Outside.SameEffect Reply.untimed
      (next ())) :
    Carries env ((Line.messaging (typingCalls config)).Ahead faults) Outside.SameEffect
      Reply.untimed (showTyping subType config >>= next) :=
  (carries_showTyping subType config).bind_fade (fun _ => rest) Line.Ahead.same

theorem carries_messageSender (passing : Passing env faults) (subType name home : String)
    (config : Value) (items : List Item) :
    Carries env ((Line.messaging (typingCalls config)).Ahead faults) Outside.SameEffect
      Reply.untimed ((messageSender subType name home).execute config items) := by
  refine carries_openJournal.ahead fun _ =>
    carries_withConfig _ _ _ (fun parsed => ?_) Line.Ahead.same
  refine carries_takeText.ahead fun text => ?_
  split
  · exact (carries_failure ..).uncalled
  · refine carries_context.ahead fun c => (carries_note ..).ahead fun _ => ?_
    refine carries_showTyping_bind ?_
    exact carries_sendOr passing _ _ _ fun result => carries_success ..

theorem carries_senderAction (passing : Passing env faults)
    (subType description name action done : String) (config : Value) (items : List Item) :
    Carries env ((Line.messaging 0).Ahead faults) Outside.SameEffect Reply.untimed
      ((senderAction subType description name action done).execute config items) := by
  refine carries_openJournal.ahead fun _ => carries_context.ahead fun c => ?_
  refine (carries_note ..).ahead fun _ => ?_
  exact carries_sendOr passing _ _ _ fun result => carries_success ..

theorem carries_carousel (passing : Passing env faults) (config : Value) (items : List Item) :
    Carries env ((Line.messaging (typingCalls config)).Ahead faults) Outside.SameEffect
      Reply.untimed (carousel.execute config items) := by
  refine carries_openJournal.ahead fun _ =>
    carries_withConfig _ _ _ (fun parsed => ?_) Line.Ahead.same
  refine (carries_note ..).ahead fun _ =>
    carries_showTyping_bind ?_
  exact carries_context.ahead fun c =>
    carries_sendOr passing _ _ _ fun result => carries_success ..

theorem carries_buttonTemplate (passing : Passing env faults) (config : Value)
    (items : List Item) :
    Carries env ((Line.messaging (typingCalls config)).Ahead faults) Outside.SameEffect
      Reply.untimed (buttonTemplate.execute config items) := by
  refine carries_openJournal.ahead fun _ =>
    carries_withConfig _ _ _ (fun parsed => ?_) Line.Ahead.same
  refine (carries_note ..).ahead fun _ =>
    carries_showTyping_bind ?_
  exact carries_context.ahead fun c =>
    carries_sendOr passing _ _ _ fun result => carries_success ..

theorem carries_quickReplies (passing : Passing env faults) (config : Value)
    (items : List Item) :
    Carries env ((Line.messaging (typingCalls config)).Ahead faults) Outside.SameEffect
      Reply.untimed (quickReplies.execute config items) := by
  refine carries_openJournal.ahead fun _ =>
    carries_withConfig _ _ _ (fun parsed => ?_) Line.Ahead.same
  refine (carries_note ..).ahead fun _ =>
    carries_showTyping_bind ?_
  exact carries_context.ahead fun c =>
    carries_sendOr passing _ _ _ fun result => carries_success ..

theorem carries_withReplyText (subType : String) (configured : Option String)
    {body : String → Exec Reply}
    (own : ∀ text, Carries env (l.Ahead faults) Outside.SameEffect Reply.untimed (body text)) :
    Carries env (l.Ahead faults) Outside.SameEffect Reply.untimed
      (withReplyText subType configured body) := by
  refine carries_takeText.ahead fun text => ?_
  split
  · exact own _
  · exact (carries_failure ..).uncalled

theorem carries_replyComment (passing : Passing env faults) (config : Value)
    (items : List Item) :
    Carries env ((Line.messaging 0).Ahead faults) Outside.SameEffect Reply.untimed
      (replyComment.execute config items) := by
  refine carries_openJournal.ahead fun _ =>
    carries_withConfig _ _ _ (fun parsed => ?_) Line.Ahead.same
  refine carries_context.ahead fun c => ?_
  split
  · exact (carries_failure ..).uncalled
  · refine carries_withReplyText _ _ fun text => (carries_note ..).ahead fun _ => ?_
    exact carries_sendOr passing _ _ _ fun result => carries_success ..

theorem carries_replyMention (passing : Passing env faults) (config : Value)
    (items : List Item) :
    Carries env ((Line.messaging 0).Ahead faults) Outside.SameEffect Reply.untimed
      (replyMention.execute config items) := by
  refine carries_openJournal.ahead fun _ =>
    carries_withConfig _ _ _ (fun parsed => ?_) Line.Ahead.same
  refine carries_context.ahead fun c => ?_
  dsimp only
  split
  · exact (carries_failure ..).uncalled
  · refine carries_withReplyText _ _ fun text => (carries_note ..).ahead fun _ => ?_
    exact carries_sendOr passing _ _ _ fun result => carries_success ..

/-! ### Lookups -/

@[grind ←] theorem carries_lastKnown {O : Outside → Outside → Prop} (subType key : String) :
    Carries env O O id (lastKnown subType key) := by
  refine (carries_readFlag key).attempt.bind fun cached => ?_
  cases cached <;> grind

theorem carries_lookUp {lookup : Exec α} (subType key : String) (flag : α → Bool)
    (looks : Carries env (l.Ahead faults) Outside.SameEffect id (retrying lookup)) :
    Carries env (l.Ahead faults) Outside.SameEffect id (lookUp subType key lookup flag) := by
  refine looks.attempt.bind fun found => ?_
  cases found with
  | ok found =>
    refine (carries_writeFlag key (flag found)).attempt.bind fun written => ?_
    cases written <;> grind
  | error fault => grind

theorem carries_conditionItems {O : Outside → Outside → Prop} (items : List Item) (holds : Bool)
    (data : Entries Value) (text : String) :
    Carries env O O Reply.untimed
      (do succeed (conditionItems items (← now) holds data) text) :=
  carries_now_succeed text fun time time' => untimed_branchAll items time time' _ _

theorem carries_isFollower (passing : Passing env faults) (config : Value) (items : List Item) :
    Carries env (Line.content.Ahead faults) Outside.SameEffect Reply.untimed
      (Chatflow.isFollower.execute config items) := by
  refine carries_openJournal.ahead fun _ => carries_context.ahead fun c => ?_
  have looks : Carries env (Line.content.Ahead faults) Outside.SameEffect id
      (retrying (isFollower c.senderId)) := by
    rw [isFollower_eq]
    exact (Line.retried_isFollower c.senderId).carries_retrying .content passing
  refine (carries_note ..).ahead fun _ => (carries_lookUp _ _ _ looks).bind fun found => ?_
  exact (carries_note ..).bind fun _ => carries_conditionItems ..

theorem mediaTags_eq (media : String) :
    mediaTags media = Line.content.call .content fun k =>
      ((k.mediaHashtags media).1.map fun tags =>
        Text.sortedUnique (tags.map Text.normalizeTag), (k.mediaHashtags media).2) := by
  rw [mediaTags, mediaHashtags_eq]
  exact calling_map _

theorem carries_hasTag (passing : Passing env faults) (config : Value) (items : List Item) :
    Carries env (Line.content.Ahead faults) Outside.SameEffect Reply.untimed
      (hasTag.execute config items) := by
  refine carries_openJournal.ahead fun _ => ?_
  split
  · refine (carries_note ..).ahead fun _ => ?_
    exact (carries_conditionItems ..).uncalled
  · refine carries_context.ahead fun c => (carries_note ..).ahead fun _ => ?_
    have looks : Carries env (Line.content.Ahead faults) Outside.SameEffect id
        (retrying (mediaTags (c.mediaId.getD ""))) := by
      rw [mediaTags_eq]
      exact ((Line.retried_mediaHashtags _).map _).carries_retrying .content passing
    dsimp only
    split
    · refine Carries.bind ?_ fun found => (carries_note ..).bind fun _ => carries_conditionItems ..
      rw [← bind_pure_comp]
      exact (carries_lookUp _ _ _ looks).bind fun _ => carries_pure _
    · refine ((carries_pure _).uncalled).bind fun found => ?_
      exact (carries_note ..).bind fun _ => carries_conditionItems ..

/-! ### Generated texts -/

theorem carries_required_bind {cap : Capability} {next : Exec α} {f : α → γ}
    (rest : Carries env (l.Ahead faults) Outside.SameEffect f next) :
    Carries env (l.Ahead faults) Outside.SameEffect f
      (do let _ ← required cap (l.place.get (← services)); next) := by
  refine ⟨fun {v w} alike => ?_⟩
  rw [outcome_bind_ok outcome_services, outcome_bind_ok outcome_services]
  obtain ⟨own, other⟩ | ⟨a, b, own, other, -⟩ := alike.outside.absent_or_present
  · rw [own, other]
    exact ⟨rfl, alike.imp Line.Ahead.same⟩
  · rw [own, other]
    exact rest.ends alike

theorem carries_generateText (passing : Passing env faults) (prompt : Prompt) :
    Carries env (Line.ai.Ahead faults) Outside.SameEffect id (generateText prompt) := by
  refine carries_required_bind (l := Line.ai) ?_
  rw [generate_eq]
  exact (Line.retried_generate prompt).carries_retrying .ai passing

theorem carries_loadTurns {O : Outside → Outside → Prop} (subType : String) :
    Carries env O O id (loadTurns subType) := by
  refine carries_context.bind fun c => Carries.bind (.attempt ?_) fun turns => ?_
  · exact carries_recentTurns _ _ (outcome_historyLimit env)
  · cases turns <;> grind

theorem carries_saveTurns {O : Outside → Outside → Prop} (subType message response : String) :
    Carries env O O id (saveTurns subType message response) := by
  refine carries_context.bind fun c => Carries.bind (.attempt ?_) fun saved => ?_
  · split <;> grind
  · cases saved <;> grind

theorem carries_withinLimit (subType : String) {body : Exec Reply}
    (own : Carries env (l.Ahead faults) Outside.SameEffect Reply.untimed body) :
    Carries env (l.Ahead faults) Outside.SameEffect Reply.untimed (withinLimit subType body) := by
  refine carries_context.ahead fun c => ?_
  refine (carries_acquire Line.Ahead.clock _ _).attempt.ahead fun granted => ?_
  match granted with
  | .error fault => exact (carries_failure ..).uncalled
  | .ok false => exact (carries_failure ..).uncalled
  | .ok true => exact own

theorem carries_generate (passing : Passing env faults) (config : Value) (items : List Item) :
    Carries env (Line.ai.Ahead faults) Outside.SameEffect Reply.untimed
      (Chatflow.generate.execute config items) := by
  refine carries_openJournal.ahead fun _ => ?_
  split
  · exact (carries_failure ..).uncalled
  · refine carries_withinLimit _ (carries_context.ahead fun c => ?_)
    refine (carries_loadTurns _).ahead fun turns => (carries_note ..).ahead fun _ => ?_
    refine (carries_generateText passing _).attempt.bind fun response => ?_
    split
    · exact carries_failure ..
    · split
      · exact carries_failure ..
      · refine carries_handoff.bind fun h => (carries_putText ..).attempt.bind fun put => ?_
        split
        · exact carries_failure ..
        · exact carries_throw _
        · refine (carries_note ..).bind fun _ => (carries_saveTurns ..).bind fun _ => ?_
          exact carries_succeed ..

/-! ### Legacy nodes -/

theorem carries_withLegacyConfig {δ : Type} (subType : String)
    (read? : Value → Except Schema.Invalid δ) (config : Value) {body : δ → Exec Reply}
    (own : ∀ parsed, Carries env (l.Ahead faults) Outside.SameEffect Reply.untimed (body parsed)) :
    Carries env (l.Ahead faults) Outside.SameEffect Reply.untimed
      (withLegacyConfig subType read? config body) := by
  unfold withLegacyConfig
  split
  · exact own _
  · exact (carries_failure ..).uncalled

theorem carries_legacyCall (subType : String) (report : LegacyReport) {call : Exec SendResult}
    (own : Carries env (l.Ahead faults) Outside.SameEffect id call) :
    Carries env (l.Ahead faults) Outside.SameEffect Reply.untimed
      (legacyCall subType report call) := by
  refine own.attempt.bind fun answer => ?_
  split
  · split
    · exact carries_success ..
    · exact carries_failure ..
  · exact carries_failure ..
  · exact carries_failure ..

theorem carries_legacySend (passing : Passing env faults) (call : OutboundCall) :
    Carries env ((Line.messaging 0).Ahead faults) Outside.SameEffect id (legacySend call) := by
  refine carries_required_bind (l := Line.messaging 0) ?_
  rw [send_eq]
  exact (Line.retried_send call).carries_retrying .messaging passing

theorem carries_exportEvent (passing : Passing env faults) (target : SheetsTarget) :
    Carries env (Line.sheets.Ahead faults) Outside.SameEffect id (exportEvent target) := by
  refine carries_required_bind (l := Line.sheets) ?_
  refine carries_context.ahead fun c => ?_
  have exports : ∀ stamp, Carries env (Line.sheets.Ahead faults) Outside.SameEffect id
      (retrying (appendRow target.spreadsheet target.sheet sheetHeaders (eventRow c stamp))) := by
    intro stamp
    rw [appendRow_eq]
    exact (Line.retried_append _ _ _ _).carries_retrying .sheets passing
  exact carries_stamp_bind Line.Ahead.clock exports

theorem carries_legacy {kind : LegacyKind} {config : Value}
    (own : Carries env (l.Ahead faults) Outside.SameEffect Reply.untimed (executeKind kind config))
    (items : List Item) :
    Carries env (l.Ahead faults) Outside.SameEffect Reply.untimed
      (kind.executor.execute config items) := by
  have known : executeLegacy kind.subType config =
      (openJournal >>= fun _ => executeKind kind config) := by
    unfold executeLegacy
    cases kind <;> rfl
  have whole : Carries env (l.Ahead faults) Outside.SameEffect Reply.untimed
      (executeLegacy kind.subType config) := by
    rw [known]
    exact carries_openJournal.ahead fun _ => own
  refine whole.untimed_map fun {r r'} same => ?_
  rw [Reply.untimed_withItems, Reply.untimed_withItems, same]

theorem carries_legacyMessage (passing : Passing env faults) {kind : LegacyKind}
    (sends : kind ≠ .logToSheets) (config : Value) (items : List Item) :
    Carries env ((Line.messaging 0).Ahead faults) Outside.SameEffect Reply.untimed
      (kind.executor.execute config items) := by
  refine carries_legacy ?_ items
  cases kind with
  | logToSheets => exact absurd rfl sends
  | productTemplate =>
    refine carries_withLegacyConfig _ _ _ fun parsed => carries_context.ahead fun c => ?_
    exact carries_legacyCall _ _ (carries_legacySend passing _)
  | iceBreakers =>
    refine carries_withLegacyConfig _ _ _ fun parsed => ?_
    exact carries_legacyCall _ _ (carries_legacySend passing _)
  | persistentMenu =>
    refine carries_withLegacyConfig _ _ _ fun parsed => ?_
    exact carries_legacyCall _ _ (carries_legacySend passing _)

theorem carries_logToSheets (passing : Passing env faults) (config : Value) (items : List Item) :
    Carries env (Line.sheets.Ahead faults) Outside.SameEffect Reply.untimed
      (LegacyKind.logToSheets.executor.execute config items) := by
  refine carries_legacy ?_ items
  refine carries_withLegacyConfig _ _ _ fun parsed => ?_
  exact carries_legacyCall _ _ (carries_exportEvent passing _)

/-! ### Nodes without retries -/

theorem carries_trigger (subType description name : String) (config : Value) (items : List Item) :
    Carries env (l.Ahead faults) Outside.SameEffect Reply.untimed
      ((trigger subType description name).execute config items) :=
  (carries_pure _).uncalled

theorem carries_branchNode (subType description name : String) (config : Value)
    (items : List Item) :
    Carries env (l.Ahead faults) Outside.SameEffect Reply.untimed
      ((branchNode subType description name).execute config items) :=
  (carries_pure _).uncalled

theorem carries_keywords (config : Value) (items : List Item) :
    Carries env (l.Ahead faults) Outside.SameEffect Reply.untimed
      (keywords.execute config items) := by
  refine carries_openJournal.ahead fun _ => ?_
  split
  · exact (carries_success ..).uncalled
  · refine carries_context.ahead fun c => (carries_note ..).ahead fun _ => ?_
    split
    · exact (carries_success ..).uncalled
    · refine (carries_note ..).ahead fun _ => Carries.uncalled ?_
      exact carries_now_succeed _ fun time time' => untimed_branchAll items time time' _ _

theorem carries_delay (config : Value) (items : List Item) :
    Carries env (l.Ahead faults) Outside.SameEffect Reply.untimed
      (delay.execute config items) := by
  refine carries_openJournal.ahead fun _ => ?_
  split
  · exact (carries_failure ..).uncalled
  · refine carries_settings.ahead fun s => Carries.uncalled ?_
    dsimp only
    split <;> grind

end Exec

end Chatflow
