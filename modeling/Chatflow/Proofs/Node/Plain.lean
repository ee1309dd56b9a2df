import Chatflow.Proofs.Exec
import Chatflow.Registry

/-!
# Executions that have nothing to do with waiting texts

Only entering a node and putting, taking and discarding a text touch the hand-off, and of all the
other parts of executors none looks at more of it than the node at work. Such parts are plain, and
plain parts make up plain executors: `Plain.bind` is the one rule about sequences, and there is one
lemma for each part.
-/

namespace Chatflow

def World.handing (w : World) (h : Handoff) : World := { w with handoff := h }

namespace Exec

variable {α β : Type} {body : Exec α} {next : α → Exec β}

/-- The execution is the same with any other hand-off of the same node at work, and it leaves the
hand-off as it is. -/
structure Detached (body : Exec α) : Prop where
  commutes : ∀ env w h, h.current = w.handoff.current →
    outcome body env (w.handing h) =
      ((outcome body env w).1, (outcome body env w).2.handing h)

structure Quiet (body : Exec α) : Prop where
  keeps : ∀ env w, (outcome body env w).2.handoff = w.handoff

theorem Detached.quiet (detached : Detached body) : Quiet body := by
  refine ⟨fun env w => ?_⟩
  have same : w.handing w.handoff = w := rfl
  have own := detached.commutes env w w.handoff rfl
  rw [same] at own
  rw [own]
  rfl

theorem Detached.bind (first : Detached body) (rest : ∀ a, Detached (next a)) :
    Detached (body >>= next) := by
  refine ⟨fun env w h same => ?_⟩
  have kept := first.quiet.keeps env w
  rw [outcome_bind, outcome_bind, first.commutes env w h same]
  generalize outcome body env w = ends at kept ⊢
  obtain ⟨ended, v⟩ := ends
  cases ended with
  | error e => rfl
  | ok a => exact (rest a).commutes env v h (same.trans (congrArg Handoff.current kept.symm))

structure Plain (body : Exec α) : Prop extends Detached body where
  grows : ∀ env w, w.journal <+: (outcome body env w).2.journal

@[grind ←] theorem Plain.bind (first : Plain body) (rest : ∀ a, Plain (next a)) :
    Plain (body >>= next) := by
  refine ⟨first.toDetached.bind fun a => (rest a).toDetached, fun env w => ?_⟩
  have own := first.grows env w
  rw [outcome_bind]
  generalize outcome body env w = ends at own ⊢
  obtain ⟨ended, v⟩ := ends
  cases ended with
  | error e => exact own
  | ok a => exact own.trans ((rest a).grows env v)

@[grind ←] theorem Plain.seq {body : Exec PUnit} {next : PUnit → Exec β} (first : Plain body)
    (rest : Plain (next ⟨⟩)) : Plain (body >>= next) := first.bind fun _ => rest

@[grind ←] theorem Plain.attempt (plain : Plain body) : Plain (attempt body) := by
  refine ⟨⟨fun env w h same => ?_⟩, plain.grows⟩
  rw [outcome_attempt, outcome_attempt, plain.commutes env w h same]

@[grind ←] theorem plain_pure (a : α) : Plain (pure a : Exec α) :=
  ⟨⟨fun _ _ _ _ => rfl⟩, fun _ _ => List.prefix_rfl⟩

@[grind ←] theorem plain_throw (e : Fault) : Plain (throw e : Exec α) :=
  ⟨⟨fun _ _ _ _ => rfl⟩, fun _ _ => List.prefix_rfl⟩

@[grind ←] theorem plain_read : Plain (read : Exec Env) :=
  ⟨⟨fun _ _ _ _ => rfl⟩, fun _ _ => List.prefix_rfl⟩

/-- What is looked at of the world is not in the hand-off, or it is the node at work. -/
theorem plain_get_bind (f : World → α) {next : α → Exec β}
    (blind : ∀ w h, h.current = w.handoff.current → f (w.handing h) = f w)
    (rest : ∀ a, Plain (next a)) : Plain (get >>= fun w => next (f w)) := by
  have looks : Plain (get >>= fun w => pure (f w)) := by
    refine ⟨⟨fun env w h same => ?_⟩, fun _ _ => List.prefix_rfl⟩
    rw [outcome_bind_ok outcome_get, outcome_bind_ok outcome_get, blind w h same]
    rfl
  have both := looks.bind rest
  rw [bind_assoc] at both
  simpa only [pure_bind] using both

theorem plain_modify {f : World → World} (apart : ∀ w h, f (w.handing h) = (f w).handing h)
    (grows : ∀ w, w.journal <+: (f w).journal) : Plain (modify f : Exec Unit) := by
  refine ⟨⟨fun env w h _ => ?_⟩, fun _ w => grows w⟩
  rw [outcome_modify, outcome_modify, apart w h]

/-- An execution that opens the journal is detached, but not plain. -/
theorem Plain.detached_open {body : Exec α} (plain : Plain body) :
    Detached (openJournal >>= fun _ => body) :=
  .bind ⟨fun _ _ _ _ => rfl⟩ fun _ => plain.toDetached

/-! ### The surroundings -/

@[grind ←] theorem plain_context : Plain context := plain_read.bind fun _ => plain_pure _

@[grind ←] theorem plain_settings : Plain settings := by
  refine plain_read.bind fun env => ?_
  split <;> grind

@[grind ←] theorem plain_now : Plain now :=
  plain_get_bind (fun w => w.clock.milliseconds) (fun _ _ _ => rfl) fun _ => plain_pure _

@[grind ←] theorem plain_elapsed : Plain elapsed :=
  plain_get_bind (fun w => w.clock.elapsed) (fun _ _ _ => rfl) fun _ => plain_pure _

@[grind ←] theorem plain_sleep (seconds : Float) : Plain (sleep seconds) :=
  plain_modify (fun _ _ => rfl) fun _ => List.prefix_rfl

@[grind ←] theorem plain_ofExcept (e : Except Fault α) : Plain (ofExcept e) := by
  cases e <;> grind [ofExcept]

/-! ### Logging -/

@[grind ←] theorem plain_emit (logger : String) (severity : Log.Severity) (text : String)
    (fields : Entries Value) : Plain (emit logger severity text fields) := by
  refine plain_read.bind fun env => ?_
  dsimp only
  split
  · split
    · exact plain_throw _
    · split
      · exact plain_pure _
      · exact plain_modify (fun _ _ => rfl) fun _ => List.prefix_rfl
  · exact plain_pure _

@[grind ←] theorem plain_journal : Plain journal :=
  plain_get_bind (fun w => w.journal) (fun _ _ _ => rfl) fun _ => plain_pure _

@[grind ←] theorem plain_record (logger : String) (trace : Entries Value) (level : Log.Level)
    (text : String) (data : Entries Value) : Plain (record logger trace level text data) := by
  refine plain_now.bind fun time => ?_
  dsimp only
  refine .seq (plain_modify (fun _ _ => rfl) fun w => List.prefix_append w.journal _) ?_
  exact plain_emit ..

@[grind ←] theorem plain_trace (subType : String) : Plain (trace subType) := by
  refine plain_context.bind fun c => ?_
  let fields (current : Option String) : Entries Value :=
    [("run_id", .str c.runId)]
      ++ (c.automationId.map fun a => ("automation_id", Value.str a)).toList
      ++ (current.map fun n => ("node_id", Value.str n)).toList
      ++ [("sub_type", .str subType)]
  have look : ∀ (w : World) h, h.current = w.handoff.current →
      fields (w.handing h).handoff.current = fields w.handoff.current :=
    fun _ _ same => congrArg fields same
  exact plain_get_bind _ look fun _ => plain_pure _

@[grind ←] theorem plain_note (subType : String) (level : Log.Level) (text : String)
    (data : Entries Value) : Plain (note subType level text data) :=
  (plain_trace subType).bind fun _ => plain_record ..

@[grind ←] theorem plain_succeed (items : List Item) (text : String) :
    Plain (succeed items text) := plain_journal.bind fun _ => plain_pure _

@[grind ←] theorem plain_failWith (text : String) : Plain (failWith text) :=
  plain_journal.bind fun _ => plain_pure _

/-! ### The collaborators -/

@[grind ←] theorem plain_services : Plain services :=
  plain_get_bind (fun w => w.services) (fun _ _ _ => rfl) fun _ => plain_pure _

@[grind ←] theorem plain_setServices (b : Service.Bundle) : Plain (setServices b) :=
  plain_modify (fun _ _ => rfl) fun _ => List.prefix_rfl

@[grind ←] theorem plain_required (capability : Service.Capability) (a : Option α) :
    Plain (required capability a) := by
  cases a <;> grind [required]

@[grind ←] theorem plain_send (call : Service.OutboundCall) : Plain (send call) := by
  grind [send]

@[grind ←] theorem plain_isFollower (user : String) : Plain (isFollower user) := by
  grind [isFollower]

@[grind ←] theorem plain_mediaHashtags (media : String) : Plain (mediaHashtags media) := by
  grind [mediaHashtags]

@[grind ←] theorem plain_generate (prompt : Service.Prompt) : Plain (generate prompt) := by
  grind [generate]

@[grind ←] theorem plain_appendRow (spreadsheet sheet : String) (headers : List String)
    (row : List Value) : Plain (appendRow spreadsheet sheet headers row) := by
  grind [appendRow]

@[grind ←] theorem plain_readFlag (key : String) : Plain (readFlag key) := by
  grind [readFlag]

@[grind ←] theorem plain_writeFlag (key : String) (flag : Bool) : Plain (writeFlag key flag) := by
  grind [writeFlag]

@[grind ←] theorem plain_acquire (subject capability : String) :
    Plain (acquire subject capability) := by
  grind [acquire]

@[grind ←] theorem plain_recentTurns (page sender : String) {limit : Exec Int}
    (own : Plain limit) : Plain (recentTurns page sender limit) := by
  grind [recentTurns]

@[grind ←] theorem plain_appendTurn (page sender : String) (turn : Service.Turn) :
    Plain (appendTurn page sender turn) := by
  grind [appendTurn]

/-! ### Retries -/

/-- By induction on the calls that are left. -/
theorem plain_retryFrom {policy : RetryPolicy Exec Fault Float} {call : Exec (Except Fault α)}
    (pause : ∀ count delay fault, Plain (policy.pause count delay fault)) (own : Plain call)
    (more count : Nat) : Plain (policy.retryFrom call more count) := by
  induction more generalizing count with
  | zero => grind [RetryPolicy.retryFrom]
  | succ more ih => grind [RetryPolicy.retryFrom]

@[grind ←] theorem plain_checkDelay (count : Nat) : Plain (checkDelay count) := by
  grind [checkDelay]

@[grind ←] theorem plain_retrying {call : Exec α} (own : Plain call) : Plain (retrying call) := by
  refine plain_settings.bind fun s => .bind ?_ fun result => plain_ofExcept result
  refine plain_retryFrom (fun count delay fault => ?_) own.attempt _ _
  exact (plain_checkDelay count).seq ((plain_emit ..).seq (plain_sleep delay))

/-! ### Parts of executors -/

@[grind ←] theorem plain_withConfig {γ : Type} (subType : String)
    (read? : Value → Except Schema.Invalid γ) (config : Value) {body : γ → Exec Reply}
    (own : ∀ parsed, Plain (body parsed)) : Plain (withConfig subType read? config body) := by
  grind [withConfig]

@[grind ←] theorem plain_typingOn : Plain typingOn := by
  grind [typingOn]

@[grind ←] theorem plain_showTyping (subType : String) (config : Value) :
    Plain (showTyping subType config) := by
  grind [showTyping]

@[grind ←] theorem plain_sendOr (subType failure : String) (call : Service.OutboundCall)
    {accepted : Service.SendResult → Exec Reply} (own : ∀ result, Plain (accepted result)) :
    Plain (sendOr subType failure call accepted) := by
  grind [sendOr]

@[grind ←] theorem plain_lastKnown (subType key : String) : Plain (lastKnown subType key) := by
  refine (plain_readFlag key).attempt.bind fun cached => ?_
  cases cached <;> grind

@[grind ←] theorem plain_lookUp (subType key : String) {lookup : Exec α} (own : Plain lookup)
    (flag : α → Bool) : Plain (lookUp subType key lookup flag) := by
  refine (plain_retrying own).attempt.bind fun found => ?_
  cases found with
  | ok found => exact (plain_writeFlag key _).attempt.bind fun written => by cases written <;> grind
  | error fault => grind

@[grind ←] theorem plain_mediaTags (media : String) : Plain (mediaTags media) :=
  (plain_mediaHashtags media).bind fun _ => plain_pure _

@[grind ←] theorem plain_loadTurns (subType : String) : Plain (loadTurns subType) := by
  grind [loadTurns]

@[grind ←] theorem plain_saveTurns (subType message response : String) :
    Plain (saveTurns subType message response) := by
  grind [saveTurns]

@[grind ←] theorem plain_generateText (prompt : Service.Prompt) : Plain (generateText prompt) := by
  grind [generateText]

/-! ### Legacy nodes -/

@[grind ←] theorem plain_withLegacyConfig {γ : Type} (subType : String)
    (read? : Value → Except Schema.Invalid γ) (config : Value) {body : γ → Exec Reply}
    (own : ∀ parsed, Plain (body parsed)) :
    Plain (withLegacyConfig subType read? config body) := by
  grind [withLegacyConfig]

@[grind ←] theorem plain_legacyCall (subType : String) (report : LegacyReport)
    {call : Exec Service.SendResult} (own : Plain call) :
    Plain (legacyCall subType report call) := by
  grind [legacyCall]

@[grind ←] theorem plain_legacySend (call : Service.OutboundCall) : Plain (legacySend call) := by
  grind [legacySend]

@[grind ←] theorem plain_exportEvent (target : SheetsTarget) : Plain (exportEvent target) := by
  refine plain_services.bind fun b => (plain_required _ _).bind fun _ => ?_
  refine plain_context.bind fun c => ?_
  let append (stamp : String) : Exec Service.SendResult :=
    retrying (appendRow target.spreadsheet target.sheet sheetHeaders (eventRow c stamp))
  have own : ∀ stamp, Plain (append stamp) := fun stamp => by grind
  exact plain_get_bind (fun w => w.clock.zonedStamp) (fun _ _ _ => rfl) own

@[grind ←] theorem plain_executeKind (kind : LegacyKind) (config : Value) :
    Plain (executeKind kind config) := by
  cases kind <;> grind [executeKind]

end Exec

end Chatflow
