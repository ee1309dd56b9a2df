import Chatflow.Proofs.Node.Plain

/-!
# Executions that send nothing

Sending is the only thing that touches the messenger. Everything else that executors do leaves it as
it is, also when it ends with a fault. There is one lemma for each part, and `Leaves.bind` puts the
parts together.
-/

namespace Chatflow.Exec

variable {α β : Type} {body : Exec α} {next : α → Exec β} {m : Option Service.Messenger}

structure Leaves (m : Option Service.Messenger) (body : Exec α) : Prop where
  keeps : ∀ env w, w.services.messaging = m → (outcome body env w).2.services.messaging = m

@[grind ←] theorem Leaves.bind (first : Leaves m body) (rest : ∀ a, Leaves m (next a)) :
    Leaves m (body >>= next) := by
  refine ⟨fun env w same => ?_⟩
  have own := first.keeps env w same
  rw [outcome_bind]
  generalize outcome body env w = ends at own ⊢
  obtain ⟨ended, v⟩ := ends
  cases ended with
  | error e => exact own
  | ok a => exact (rest a).keeps env v own

/-- The rule for sequences whose first part gives nothing. -/
@[grind ←] theorem Leaves.seq {body : Exec PUnit} {next : PUnit → Exec β} (first : Leaves m body)
    (rest : Leaves m (next ⟨⟩)) : Leaves m (body >>= next) := first.bind fun _ => rest

@[grind ←] theorem Leaves.attempt (own : Leaves m body) : Leaves m (attempt body) := ⟨own.keeps⟩

@[grind ←] theorem leaves_pure (a : α) : Leaves m (pure a : Exec α) := ⟨fun _ _ same => same⟩

@[grind ←] theorem leaves_throw (e : Fault) : Leaves m (throw e : Exec α) := ⟨fun _ _ same => same⟩

@[grind ←] theorem leaves_read : Leaves m (read : Exec Env) := ⟨fun _ _ same => same⟩

@[grind ←] theorem leaves_get : Leaves m (get : Exec World) := ⟨fun _ _ same => same⟩

theorem leaves_modify {f : World → World}
    (apart : ∀ w, (f w).services.messaging = w.services.messaging) :
    Leaves m (modify f : Exec Unit) := ⟨fun _ w same => (apart w).trans same⟩

/-! ### The surroundings and the log -/

@[grind ←] theorem leaves_ofExcept (e : Except Fault α) : Leaves m (ofExcept e) := by
  cases e
  · exact leaves_throw _
  · exact leaves_pure _

@[grind ←] theorem leaves_context : Leaves m context := leaves_read.bind fun _ => leaves_pure _

@[grind ←] theorem leaves_settings : Leaves m settings := by
  refine leaves_read.bind fun env => ?_
  split
  · exact leaves_pure _
  · exact leaves_throw _

@[grind ←] theorem leaves_now : Leaves m now := leaves_get.bind fun _ => leaves_pure _

@[grind ←] theorem leaves_elapsed : Leaves m elapsed := leaves_get.bind fun _ => leaves_pure _

@[grind ←] theorem leaves_sleep (seconds : Float) : Leaves m (sleep seconds) :=
  leaves_modify fun _ => rfl

@[grind ←] theorem leaves_emit (logger : String) (severity : Log.Severity) (text : String)
    (fields : Entries Value) : Leaves m (emit logger severity text fields) := by
  refine leaves_read.bind fun env => ?_
  dsimp only
  split
  · split
    · exact leaves_throw _
    · split
      · exact leaves_pure _
      · exact leaves_modify fun _ => rfl
  · exact leaves_pure _

@[grind ←] theorem leaves_openJournal : Leaves m openJournal := leaves_modify fun _ => rfl

@[grind ←] theorem leaves_journal : Leaves m journal := leaves_get.bind fun _ => leaves_pure _

@[grind ←] theorem leaves_note (subType : String) (level : Log.Level) (text : String)
    (data : Entries Value) : Leaves m (note subType level text data) := by
  have traces : Leaves m (trace subType) :=
    leaves_context.bind fun _ => leaves_get.bind fun _ => leaves_pure _
  refine traces.bind fun fields => leaves_now.bind fun time => ?_
  dsimp only
  refine .seq (leaves_modify fun _ => rfl) ?_
  exact leaves_emit ..

@[grind ←] theorem leaves_succeed (items : List Item) (text : String) :
    Leaves m (succeed items text) := leaves_journal.bind fun _ => leaves_pure _

@[grind ←] theorem leaves_failWith (text : String) : Leaves m (failWith text) :=
  leaves_journal.bind fun _ => leaves_pure _

/-! ### The hand-off -/

@[grind ←] theorem leaves_handoff : Leaves m handoff := leaves_get.bind fun _ => leaves_pure _

@[grind ←] theorem leaves_setHandoff (h : Handoff) : Leaves m (setHandoff h) :=
  leaves_modify fun _ => rfl

@[grind ←] theorem leaves_putText (text : String) (producer : Option String) :
    Leaves m (putText text producer) := by
  refine leaves_handoff.bind fun h => ?_
  split
  · exact leaves_setHandoff _
  · exact leaves_throw _

/-! ### The other collaborators -/

/-- What is found among the collaborators has the messenger as it is. -/
@[grind ←] theorem leaves_services_bind {next : Service.Bundle → Exec β}
    (rest : ∀ b, b.messaging = m → Leaves m (next b)) : Leaves m (services >>= next) := by
  refine ⟨fun env w same => ?_⟩
  have finds : outcome services env w = (.ok w.services, w) := rfl
  rw [outcome_bind_ok finds]
  exact (rest w.services same).keeps env w same

@[grind ←] theorem leaves_setServices {b : Service.Bundle} (same : b.messaging = m) :
    Leaves m (setServices b) := ⟨fun _ _ _ => same⟩

@[grind ←] theorem leaves_required (capability : Service.Capability) (a : Option α) :
    Leaves m (required capability a) := by
  cases a
  · exact leaves_throw _
  · exact leaves_pure _

theorem leaves_isFollower (user : String) : Leaves m (isFollower user) := by
  grind [isFollower]

theorem leaves_mediaTags (media : String) : Leaves m (mediaTags media) := by
  have looks : Leaves m (mediaHashtags media) := by grind [mediaHashtags]
  exact looks.bind fun _ => leaves_pure _

theorem leaves_generate (prompt : Service.Prompt) : Leaves m (generate prompt) := by
  grind [generate]

theorem leaves_appendRow (spreadsheet sheet : String) (headers : List String) (row : List Value) :
    Leaves m (appendRow spreadsheet sheet headers row) := by
  grind [appendRow]

@[grind ←] theorem leaves_readFlag (key : String) : Leaves m (readFlag key) := by
  grind [readFlag]

@[grind ←] theorem leaves_writeFlag (key : String) (flag : Bool) :
    Leaves m (writeFlag key flag) := by
  grind [writeFlag]

theorem leaves_acquire (subject capability : String) : Leaves m (acquire subject capability) := by
  grind [acquire]

theorem leaves_recentTurns (page sender : String) {limit : Exec Int} (own : Leaves m limit) :
    Leaves m (recentTurns page sender limit) := by
  grind [recentTurns]

theorem leaves_appendTurn (page sender : String) (turn : Service.Turn) :
    Leaves m (appendTurn page sender turn) := by
  grind [appendTurn]

/-! ### Retries -/

/-- By induction on the calls that are left. -/
theorem leaves_retryFrom {policy : RetryPolicy Exec Fault Float} {call : Exec (Except Fault α)}
    (pause : ∀ count delay fault, Leaves m (policy.pause count delay fault)) (own : Leaves m call)
    (more count : Nat) : Leaves m (policy.retryFrom call more count) := by
  induction more generalizing count with
  | zero => grind [RetryPolicy.retryFrom]
  | succ more ih =>
    rw [RetryPolicy.retryFrom]
    refine own.bind fun result => ?_
    cases result with
    | ok a => exact leaves_pure _
    | error fault =>
      dsimp only
      split
      · exact leaves_pure _
      · exact (pause ..).seq (ih (count + 1))

theorem leaves_pause (s : Settings) (count : Nat) (delay : Float) (fault : Fault) :
    Leaves m ((retryPolicy s).pause count delay fault) := by
  have checks : Leaves m (checkDelay count) := by grind [checkDelay]
  exact checks.seq ((leaves_emit ..).seq (leaves_sleep delay))

theorem leaves_retrying {call : Exec α} (own : Leaves m call) : Leaves m (retrying call) := by
  refine leaves_settings.bind fun s => .bind ?_ fun result => leaves_ofExcept result
  exact leaves_retryFrom (leaves_pause s) own.attempt _ _

/-! ### Executors that send nothing -/

variable (config : Value) (items : List Item)

theorem leaves_trigger (subType description name : String) :
    Leaves m ((trigger subType description name).execute config items) := leaves_pure _

theorem leaves_branchNode (subType description name : String) :
    Leaves m ((branchNode subType description name).execute config items) := leaves_pure _

theorem leaves_keywords : Leaves m (keywords.execute config items) := by
  refine leaves_openJournal.seq ?_
  split
  · grind
  · refine leaves_context.bind fun c => (leaves_note ..).seq ?_
    dsimp only
    split <;> grind

theorem leaves_lookUp (subType key : String) {lookup : Exec α} (own : Leaves m lookup)
    (flag : α → Bool) : Leaves m (lookUp subType key lookup flag) := by
  refine (leaves_retrying own).attempt.bind fun found => ?_
  cases found with
  | ok found =>
    exact (leaves_writeFlag key _).attempt.bind fun written => by cases written <;> grind
  | error fault =>
    have falls : Leaves m (lastKnown subType key) := by
      refine (leaves_readFlag key).attempt.bind fun cached => ?_
      cases cached <;> grind
    exact (leaves_note ..).seq (falls.bind fun known => leaves_pure _)

theorem leaves_followerCheck : Leaves m (Chatflow.isFollower.execute config items) := by
  refine leaves_openJournal.seq (leaves_context.bind fun c => (leaves_note ..).seq ?_)
  exact (leaves_lookUp _ _ (leaves_isFollower _) id).bind fun found => by grind

theorem leaves_hasTag : Leaves m (hasTag.execute config items) := by
  refine leaves_openJournal.seq ?_
  split
  · grind
  · refine leaves_context.bind fun c => (leaves_note ..).seq ?_
    dsimp only
    split
    · refine .bind ?_ fun found => by grind
      rw [← bind_pure_comp]
      exact (leaves_lookUp _ _ (leaves_mediaTags _) _).bind fun _ => leaves_pure _
    · exact (leaves_pure _).bind fun found => by grind

theorem leaves_withinLimit (subType : String) {body : Exec Reply} (own : Leaves m body) :
    Leaves m (withinLimit subType body) := by
  refine leaves_context.bind fun c => (leaves_acquire ..).attempt.bind fun granted => ?_
  match granted with
  | .error fault => exact (leaves_note ..).seq (leaves_failWith _)
  | .ok false => exact (leaves_note ..).seq (leaves_failWith _)
  | .ok true => exact own

theorem leaves_generation : Leaves m (Chatflow.generate.execute config items) := by
  have loads : Leaves m (loadTurns "SMARTAI") := by grind [loadTurns, leaves_recentTurns]
  have asks : ∀ prompt, Leaves m (generateText prompt) := fun prompt =>
    leaves_services_bind fun b _ =>
      (leaves_required _ _).bind fun _ => leaves_retrying (leaves_generate prompt)
  have saves : ∀ message response, Leaves m (saveTurns "SMARTAI" message response) :=
    fun message response => by grind [saveTurns, leaves_appendTurn]
  refine leaves_openJournal.seq ?_
  split
  · exact (leaves_note ..).seq (leaves_failWith _)
  · refine leaves_withinLimit _ (leaves_context.bind fun c => loads.bind fun turns => ?_)
    refine (leaves_note ..).seq ((asks _).attempt.bind fun response => ?_)
    split
    · exact (leaves_note ..).seq (leaves_failWith _)
    · split
      · exact (leaves_note ..).seq (leaves_failWith _)
      · refine leaves_handoff.bind fun h => (leaves_putText ..).attempt.bind fun put => ?_
        split
        · exact (leaves_note ..).seq (leaves_failWith _)
        · exact leaves_throw _
        · exact (leaves_note ..).seq ((saves ..).seq (leaves_succeed ..))

theorem leaves_logToSheets : Leaves m (LegacyKind.logToSheets.executor.execute config items) := by
  have exports : ∀ target, Leaves m (exportEvent target) := fun target =>
    leaves_services_bind fun b _ => (leaves_required ..).bind fun _ =>
      leaves_context.bind fun c => leaves_get.bind fun w => leaves_retrying (leaves_appendRow ..)
  have executes : Leaves m (executeKind .logToSheets config) := by
    unfold executeKind withLegacyConfig
    dsimp only
    split
    · refine (exports _).attempt.bind fun called => ?_
      split
      · split
        · exact (leaves_note ..).seq (leaves_succeed ..)
        · exact (leaves_note ..).seq (leaves_failWith _)
      · exact (leaves_note ..).seq (leaves_failWith _)
      · exact (leaves_note ..).seq (leaves_failWith _)
    · exact (leaves_note ..).seq (leaves_failWith _)
  exact (leaves_openJournal.seq executes).bind fun _ => leaves_pure _

theorem leaves_delay : Leaves m (delay.execute config items) := by
  refine leaves_openJournal.seq ?_
  split
  · grind
  · refine leaves_settings.bind fun s => ?_
    dsimp only
    split <;> grind

end Chatflow.Exec
