import Chatflow.Proofs.Node.Plain

/-!
# Executions that never end with a fault

Whatever is attempted cannot fail, and neither can a note: no field of an entry has a name of a
record's own. An executor whose calls of collaborators are all attempted thus answers with a result,
whatever the collaborators do. Of the built-in executors only the one that waits makes a call that
is not: it asks for the settings.
-/

namespace Chatflow

namespace Exec

variable {α β : Type} {body : Exec α} {next : α → Exec β}

structure Safe (body : Exec α) : Prop where
  ends : ∀ env w, ∃ a w', outcome body env w = (.ok a, w')

/-- The execution ends with a result in every environment and every world, and a failure has no
items. -/
structure Answers (body : Exec Reply) : Prop where
  ends : ∀ env w, ∃ r w', outcome body env w = (.ok (.result r), w') ∧
    (r.success = false → r.items = [])

structure Yields (P : NodeResult → World → Prop) (body : Exec Reply) : Prop where
  holds : ∀ env w r w', outcome body env w = (.ok (.result r), w') → P r w'

@[grind ←] theorem Safe.bind (first : Safe body) (rest : ∀ a, Safe (next a)) :
    Safe (body >>= next) := by
  refine ⟨fun env w => ?_⟩
  obtain ⟨a, v, ends⟩ := first.ends env w
  rw [outcome_bind_ok ends]
  exact (rest a).ends env v

@[grind ←] theorem Safe.bind_answers {next : α → Exec Reply} (first : Safe body)
    (rest : ∀ a, Answers (next a)) : Answers (body >>= next) := by
  refine ⟨fun env w => ?_⟩
  obtain ⟨a, v, ends⟩ := first.ends env w
  rw [outcome_bind_ok ends]
  exact (rest a).ends env v

/-- Only the last part of a sequence counts. -/
theorem Yields.bind {P : NodeResult → World → Prop} {next : α → Exec Reply}
    (rest : ∀ a, Yields P (next a)) : Yields P (body >>= next) := by
  refine ⟨fun env w r w' ends => ?_⟩
  rw [outcome_bind] at ends
  split at ends
  · exact (rest _).holds _ _ r w' ends
  · cases ends

@[grind ←] theorem Safe.seq {body : Exec PUnit} {next : PUnit → Exec β} (first : Safe body)
    (rest : Safe (next ⟨⟩)) : Safe (body >>= next) := first.bind fun _ => rest

@[grind ←] theorem Safe.seq_answers {body : Exec PUnit} {next : PUnit → Exec Reply}
    (first : Safe body) (rest : Answers (next ⟨⟩)) : Answers (body >>= next) :=
  first.bind_answers fun _ => rest

@[grind ←] theorem safe_attempt (body : Exec α) : Safe (attempt body) :=
  ⟨fun _ _ => ⟨_, _, outcome_attempt body⟩⟩

@[grind ←] theorem safe_pure (a : α) : Safe (pure a : Exec α) := ⟨fun _ w => ⟨a, w, rfl⟩⟩

/-! ### Parts that cannot fail -/

@[grind ←] theorem safe_context : Safe context := ⟨fun env w => ⟨env.context, w, rfl⟩⟩

@[grind ←] theorem safe_now : Safe now := ⟨fun _ w => ⟨_, w, outcome_now⟩⟩

@[grind ←] theorem safe_handoff : Safe handoff := ⟨fun _ w => ⟨_, w, outcome_handoff⟩⟩

@[grind ←] theorem safe_sleep (seconds : Float) : Safe (sleep seconds) :=
  ⟨fun _ _ => ⟨_, _, outcome_modify _⟩⟩

@[grind ←] theorem safe_openJournal : Safe openJournal := ⟨fun _ _ => ⟨_, _, outcome_modify _⟩⟩

@[grind ←] theorem safe_takeText : Safe takeText := ⟨fun _ w => ⟨w.handoff.take.1, _, rfl⟩⟩

@[grind ←] theorem answers_succeed (items : List Item) (text : String) :
    Answers (succeed items text) := ⟨fun _ w => ⟨_, w, rfl, nofun⟩⟩

@[grind ←] theorem answers_failWith (text : String) : Answers (failWith text) :=
  ⟨fun _ w => ⟨_, w, rfl, fun _ => rfl⟩⟩

theorem exists_outcome_note (subType : String) (level : Log.Level) (text : String)
    (data : Entries Value) (env : Env) (w : World) :
    ∃ records, outcome (note subType level text data) env w =
      (.ok (), { w with
        journal := w.journal ++ [.make w.clock.milliseconds level text data], records }) := by
  have own : Loggable ["run_id", "automation_id", "node_id", "sub_type", "data"] := by decide
  obtain ⟨fields, traces, names⟩ : ∃ fields, outcome (trace subType) env w = (.ok fields, w) ∧
      fields.names ⊆ ["run_id", "automation_id", "node_id", "sub_type", "data"] := by
    refine ⟨_, rfl, ?_⟩
    cases env.context.automationId <;> cases w.handoff.current <;>
      simp [Table.names]
  have more : (if data.isEmpty then [] else [("data", Value.obj data)] : Entries Value).names ⊆
      ["run_id", "automation_id", "node_id", "sub_type", "data"] := by
    split <;> simp [Table.names]
  unfold note record
  rw [outcome_bind_ok traces, outcome_bind_ok outcome_now]
  dsimp only
  rw [outcome_bind_ok (outcome_modify _)]
  exact exists_outcome_emit env _ _ (fun name mem => own name
    ((Table.mem_names_merge mem).elim (names ·) (more ·))) _ _ _ _ rfl

theorem exists_outcome_aside (subType : String) (level : Log.Level) (text : String)
    (data : Entries Value) (env : Env) (w : World) :
    ∃ v, outcome (note subType level text data) env w = (.ok (), v) ∧
      v.handoff = w.handoff ∧ v.services = w.services := by
  obtain ⟨records, notes⟩ := exists_outcome_note subType level text data env w
  exact ⟨_, notes, rfl, rfl⟩

@[grind ←] theorem safe_note (subType : String) (level : Log.Level) (text : String)
    (data : Entries Value) : Safe (note subType level text data) := by
  refine ⟨fun env w => ?_⟩
  obtain ⟨records, notes⟩ := exists_outcome_note subType level text data env w
  exact ⟨(), _, notes⟩

/-! ### Parts of executors -/

@[grind ←] theorem answers_withConfig {γ : Type} (subType : String)
    (read? : Value → Except Schema.Invalid γ) (config : Value) {body : γ → Exec Reply}
    (own : ∀ parsed, Answers (body parsed)) :
    Answers (withConfig subType read? config body) := by
  grind [withConfig]

@[grind ←] theorem safe_showTyping (subType : String) (config : Entries Value) :
    Safe (showTyping subType (.obj config)) := by
  have asks : Safe (ofExcept (asksForTyping (.obj config))) := safe_pure _
  unfold showTyping
  refine asks.bind fun wanted => ?_
  cases wanted <;> grind

@[grind ←] theorem answers_sendOr (subType failure : String) (call : Service.OutboundCall)
    {accepted : Service.SendResult → Exec Reply} (own : ∀ result, Answers (accepted result)) :
    Answers (sendOr subType failure call accepted) := by
  unfold sendOr
  refine (safe_attempt _).bind_answers fun sent => ?_
  cases sent <;> grind

theorem yields_sendOr {P : NodeResult → World → Prop} (fails : ∀ text, Yields P (failWith text))
    (subType failure : String) (call : Service.OutboundCall)
    {accepted : Service.SendResult → Exec Reply} (own : ∀ result, Yields P (accepted result)) :
    Yields P (sendOr subType failure call accepted) := by
  unfold sendOr
  refine .bind fun sent => ?_
  cases sent with
  | error fault => exact .bind fun _ => fails _
  | ok result =>
    dsimp only
    split
    · exact own result
    · exact .bind fun _ => fails _

@[grind ←] theorem answers_withReplyText (subType : String) (configured : Option String)
    {body : String → Exec Reply} (own : ∀ text, Answers (body text)) :
    Answers (withReplyText subType configured body) := by
  grind [withReplyText]

@[grind ←] theorem safe_lastKnown (subType key : String) : Safe (lastKnown subType key) := by
  refine (safe_attempt _).bind fun cached => ?_
  cases cached <;> grind

@[grind ←] theorem safe_lookUp (subType key : String) (lookup : Exec α) (flag : α → Bool) :
    Safe (lookUp subType key lookup flag) := by
  refine (safe_attempt _).bind fun found => ?_
  cases found with
  | ok found => exact (safe_attempt _).bind fun written => by cases written <;> grind
  | error fault => grind

@[grind ←] theorem safe_loadTurns (subType : String) : Safe (loadTurns subType) := by
  grind [loadTurns]

@[grind ←] theorem safe_saveTurns (subType message response : String) :
    Safe (saveTurns subType message response) := by
  grind [saveTurns]

theorem answers_withinLimit (subType : String) {body : Exec Reply} (own : Answers body) :
    Answers (withinLimit subType body) := by
  refine safe_context.bind_answers fun c => (safe_attempt _).bind_answers fun granted => ?_
  match granted with
  | .error fault => grind
  | .ok false => grind
  | .ok true => exact own

/-- The only fault of putting a text is that the slot is occupied. -/
theorem exists_outcome_putText (text : String) (producer : Option String) (env : Env) (w : World) :
    (∃ w', outcome (putText text producer) env w = (.ok (), w')) ∨
      ∃ earlier, outcome (putText text producer) env w = (.error (.occupied earlier), w) := by
  unfold putText
  rw [outcome_bind_ok outcome_handoff]
  cases w.handoff.put text producer with
  | ok h => exact .inl ⟨_, rfl⟩
  | error earlier => exact .inr ⟨earlier, rfl⟩

/-! ### Legacy nodes -/

@[grind ←] theorem answers_withLegacyConfig {γ : Type} (subType : String)
    (read? : Value → Except Schema.Invalid γ) (config : Value) {body : γ → Exec Reply}
    (own : ∀ parsed, Answers (body parsed)) :
    Answers (withLegacyConfig subType read? config body) := by
  grind [withLegacyConfig]

@[grind ←] theorem answers_legacyCall (subType : String) (report : LegacyReport)
    (call : Exec Service.SendResult) : Answers (legacyCall subType report call) := by
  unfold legacyCall
  refine (safe_attempt _).bind_answers fun called => ?_
  split <;> grind

theorem answers_executeLegacy (subType : String) (config : Value) :
    Answers (executeLegacy subType config) := by
  refine safe_openJournal.seq_answers ?_
  split
  · rename_i kind _
    cases kind <;> grind [executeKind]
  · grind

end Exec

end Chatflow
