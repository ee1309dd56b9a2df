import Chatflow.Exec
import Chatflow.Proofs.Table

/-!
# Outcomes of executions

What executions end with and how they leave the world. Logging never fails for fields of other names
than a record's own, and changes nothing but the records.
-/

namespace Chatflow

def Env.bare (runId : String) : Env :=
  ⟨.blank runId, .error ⟨"Settings", []⟩, .ok .standard, .discard⟩

def Env.standard (runId : String) : Env := ⟨.blank runId, .ok .standard, .ok .standard, .discard⟩

/-- A world in which nothing has happened and no collaborator is there. -/
def World.bare : World := ⟨.start 0.0, .empty, .none, [], []⟩

namespace Exec

variable {α β : Type} {env : Env} {w v : World}

@[simp] theorem outcome_pure (a : α) : outcome (pure a) env w = (.ok a, w) := rfl

@[simp] theorem outcome_throw (e : Fault) : outcome (throw e : Exec α) env w = (.error e, w) := rfl

@[simp] theorem outcome_read : outcome (read : Exec Env) env w = (.ok env, w) := rfl

@[simp] theorem outcome_get : outcome (get : Exec World) env w = (.ok w, w) := rfl

@[simp] theorem outcome_modify (f : World → World) :
    outcome (modify f : Exec Unit) env w = (.ok (), f w) := rfl

@[simp] theorem outcome_attempt (body : Exec α) :
    outcome (attempt body) env w = (.ok (outcome body env w).1, (outcome body env w).2) := rfl

theorem outcome_bind (body : Exec α) (next : α → Exec β) :
    outcome (body >>= next) env w =
      match outcome body env w with
      | (.ok a, v) => outcome (next a) env v
      | (.error e, v) => (.error e, v) := by
  unfold outcome
  rw [ReaderT.run_bind, ExceptT.run_bind, StateT.run_bind]
  generalize ((body.run env).run).run w = ended
  obtain ⟨result, v⟩ := ended
  cases result <;> rfl

theorem outcome_bind_ok {body : Exec α} {a : α} (ends : outcome body env w = (.ok a, v))
    (next : α → Exec β) : outcome (body >>= next) env w = outcome (next a) env v := by
  rw [outcome_bind, ends]

theorem outcome_bind_error {body : Exec α} {e : Fault} (ends : outcome body env w = (.error e, v))
    (next : α → Exec β) : outcome (body >>= next) env w = (.error e, v) := by
  rw [outcome_bind, ends]

/-- A sequence ends with a value when its parts do. -/
theorem exists_outcomes_of_bind {body : Exec α} {next : α → Exec β} {b : β}
    (ends : outcome (body >>= next) env w = (.ok b, v)) :
    ∃ a u, outcome body env w = (.ok a, u) ∧ outcome (next a) env u = (.ok b, v) := by
  rw [outcome_bind] at ends
  generalize outcome body env w = first at ends ⊢
  obtain ⟨result, u⟩ := first
  cases result with
  | error e => cases ends
  | ok a => exact ⟨a, u, rfl, ends⟩

theorem outcome_map (f : α → β) (body : Exec α) :
    outcome (f <$> body) env w = ((outcome body env w).1.map f, (outcome body env w).2) := by
  rw [map_eq_pure_bind, outcome_bind]
  rcases outcome body env w with ⟨result, v⟩
  cases result <;> rfl

@[simp] theorem outcome_context : outcome context env w = (.ok env.context, w) := rfl

theorem outcome_settings :
    outcome settings env w = (env.settings.mapError .invalid, w) := by
  unfold settings
  rw [outcome_bind_ok outcome_read]
  cases env.settings <;> rfl

@[simp] theorem outcome_now : outcome now env w = (.ok w.clock.milliseconds, w) := rfl

@[simp] theorem outcome_elapsed : outcome elapsed env w = (.ok w.clock.elapsed, w) := rfl

theorem outcome_openJournal : outcome openJournal env w = (.ok (), { w with journal := [] }) := rfl

@[simp] theorem outcome_handoff : outcome handoff env w = (.ok w.handoff, w) := rfl

theorem outcome_discardText (producer : String) :
    outcome (discardText producer) env w =
      (.ok (w.handoff.discard producer).1,
        { w with handoff := (w.handoff.discard producer).2 }) := rfl

/-! ### Logging -/

def Loggable (names : List String) : Prop := ∀ name ∈ names, name ∉ Log.reservedNames

instance (names : List String) : Decidable (Loggable names) :=
  inferInstanceAs (Decidable (∀ name ∈ names, name ∉ Log.reservedNames))

theorem clash?_eq_none {fields : Entries Value} (loggable : Loggable fields.names) :
    Log.Record.clash? fields = none := by
  refine List.find?_eq_none.mpr fun name mem clash => ?_
  exact loggable name mem (List.contains_iff_mem.mp clash)

theorem exists_outcome_emit (env : Env) (w : World) (names : List String)
    (loggable : Loggable names) (logger : String) (severity : Log.Severity) (text : String)
    (fields : Entries Value) (named : fields.names = names) :
    ∃ records, outcome (emit logger severity text fields) env w = (.ok (), { w with records }) := by
  unfold emit
  rw [outcome_bind_ok outcome_read]
  dsimp only
  split
  · rw [clash?_eq_none (named ▸ loggable)]
    dsimp only
    split
    · exact ⟨w.records, rfl⟩
    · exact ⟨_, rfl⟩
  · exact ⟨w.records, rfl⟩

/-- What can be tested of an outcome is true of it. -/
theorem exists_outcome_of_any {body : Exec α} {test : α → Bool}
    (passes : (outcome body env w).1.toOption.any test = true) :
    ∃ a w', outcome body env w = (.ok a, w') ∧ test a = true := by
  generalize outcome body env w = ends at passes ⊢
  obtain ⟨ended, w'⟩ := ends
  cases ended with
  | error fault => cases passes
  | ok a => exact ⟨a, w', rfl, passes⟩

end Exec

end Chatflow
