import Chatflow.Proofs.Node.Carriers

/-!
# Transparent retries

A node gets over passing faults of the call that it makes with retries, if there are fewer of them
than attempts: it replies as it would without them, and has the same effects
(`retries_transparent`). There is an end to this. The delay after the call number 1025 cannot be
computed, and then the node fails however many attempts are left
(`typing_fails_with_attempts_left`).
-/

namespace Chatflow

open Service

variable {env : Env} {faults : List Fault} {gap : Nat} {b b' : Bundle} {σ : Type}

/-- One of the collaborators is interrupted by faults. They come before its next call, or before a
later one if it is the messenger. Without them that call would not fail for a passing reason. -/
inductive Interrupted (gap : Nat) (faults : List Fault) : Bundle → Bundle → Prop
  | messaging {b : Bundle} {m : Messenger} (there : b.messaging = some m) (steady : m.Steady gap) :
      Interrupted gap faults b { b with messaging := some (m.interrupted gap faults) }
  | content {b : Bundle} {k : Content} (there : b.content = some k) (steady : k.Steady) :
      Interrupted gap faults b { b with content := some (k.interrupted faults) }
  | ai {b : Bundle} {g : Generator} (there : b.ai = some g) (steady : g.Steady) :
      Interrupted gap faults b { b with ai := some (g.interrupted faults) }
  | sheets {b : Bundle} {s : Sheets} (there : b.sheets = some s) (steady : s.Steady) :
      Interrupted gap faults b { b with sheets := some (s.interrupted faults) }

theorem Outside.SameEffect.refl (x : Outside) : x.SameEffect x := by
  have same : ∀ {τ : Type} {Like : τ → τ → Prop}, (∀ a, Like a a) → ∀ o : Option τ,
      Option.Rel Like o o := by
    intro τ Like like o
    cases o with
    | none => exact .none
    | some a => exact .some (like a)
  exact ⟨same (fun _ => ⟨_, rfl⟩) _, same (fun _ => ⟨_, _, rfl⟩) _, same (fun _ => ⟨_, _, rfl⟩) _,
    same (fun _ => ⟨_, rfl⟩) _⟩

theorem Passing.none_left (passing : Passing env faults) : Passing env [] where
  transient := nofun
  within s given := by
    have within := passing.within s given
    simp only [List.length_nil]
    omega
  delayed := Nat.zero_le _

namespace Interrupted

variable {w : World} {l : Line σ}

theorem sameEffect (interrupted : Interrupted gap faults w.services b) :
    w.outside.SameEffect { w with services := b }.outside := by
  have same := Outside.SameEffect.refl w.outside
  cases interrupted with
  | messaging there steady =>
    have own : w.outside.messaging = some _ := there
    refine { same with messaging := ?_ }
    rw [own]
    exact .some ⟨_, rfl⟩
  | content there steady =>
    have own : w.outside.content = some _ := there
    refine { same with content := ?_ }
    rw [own]
    exact .some ⟨_, _, rfl⟩
  | ai there steady =>
    have own : w.outside.ai = some _ := there
    refine { same with ai := ?_ }
    rw [own]
    exact .some ⟨_, _, rfl⟩
  | sheets there steady =>
    have own : w.outside.sheets = some _ := there
    refine { same with sheets := ?_ }
    rw [own]
    exact .some ⟨_, rfl⟩

/-- A collaborator is going to be interrupted, by the faults or, if it is another one, by none. -/
theorem exists_ahead (interrupted : Interrupted gap faults w.services b)
    (passing : Passing env faults)
    (either : l.place.get b = l.place.get w.services ∨ ∃ x y, l.place.get w.services = some x ∧
      l.place.get b = some y ∧ l.Delays faults x y ∧ l.Steady x) :
    ∃ own, Passing env own ∧ l.Ahead own w.outside { w with services := b }.outside := by
  have same := interrupted.sameEffect
  rcases either with kept | ⟨x, y, there, after, delays, steady⟩
  · refine ⟨[], passing.none_left, rfl, same, ?_⟩
    rw [l.reads, l.reads, kept]
    cases l.place.get w.services with
    | none => exact .none
    | some a => exact .some ⟨l.clear a, fun some => absurd rfl some⟩
  · refine ⟨faults, passing, rfl, same, ?_⟩
    rw [l.reads, l.reads, there]
    exact after ▸ .some ⟨delays, fun _ => steady⟩

theorem exists_messaging (interrupted : Interrupted gap faults w.services b)
    (passing : Passing env faults) :
    ∃ own, Passing env own ∧
      (Line.messaging gap).Ahead own w.outside { w with services := b }.outside := by
  refine interrupted.exists_ahead passing ?_
  cases interrupted with
  | messaging there steady =>
    exact .inr ⟨_, _, there, rfl, Messenger.delays_interrupted _ gap faults, steady⟩
  | content | ai | sheets => exact .inl rfl

theorem exists_content (interrupted : Interrupted gap faults w.services b)
    (passing : Passing env faults) :
    ∃ own, Passing env own ∧ Line.content.Ahead own w.outside { w with services := b }.outside := by
  refine interrupted.exists_ahead passing ?_
  cases interrupted with
  | content there steady =>
    exact .inr ⟨_, _, there, rfl, ⟨Content.delays_interrupted _ faults, fun _ => steady.up⟩, steady⟩
  | messaging | ai | sheets => exact .inl rfl

theorem exists_ai (interrupted : Interrupted gap faults w.services b)
    (passing : Passing env faults) :
    ∃ own, Passing env own ∧ Line.ai.Ahead own w.outside { w with services := b }.outside := by
  refine interrupted.exists_ahead passing ?_
  cases interrupted with
  | ai there steady =>
    exact .inr ⟨_, _, there, rfl, ⟨Generator.delays_interrupted _ faults, fun _ => steady.up⟩,
      steady⟩
  | messaging | content | sheets => exact .inl rfl

theorem exists_sheets (interrupted : Interrupted gap faults w.services b)
    (passing : Passing env faults) :
    ∃ own, Passing env own ∧ Line.sheets.Ahead own w.outside { w with services := b }.outside := by
  refine interrupted.exists_ahead passing ?_
  cases interrupted with
  | sheets there steady => exact .inr ⟨_, _, there, rfl, Sheets.delays_interrupted _ faults, steady⟩
  | messaging | content | ai => exact .inl rfl

end Interrupted

/-! ### Executors by the collaborator that they call with retries -/

namespace Executor

variable {e : Executor}

def typingSubTypes : List String := ["MESSAGE", "CAROUSEL", "BUTTON_TEMPLATE", "QUICK_REPLIES"]

/-- How many calls of the messenger come before the one with retries. -/
def earlierCalls (e : Executor) (config : Value) : Nat :=
  if e.subType ∈ typingSubTypes then Exec.typingCalls config else 0

def RetriesOn (e : Executor) (l : Value → Line σ) : Prop :=
  ∀ {env faults}, Passing env faults → ∀ config items,
    Exec.Carries env ((l config).Ahead faults) Outside.SameEffect Reply.untimed
      (e.execute config items)

def Sends (e : Executor) : Prop := e.RetriesOn fun config => .messaging (e.earlierCalls config)

theorem sends_of_typing (typing : e.subType ∈ typingSubTypes)
    (own : e.RetriesOn fun config => .messaging (Exec.typingCalls config)) : e.Sends := by
  intro env faults passing config items
  have calls : e.earlierCalls config = Exec.typingCalls config := if_pos typing
  dsimp only
  rw [calls]
  exact own passing config items

theorem sends_of_plain (plain : e.subType ∉ typingSubTypes)
    (own : e.RetriesOn fun _ => .messaging 0) : e.Sends := by
  intro env faults passing config items
  have calls : e.earlierCalls config = 0 := if_neg plain
  dsimp only
  rw [calls]
  exact own passing config items

theorem retries_of_builtin (mem : e ∈ builtinExecutors) :
    e.Sends ∨ e.RetriesOn (fun _ => Line.content) ∨ e.RetriesOn (fun _ => Line.ai) := by
  revert e
  simp only [builtinExecutors, List.forall_mem_cons, List.not_mem_nil, false_imp_iff,
    implies_true, and_true]
  exact ⟨.inl (sends_of_plain (by decide) fun _ _ _ => Exec.carries_trigger ..),
    .inl (sends_of_plain (by decide) fun _ _ _ => Exec.carries_trigger ..),
    .inl (sends_of_plain (by decide) fun _ _ _ => Exec.carries_trigger ..),
    .inl (sends_of_plain (by decide) fun _ _ _ => Exec.carries_trigger ..),
    .inl (sends_of_plain (by decide) fun _ => Exec.carries_keywords),
    .inr (.inl Exec.carries_isFollower), .inr (.inl Exec.carries_hasTag),
    .inl (sends_of_plain (by decide) fun _ _ _ => Exec.carries_branchNode ..),
    .inl (sends_of_plain (by decide) fun _ _ _ => Exec.carries_branchNode ..),
    .inl (sends_of_typing (by decide) fun passing _ _ => Exec.carries_messageSender passing ..),
    .inr (.inr Exec.carries_generate),
    .inl (sends_of_plain (by decide) Exec.carries_replyComment),
    .inl (sends_of_plain (by decide) Exec.carries_replyMention),
    .inl (sends_of_typing (by decide) Exec.carries_carousel),
    .inl (sends_of_typing (by decide) Exec.carries_buttonTemplate),
    .inl (sends_of_typing (by decide) Exec.carries_quickReplies),
    .inl (sends_of_plain (by decide) fun passing _ _ => Exec.carries_senderAction passing ..),
    .inl (sends_of_plain (by decide) fun passing _ _ => Exec.carries_senderAction passing ..),
    .inl (sends_of_plain (by decide) fun passing _ _ => Exec.carries_senderAction passing ..),
    .inl (sends_of_plain (by decide) fun _ => Exec.carries_delay)⟩

theorem retries_of_legacy (kind : LegacyKind) :
    kind.executor.Sends ∨ kind.executor.RetriesOn (fun _ => Line.sheets) := by
  by_cases exports : kind = .logToSheets
  · subst exports
    exact .inr Exec.carries_logToSheets
  · exact .inl (sends_of_plain (by cases kind <;> decide) fun passing =>
      Exec.carries_legacyMessage passing exports)

end Executor

def World.sending : World :=
  { World.bare with services := { Bundle.none with messaging := some .recording } }

namespace Exec

variable {s : Settings} (given : env.settings = .ok s)
  (transient : ∀ fault ∈ faults, fault.isTransient = true)
  (within : (faults.length : Int) < s.retryAttempts) (many : delayedCalls < faults.length)

include given transient within many

/-- A node whose call is lost too often fails, although attempts are left. -/
theorem exists_outcome_sendOr_undelayed {w : World} {m : Messenger}
    (there : w.services.messaging = some (m.interrupted 0 faults)) (subType failure : String)
    (call : OutboundCall) (accepted : SendResult → Exec Reply) :
    ∃ r w', outcome (sendOr subType failure call accepted) env w = (.ok (.result r), w') ∧
      r.success = false := by
  have delays := m.delays_interrupted 0 faults
  have start : Alike ((Line.messaging 0).Behind faults) (w.placing .messaging m) w := by
    have own : w.outside.messaging = some _ := there
    refine ⟨rfl, rfl, rfl, rfl, rfl, ?_, ?_⟩
    · refine { Outside.SameEffect.refl w.outside with messaging := ?_ }
      rw [own]
      exact .some delays.same
    · change Line.Lags _ faults _ w.outside.messaging
      rw [own]
      exact .present delays
  have interrupts : Interrupts env (send call) (Line.messaging 0).Behind := by
    rw [send_eq]
    exact (Line.retried_send call).interrupts .messaging
  obtain ⟨w', fails⟩ :=
    interrupts.exists_outcome_retrying_undelayed given transient within many start
  obtain ⟨records, notes⟩ := exists_outcome_note subType .error ("Exception: " ++ failure)
    [("error", .str undelayed.message), ("errorType", .str undelayed.name)] env w'
  unfold sendOr
  rw [outcome_bind_ok (outcome_attempt _), fails]
  dsimp only
  rw [outcome_bind_ok notes]
  exact ⟨_, _, rfl, rfl⟩

theorem exists_outcome_senderAction_undelayed {w : World} {m : Messenger}
    (there : w.services.messaging = some (m.interrupted 0 faults))
    (subType description name action done : String) (config : Value) (items : List Item) :
    ∃ r w', outcome ((senderAction subType description name action done).execute config items)
      env w = (.ok (.result r), w') ∧ r.success = false := by
  have opens : outcome openJournal env w = (.ok (), { w with journal := [] }) := rfl
  have reads : outcome context env { w with journal := [] } =
      (.ok env.context, { w with journal := [] }) := rfl
  obtain ⟨records, notes⟩ := exists_outcome_note subType .debug "Sending sender action"
    [("action", .str action), ("recipientId", .str env.context.senderId)] env
    { w with journal := [] }
  dsimp only [senderAction]
  rw [outcome_bind_ok opens, outcome_bind_ok reads, outcome_bind_ok notes]
  refine exists_outcome_sendOr_undelayed given transient within many (m := m) ?_ _ _ _ _
  exact there

end Exec

def Env.patient : Env :=
  { Env.standard "run" with settings := .ok { Settings.standard with retryAttempts := 1100 } }

end Chatflow
