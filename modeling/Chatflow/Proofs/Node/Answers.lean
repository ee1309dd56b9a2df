import Chatflow.Proofs.Handoff.Builtin
import Chatflow.Proofs.Node.Safe

/-!
# The answers of the built-in executors

Each built-in executor answers every object of settings with a result, whichever collaborators are
missing or fail and however they fail. There is one exception: a valid delay looks up the longest
delay that is allowed, and ends with a fault when the settings of the process cannot be read.
-/

namespace Chatflow

namespace Exec

variable (config : Entries Value) (items : List Item)

theorem answers_trigger (subType description name : String) (config : Value) :
    Answers ((trigger subType description name).execute config items) :=
  ⟨fun _ w => ⟨_, w, rfl, nofun⟩⟩

theorem answers_branchNode (subType description name : String) (config : Value) :
    Answers ((branchNode subType description name).execute config items) :=
  ⟨fun _ w => ⟨_, w, rfl, nofun⟩⟩

theorem answers_keywords (config : Value) : Answers (keywords.execute config items) := by
  refine safe_openJournal.seq_answers ?_
  split
  · grind
  · refine safe_context.bind_answers fun c => (safe_note ..).seq_answers ?_
    dsimp only
    split <;> grind

theorem answers_followerCheck (config : Value) :
    Answers (Chatflow.isFollower.execute config items) := by
  refine safe_openJournal.seq_answers (safe_context.bind_answers fun c => ?_)
  refine (safe_note ..).seq_answers ((safe_lookUp ..).bind_answers fun found => ?_)
  grind

theorem answers_hasTag (config : Value) : Answers (hasTag.execute config items) := by
  refine safe_openJournal.seq_answers ?_
  split
  · grind
  · refine safe_context.bind_answers fun c => (safe_note ..).seq_answers ?_
    dsimp only
    split
    · refine Safe.bind_answers ?_ fun found => by grind
      rw [← bind_pure_comp]
      exact (safe_lookUp ..).bind fun _ => safe_pure _
    · exact (safe_pure _).bind_answers fun found => by grind

theorem answers_senderAction (subType description name action done : String) (config : Value) :
    Answers ((senderAction subType description name action done).execute config items) := by
  refine safe_openJournal.seq_answers (safe_context.bind_answers fun c => ?_)
  grind

theorem answers_messageSender (subType name home : String) :
    Answers ((messageSender subType name home).execute (.obj config) items) := by
  refine safe_openJournal.seq_answers (answers_withConfig _ _ _ fun parsed => ?_)
  refine safe_takeText.bind_answers fun text => ?_
  split
  · grind
  · refine safe_context.bind_answers fun c => (safe_note ..).seq_answers ?_
    exact (safe_showTyping ..).seq_answers (answers_sendOr _ _ _ fun result => by grind)

theorem answers_replyComment (config : Value) : Answers (replyComment.execute config items) := by
  refine safe_openJournal.seq_answers (answers_withConfig _ _ _ fun parsed => ?_)
  refine safe_context.bind_answers fun c => ?_
  split <;> grind

theorem answers_replyMention (config : Value) : Answers (replyMention.execute config items) := by
  refine safe_openJournal.seq_answers (answers_withConfig _ _ _ fun parsed => ?_)
  refine safe_context.bind_answers fun c => ?_
  dsimp only
  split <;> grind

theorem answers_carousel : Answers (carousel.execute (.obj config) items) := by
  refine safe_openJournal.seq_answers (answers_withConfig _ _ _ fun parsed => ?_)
  refine (safe_note ..).seq_answers ((safe_showTyping ..).seq_answers ?_)
  exact safe_context.bind_answers fun c => answers_sendOr _ _ _ fun result => by grind

theorem answers_buttonTemplate : Answers (buttonTemplate.execute (.obj config) items) := by
  refine safe_openJournal.seq_answers (answers_withConfig _ _ _ fun parsed => ?_)
  refine (safe_note ..).seq_answers ((safe_showTyping ..).seq_answers ?_)
  exact safe_context.bind_answers fun c => answers_sendOr _ _ _ fun result => by grind

theorem answers_quickReplies : Answers (quickReplies.execute (.obj config) items) := by
  refine safe_openJournal.seq_answers (answers_withConfig _ _ _ fun parsed => ?_)
  refine (safe_note ..).seq_answers ((safe_showTyping ..).seq_answers ?_)
  exact safe_context.bind_answers fun c => answers_sendOr _ _ _ fun result => by grind

/-- A text that finds the slot occupied fails the node; no other fault comes of putting it. -/
theorem answers_putText_bind (text : String) {next : Except Fault Unit → Exec Reply}
    (put : Answers (next (.ok ())))
    (occupied : ∀ producer, Answers (next (.error (.occupied producer)))) :
    Answers (handoff >>= fun h => attempt (putText text h.current) >>= next) := by
  refine safe_handoff.bind_answers fun h => ⟨fun env w => ?_⟩
  rw [outcome_bind_ok (outcome_attempt _)]
  rcases exists_outcome_putText text h.current env w with ⟨v, puts⟩ | ⟨producer, finds⟩
  · rw [puts]
    exact put.ends env v
  · rw [finds]
    exact (occupied producer).ends env w

theorem answers_generate (config : Value) :
    Answers (Chatflow.generate.execute config items) := by
  refine safe_openJournal.seq_answers ?_
  split
  · grind
  · refine answers_withinLimit _ (safe_context.bind_answers fun c => ?_)
    refine (safe_loadTurns _).bind_answers fun turns => (safe_note ..).seq_answers ?_
    refine (safe_attempt _).bind_answers fun response => ?_
    split
    · grind
    · split
      · grind
      · exact answers_putText_bind _ (by grind) fun producer => by grind

theorem answers_legacy (kind : LegacyKind) (config : Value) :
    Answers (kind.executor.execute config items) := by
  refine ⟨fun env w => ?_⟩
  obtain ⟨r, v, ends, fails⟩ := (answers_executeLegacy kind.subType config).ends env w
  refine ⟨if r.success then { r with items } else r, v, ?_, ?_⟩
  · change outcome (executeLegacy kind.subType config >>= fun reply =>
      pure (reply.withItems items)) env w = _
    rw [outcome_bind_ok ends]
    rfl
  · intro failed
    split at failed
    · simp_all
    · rw [if_neg ‹_›]
      exact fails failed

/-! ### Delays -/

/-- A delay reads the settings of the process if its own are valid, and in no other case. -/
theorem exists_outcome_delay (config : Value) (env : Env) (w : World) :
    match DelayConfig.read? (Executor.settingsOf config), env.settings with
    | .ok _, .error invalid =>
      ∃ w', outcome (delay.execute config items) env w = (.error (.invalid invalid), w')
    | _, _ => ∃ r w', outcome (delay.execute config items) env w = (.ok (.result r), w') ∧
        (r.success = false → r.items = []) := by
  cases read : DelayConfig.read? (Executor.settingsOf config) with
  | error invalid =>
    have fails : Answers (delay.execute config items) := by
      refine safe_openJournal.seq_answers ?_
      rw [read]
      grind
    exact fails.ends env w
  | ok parsed =>
    have opens : outcome openJournal env w = (.ok (), { w with journal := [] }) := rfl
    have asks : outcome settings env { w with journal := [] } =
        (env.settings.mapError .invalid, { w with journal := [] }) := outcome_settings
    dsimp only [delay]
    rw [outcome_bind_ok opens, read]
    cases known : env.settings with
    | error invalid =>
      rw [known] at asks
      exact ⟨_, outcome_bind_error asks _⟩
    | ok s =>
      rw [known] at asks
      dsimp only
      rw [outcome_bind_ok asks]
      refine Answers.ends ?_ env _
      split <;> grind

end Exec

/-! ### The dispatch -/

namespace Executor

open Exec

def Answering (e : Executor) : Prop :=
  ∀ (config : Entries Value) (items : List Item), Answers (e.execute (.obj config) items)

/-- The fault of a valid delay where the settings of the process cannot be read. -/
def lapse? (e : Executor) (config : Entries Value) (env : Env) : Option Fault :=
  match env.settings, e.readConfig (settingsOf (.obj config)) with
  | .error invalid, .ok _ => if e.subType = "DELAY" then some (.invalid invalid) else none
  | _, _ => none

theorem lapse?_of_subType_ne {e : Executor} (other : e.subType ≠ "DELAY") (config : Entries Value)
    (env : Env) : e.lapse? config env = none := by
  unfold lapse?
  split
  · exact if_neg other
  · rfl

/-- Of the built-in executors only a delay, the last one, may end with a fault. -/
theorem answering_of_builtin {e : Executor} (mem : e ∈ builtinExecutors) :
    e = delay ∨ e.subType ≠ "DELAY" ∧ e.Answering := by
  have others : ∀ e ∈ builtinExecutors.dropLast, e.subType ≠ "DELAY" := by decide
  have answering : ∀ e ∈ builtinExecutors.dropLast, e.Answering := by
    simp only [builtinExecutors, List.dropLast, List.forall_mem_cons, List.not_mem_nil,
      false_imp_iff, implies_true, and_true]
    exact ⟨fun _ _ => answers_trigger .., fun _ _ => answers_trigger ..,
      fun _ _ => answers_trigger .., fun _ _ => answers_trigger .., fun _ _ => answers_keywords ..,
      fun _ _ => answers_followerCheck .., fun _ _ => answers_hasTag ..,
      fun _ _ => answers_branchNode .., fun _ _ => answers_branchNode ..,
      fun _ _ => answers_messageSender .., fun _ _ => answers_generate ..,
      fun _ _ => answers_replyComment .., fun _ _ => answers_replyMention ..,
      fun _ _ => answers_carousel .., fun _ _ => answers_buttonTemplate ..,
      fun _ _ => answers_quickReplies .., fun _ _ => answers_senderAction ..,
      fun _ _ => answers_senderAction .., fun _ _ => answers_senderAction ..⟩
  have parts : builtinExecutors = builtinExecutors.dropLast ++ [delay] := rfl
  rw [parts, List.mem_append, List.mem_singleton] at mem
  rcases mem with other | last
  · exact .inr ⟨others e other, answering e other⟩
  · exact .inl last

/-- What an execution of an executor ends with: a result, without items if it is a failure, or the
fault of a delay. -/
def Ends (e : Executor) (config : Entries Value) (items : List Item) (env : Env) (w : World) :
    Prop :=
  match e.lapse? config env with
  | some fault => ∃ w', outcome (e.execute (.obj config) items) env w = (.error fault, w')
  | none => ∃ r w', outcome (e.execute (.obj config) items) env w = (.ok (.result r), w') ∧
      (r.success = false → r.items = [])

theorem Answering.ends {e : Executor} (answering : e.Answering) (other : e.subType ≠ "DELAY")
    (config : Entries Value) (items : List Item) (env : Env) (w : World) :
    e.Ends config items env w := by
  rw [Ends, lapse?_of_subType_ne other]
  exact (answering config items).ends env w

theorem ends_delay (config : Entries Value) (items : List Item) (env : Env) (w : World) :
    delay.Ends config items env w := by
  have ends := exists_outcome_delay items (.obj config) env w
  have reads : delay.readConfig (settingsOf (.obj config)) =
      (DelayConfig.read? (settingsOf (.obj config))).map DelayConfig.value := rfl
  unfold Ends lapse?
  rw [reads]
  cases read : DelayConfig.read? (settingsOf (.obj config)) with
  | error invalid =>
    rw [read] at ends
    cases known : env.settings <;> exact ends
  | ok parsed =>
    rw [read] at ends
    cases known : env.settings <;> rw [known] at ends <;> exact ends

end Executor

/-- What every execution of a built-in executor or a legacy node ends with. -/
theorem Dispatch.ends_builtin {bridge : Option Bridge} {subType : String} {e : Executor}
    (found : (⟨.builtin, bridge⟩ : Dispatch).resolve? subType = some e) (config : Entries Value)
    (items : List Item) (env : Env) (w : World) : e.Ends config items env w := by
  obtain ⟨-, registered | ⟨kind, rfl⟩⟩ := resolves_builtin found
  · rcases Executor.answering_of_builtin registered with rfl | ⟨other, answering⟩
    · exact Executor.ends_delay config items env w
    · exact answering.ends other config items env w
  · have answering : kind.executor.Answering := fun config items =>
      Exec.answers_legacy items kind (.obj config)
    exact answering.ends (by cases kind <;> decide) config items env w

end Chatflow
