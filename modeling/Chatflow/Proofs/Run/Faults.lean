import Chatflow.Proofs.Node.Answers
import Chatflow.Proofs.Run.Trace

/-!
# Faults in runs through the built-in executors

The built-in executors answer with results, so what goes wrong in them fails their node and not the
run. What remains is a delay that cannot read the settings of the process: its fault ends the run.
-/

namespace Chatflow

/-- How a run of some nodes through the built-in executors ends early: there is no trigger or no
executor, or a delay cannot read the settings. -/
inductive FatalError.Known (bridge : Option Bridge) (nodes : List FlowNode) (kind : String)
    (env : Env) : FatalError → Prop
  | missingTrigger : Known bridge nodes kind env (.missingTrigger kind)
  | unresolved {n : FlowNode} (mem : n ∈ nodes)
      (unknown : (⟨.builtin, bridge⟩ : Dispatch).find? n.subType = none) :
      Known bridge nodes kind env (.unresolved n)
  | lapsed {n : FlowNode} {e : Executor} {fault : Fault} (mem : n ∈ nodes)
      (found : (⟨.builtin, bridge⟩ : Dispatch).resolve? n.subType = some e)
      (lapse : e.lapse? n.config env = some fault) : Known bridge nodes kind env (.raised n fault)

namespace FatalError

variable {bridge : Option Bridge} {nodes : List FlowNode} {kind : String} {env : Env}
  {fatal : FatalError}

/-- While the settings of the process can be read, no executor ends a run with a fault. -/
theorem Known.code_ne_of_settings (known : fatal.Known bridge nodes kind env) {s : Settings}
    (settings : env.settings = .ok s) : fatal.code ≠ .executorRaised := by
  cases known with
  | missingTrigger => nofun
  | unresolved => nofun
  | lapsed mem found lapse =>
    rw [Executor.lapse?, settings] at lapse
    cases lapse

end FatalError

theorem Visit.Faithful.known_of_fatal {course : Course} {env : Env} {v : Visit}
    {bridge : Option Bridge} {nodes : List FlowNode} {kind : String} {fatal : FatalError}
    (faithful : v.Faithful course env) (builtin : course.dispatch = ⟨.builtin, bridge⟩)
    (mem : v.node ∈ nodes) (ends : v.fatal? = some fatal) : fatal.Known bridge nodes kind env := by
  have fate := Visit.fatal?_eq_some_iff.mp ends
  rcases faithful.ended_cases fate with ⟨unknown, same, -⟩ | ⟨e, source, duration, found, same, -⟩
  · cases same
    exact .unresolved mem (builtin ▸ unknown)
  · rw [builtin] at found
    have answers := Dispatch.ends_builtin found v.node.config v.input env
      (course.entered v.node v.before)
    unfold Executor.Ends at answers
    split at answers
    · rename_i fault lapse
      obtain ⟨w', faults⟩ := answers
      rw [faults] at same
      cases same
      exact .lapsed mem found lapse
    · obtain ⟨r, w', answers, -⟩ := answers
      rw [answers] at same
      cases same

/-- The built-in executors and the legacy nodes answer every object of settings with a result, and
with no items if it is a failure; only a valid delay ends with a fault instead, and only where the
settings of the process cannot be read. A run through them that fails lacks its trigger or an
executor, or has such a delay. -/
theorem builtin_answers (bridge : Option Bridge) :
    (∀ subType e, (⟨.builtin, bridge⟩ : Dispatch).resolve? subType = some e →
      ∀ (config : Entries Value) (items : List Item) (env : Env) (w : World),
        match e.lapse? config env with
        | some fault =>
          ∃ w', Exec.outcome (e.execute (.obj config) items) env w = (.error fault, w')
        | none =>
          ∃ r w', Exec.outcome (e.execute (.obj config) items) env w = (.ok (.result r), w') ∧
            (r.success = false → r.items = [])) ∧
    ∀ (f : Flow) (kind : String) (items : Option (List Item)) (env : Env) (w : World),
      ∃ result w', Exec.outcome (Exec.run ⟨.builtin, bridge⟩ f kind items) env w =
          (.ok result, w') ∧
        (result.status = .failed ↔ result.fatal ≠ none) ∧
        ∀ fatal, result.fatal = some fatal →
          fatal.Known bridge (Graph.ofFlow f).nodes (Text.upper kind) env ∧
          (∀ s, env.settings = .ok s → fatal.code ≠ .executorRaised) := by
  refine ⟨fun subType e found config items env w => Dispatch.ends_builtin found config items env w,
    fun f kind items env w => ?_⟩
  suffices known : ∃ result w', Exec.outcome (Exec.run ⟨.builtin, bridge⟩ f kind items) env w =
      (.ok result, w') ∧ (result.status = .failed ↔ result.fatal ≠ none) ∧
      ∀ fatal, result.fatal = some fatal →
        fatal.Known bridge (Graph.ofFlow f).nodes (Text.upper kind) env by
    obtain ⟨result, w', ends, status, known⟩ := known
    exact ⟨result, w', ends, status, fun fatal some =>
      ⟨known fatal some, fun s settings => (known fatal some).code_ne_of_settings settings⟩⟩
  cases found : (Graph.ofFlow f).trigger? (Text.upper kind) with
  | none =>
    obtain ⟨result, records, ends, status, -, -, -, -, fatal⟩ :=
      Exec.exists_records_run_of_none env w ⟨.builtin, bridge⟩ found items
    refine ⟨result, _, ends, by simp [status, fatal], fun _ some => ?_⟩
    cases fatal.symm.trans some
    exact .missingTrigger
  | some trigger =>
    obtain ⟨visits, result, w', traces, trace, recorded⟩ :=
      Exec.exists_recorded_traceRun env w ⟨.builtin, bridge⟩ found items
    refine ⟨result, w', Exec.outcome_run_of_traceRun traces, ?_, fun fatal some => ?_⟩
    · rw [recorded.status_eq]
      split
      · simp_all
      · split <;> simp_all
    · have mem : fatal ∈ visits.filterMap Visit.fatal? := by
        rw [trace.ended, some]
        exact List.mem_singleton_self fatal
      obtain ⟨v, visited, ends⟩ := List.mem_filterMap.mp mem
      exact (trace.faithful visited).known_of_fatal rfl
        (Graph.mem_of_get? (trace.declared v visited)) ends

def waiting : Flow where
  nodes := [⟨"start", .trigger, "DM", "", []⟩, ⟨"wait", .action, "DELAY", "", [("delay", .int 1)]⟩]
  edges := [⟨none, "start", "wait", none⟩]

theorem trigger_waiting : (Graph.ofFlow waiting).trigger? (Text.upper "DM") =
    some ⟨"start", .trigger, "DM", "", []⟩ := by
  simp [Text.upper_dm, Graph.trigger?, Graph.triggers, Graph.ofFlow, Graph.firstDeclared, waiting,
    FlowNode.isTrigger]

def Env.misconfigured : Env :=
  { Env.bare "run" with settings := Settings.read? [("FLOW_ENGINE_MAX_DELAY_S", "abc")] none }

def Settings.delayReport : String :=
  "1 validation error for Settings\nmax_delay_s\n  Input should be a valid number, "
    ++ "unable to parse string as a number [type=float_parsing, input_value='abc', "
    ++ "input_type=str]\n    For further information visit "
    ++ "https://errors.pydantic.dev/2.14/v/float_parsing"

/-- Where the settings cannot be read the node that waits ends with a fault, and so does the run. -/
theorem waiting_aborts :
    (∃ fault w', Exec.outcome (delay.execute (.obj [("delay", .int 1)]) []) .misconfigured .bare =
      (.error fault, w') ∧ fault.message = Settings.delayReport) ∧
    ∃ result w', Exec.outcome (Exec.run ⟨.builtin, none⟩ waiting "DM" (some [Item.empty]))
        .misconfigured .bare = (.ok result, w') ∧
      result.status = .failed ∧ result.nodes.length = 0 ∧
      result.fatal = some ⟨.executorRaised,
        "Executor for DELAY raised ValidationError: " ++ Settings.delayReport, some "wait",
        some "DELAY"⟩ := by
  constructor
  · have ends : (match (Exec.outcome (delay.execute (.obj [("delay", .int 1)]) []) .misconfigured
        .bare).1 with
        | .error fault => fault.message == Settings.delayReport
        | .ok _ => false) = true := by
      decide +kernel
    generalize Exec.outcome _ _ _ = outcome at ends ⊢
    obtain ⟨ended, w'⟩ := outcome
    cases ended with
    | error fault => exact ⟨fault, w', rfl, by simpa using ends⟩
    | ok reply => cases ends
  · have passes : (Exec.outcome (Exec.run ⟨.builtin, none⟩ waiting "DM" (some [Item.empty]))
        .misconfigured .bare).1.toOption.any (fun r => r.status == .failed &&
          r.nodes.length == 0 && r.fatal == some ⟨.executorRaised,
            "Executor for DELAY raised ValidationError: " ++ Settings.delayReport, some "wait",
            some "DELAY"⟩) = true := by
      simp only [Exec.run, trigger_waiting]
      decide +kernel
    obtain ⟨result, w', ends, both⟩ := Exec.exists_outcome_of_any passes
    simp only [Bool.and_eq_true, beq_iff_eq, and_assoc] at both
    exact ⟨result, w', ends, both⟩

end Chatflow
