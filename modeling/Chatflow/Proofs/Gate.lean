import Chatflow.Engine
import Chatflow.Proofs.Run.Scheduling
import Chatflow.Proofs.Validation.Acceptance

/-!
# The gate before a run

A flow that does not pass the check is rejected before anything happens. One that passes is run to
the end of everything that its trigger reaches, unless an executor ends the run.
-/

namespace Chatflow

/-! ### Runs of well-formed flows -/

namespace Flow

variable {f : Flow} {d : Dispatch}

theorem WellFormed.acyclicFrom (wellFormed : f.WellFormed d) {trigger : FlowNode}
    (mem : trigger ∈ (Graph.ofFlow f).triggers) : (Graph.ofFlow f).AcyclicFrom trigger.id := by
  intro first rest cycle path
  have declared := (Graph.mem_triggers wellFormed.distinct).mp mem
  rw [Graph.leads_ofFlow wellFormed.connected] at cycle
  rw [Graph.reaches_ofFlow wellFormed.connected] at path
  exact wellFormed.acyclic trigger declared.1 declared.2 first rest cycle path

theorem WellFormed.resolves (wellFormed : f.WellFormed d) {n : FlowNode}
    (mem : n ∈ (Graph.ofFlow f).nodes) : d.find? n.subType ≠ none := by
  rw [Graph.nodes_ofFlow wellFormed.distinct] at mem
  obtain ⟨e, found⟩ := wellFormed.resolved n mem
  intro none
  cases (Dispatch.resolve?_eq_none_iff.mpr none).symm.trans found

end Flow

namespace Trace

variable {d : Dispatch} {f : Flow} {trigger : FlowNode} {env : Env} {opening : Parcel}
  {visits : List Visit} {result : RunResult}

theorem resolved (trace : Trace ⟨d, Graph.ofFlow f, trigger.id⟩ env opening visits result)
    (wellFormed : f.WellFormed d) {fatal : FatalError} (ended : result.fatal = some fatal) :
    fatal.code ≠ .unresolvedSubType := by
  intro unresolved
  have mem : fatal ∈ visits.filterMap Visit.fatal? := by
    rw [trace.ended, ended]
    exact List.mem_singleton_self fatal
  obtain ⟨v, hv, own⟩ := List.mem_filterMap.mp mem
  have fate : v.fate = .executed (.error fatal) := by
    obtain ⟨node, input, fate, before, after⟩ := v
    match fate with
    | .skipped => cases own
    | .executed (.ok r) => cases own
    | .executed (.error e) => exact congrArg (Fate.executed ∘ Except.error) (Option.some.inj own)
  have missing := ((trace.faithful hv).executed fate).2 fatal rfl unresolved
  exact wellFormed.resolves (Graph.mem_of_get? (trace.declared v hv)) missing

/-- For want of an executor no run of a well-formed flow ends: if no executor ends it, nothing
does. -/
theorem fatal_eq_none_of_wellFormed
    (trace : Trace ⟨d, Graph.ofFlow f, trigger.id⟩ env opening visits result)
    (wellFormed : f.WellFormed d)
    (other : ∀ fatal, result.fatal = some fatal →
      fatal.code ≠ .executorRaised ∧ fatal.code ≠ .missingTrigger) : result.fatal = none := by
  cases ended : result.fatal with
  | none => rfl
  | some fatal =>
    have code := trace.resolved wellFormed ended
    have others := other fatal ended
    cases kind : fatal.code <;> simp_all

/-- A run of a well-formed flow that no executor ends is done with all that its trigger reaches. -/
theorem mem_visited_iff_reaches
    (trace : Trace ⟨d, Graph.ofFlow f, trigger.id⟩ env opening visits result)
    (wellFormed : f.WellFormed d) (mem : trigger ∈ (Graph.ofFlow f).triggers)
    (none : result.fatal = none) {v : String} :
    v ∈ result.executed ++ result.skipped ↔ f.Reaches trigger.id v ∧ v ≠ trigger.id := by
  have has : (Graph.ofFlow f).has trigger.id = true :=
    Graph.has_triggers trigger.id (List.mem_map_of_mem mem)
  rw [trace.mem_visited_iff none, ← Graph.reaches_ofFlow wellFormed.connected]
  constructor
  · intro settled
    refine ⟨Graph.reaches_of_mem_runOrder has settled, ?_⟩
    rintro rfl
    exact Graph.start_not_mem_runOrder settled
  · rintro ⟨reach, ne⟩
    exact (wellFormed.acyclicFrom mem).mem_runOrder has reach ne

/-- Such a run is done with one node less than its trigger reaches, and so with fewer than there
are. -/
theorem exists_reached
    (trace : Trace ⟨d, Graph.ofFlow f, trigger.id⟩ env opening visits result)
    (wellFormed : f.WellFormed d) (mem : trigger ∈ (Graph.ofFlow f).triggers)
    (none : result.fatal = none) :
    ∃ reached : List String, reached.Nodup ∧ (∀ v, v ∈ reached ↔ f.Reaches trigger.id v) ∧
      result.executed.length + result.skipped.length + 1 = reached.length ∧
      reached.length ≤ f.nodes.length := by
  have has : (Graph.ofFlow f).has trigger.id = true :=
    Graph.has_triggers trigger.id (List.mem_map_of_mem mem)
  have reaches : ∀ v, v ∈ (Graph.ofFlow f).reachable [trigger.id] ↔ f.Reaches trigger.id v := by
    intro v
    rw [Graph.mem_reachable_singleton has, Graph.reaches_ofFlow wellFormed.connected]
  have nodup := Graph.nodup_reachable (g := Graph.ofFlow f) [trigger.id]
  have whole := RunResult.visited_of_fatal_eq_none none
  have perm : (trigger.id :: (result.executed ++ result.skipped)).Perm
      ((Graph.ofFlow f).reachable [trigger.id]) := by
    refine (List.perm_ext_iff_of_nodup (whole ▸ trace.nodup_visited) nodup).mpr fun v => ?_
    rw [reaches, List.mem_cons, trace.mem_visited_iff_reaches wellFormed mem none]
    by_cases own : v = trigger.id
    · simp [own, Flow.Reaches, Relation.ReflTransGen.refl]
    · simp [own]
  have length := perm.length_eq
  rw [List.length_cons, List.length_append] at length
  refine ⟨_, nodup, reaches, length, ?_⟩
  have within : (Graph.ofFlow f).reachable [trigger.id] ⊆ f.ids := fun v hv => by
    obtain ⟨s, -, has, path⟩ := Graph.mem_reachable.mp hv
    exact Graph.has_ofFlow.mp (path.has has)
  have fewer := (nodup.subperm within).length_le
  rwa [Flow.ids, List.length_map] at fewer

end Trace

namespace RunResult

/-- The result for a flow that may not run: what was found in it, and nothing else. -/
structure Rejection (result : RunResult) (violations : List Violation) : Prop where
  status : result.status = .rejected
  violations : result.violations = violations
  nodes : result.nodes = []
  skipped : result.skipped = []
  logs : result.logs = []
  fatal : result.fatal = none

/-- The result of a run that is done with everything behind its trigger, each node once, and that
needed no more nodes than its plan allows. -/
structure Completion (result : RunResult) (f : Flow) (trigger : FlowNode) (limit : PlanLimit) :
    Prop where
  started : result.triggerNodeId = some trigger.id
  nodup : (result.executed ++ result.skipped).Nodup
  mem_iff : ∀ v, v ∈ result.executed ++ result.skipped ↔ f.Reaches trigger.id v ∧ v ≠ trigger.id
  count : ∃ reached : List String, reached.Nodup ∧ (∀ v, v ∈ reached ↔ f.Reaches trigger.id v) ∧
    result.executed.length + result.skipped.length + 1 = reached.length
  within : (result.executed.length + result.skipped.length : Int) ≤ limit.maxNodes - 1

end RunResult

theorem Trace.completion {d : Dispatch} {f : Flow} {trigger : FlowNode} {env : Env}
    {opening : Parcel} {visits : List Visit} {result : RunResult} {limit : PlanLimit}
    (trace : Trace ⟨d, Graph.ofFlow f, trigger.id⟩ env opening visits result)
    (wellFormed : f.WellFormed d) (within : f.Within limit)
    (mem : trigger ∈ (Graph.ofFlow f).triggers) (none : result.fatal = none) :
    result.Completion f trigger limit := by
  obtain ⟨reached, nodup, reaches, count, bound⟩ := trace.exists_reached wellFormed mem none
  have once := (List.nodup_cons.mp trace.nodup_visited).2
  exact
    { started := trace.trigger
      nodup := once.sublist (List.sublist_append_left _ _)
      mem_iff := fun v => trace.mem_visited_iff_reaches wellFormed mem none
      count := ⟨reached, nodup, reaches, count⟩
      within := by
        have nodes := within.nodes
        omega }

namespace Exec

variable {d : Dispatch} {draft : Draft} {kind : String} {items : Option (List Item)}
  {plan : Option String} {table : Option PlanTable} {env : Env} {w v : World}

/-! ### The steps of the gate -/

/-- The store after a run: the record of the result was offered to it, and nothing else. -/
def recorded (store : Option Service.AuditStore) (result : RunResult) (w : World) :
    Option Service.AuditStore :=
  store.map fun s => (s.record (result.auditRecord w.clock.milliseconds)).2

theorem exists_outcome_audit (store : Service.AuditStore) (result : RunResult) (env : Env)
    (w : World) :
    ∃ records, outcome (audit store result) env w =
      (.ok (store.record (result.auditRecord w.clock.milliseconds)).2, { w with records }) := by
  unfold audit
  rw [outcome_bind_ok outcome_now]
  cases store.record (result.auditRecord w.clock.milliseconds) with
  | mk kept store =>
    cases kept with
    | ok _ => exact ⟨w.records, rfl⟩
    | error fault =>
      obtain ⟨records, logged⟩ := exists_outcome_emitInRun env w ["error"] (by decide) engineLogger
        .error "Could not record run" [("error", .str fault.message)] rfl
      dsimp only
      rw [outcome_bind_ok logged]
      exact ⟨records, rfl⟩

/-- After a run its record is offered to the store; else only the log for operators changes. -/
theorem exists_outcome_runAudited (store : Option Service.AuditStore) {result : RunResult}
    (ends : outcome (runFlow d draft kind items plan table) env w = (.ok result, v)) :
    ∃ records, outcome (runAudited d draft kind items plan table store) env w =
      (.ok (result, recorded store result v), { v with records }) := by
  unfold runAudited
  rw [outcome_bind_ok ends]
  cases store with
  | none => exact ⟨v.records, rfl⟩
  | some store =>
    obtain ⟨records, audits⟩ := exists_outcome_audit store result env v
    dsimp only
    rw [outcome_bind_ok audits]
    exact ⟨records, rfl⟩

theorem outcome_runFlow :
    outcome (runFlow d draft kind items plan table) env w =
      match outcome (validate d table (firstName env.context.subscription plan) draft) env w with
      | (.ok report, v) =>
        outcome (if report.ok then runDraft d draft kind items
          else do
            emitInRun engineLogger .warning "Flow rejected"
              [("plan", .str report.plan), ("violations", .texts report.codes)]
            rejected report kind w.clock.elapsed) env v
      | (.error fault, v) => (.error fault, v) := by
  unfold runFlow
  rw [outcome_bind_ok outcome_context]
  dsimp only
  rw [outcome_bind_ok outcome_elapsed, outcome_bind]
  rcases outcome (validate d table (firstName env.context.subscription plan) draft) env w with
    ⟨ended, v⟩
  cases ended <;> rfl

theorem exists_outcome_runFlow_of_violations {report : Report}
    (reports : outcome (validate d table (firstName env.context.subscription plan) draft) env w =
      (.ok report, v)) (found : report.violations ≠ []) :
    ∃ result records, outcome (runFlow d draft kind items plan table) env w =
        (.ok result, { v with records }) ∧ result.Rejection report.violations := by
  have refused : report.ok = false := by
    rw [Report.ok, List.isEmpty_eq_false_iff]
    exact found
  obtain ⟨records, logged⟩ := exists_outcome_emitInRun env v ["plan", "violations"] (by decide)
    engineLogger .warning "Flow rejected"
    [("plan", .str report.plan), ("violations", .texts report.codes)] rfl
  rw [outcome_runFlow, reports]
  dsimp only
  rw [if_neg (by simp [refused]), outcome_bind_ok logged]
  exact ⟨_, records, rfl, ⟨rfl, rfl, rfl, rfl, rfl, rfl⟩⟩

theorem outcome_runFlow_of_accepted (kind : String) (items : Option (List Item))
    {report : Report} {f : Flow}
    (reports : outcome (validate d table (firstName env.context.subscription plan) draft) env w =
      (.ok report, v)) (accepted : report.violations = []) (reads : draft.flow? = .ok f) :
    outcome (runFlow d draft kind items plan table) env w = outcome (run d f kind items) env v := by
  rw [outcome_runFlow, reports]
  dsimp only
  have passes : report.ok = true := List.isEmpty_iff.mpr accepted
  rw [if_pos passes, runDraft, reads]

/-! ### The cases of the gate -/

/-- The check found something. -/
theorem exists_outcome_runAudited_of_violations (store : Option Service.AuditStore)
    {report : Report}
    (reports : outcome (validate d table (firstName env.context.subscription plan) draft) env w =
      (.ok report, v)) (found : report.violations ≠ []) :
    ∃ result records, outcome (runAudited d draft kind items plan table store) env w =
        (.ok (result, recorded store result v), { v with records }) ∧
      result.Rejection report.violations := by
  obtain ⟨result, records, ends, rejection⟩ := exists_outcome_runFlow_of_violations reports found
  obtain ⟨records', audits⟩ := exists_outcome_runAudited store ends
  exact ⟨result, records', audits, rejection⟩

section

variable {report : Report} {f : Flow}
  (reports : outcome (validate d table (firstName env.context.subscription plan) draft) env w =
    (.ok report, v))
  (accepted : report.violations = []) (reads : draft.flow? = .ok f)

include reports accepted reads

/-- Nothing was found, and there is no trigger of the kind. -/
theorem exists_outcome_runAudited_of_none (store : Option Service.AuditStore)
    (none : (Graph.ofFlow f).trigger? (Text.upper kind) = none) :
    ∃ result u, outcome (runAudited d draft kind items plan table store) env w =
        (.ok (result, recorded store result u), u) ∧
      result.violations = [] ∧ result.fatal = some (.missingTrigger (Text.upper kind)) := by
  have through := outcome_runFlow_of_accepted kind items reports accepted reads
  obtain ⟨result, u, ends, -, -, -, violations, fatal⟩ :=
    exists_outcome_run_of_none env v d none items
  obtain ⟨records, audits⟩ := exists_outcome_runAudited store (through.trans ends)
  exact ⟨result, { u with records }, audits, violations, fatal⟩

/-- Nothing was found, and the flow is run from its trigger. -/
theorem exists_outcome_runAudited_of_trigger (store : Option Service.AuditStore)
    {trigger : FlowNode} (chosen : (Graph.ofFlow f).trigger? (Text.upper kind) = some trigger) :
    ∃ visits result u, outcome (runAudited d draft kind items plan table store) env w =
        (.ok (result, recorded store result u), u) ∧
      Trace ⟨d, Graph.ofFlow f, trigger.id⟩ env
        ⟨trigger.id, startItems env v items, v.clock.milliseconds⟩ visits result := by
  have through := outcome_runFlow_of_accepted kind items reports accepted reads
  obtain ⟨visits, result, u, ends, trace⟩ := exists_outcome_run env v d chosen items
  obtain ⟨records, audits⟩ := exists_outcome_runAudited store (through.trans ends)
  exact ⟨visits, result, { u with records }, audits, trace⟩

end

end Exec

/-- A flow in which the check finds something is rejected with what it finds: nothing is run, and of
the world only the log for operators changes. In any other flow all nodes have an executor, and a
run ends for want of a trigger, with an error of an executor, or done with everything behind its
trigger. Either way the store is offered the record of the result, and nothing else. -/
theorem runAudited_gate (d : Dispatch) (draft : Draft) (kind : String)
    (items : Option (List Item)) (plan : Option String) (table : Option PlanTable)
    (store : Option Service.AuditStore) (env : Env) (w : World) :
    match Exec.outcome
      (Exec.validate d table (Exec.firstName env.context.subscription plan) draft) env w with
    | (.error fault, v) =>
      Exec.outcome (Exec.runAudited d draft kind items plan table store) env w = (.error fault, v)
    | (.ok report, _) =>
      (report.violations ≠ [] → ∃ result records,
        Exec.outcome (Exec.runAudited d draft kind items plan table store) env w =
          (.ok (result, Exec.recorded store result w), { w with records }) ∧
        result.Rejection report.violations) ∧
      (report.violations = [] → ∃ f result v,
        draft.flow? = .ok f ∧
        Exec.outcome (Exec.runAudited d draft kind items plan table store) env w =
          (.ok (result, Exec.recorded store result v), v) ∧
        result.violations = [] ∧
        (∀ fatal, result.fatal = some fatal → fatal.code ≠ .unresolvedSubType) ∧
        ((∀ fatal, result.fatal = some fatal →
            fatal.code ≠ .executorRaised ∧ fatal.code ≠ .missingTrigger) →
          ∃ trigger t name limit,
            (Graph.ofFlow f).trigger? (Text.upper kind) = some trigger ∧
            Exec.tableInUse env table = .ok (.ok t) ∧
            Exec.namedPlan env (Exec.firstName env.context.subscription plan) = .ok name ∧
            t.get? name = some limit ∧ result.Completion f trigger limit)) := by
  rcases Exec.outcome_validate_cases d table (Exec.firstName env.context.subscription plan) draft
    env w with ⟨fault, faults, -⟩ | ⟨name, used, records, named, loaded, reports⟩
  · rw [faults]
    refine Exec.outcome_bind_error ?_ _
    rw [Exec.outcome_runFlow, faults]
  · rw [reports]
    refine ⟨fun found => ?_, fun accepted => ?_⟩
    · obtain ⟨result, records', audits, rejection⟩ :=
        Exec.exists_outcome_runAudited_of_violations store reports found
      exact ⟨result, records', audits, rejection⟩
    obtain ⟨f, reads, wellFormed, t, limit, rfl, entry, within⟩ :=
      Validation.violations_eq_nil_iff.mp accepted
    cases chosen : (Graph.ofFlow f).trigger? (Text.upper kind) with
    | none =>
      obtain ⟨result, v, audits, violations, fatal⟩ :=
        Exec.exists_outcome_runAudited_of_none reports accepted reads store chosen
      refine ⟨f, result, v, reads, audits, violations, fun other own => ?_, fun other => ?_⟩
      · obtain rfl := Option.some.inj (fatal.symm.trans own)
        exact nofun
      · exact absurd rfl (other _ fatal).2
    | some trigger =>
      obtain ⟨visits, result, v, audits, trace⟩ :=
        Exec.exists_outcome_runAudited_of_trigger reports accepted reads store chosen
      refine ⟨f, result, v, reads, audits, trace.violations,
        fun fatal ended => trace.resolved wellFormed ended, fun other => ?_⟩
      have none := trace.fatal_eq_none_of_wellFormed wellFormed other
      have mem : trigger ∈ (Graph.ofFlow f).triggers := List.mem_of_find?_eq_some chosen
      exact ⟨trigger, t, name, limit, chosen, loaded, named, entry,
        trace.completion wellFormed within mem none⟩

end Chatflow
