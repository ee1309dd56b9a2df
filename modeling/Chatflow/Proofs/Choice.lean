import Chatflow.Proofs.Gate

/-!
# The engine's choice of executors

The engine checks and runs a flow with the executors of the registry that it is given, and with a
bridge over that registry (`engine_serves_registry`). A registry without executors counts as none,
and then the built-in one takes its place (`empty_registry_replaced`).
-/

namespace Chatflow

theorem Dispatch.chosen_of_ne_nil {r : Registry} (serves : r.executors ≠ []) :
    chosen (some r) none = bridged r := by
  have kept : (some r).filter (fun r => !r.executors.isEmpty) = some r := by
    simpa [Option.filter_some] using serves
  rw [chosen, kept]
  rfl

theorem Dispatch.chosen_of_eq_nil {r : Registry} (serves : r.executors = []) :
    chosen (some r) none = bridged .builtin := by
  have dropped : (some r).filter (fun r => !r.executors.isEmpty) = none := by
    simp [Option.filter_some, serves]
  rw [chosen, dropped]
  rfl

/-- A flow in which the check finds nothing is run, and the record of the run is kept. -/
theorem Exec.runAudited_of_accepted {d : Dispatch} {draft : Draft} {plan : Option String}
    {table : Option PlanTable} {env : Env} {w v : World} {report : Report} (kind : String)
    (items : Option (List Item)) (store : Option Service.AuditStore)
    (reports : outcome (validate d table (firstName env.context.subscription plan) draft) env w =
      (.ok report, v)) (accepted : report.violations = []) :
    match outcome (runDraft d draft kind items) env v with
    | (.error fault, u) =>
      outcome (runAudited d draft kind items plan table store) env w = (.error fault, u)
    | (.ok result, u) => ∃ records,
      outcome (runAudited d draft kind items plan table store) env w =
        (.ok (result, recorded store result u), { u with records }) := by
  have through : outcome (runFlow d draft kind items plan table) env w =
      outcome (runDraft d draft kind items) env v := by
    have passes : report.ok = true := List.isEmpty_iff.mpr accepted
    rw [outcome_runFlow, reports]
    dsimp only
    rw [if_pos passes]
  cases ends : outcome (runDraft d draft kind items) env v with
  | mk ended u =>
    cases ended with
    | error fault => exact outcome_bind_error (through.trans ends) _
    | ok result => exact exists_outcome_runAudited store (through.trans ends)

/-- The engine checks a flow with the executors of the registry that it is given, and runs it with
them when the check finds nothing; else it rejects the flow with what was found. Only in place of an
empty registry it does both with the built-in executors. -/
theorem engine_serves_registry (registry : Registry) (draft : Draft) (kind : String)
    (items : Option (List Item)) (plan : Option String) (table : Option PlanTable)
    (store : Option Service.AuditStore) (env : Env) (w : World) :
    ∃ d : Dispatch,
      (registry.executors ≠ [] → d = .bridged registry) ∧
      (registry.executors = [] → d = .bridged .builtin) ∧
      Exec.outcome (Exec.validate (.chosen (some registry) none) table plan draft) env w =
        Exec.outcome (Exec.validate d table plan draft) env w ∧
      match Exec.outcome
        (Exec.validate d table (Exec.firstName env.context.subscription plan) draft) env w with
      | (.error fault, v) =>
        Exec.outcome
          (Exec.runAudited (.chosen (some registry) none) draft kind items plan table store) env w =
            (.error fault, v)
      | (.ok report, v) =>
        (report.violations = [] →
          match Exec.outcome (Exec.runDraft d draft kind items) env v with
          | (.error fault, u) =>
            Exec.outcome
              (Exec.runAudited (.chosen (some registry) none) draft kind items plan table store)
              env w = (.error fault, u)
          | (.ok result, u) => ∃ records,
            Exec.outcome
              (Exec.runAudited (.chosen (some registry) none) draft kind items plan table store)
              env w = (.ok (result, Exec.recorded store result u), { u with records })) ∧
        (report.violations ≠ [] → ∃ result records,
          Exec.outcome
            (Exec.runAudited (.chosen (some registry) none) draft kind items plan table store)
            env w = (.ok (result, Exec.recorded store result v), { v with records }) ∧
          result.Rejection report.violations) := by
  refine ⟨.chosen (some registry) none, Dispatch.chosen_of_ne_nil, Dispatch.chosen_of_eq_nil,
    rfl, ?_⟩
  generalize Dispatch.chosen (some registry) none = d
  cases reports : Exec.outcome
      (Exec.validate d table (Exec.firstName env.context.subscription plan) draft) env w with
  | mk ended v =>
    cases ended with
    | error fault =>
      refine Exec.outcome_bind_error ?_ _
      rw [Exec.outcome_runFlow, reports]
    | ok report =>
      exact ⟨Exec.runAudited_of_accepted kind items store reports,
        Exec.exists_outcome_runAudited_of_violations store reports⟩

def openTable : PlanTable := ⟨[("FREE", ⟨10, 10, [PlanLimit.everySubType]⟩)]⟩

/-- The engine lets a flow pass for a registry that serves none of its nodes. -/
theorem empty_registry_replaced :
    (∃ report w', Exec.outcome (Exec.validate (.chosen (some .empty) none) (some openTable)
        (some "FREE") (.ofFlow loneTrigger)) (.bare "run") .bare = (.ok report, w') ∧
      report.ok = true) ∧
    ∃ report w', Exec.outcome (Exec.validate (.bridged .empty) (some openTable)
        (some "FREE") (.ofFlow loneTrigger)) (.bare "run") .bare = (.ok report, w') ∧
      report.codes = ["UNKNOWN_SUBTYPE"] := by
  have passes : (Exec.outcome (Exec.validate (.chosen (some .empty) none) (some openTable)
      (some "FREE") (.ofFlow loneTrigger)) (.bare "run") .bare).1.toOption.any (·.ok) = true := by
    decide +kernel
  have refuses : (Exec.outcome (Exec.validate (.bridged .empty) (some openTable)
      (some "FREE") (.ofFlow loneTrigger)) (.bare "run") .bare).1.toOption.any
        (·.codes == ["UNKNOWN_SUBTYPE"]) = true := by
    decide +kernel
  obtain ⟨report, w', ends, ok⟩ := Exec.exists_outcome_of_any passes
  obtain ⟨report', w'', ends', codes⟩ := Exec.exists_outcome_of_any refuses
  exact ⟨⟨report, w', ends, ok⟩, report', w'', ends', by simpa using codes⟩

end Chatflow
