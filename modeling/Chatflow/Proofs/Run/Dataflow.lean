import Chatflow.Proofs.Run.Trace

/-!
# The dataflow of a run

The meaning of a run in terms of what its nodes hand on: each node receives what arrives from the
nodes before it, is executed with that, and is skipped when nothing arrives.
-/

namespace Chatflow

/-- A run is a traced run, and each visit in the trace has received exactly what arrives from the
trigger and from the visits before it. The node was executed with that if it is not empty, and it
was skipped otherwise. -/
theorem run_dataflow (d : Dispatch) (f : Flow) (kind : String) (items : Option (List Item)) :
    Prod.snd <$> Exec.traceRun d f kind items = Exec.run d f kind items ∧
    ∀ (env : Env) (w : World), ∃ visits result w',
      Exec.outcome (Exec.traceRun d f kind items) env w = (.ok (visits, result), w') ∧
      result.nodes = visits.filterMap Visit.run? ∧
      result.skipped = (visits.filter (·.input.isEmpty)).map (·.node.id) ∧
      match (Graph.ofFlow f).trigger? (Text.upper kind) with
      | none => visits = [] ∧ result.fatal = some (.missingTrigger (Text.upper kind))
      | some trigger =>
        visits.map (·.node.id) <+: (Graph.ofFlow f).runOrder trigger.id ∧
        (result.fatal = none → visits.map (·.node.id) = (Graph.ofFlow f).runOrder trigger.id) ∧
        result.fatal.toList = visits.filterMap Visit.fatal? ∧
        ∀ before v after, visits = before ++ v :: after →
          v.input = (Graph.ofFlow f).arriving
            (⟨trigger.id, startItems env w items, w.clock.milliseconds⟩ ::
              before.map Visit.parcel) v.node.id ∧
          (v.input = [] → v.fate = .skipped) ∧
          (v.input ≠ [] → ∃ ended, v.fate = .executed ended ∧
            Exec.outcome (Exec.executeNode ⟨d, Graph.ofFlow f, trigger.id⟩ v.node v.input) env
              v.before = (.ok ended, v.after)) := by
  refine ⟨Exec.snd_traceRun d f kind items, fun env w => ?_⟩
  cases found : (Graph.ofFlow f).trigger? (Text.upper kind) with
  | none =>
    obtain ⟨result, w', ends, nodes, skipped, -, -, fatal⟩ :=
      Exec.exists_outcome_run_of_none env w d found items
    exact ⟨[], result, w', Exec.outcome_traceRun_of_none found ends, nodes, skipped, rfl, fatal⟩
  | some trigger =>
    obtain ⟨visits, result, w', traces, trace⟩ := Exec.exists_outcome_traceRun env w d found
      items
    refine ⟨visits, result, w', traces, trace.nodes, trace.skipped_eq, trace.order, trace.complete,
      trace.ended.symm, fun before v after split => ?_⟩
    have explained := trace.explained before v after split
    exact ⟨explained.input, explained.faithful.skips, explained.faithful.executes⟩

end Chatflow
