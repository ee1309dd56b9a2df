import Chatflow.Proofs.Run.Loop
import Mathlib.Data.List.Perm.Basic

/-!
# The schedule of a run

Which nodes a run is done with at its end. It is done with each of them once, after everything that
leads to it, and a run without an error is done with all reachable nodes that no cycle blocks.
-/

namespace Chatflow

def RunResult.aborted (r : RunResult) : Option String := r.fatal.bind FatalError.nodeId

/-- The nodes with which a run is done: executed, skipped, or the one whose error ended the run. -/
def RunResult.visited (r : RunResult) : List String := r.executed ++ r.skipped ++ r.aborted.toList

theorem RunResult.visited_of_fatal_eq_none {r : RunResult} (none : r.fatal = none) :
    r.visited = r.executed ++ r.skipped := by
  rw [visited, aborted, none]
  exact List.append_nil _

theorem filterMap_sublist_map {α β : Type} {f : α → Option β} {g : α → β} {l : List α}
    (agree : ∀ a ∈ l, ∀ b, f a = some b → b = g a) : (l.filterMap f).Sublist (l.map g) := by
  induction l with
  | nil => exact .slnil
  | cons a l ih =>
    have rest := ih fun b hb => agree b (List.mem_cons_of_mem a hb)
    cases eq : f a with
    | none =>
      rw [List.filterMap_cons_none eq]
      exact rest.cons (g a)
    | some b =>
      rw [List.filterMap_cons_some eq, List.map_cons, agree a List.mem_cons_self b eq]
      exact rest.cons_cons (g a)

namespace Visit

def executedId? (v : Visit) : Option String := v.run?.map NodeRun.nodeId

/-- The id of a node whose error ended the run. -/
def abortedId? (v : Visit) : Option String := v.fatal?.bind FatalError.nodeId

theorem Faithful.ids {course : Course} {env : Env} {v : Visit} (faithful : v.Faithful course env) :
    (v.executedId? = some v.node.id ∧ v.skippedId? = none ∧ v.abortedId? = none) ∨
    (v.executedId? = none ∧ v.skippedId? = some v.node.id ∧ v.abortedId? = none) ∨
    (v.executedId? = none ∧ v.skippedId? = none ∧ v.abortedId? = some v.node.id) := by
  cases fate : v.fate with
  | skipped =>
    simp [executedId?, skippedId?, abortedId?, run?, fatal?, fate]
  | executed ended =>
    have about := (faithful.executed fate).1
    cases ended with
    | ok r => simp_all [executedId?, skippedId?, abortedId?, run?, fatal?, endedId?]
    | error fatal => simp_all [executedId?, skippedId?, abortedId?, run?, fatal?, endedId?]

end Visit

namespace Trace

variable {course : Course} {env : Env} {opening : Parcel} {visits : List Visit}
  {result : RunResult} (trace : Trace course env opening visits result)

include trace

theorem executed_eq : result.executed = visits.filterMap Visit.executedId? := by
  rw [RunResult.executed, trace.nodes, List.map_filterMap]
  rfl

theorem aborted_eq : result.aborted.toList = visits.filterMap Visit.abortedId? := by
  have ended := congrArg (List.filterMap FatalError.nodeId) trace.ended
  rw [List.filterMap_filterMap] at ended
  rw [RunResult.aborted]
  refine Eq.trans ?_ ended.symm
  cases result.fatal with
  | none => rfl
  | some fatal =>
    rw [Option.bind_some, Option.toList_some, List.filterMap_cons]
    cases fatal.nodeId <;> rfl

theorem executed_sublist : result.executed.Sublist (visits.map (·.node.id)) := by
  rw [trace.executed_eq]
  refine filterMap_sublist_map fun v hv id executed => ?_
  rcases (trace.faithful hv).ids with ⟨own, -⟩ | ⟨none, -⟩ | ⟨none, -⟩
  · exact Option.some.inj (executed.symm.trans own)
  · cases executed.symm.trans none
  · cases executed.symm.trans none

theorem skipped_sublist : result.skipped.Sublist (visits.map (·.node.id)) := by
  rw [trace.skipped]
  refine filterMap_sublist_map fun v hv id skipped => ?_
  rcases (trace.faithful hv).ids with ⟨-, none, -⟩ | ⟨-, own, -⟩ | ⟨-, none, -⟩
  · cases skipped.symm.trans none
  · exact Option.some.inj (skipped.symm.trans own)
  · cases skipped.symm.trans none

theorem perm_visited : result.visited.Perm (visits.map (·.node.id)) := by
  have faithful : ∀ v ∈ visits, v.Faithful course env := fun v hv => trace.faithful hv
  rw [RunResult.visited, trace.executed_eq, trace.skipped, trace.aborted_eq]
  clear trace
  induction visits with
  | nil => exact .nil
  | cons v visits ih =>
    have rest := ih fun u hu => faithful u (List.mem_cons_of_mem v hu)
    rw [List.map_cons]
    refine List.Perm.trans ?_ (rest.cons v.node.id)
    rcases (faithful v List.mem_cons_self).ids with
      ⟨executed, skipped, aborted⟩ | ⟨executed, skipped, aborted⟩ | ⟨executed, skipped, aborted⟩
    · rw [List.filterMap_cons_some executed, List.filterMap_cons_none skipped,
        List.filterMap_cons_none aborted, List.cons_append, List.cons_append]
    · rw [List.filterMap_cons_none executed, List.filterMap_cons_some skipped,
        List.filterMap_cons_none aborted, List.append_assoc, List.append_assoc, List.cons_append]
      exact List.perm_middle
    · rw [List.filterMap_cons_none executed, List.filterMap_cons_none skipped,
        List.filterMap_cons_some aborted]
      exact List.perm_middle

theorem nodup_visited : (course.start :: result.visited).Nodup := by
  have nodup := Graph.nodup_runOrder course.graph course.start
  have visits := nodup.sublist (trace.order.sublist.cons_cons course.start)
  exact (trace.perm_visited.cons course.start).nodup_iff.mpr visits

theorem mem_visited_iff (none : result.fatal = none) {id : String} :
    id ∈ result.executed ++ result.skipped ↔ id ∈ course.graph.runOrder course.start := by
  rw [← RunResult.visited_of_fatal_eq_none none, trace.perm_visited.mem_iff, trace.complete none]

theorem input_eq_nil (empty : opening.items = []) {v : Visit} (mem : v ∈ visits) :
    v.input = [] := by
  obtain ⟨before, after, split⟩ := List.append_of_mem mem
  -- By induction on how many visits came before: they have handed nothing on.
  induction length : before.length using Nat.strong_induction_on generalizing before v after with
  | _ count ih =>
    have none : ∀ u ∈ before, u.parcel.items = [] := by
      intro u hu
      obtain ⟨first, last, parts⟩ := List.append_of_mem hu
      have fewer : first.length < count := by
        rw [← length, parts]
        simp
      have whole : visits = first ++ u :: (last ++ v :: after) := by
        rw [split, parts, List.append_assoc, List.cons_append]
      have input := ih first.length fewer (whole ▸ by simp) first _ whole rfl
      have skips := (trace.explained first u _ whole).faithful.skips input
      simp [Visit.parcel, Visit.output, skips]
    rw [(trace.explained before v after split).input]
    simp only [Graph.arriving, List.flatMap_eq_nil_iff, List.mem_cons, List.mem_map]
    rintro parcel (rfl | ⟨u, hu, rfl⟩) _ _
    · rw [Parcel.sent, empty, List.map_nil]
    · rw [Parcel.sent, none u hu, List.map_nil]

theorem fatal_eq_none (empty : opening.items = []) : result.fatal = none := by
  have ended := trace.ended
  rw [List.filterMap_eq_nil_iff.mpr] at ended
  · exact Option.toList_eq_nil_iff.mp ended.symm
  · intro v hv
    have skips := (trace.faithful hv).skips (trace.input_eq_nil empty hv)
    simp [Visit.fatal?, skips]

theorem skipped_eq_runOrder (empty : opening.items = []) :
    result.skipped = course.graph.runOrder course.start := by
  rw [trace.skipped_eq, List.filter_eq_self.mpr, trace.complete (trace.fatal_eq_none empty)]
  exact fun v hv => List.isEmpty_iff.mpr (trace.input_eq_nil empty hv)

end Trace

/-- A run ends, and so does the loop that counts the edges before each node, in the same way. It is
done with exactly the visited nodes, each of which is visited once and none of which is the trigger.
Each is reachable, and visited after all other reachable nodes with an edge to it. Unless an error
ended the run, they are the reachable nodes that no cycle blocks. -/
theorem run_schedule (d : Dispatch) (f : Flow) (kind : String) (items : Option (List Item))
    (env : Env) (w : World) :
    ∃ visits result w',
      Exec.outcome (Exec.run d f kind items) env w = (.ok result, w') ∧
      Exec.outcome (Exec.traceRun d f kind items) env w = (.ok (visits, result), w') ∧
      result.visited.Perm (visits.map (·.node.id)) ∧
      match (Graph.ofFlow f).trigger? (Text.upper kind) with
      | none => visits = []
      | some trigger =>
        (∀ fuel, 1 + ((Graph.ofFlow f).runArcs trigger.id).length ≤ fuel →
          Graph.settlingOrder fuel ((Graph.ofFlow f).runArcs trigger.id) [trigger.id] =
            trigger.id :: (Graph.ofFlow f).runOrder trigger.id) ∧
        (∀ fuel, ((Graph.ofFlow f).runArcs trigger.id).length ≤ fuel →
          Exec.outcome (Exec.runLoop fuel d (Graph.ofFlow f) (Text.upper kind) w.clock.elapsed
            trigger (startItems env w items)) env w = (.ok result, w')) ∧
        visits.map (·.node.id) <+: (Graph.ofFlow f).runOrder trigger.id ∧
        (trigger.id :: result.visited).Nodup ∧
        result.executed.Sublist (visits.map (·.node.id)) ∧
        result.skipped.Sublist (visits.map (·.node.id)) ∧
        (∀ before v after, visits = before ++ v :: after →
          (Graph.ofFlow f).Reaches trigger.id v.node.id ∧
          ∀ u, (Graph.ofFlow f).Leads u v.node.id → (Graph.ofFlow f).Reaches trigger.id u →
            u ≠ v.node.id → u ∈ trigger.id :: before.map (·.node.id)) ∧
        (result.fatal = none → ∀ v, (Graph.ofFlow f).Reaches trigger.id v → v ≠ trigger.id →
          (v ∈ result.executed ++ result.skipped ↔ ¬(Graph.ofFlow f).Blocked trigger.id v)) := by
  cases found : (Graph.ofFlow f).trigger? (Text.upper kind) with
  | none =>
    obtain ⟨result, w', ends, nodes, skipped, -, -, fatal⟩ :=
      Exec.exists_outcome_run_of_none env w d found items
    have none : result.visited = [] := by
      simp [RunResult.visited, RunResult.executed, RunResult.aborted, nodes, skipped, fatal,
        FatalError.missingTrigger]
    exact ⟨[], result, w', ends, Exec.outcome_traceRun_of_none found ends, none ▸ .nil, rfl⟩
  | some trigger =>
    have has := Graph.has_trigger found
    obtain ⟨visits, result, w', traces, trace⟩ := Exec.exists_outcome_traceRun env w d found
      items
    have ends := Exec.outcome_run_of_traceRun traces
    refine ⟨visits, result, w', ends, traces, trace.perm_visited, ?_, ?_, trace.order,
      trace.nodup_visited, trace.executed_sublist, trace.skipped_sublist, ?_, ?_⟩
    · intro fuel enough
      rw [← Graph.settlingOrder_runArcs]
      exact Graph.settlingOrder_of_le (Nat.le_refl _) enough
    · intro fuel enough
      rw [← Exec.outcome_run_eq_loop env found enough, ends]
    · intro before v after split
      have mem : v ∈ visits := split ▸ List.mem_append_right before List.mem_cons_self
      refine ⟨?_, fun u step reach ne => ?_⟩
      · exact Graph.reaches_of_mem_runOrder has (trace.order.subset (List.mem_map_of_mem mem))
      · obtain ⟨rest, order⟩ := trace.order
        dsimp only at order
        rw [split, List.map_append, List.map_cons, List.append_assoc, List.cons_append] at order
        exact Graph.source_mem_runOrder has order.symm step reach ne
    · intro none v reach ne
      rw [trace.mem_visited_iff none, Graph.mem_runOrder_iff has reach ne]

/-- A cycle from which the only way on leads back to the trigger. -/
def cycleBeforeTrigger : Flow where
  nodes := [⟨"start", .trigger, "DM", "", []⟩, ⟨"a", .action, "MESSAGE", "", []⟩,
    ⟨"b", .action, "MESSAGE", "", []⟩, ⟨"end", .action, "MESSAGE", "", []⟩]
  edges := [⟨none, "start", "a", none⟩, ⟨none, "a", "b", none⟩, ⟨none, "b", "a", none⟩,
    ⟨none, "b", "start", none⟩, ⟨none, "start", "end", none⟩]

/-- Behind a cycle without the trigger, but only on paths through the trigger, a node is settled all
the same. -/
theorem exists_settled_behind_cycle :
    ∃ result w', Exec.outcome (Exec.run ⟨.empty, none⟩ cycleBeforeTrigger "DM" (some []))
        (.bare "run") .bare = (.ok result, w') ∧
      result.triggerNodeId = some "start" ∧ result.fatal = none ∧ "end" ∈ result.skipped ∧
      IsCycle (Graph.ofFlow cycleBeforeTrigger).Leads "a" ["b"] ∧
      (Graph.ofFlow cycleBeforeTrigger).Reaches "start" "a" ∧
      (Graph.ofFlow cycleBeforeTrigger).Reaches "a" "end" := by
  have leads : ∀ e ∈ [("start", "a"), ("a", "b"), ("b", "a"), ("b", "start"), ("start", "end")],
      (Graph.ofFlow cycleBeforeTrigger).Leads e.1 e.2 := by
    unfold Graph.Leads
    decide
  have upper : Text.upper "DM" = "DM" := by decide +kernel
  have found : (Graph.ofFlow cycleBeforeTrigger).trigger? (Text.upper "DM") =
      some ⟨"start", .trigger, "DM", "", []⟩ := by
    simp [upper, Graph.trigger?, Graph.triggers, Graph.ofFlow, Graph.firstDeclared,
      cycleBeforeTrigger, FlowNode.isTrigger]
  have order : (Graph.ofFlow cycleBeforeTrigger).runOrder "start" = ["end"] := by decide
  obtain ⟨visits, result, w', ends, trace⟩ := Exec.exists_outcome_run (.bare "run") .bare
    ⟨.empty, none⟩ found (some [])
  refine ⟨result, w', ends, trace.trigger, trace.fatal_eq_none rfl, ?_, ⟨by decide, ?_⟩, ?_, ?_⟩
  · rw [trace.skipped_eq_runOrder rfl, order]
    exact List.mem_singleton_self "end"
  · have forth := leads ("a", "b") (by simp)
    have back := leads ("b", "a") (by simp)
    exact .cons_cons forth (.cons_cons back (.singleton "a"))
  · exact .single (leads ("start", "a") (by simp))
  · have onward := leads ("a", "b") (by simp)
    have back := leads ("b", "start") (by simp)
    have last := leads ("start", "end") (by simp)
    exact .head onward (.head back (.single last))

end Chatflow
