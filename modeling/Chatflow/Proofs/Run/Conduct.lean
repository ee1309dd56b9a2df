import Chatflow.Proofs.Gate
import Chatflow.Proofs.Handoff.Builtin
import Chatflow.Proofs.Run.Clearing

/-!
# Texts in runs of well-formed flows

In a run of a well-formed flow through the built-in executors each node that sends texts takes the
newest one that it sees, unless it has nothing to reply to, and a node that generates texts puts one
only where it sees none.
-/

namespace Chatflow

/-- What a node served by a built-in executor did with texts. -/
structure Visit.Acts (course : Course) (env : Env) (v : Visit) (uses : List TextEvent) : Prop where
  sends : ∀ e, course.dispatch.resolve? v.node.subType = some e → e.consumesText = true →
    v.fate ≠ .skipped →
    uses = if env.context.LacksTarget v.node.subType then []
      else (v.entry course).taking v.node.id
  generates : ∀ producer text, .put producer text ∈ uses →
    (v.entry course).visible = [] ∧
      ∃ e, course.dispatch.resolve? v.node.subType = some e ∧ e.producesText = true
  present : ∀ producer text, .put producer text ∈ uses → Text.allBlank text = false
  takes : ∀ taker producer text, .taken taker producer text ∈ uses →
    ∃ e, course.dispatch.resolve? v.node.subType = some e ∧ e.consumesText = true
  succeeds : ∀ e r, course.dispatch.resolve? v.node.subType = some e → e.producesText = true →
    v.run? = some r → r.success = true → ∃ text, .put v.node.id text ∈ uses

namespace Visit

variable {course : Course} {env : Env} {v : Visit} {bridge : Option Bridge}

theorem acts_nothing
    (idle : ∀ e, course.dispatch.resolve? v.node.subType = some e → v.fate = .skipped) :
    v.Acts course env [] where
  sends e found _ executed := absurd (idle e found) executed
  generates := nofun
  present := nofun
  takes := nofun
  succeeds e r found _ ran _ := by cases (idle e found).symm.trans (run?_eq_some_iff.mp ran)

theorem Faithful.exists_acts (faithful : v.Faithful course env)
    (builtin : course.dispatch = ⟨.builtin, bridge⟩)
    (faultless : ∀ e, course.dispatch.resolve? v.node.subType = some e →
      e.problems (.obj v.node.config) = []) :
    ∃ uses, v.Uses .none course uses ∧ v.Acts course env uses := by
  cases fate : v.fate with
  | skipped =>
    have same := faithful.same_of_skipped fate
    exact ⟨[], uses_nothing (by rw [same]), acts_nothing fun _ _ => fate⟩
  | executed ended =>
    rcases faithful.ended_cases fate with ⟨unknown, rfl, same⟩ | ⟨e, _, _, found, ends, after⟩
    · have unresolved := Dispatch.resolve?_eq_none_iff.mpr unknown
      exact ⟨[], uses_nothing (by rw [same]), acts_nothing fun e found => by
        cases unresolved.symm.trans found⟩
    · have known := found
      rw [builtin] at known
      have effect := Dispatch.builtin_effect known (faultless e found) v.input env
        (course.entered v.node v.before)
      have working : (course.entered v.node v.before).handoff.current = some v.node.id := rfl
      obtain ⟨uses, moves, few, sends, puts, takes, made⟩ := effect.exists_moves .none working
      rw [(Dispatch.builtin_resolves known).1] at sends
      have same : ∀ e', course.dispatch.resolve? v.node.subType = some e' → e' = e :=
        fun e' found' => Option.some.inj (found'.symm.trans found)
      refine ⟨uses, ⟨⟨_, moves, by rw [after]; rfl⟩, few, by simp [fate]⟩, ?_, ?_, ?_, ?_, ?_⟩
      · intro e' found' consumes _
        exact sends (same e' found' ▸ consumes)
      · intro producer text put
        obtain ⟨unseen, produces, -⟩ := puts producer text put
        exact ⟨unseen, e, found, produces⟩
      · exact fun producer text put => (puts producer text put).2.2
      · exact fun taker producer text took => ⟨e, found, takes taker producer text took⟩
      · intro e' r found' produces ran success
        refine made (same e' found' ▸ produces) ?_
        have ran : ended = .ok r := Fate.executed.inj (fate.symm.trans (run?_eq_some_iff.mp ran))
        obtain ⟨result, answers, rfl⟩ := v.node.ended_eq_ok_iff.mp (ends.symm.trans ran)
        rw [answers]
        exact success

end Visit

/-- A run of a well-formed flow through the built-in executors that begins without texts. -/
structure Performance (bridge : Option Bridge) (f : Flow) (trigger : FlowNode) (env : Env)
    (opening : Parcel) (chapters : List Chapter) (result : RunResult) (h h' : Handoff) :
    Prop where
  wellFormed : f.WellFormed ⟨.builtin, bridge⟩
  started : trigger ∈ (Graph.ofFlow f).triggers
  empty : h.pending = []
  chronicle : Chronicle .none ⟨⟨.builtin, bridge⟩, Graph.ofFlow f, trigger.id⟩ env opening
    chapters result h h'
  acts : ∀ c ∈ chapters,
    c.visit.Acts ⟨⟨.builtin, bridge⟩, Graph.ofFlow f, trigger.id⟩ env c.uses

theorem Exec.exists_performance (env : Env) (w : World) {bridge : Option Bridge} {f : Flow}
    (wellFormed : f.WellFormed ⟨.builtin, bridge⟩) {kind : String} {trigger : FlowNode}
    (found : (Graph.ofFlow f).trigger? (Text.upper kind) = some trigger)
    (items : Option (List Item)) (empty : w.handoff.pending = []) :
    ∃ chapters result w',
      outcome (traceRun ⟨.builtin, bridge⟩ f kind items) env w =
        (.ok (chapters.map Chapter.visit, result), w') ∧
      Performance bridge f trigger env
        ⟨trigger.id, startItems env w items, w.clock.milliseconds⟩ chapters result w.handoff
        w'.handoff := by
  obtain ⟨chapters, result, w', traces, chronicle, acts⟩ := exists_chronicle_traceRun env w found
    items fun v declared faithful => faithful.exists_acts rfl fun e found => by
      rw [Graph.nodes_ofFlow wellFormed.distinct] at declared
      exact wellFormed.configured v.node declared e found
  exact ⟨chapters, result, w', traces, wellFormed, List.mem_of_find?_eq_some found, empty,
    chronicle, acts⟩

/-- What the check lets pass runs like that, unless it has no trigger for the event. -/
theorem Draft.Accepted.exists_performance {bridge : Option Bridge} {draft : Draft} {f : Flow}
    (accepted : draft.Accepted ⟨.builtin, bridge⟩) (reads : draft.flow? = .ok f) (kind : String)
    (items : Option (List Item)) (env : Env) {w : World} (empty : w.handoff.pending = []) :
    ∃ chapters result w',
      Exec.outcome (Exec.traceRun ⟨.builtin, bridge⟩ f kind items) env w =
        (.ok (chapters.map Chapter.visit, result), w') ∧
      match (Graph.ofFlow f).trigger? (Text.upper kind) with
      | none => chapters = []
      | some trigger => Performance bridge f trigger env
          ⟨trigger.id, startItems env w items, w.clock.milliseconds⟩ chapters result w.handoff
          w'.handoff := by
  cases found : (Graph.ofFlow f).trigger? (Text.upper kind) with
  | none =>
    obtain ⟨result, w', traces, -⟩ := Exec.exists_outcome_traceRun_of_none env w _ found items
    exact ⟨[], result, w', traces, rfl⟩
  | some trigger =>
    exact Exec.exists_performance env w (accepted.wellFormed reads) found items empty

namespace Performance

variable {bridge : Option Bridge} {f : Flow} {trigger : FlowNode} {env : Env} {opening : Parcel}
  {chapters before after : List Chapter} {c : Chapter} {result : RunResult} {h h' : Handoff}

theorem acyclic (run : Performance bridge f trigger env opening chapters result h h') :
    (Graph.ofFlow f).AcyclicFrom trigger.id := run.wellFormed.acyclicFrom run.started

theorem has (run : Performance bridge f trigger env opening chapters result h h') :
    (Graph.ofFlow f).has trigger.id = true :=
  Graph.has_triggers trigger.id (List.mem_map_of_mem run.started)

theorem reaches_eq (run : Performance bridge f trigger env opening chapters result h h') :
    (Graph.ofFlow f).Reaches = f.Reaches := Graph.reaches_ofFlow run.wellFormed.connected

theorem reaches (run : Performance bridge f trigger env opening chapters result h h')
    (mem : c ∈ chapters) : f.Reaches trigger.id c.id := by
  rw [← run.reaches_eq]
  exact run.chronicle.reaches run.has mem

theorem node_mem (run : Performance bridge f trigger env opening chapters result h h')
    (mem : c ∈ chapters) : c.visit.node ∈ f.nodes := by
  have declared := run.chronicle.trace.declared c.visit (List.mem_map_of_mem mem)
  rw [← Graph.nodes_ofFlow run.wellFormed.distinct]
  exact Graph.mem_of_get? declared

theorem nodup_ids (run : Performance bridge f trigger env opening chapters result h h') :
    (trigger.id :: chapters.map Chapter.id).Nodup := run.chronicle.nodup_ids

theorem coherent (run : Performance bridge f trigger env opening chapters result h h') :
    Coherent (historyOf chapters) := run.chronicle.coherent run.empty

theorem mem_before
    (run : Performance bridge f trigger env opening (before ++ c :: after) result h h')
    {u : String} (reach : f.Reaches trigger.id u) (path : f.Reaches u c.id) (ne : u ≠ c.id) :
    u ∈ trigger.id :: before.map Chapter.id := by
  obtain ⟨rest, order⟩ := run.chronicle.ids
  rw [List.map_append, List.map_cons, List.append_assoc, List.cons_append] at order
  rw [← run.reaches_eq] at reach path
  exact run.acyclic.mem_before run.has order.symm reach path ne

theorem mem_before_of_between
    (run : Performance bridge f trigger env opening (before ++ c :: after) result h h')
    {u m : String} (reach : f.Reaches trigger.id u) (forth : f.Reaches u m)
    (onward : f.Reaches m c.id) (off : u ≠ m) (ne : m ≠ c.id) : m ∈ before.map Chapter.id := by
  refine (List.mem_cons.mp (run.mem_before (reach.trans forth) onward ne)).resolve_left ?_
  rintro rfl
  rw [← run.reaches_eq] at forth reach
  exact off (run.acyclic.eq_of_reaches reach forth reach)

theorem not_mem_before
    (run : Performance bridge f trigger env opening (before ++ c :: after) result h h') :
    c.id ∉ trigger.id :: before.map Chapter.id := by
  have nodup := run.nodup_ids
  rw [List.map_append, List.map_cons, ← List.cons_append] at nodup
  exact fun again => (List.nodup_append.mp nodup).2.2 _ again _ List.mem_cons_self rfl

/-- No path leads back from a node to one that came before it in the run. -/
theorem not_reaches_before
    (run : Performance bridge f trigger env opening (before ++ c :: after) result h h')
    {b : Chapter} (mem : b ∈ before) : ¬f.Reaches c.id b.id := by
  intro path
  have fresh := run.not_mem_before
  have reach := run.reaches (c := c) (by simp)
  have other : c.id ≠ b.id := fun same =>
    fresh (same ▸ List.mem_cons_of_mem _ (List.mem_map_of_mem mem))
  obtain ⟨first, last, rfl⟩ := List.append_of_mem mem
  rw [List.append_assoc, List.cons_append] at run
  rcases List.mem_cons.mp (run.mem_before reach path other) with start | earlier
  · exact fresh (start ▸ List.mem_cons_self)
  · rw [List.map_append] at fresh
    exact fresh (List.mem_cons_of_mem _ (List.mem_append_left _ earlier))

/-- A text is put by a generator that sees none. -/
theorem produces_of_put (run : Performance bridge f trigger env opening chapters result h h')
    (mem : c ∈ chapters) {producer text : String} (put : .put producer text ∈ c.uses) :
    producer = c.id ∧ f.Produces ⟨.builtin, bridge⟩ producer ∧
      (c.visit.entry ⟨⟨.builtin, bridge⟩, Graph.ofFlow f, trigger.id⟩).visible = [] := by
  have own := (run.chronicle.story.uses mem).producer (mem_putTexts_iff.mpr put)
  obtain ⟨unseen, e, found, produces⟩ := (run.acts c mem).generates producer text put
  exact ⟨own, ⟨c.visit.node, run.node_mem mem, own.symm, e, found, produces⟩, unseen⟩

end Performance

end Chatflow
