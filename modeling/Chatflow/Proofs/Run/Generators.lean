import Chatflow.Proofs.Run.Parallel

/-!
# Texts before generators

A node that generates texts can put one only where it sees none. In a run of a well-formed flow a
sender lies on every path that leads to it from the generator of a text that it sees, and each
sender in between saw that text and left it: its turn did not come, it had nothing to reply to, or
it took the text of a parallel branch.
-/

namespace Chatflow

namespace Flow.WellFormed

variable {f : Flow} {d : Dispatch} {bridge : Option Bridge}

theorem not_consumes {id : String} (wellFormed : f.WellFormed ⟨.builtin, bridge⟩)
    (produces : f.Produces ⟨.builtin, bridge⟩ id) : ¬f.Consumes ⟨.builtin, bridge⟩ id := by
  obtain ⟨n, mem, rfl, e, found, generates⟩ := produces
  rintro ⟨n', mem', same, e', found', sends⟩
  obtain rfl : n' = n := List.inj_on_of_nodup_map wellFormed.distinct mem' mem same
  obtain rfl : e' = e := Option.some.inj (found'.symm.trans found)
  rcases (Dispatch.builtin_resolves found).2 with rfl | rfl | rfl | rfl | silent
  · cases generates
  · cases generates
  · cases generates
  · cases sends
  · exact Bool.false_ne_true (silent.consumes.symm.trans sends)

/-- A path from a generator to another one comes by a sender. -/
theorem exists_consumer {t : FlowNode} {p q : String} {interior : List String}
    (wellFormed : f.WellFormed d) (mem : t ∈ f.nodes) (trigger : t.category = .trigger)
    (reach : f.Reaches t.id p) (first : f.Produces d p) (second : f.Produces d q)
    (silent : ¬f.Consumes d q) (chain : (p :: (interior ++ [q])).IsChain f.Leads) :
    ∃ m ∈ interior, f.Consumes d m := by
  obtain ⟨l, -, front, last⟩ := exists_simple_path reach
  obtain ⟨before, split⟩ := List.getLast?_eq_some_iff.mp last
  rw [split] at front
  have whole : f.TriggerPath (before ++ p :: (interior ++ q :: [])) := by
    constructor
    · refine ⟨t, mem, trigger, ?_⟩
      rw [List.append_cons, ← split]
      rfl
    · rw [List.append_cons]
      exact front.append_overlap chain (List.cons_ne_nil _ _)
  by_contra none
  push Not at none
  refine wellFormed.quiet _ whole ⟨before, p, interior, q, [], rfl, first, second, fun v hv => ?_⟩
  rcases List.mem_append.mp hv with inside | last
  · exact none v inside
  · exact List.mem_singleton.mp last ▸ silent

end Flow.WellFormed

/-- A node that sends texts left the text of a producer where it was. -/
inductive Chapter.Leaves (f : Flow) (course : Course) (env : Env) (producer : String)
    (c : Chapter) : Prop
  | skipped (fate : c.visit.fate = .skipped)
  | lacks (lacks : env.context.LacksTarget c.visit.node.subType) (idle : c.uses = [])
  | other {older : List String} {newest text : String}
      (last : (c.visit.entry course).visible = older ++ [newest])
      (took : c.uses = [.taken c.id newest text])
      (apart : ¬f.Reaches producer newest ∧ ¬f.Reaches newest producer)

/-- Why a node that generates texts sees the text of a producer: there are senders on all paths
between them, and all of these left the text. -/
structure Lingers (f : Flow) (course : Course) (env : Env) (before : List Chapter) (c : Chapter)
    (producer : String) : Prop where
  generates : f.Produces course.dispatch producer
  other : producer ≠ c.id
  path : f.Reaches producer c.id
  sender : ∀ interior : List String, (producer :: (interior ++ [c.id])).IsChain f.Leads →
    ∃ m ∈ interior, f.Consumes course.dispatch m
  left : ∀ m, f.Consumes course.dispatch m → f.Reaches producer m → f.Reaches m c.id →
    ∃ first b rest, before = first ++ b :: rest ∧ b.id = m ∧
      producer ∈ (b.visit.entry course).visible ∧ b.Leaves f course env producer

namespace Performance

variable {bridge : Option Bridge} {f : Flow} {trigger : FlowNode} {env : Env} {opening : Parcel}
  {before after : List Chapter} {c : Chapter} {result : RunResult} {h h' : Handoff}
  {e : String × String}

/-- A text that is pending after a node behind its generator was pending before, and the node did
not take it. -/
theorem pending_past {first rest : List Chapter} {b : Chapter}
    (run : Performance bridge f trigger env opening ((first ++ b :: rest) ++ after) result h h')
    (mem : e ∈ pendingAfter (historyOf (first ++ b :: rest))) (other : e.1 ≠ b.id)
    (path : f.Reaches e.1 b.id) :
    e ∈ pendingAfter (historyOf first) ∧ ∀ text, .taken b.id e.1 text ∉ b.uses := by
  have coherent := run.coherent
  rw [historyOf_append] at coherent
  have now := coherent.of_append
  constructor
  · obtain ⟨g, generator, own, put⟩ := run.exists_generator mem
    have earlier : g ∈ first := by
      rcases List.mem_append.mp generator with earlier | late
      · exact earlier
      · rcases List.mem_cons.mp late with rfl | late
        · exact absurd own.symm other
        · -- The generator would come after a node to which it leads.
          obtain ⟨between, rest, rfl⟩ := List.append_of_mem late
          rw [show (first ++ b :: (between ++ g :: rest)) ++ after =
            (first ++ b :: between) ++ g :: (rest ++ after) by simp] at run
          exact absurd (own ▸ path) (run.not_reaches_before (by simp))
    have old : .put e.1 e.2 ∈ historyOf first :=
      List.mem_flatMap_of_mem earlier (List.mem_append_left _ put)
    rw [historyOf_append] at now mem
    exact now.kept mem (List.mem_map_of_mem (f := Prod.fst) (mem_putTexts_iff.mpr old))
  · intro text took
    have event : .taken b.id e.1 text ∈ historyOf (first ++ b :: rest) :=
      List.mem_flatMap_of_mem (by simp) (List.mem_append_left _ took)
    exact now.ne_of_removed mem event rfl rfl

theorem leaves {p : String}
    (run : Performance bridge f trigger env opening (before ++ c :: after) result h h')
    (consumes : f.Consumes ⟨.builtin, bridge⟩ c.id)
    (seen : p ∈ (c.visit.entry ⟨⟨.builtin, bridge⟩, Graph.ofFlow f, trigger.id⟩).visible)
    (kept : ∀ text, .taken c.id p text ∉ c.uses) :
    c.Leaves f ⟨⟨.builtin, bridge⟩, Graph.ofFlow f, trigger.id⟩ env p := by
  by_cases skipped : c.visit.fate = .skipped
  · exact .skipped skipped
  · cases run.takes (by simp) consumes skipped with
    | nothing unseen =>
      rw [unseen] at seen
      cases seen
    | lacks lacks idle => exact .lacks lacks idle
    | @newest older q text last took =>
      have distinct : p ≠ q := by
        rintro rfl
        exact kept text (by simp [took])
      have behind : p ∈ older := by simpa [last, distinct] using seen
      have apart := run.pairwise_visible
      rw [last] at apart
      exact .other last took
        ((List.pairwise_append.mp apart).2.2 _ behind _ (List.mem_singleton_self q))

/-- The senders between a generator and a node that sees its text have seen the text and left it. -/
theorem exists_leaves {p m : String}
    (run : Performance bridge f trigger env opening (before ++ c :: after) result h h')
    (produces : f.Produces ⟨.builtin, bridge⟩ c.id)
    (seen : p ∈ (c.visit.entry ⟨⟨.builtin, bridge⟩, Graph.ofFlow f, trigger.id⟩).visible)
    (consumes : f.Consumes ⟨.builtin, bridge⟩ m) (forth : f.Reaches p m)
    (onward : f.Reaches m c.id) :
    ∃ first b rest, before = first ++ b :: rest ∧ b.id = m ∧
      p ∈ (b.visit.entry ⟨⟨.builtin, bridge⟩, Graph.ofFlow f, trigger.id⟩).visible ∧
      b.Leaves f ⟨⟨.builtin, bridge⟩, Graph.ofFlow f, trigger.id⟩ env p := by
  obtain ⟨text, mem, generates, g, generator, own, -⟩ := run.exists_generator_of_seen seen
  have other : ∀ {id}, f.Produces ⟨.builtin, bridge⟩ id → id ≠ m := fun made same =>
    run.wellFormed.not_consumes made (same ▸ consumes)
  have reach : f.Reaches trigger.id p := own ▸ run.reaches (List.mem_append_left _ generator)
  obtain ⟨b, earlier, rfl⟩ := List.mem_map.mp
    (run.mem_before_of_between reach forth onward (other generates) (other produces).symm)
  obtain ⟨first, rest, rfl⟩ := List.append_of_mem earlier
  obtain ⟨held, kept⟩ := run.pending_past mem (other generates) forth
  rw [List.append_assoc, List.cons_append] at run
  have sees := run.mem_visible.mpr ⟨List.mem_map_of_mem held, other generates, forth⟩
  exact ⟨first, b, rest, rfl, rfl, sees, run.leaves consumes sees kept⟩

theorem lingers {p : String}
    (run : Performance bridge f trigger env opening (before ++ c :: after) result h h')
    (produces : f.Produces ⟨.builtin, bridge⟩ c.id)
    (seen : p ∈ (c.visit.entry ⟨⟨.builtin, bridge⟩, Graph.ofFlow f, trigger.id⟩).visible) :
    Lingers f ⟨⟨.builtin, bridge⟩, Graph.ofFlow f, trigger.id⟩ env before c p := by
  obtain ⟨-, other, path⟩ := run.mem_visible.mp seen
  obtain ⟨text, -, generates, g, earlier, own, -⟩ := run.exists_generator_of_seen seen
  have reach := own ▸ run.reaches (List.mem_append_left _ earlier)
  obtain ⟨declared, starts⟩ := (Graph.mem_triggers run.wellFormed.distinct).mp run.started
  exact
    { generates := generates
      other := other
      path := path
      sender := fun interior chain => run.wellFormed.exists_consumer declared starts reach generates
        produces (run.wellFormed.not_consumes produces) chain
      left := fun m consumes forth onward =>
        run.exists_leaves produces seen consumes forth onward }

end Performance

theorem produces_crossing : crossing.Produces ⟨.builtin, none⟩ "third" :=
  ⟨⟨"third", .action, "SMARTAI", "", [("message", .str "Say it again")]⟩, by simp [crossing], rfl,
    generate, rfl, rfl⟩

/-- In a run of a flow that passed the check, a node that generates texts sees a text only if all
senders between its generator and the node left it, and there is one on every path. Where it sees
none it can put a text. -/
theorem run_guards_generators {bridge : Option Bridge} {draft : Draft} {f : Flow}
    (accepted : draft.Accepted ⟨.builtin, bridge⟩) (reads : draft.flow? = .ok f) (kind : String)
    (items : Option (List Item)) (env : Env) {w : World} (empty : w.handoff.pending = []) :
    Prod.snd <$> Exec.traceRun ⟨.builtin, bridge⟩ f kind items =
        Exec.run ⟨.builtin, bridge⟩ f kind items ∧
    ∃ chapters result w',
      Exec.outcome (Exec.traceRun ⟨.builtin, bridge⟩ f kind items) env w =
        (.ok (chapters.map Chapter.visit, result), w') ∧
      match (Graph.ofFlow f).trigger? (Text.upper kind) with
      | none => chapters = []
      | some trigger =>
        Story ⟨⟨.builtin, bridge⟩, Graph.ofFlow f, trigger.id⟩ [trigger.id] w.handoff chapters
          w'.handoff ∧
        ∀ before c after, chapters = before ++ c :: after → f.Produces ⟨.builtin, bridge⟩ c.id →
          let found := c.visit.entry ⟨⟨.builtin, bridge⟩, Graph.ofFlow f, trigger.id⟩
          (∀ p ∈ found.visible,
            Lingers f ⟨⟨.builtin, bridge⟩, Graph.ofFlow f, trigger.id⟩ env before c p) ∧
          ∀ text, (∃ h, found.put text found.current = .ok h) ↔ found.visible = [] := by
  refine ⟨Exec.snd_traceRun _ f kind items, ?_⟩
  obtain ⟨chapters, result, w', traces, performs⟩ :=
    accepted.exists_performance reads kind items env empty
  refine ⟨chapters, result, w', traces, ?_⟩
  generalize (Graph.ofFlow f).trigger? (Text.upper kind) = chosen at performs ⊢
  cases chosen with
  | none => exact performs
  | some trigger =>
    refine ⟨performs.chronicle.story, ?_⟩
    rintro before c after rfl produces
    refine ⟨fun p seen => performs.lingers produces seen, fun text => ?_⟩
    simp only [Handoff.put_eq_ok_iff, exists_and_left, exists_eq, and_true]

theorem crossing_guards_generators :
    (Draft.ofFlow crossing).Accepted ⟨.builtin, none⟩ ∧
    (Draft.ofFlow crossing).flow? = .ok crossing ∧
    (World.generating "Hello").handoff.pending = [] ∧
    ∃ (chapters : List Chapter) (result : RunResult) (w' : World),
      Exec.outcome (Exec.traceRun ⟨.builtin, none⟩ crossing "DM" none) (.standard "run")
        (.generating "Hello") = (.ok (chapters.map Chapter.visit, result), w') ∧
      ∃ before c after, chapters = before ++ c :: after ∧ c.id = "third" ∧
        crossing.Produces ⟨.builtin, none⟩ c.id ∧
        Lingers crossing ⟨⟨.builtin, none⟩, Graph.ofFlow crossing, "start"⟩ (.standard "run") before
          c "first" := by
  obtain ⟨visits, result, w', traces, -, v, mem, named, sees, -⟩ := exists_outcome_crossing
  have runs := run_guards_generators accepted_crossing flow_crossing "DM" none (.standard "run")
    (rfl : (World.generating "Hello").handoff.pending = [])
  rw [trigger_crossing] at runs
  obtain ⟨-, chapters, result', w'', traces', -, guards⟩ := runs
  cases traces.symm.trans traces'
  obtain ⟨c, chapter, rfl⟩ := List.mem_map.mp mem
  obtain ⟨before, after, rfl⟩ := List.append_of_mem chapter
  have produces : crossing.Produces ⟨.builtin, none⟩ c.visit.node.id :=
    named.symm ▸ produces_crossing
  exact ⟨accepted_crossing, flow_crossing, rfl, _, result, w', traces, before, c, after, rfl, named,
    produces, (guards before c after rfl produces).1 "first" (by rw [sees]; simp)⟩

/-- The check lets a flow pass in which a node generates a text that it cannot put. -/
theorem crossing_generator_occupied :
    (Draft.ofFlow crossing).Accepted ⟨.builtin, none⟩ ∧
    (Draft.ofFlow crossing).flow? = .ok crossing ∧
    (World.generating "Hello").handoff.pending = [] ∧
    ∃ (visits : List Visit) (result : RunResult) (w' : World),
      Exec.outcome (Exec.traceRun ⟨.builtin, none⟩ crossing "DM" none) (.standard "run")
        (.generating "Hello") = (.ok (visits, result), w') ∧
      ∃ v ∈ visits, crossing.Produces ⟨.builtin, none⟩ v.node.id ∧
        (v.entry ⟨⟨.builtin, none⟩, Graph.ofFlow crossing, "start"⟩).visible = ["first"] ∧
        v.run?.bind NodeRun.text = some (Fault.occupied (some "first")).message := by
  obtain ⟨visits, result, w', traces, -, v, mem, named, sees, told⟩ := exists_outcome_crossing
  exact ⟨accepted_crossing, flow_crossing, rfl, visits, result, w', traces, v, mem,
    named.symm ▸ produces_crossing, sees, told⟩

end Chatflow
