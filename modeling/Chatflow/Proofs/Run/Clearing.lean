import Chatflow.Proofs.Gate
import Chatflow.Proofs.Run.Conservation

/-!
# Texts that nobody sends

A run drops a text as soon as no node is left that could send it, and not before. Without cycles
every text is dropped at the latest when the last node behind its producer is done, so that a run
which no error ends leaves no text behind.
-/

namespace Chatflow

theorem Graph.isStranded_iff {g : Graph} {start producer : String} {settled : List String}
    (has : g.has producer = true) :
    g.isStranded start settled producer = true ↔
      ∀ v, g.Reaches producer v → v = producer ∨ v = start ∨ v ∈ settled := by
  simp [isStranded, Graph.mem_reachable_singleton has, or_assoc]

/-- Behind a producer that is not stranded there is a node that is not done. -/
theorem Graph.exists_of_not_stranded {g : Graph} {start producer : String} {settled : List String}
    (has : g.has producer = true) (open' : g.isStranded start settled producer = false) :
    ∃ v, g.Reaches producer v ∧ v ≠ start ∧ v ∉ settled := by
  by_contra none
  push Not at none
  have closed := (isStranded_iff has).mpr fun v path => .inr <|
    or_iff_not_imp_left.mpr fun off => none v path off
  exact Bool.false_ne_true (open'.symm.trans closed)

variable {l : Handoff.Liberty} {course : Course} {settled : List String} {h h' : Handoff}
  {chapters before after : List Chapter} {c : Chapter} {e : String × String}

theorem Visit.not_stranded_of_mem_cleared {v : Visit}
    (mem : e ∈ (v.cleared course settled).pending) :
    course.graph.isStranded course.start (v.node.id :: settled) e.1 = false := by
  obtain ⟨pending, kept⟩ := Handoff.mem_pending_discardAll.mp mem
  by_contra stranded
  refine kept (List.mem_map_of_mem (List.mem_filter.mpr ⟨pending, ?_⟩))
  simpa using stranded

namespace Told

/-- What is pending after some visits can still be sent by a node to which the run has not come. -/
theorem not_stranded (story : Told l course settled h chapters h')
    (goesOn : ∀ c ∈ chapters, c.visit.fatal? = none)
    (first : ∀ e ∈ h.pending, course.graph.isStranded course.start settled e.1 = false)
    (mem : e ∈ h'.pending) :
    course.graph.isStranded course.start ((chapters.map Chapter.id).reverse ++ settled) e.1 =
      false := by
  induction story with
  | done => exact first e mem
  | ended _ c fatal => exact absurd (goesOn c List.mem_cons_self) fatal
  | next c _ _ _ _ ih =>
    rw [List.map_cons, List.reverse_cons, List.append_assoc, List.singleton_append]
    exact ih (fun d hd => goesOn d (List.mem_cons_of_mem c hd))
      (fun _ => Visit.not_stranded_of_mem_cleared) mem

theorem stranded_of_mem_dropped (story : Told l course settled h (before ++ c :: after) h')
    (mem : e ∈ c.dropped) :
    e ∈ c.visit.after.handoff.pending ∧
      course.graph.isStranded course.start (c.id :: ((before.map Chapter.id).reverse ++ settled))
        e.1 = true := by
  obtain ⟨m, -, second⟩ := story.split
  cases second with
  | ended _ _ _ _ kept =>
    rw [kept] at mem
    cases mem
  | next _ _ _ drops _ =>
    rw [drops] at mem
    exact List.mem_filter.mp mem

theorem exists_producer (story : Told l course settled h chapters h') (empty : h.pending = [])
    (mem : e ∈ h'.pending) : ∃ c ∈ chapters, c.id = e.1 ∧ .put e.1 e.2 ∈ c.uses := by
  rw [story.pending empty] at mem
  exact story.exists_put (put_mem_of_mem_pendingAfter mem)

end Told

namespace Chronicle

variable {env : Env} {opening : Parcel} {result : RunResult}

theorem reaches (chronicle : Chronicle l course env opening chapters result h h')
    (has : course.graph.has course.start = true) (mem : c ∈ chapters) :
    course.graph.Reaches course.start c.id :=
  Graph.reaches_of_mem_runOrder has (chronicle.ids.subset (List.mem_map_of_mem mem))

/-- The producer of a text that is dropped is a node to which the run has come. -/
theorem mem_ids_of_mem_dropped
    (chronicle : Chronicle l course env opening (before ++ c :: after) result h h')
    (empty : h.pending = []) (mem : e ∈ c.dropped) :
    (e ∈ c.visit.before.handoff.pending ∧ e.1 ∈ before.map Chapter.id) ∨ e.1 = c.id := by
  have used := chronicle.story.uses (c := c) (by simp)
  have pending := (chronicle.story.stranded_of_mem_dropped mem).1
  rw [used.pending] at pending
  rcases mem_of_mem_foldl pending with earlier | put
  · obtain ⟨m, first, second⟩ := chronicle.story.split
    rw [second.before_eq] at first
    obtain ⟨b, hb, own, -⟩ := first.exists_producer empty earlier
    exact .inl ⟨earlier, List.mem_map.mpr ⟨b, hb, own⟩⟩
  · exact .inr (used.producer (mem_putTexts_iff.mpr put))

theorem mem_runOrder_of_mem_dropped
    (chronicle : Chronicle l course env opening (before ++ c :: after) result h h')
    (empty : h.pending = []) (mem : e ∈ c.dropped) :
    e.1 ∈ (before ++ [c]).map Chapter.id ∧ e.1 ∈ course.graph.runOrder course.start := by
  have visited : e.1 ∈ (before ++ [c]).map Chapter.id := by
    rw [List.map_append, List.mem_append]
    exact (chronicle.mem_ids_of_mem_dropped empty mem).imp And.right (List.mem_singleton.mpr ·)
  have part : before ++ [c] <+: before ++ c :: after := ⟨after, by simp⟩
  exact ⟨visited, chronicle.ids.subset ((part.map Chapter.id).subset visited)⟩

/-- When a text is dropped the run has come to all nodes behind its producer. -/
theorem mem_ids_of_reaches
    (chronicle : Chronicle l course env opening (before ++ c :: after) result h h')
    (has : course.graph.has course.start = true) (acyclic : course.graph.AcyclicFrom course.start)
    (empty : h.pending = []) (mem : e ∈ c.dropped) {v : String}
    (path : course.graph.Reaches e.1 v) : v ∈ (before ++ [c]).map Chapter.id := by
  obtain ⟨visited, ordered⟩ := chronicle.mem_runOrder_of_mem_dropped empty mem
  have reach := Graph.reaches_of_mem_runOrder has ordered
  have off : v ≠ course.start := by
    rintro rfl
    have same := acyclic.eq_of_reaches .refl reach path
    exact Graph.start_not_mem_runOrder (same ▸ ordered)
  have stranded := (Graph.isStranded_iff (reach.has has)).mp
    (chronicle.story.stranded_of_mem_dropped mem).2
  rcases stranded v path with rfl | start | done
  · exact visited
  · exact absurd start off
  · simpa [off, or_comm] using done

/-- Before the step in which a text is dropped there was a node ahead behind its producer. -/
theorem exists_not_mem_ids
    (chronicle : Chronicle l course env opening (before ++ c :: after) result h h')
    (has : course.graph.has course.start = true) (empty : h.pending = []) (mem : e ∈ c.dropped) :
    ∃ v, course.graph.Reaches e.1 v ∧ v ∉ before.map Chapter.id := by
  have ordered := (chronicle.mem_runOrder_of_mem_dropped empty mem).2
  rcases chronicle.mem_ids_of_mem_dropped empty mem with ⟨pending, -⟩ | own
  · obtain ⟨m, first, second⟩ := chronicle.story.split
    rw [second.before_eq] at first
    have open' := first.not_stranded (fun b hb => chronicle.story.goesOn hb) (by simp [empty])
      pending
    obtain ⟨v, path, -, ahead⟩ := Graph.exists_of_not_stranded
      ((Graph.reaches_of_mem_runOrder has ordered).has has) open'
    exact ⟨v, path, fun done => ahead (List.mem_append_left _ (List.mem_reverse.mpr done))⟩
  · have nodup := (List.nodup_cons.mp chronicle.nodup_ids).2
    rw [List.map_append, List.map_cons] at nodup
    exact ⟨e.1, .refl, fun again =>
      (List.nodup_append.mp nodup).2.2 _ again _ List.mem_cons_self own⟩

/-- A run without cycles that no error ends leaves no text behind. -/
theorem pending_eq_nil (chronicle : Chronicle l course env opening chapters result h h')
    (has : course.graph.has course.start = true) (acyclic : course.graph.AcyclicFrom course.start)
    (empty : h.pending = []) (none : result.fatal = none) : h'.pending = [] := by
  have goesOn : ∀ c ∈ chapters, c.visit.fatal? = .none := by
    have ended := chronicle.trace.ended
    rw [none] at ended
    exact fun c hc => List.filterMap_eq_nil_iff.mp ended c.visit (List.mem_map_of_mem hc)
  have order : chapters.map Chapter.id = course.graph.runOrder course.start := by
    have complete := chronicle.trace.complete none
    rwa [List.map_map] at complete
  refine List.eq_nil_iff_forall_not_mem.mpr fun e mem => ?_
  obtain ⟨c, chapter, own, -⟩ := chronicle.story.exists_producer empty mem
  have reach : course.graph.Reaches course.start e.1 := own ▸ chronicle.reaches has chapter
  have open' := chronicle.story.not_stranded goesOn (by simp [empty]) mem
  obtain ⟨v, path, off, ahead⟩ := Graph.exists_of_not_stranded (reach.has has) open'
  have visited := acyclic.mem_runOrder has (reach.trans path) off
  rw [← order] at visited
  exact ahead (List.mem_append_left _ (List.mem_reverse.mpr visited))

end Chronicle

/-- Where no cycle can be reached, the run drops a text in the first step after which all nodes
behind its producer are done. A run that no error ends leaves no text behind: what nodes put is what
nodes took or discarded and what was dropped, and the log has one warning for each text that was
dropped. -/
theorem run_clears_texts {l : Handoff.Liberty} {d : Dispatch} (conducts : d.Conducts l) {f : Flow}
    {kind : String} {trigger : FlowNode}
    (found : (Graph.ofFlow f).trigger? (Text.upper kind) = some trigger)
    (acyclic : (Graph.ofFlow f).AcyclicFrom trigger.id) (items : Option (List Item)) (env : Env)
    {w : World} (empty : w.handoff.pending = []) :
    ∃ chapters result w',
      Exec.outcome (Exec.traceRun d f kind items) env w =
        (.ok (chapters.map Chapter.visit, result), w') ∧
      Told l ⟨d, Graph.ofFlow f, trigger.id⟩ [trigger.id] w.handoff chapters w'.handoff ∧
      (∀ before c after e, chapters = before ++ c :: after → e ∈ c.dropped →
        (∀ v, (Graph.ofFlow f).Reaches e.1 v → v ∈ (before ++ [c]).map Chapter.id) ∧
        ∃ v, (Graph.ofFlow f).Reaches e.1 v ∧ v ∉ before.map Chapter.id) ∧
      (l.discards = false → discardedTexts (historyOf chapters) = []) ∧
      (result.fatal = none →
        w'.handoff.pending = [] ∧
        ((putTexts (historyOf chapters)).map Prod.fst).Nodup ∧
        (putTexts (historyOf chapters)).Perm (takenTexts (historyOf chapters) ++
          discardedTexts (historyOf chapters) ++ chapters.flatMap Chapter.dropped) ∧
        result.logs = RunEntry.opening w.clock.milliseconds trigger.id ::
          chapters.flatMap Chapter.log) := by
  have has := Graph.has_trigger found
  obtain ⟨chapters, result, w', traces, chronicle⟩ :=
    Exec.exists_chronicle_of_conducts env w conducts found items
  refine ⟨chapters, result, w', traces, chronicle.story, ?_,
    chronicle.story.discardedTexts_eq_nil, fun none => ?_⟩
  · rintro before c after e rfl mem
    exact ⟨fun v path => chronicle.mem_ids_of_reaches has acyclic empty mem path,
      chronicle.exists_not_mem_ids has empty mem⟩
  · have cleared := chronicle.pending_eq_nil has acyclic empty none
    have coherent := chronicle.coherent empty
    refine ⟨cleared, coherent.once, ?_, ?_⟩
    · have conserves := coherent.perm_put.trans ((perm_removedTexts _).append_right _)
      rwa [← chronicle.story.pending empty, cleared, List.append_nil,
        chronicle.story.droppedTexts_eq] at conserves
    · obtain ⟨ending, logs, quiet⟩ := chronicle.logs
      rw [logs, quiet none, List.append_nil]

theorem acyclicFrom_answering : (Graph.ofFlow answering).AcyclicFrom "start" := by
  have wellFormed : answering.WellFormed ⟨.builtin, none⟩ :=
    Validation.flowRules_eq_nil_iff.mp (by decide)
  exact wellFormed.acyclicFrom (List.mem_of_find?_eq_some trigger_answering)

theorem answering_clears_texts :
    (⟨.builtin, none⟩ : Dispatch).Conducts .none ∧
    (Graph.ofFlow answering).trigger? (Text.upper "DM") =
      some ⟨"start", .trigger, "DM", "", []⟩ ∧
    (Graph.ofFlow answering).AcyclicFrom "start" ∧
    (World.generating "Hello").handoff.pending = [] ∧
    ∃ (chapters : List Chapter) (result : RunResult) (w' : World),
      Exec.outcome (Exec.traceRun ⟨.builtin, none⟩ answering "DM" none) (.standard "run")
        (.generating "Hello") = (.ok (chapters.map Chapter.visit, result), w') ∧
      result.fatal = none ∧ w'.handoff.pending = [] := by
  have conducts := Dispatch.conducts_builtin .none none
  have ended : (Exec.outcome (Exec.traceRun ⟨.builtin, none⟩ answering "DM" none)
      (.standard "run") (.generating "Hello")).1.toOption.any (·.2.fatal.isNone) = true := by
    rw [Exec.traceRun, trigger_answering]
    decide +kernel
  obtain ⟨chapters, result, w', traces, -, -, -, cleared⟩ := run_clears_texts conducts
    trigger_answering acyclicFrom_answering none (.standard "run")
    (rfl : (World.generating "Hello").handoff.pending = [])
  rw [traces] at ended
  have unbroken : result.fatal = none := Option.isNone_iff_eq_none.mp ended
  exact ⟨conducts, trigger_answering, acyclicFrom_answering, rfl, chapters, result, w', traces,
    unbroken, (cleared unbroken).1⟩

theorem acyclicFrom_bystanding :
    (Graph.ofFlow (bystanding "DISCARD")).AcyclicFrom "start" := by
  have wellFormed : (bystanding "DISCARD").WellFormed .discarding :=
    Validation.flowRules_eq_nil_iff.mp (by decide)
  exact wellFormed.acyclicFrom (List.mem_of_find?_eq_some (trigger_bystanding "DISCARD"))

/-- A text that no node took need not be dropped with a warning, where an executor discards it. -/
theorem discarded_without_warning :
    Dispatch.discarding.Conducts .discarding ∧
    (Graph.ofFlow (bystanding "DISCARD")).trigger? (Text.upper "DM") =
      some ⟨"start", .trigger, "DM", "", []⟩ ∧
    (Graph.ofFlow (bystanding "DISCARD")).AcyclicFrom "start" ∧
    World.bare.handoff.pending = [] ∧
    ∃ (visits : List Visit) (result : RunResult) (w' : World),
      Exec.outcome (Exec.traceRun .discarding (bystanding "DISCARD") "DM" none) (.standard "run")
        .bare = (.ok (visits, result), w') ∧
      result.fatal = none ∧
      (∃ v ∈ visits, v.node.id = "put" ∧ v.after.handoff.pending = [("put", "Hello")]) ∧
      (∀ v ∈ visits,
        (v.entry ⟨.discarding, Graph.ofFlow (bystanding "DISCARD"), "start"⟩).visible = []) ∧
      ∀ e ∈ result.logs, e.entry.level ≠ .warn := by
  obtain ⟨visits, result, w', traces, unbroken, puts, unseen, quiet, -⟩ := exists_outcome_discarding
  exact ⟨Dispatch.conducts_discarding, trigger_bystanding _, acyclicFrom_bystanding, rfl, visits,
    result, w', traces, unbroken, puts, unseen, quiet⟩

end Chatflow
