import Chatflow.Proofs.Handoff.Builtin
import Chatflow.Proofs.Run.Story

/-!
# The account of a run

The result of a run says what became of each node and how the run ended: its status, the nodes that
failed, and a log in which each node has its entries in turn. Nothing of it depends on what the
executors do, but for the names in warnings about dropped texts: there every executor must put texts
under the id of its own node only.
-/

namespace Chatflow

/-- Every text that waits after an execution and not before it has the name of the node at work. -/
def Executor.NamesOwn (e : Executor) : Prop :=
  ∀ config items env w node, w.handoff.current = some node →
    ∀ p ∈ (Exec.outcome (e.execute config items) env w).2.handoff.producers,
      p ∈ w.handoff.producers ∨ p = node

def Dispatch.NamesOwn (d : Dispatch) : Prop :=
  ∀ subType e, d.resolve? subType = some e → e.NamesOwn

theorem Executor.Conducts.namesOwn {l : Handoff.Liberty} {e : Executor} (conducts : e.Conducts l) :
    e.NamesOwn := by
  intro config items env w node working p pending
  obtain ⟨uses, moves, -⟩ := conducts config items env w node working
  obtain ⟨⟨producer, text⟩, mem, rfl⟩ := List.mem_map.mp pending
  rw [moves.pending] at mem
  rcases mem_of_mem_foldl mem with old | put
  · exact .inl (List.mem_map_of_mem old)
  · refine .inr ?_
    rcases moves.own put with ⟨_, same⟩ | ⟨_, _, same⟩ | ⟨_, _, same, -⟩
    · exact (TextEvent.put.inj same).1
    · cases same
    · cases same

theorem Dispatch.Conducts.namesOwn {l : Handoff.Liberty} {d : Dispatch} (conducts : d.Conducts l) :
    d.NamesOwn :=
  fun subType e found => (conducts subType e found).namesOwn

namespace Visit

def works (course : Course) (v : Visit) : Bool :=
  v.skippedId?.isNone && (course.dispatch.resolve? v.node.subType).isSome

variable {course : Course} {env : Env} {v : Visit}

theorem Faithful.current (faithful : v.Faithful course env) :
    v.after.handoff.current =
      if v.works course then none else v.before.handoff.current := by
  cases fate : v.fate with
  | skipped => simp [works, skippedId?, fate, faithful.same_of_skipped fate]
  | executed ended =>
    rcases faithful.ended_cases fate with ⟨unresolved, -, same⟩ | ⟨e, _, _, found, -, after⟩
    · rw [works, Dispatch.resolve?_eq_none_iff.mpr unresolved, same]
      simp
    · rw [works, found, after]
      simp [skippedId?, fate, World.left, Handoff.enter]

theorem Faithful.items_eq_nil (faithful : v.Faithful course env) {r : NodeRun}
    (ran : v.run? = some r) (failed : r.success = false) : r.items = [] := by
  have fate := run?_eq_some_iff.mp ran
  rcases faithful.ended_cases fate with ⟨-, other, -⟩ | ⟨e, source, duration, -, ends, -⟩
  · cases other
  · obtain ⟨result, -, rfl⟩ := v.node.ended_eq_ok_iff.mp ends.symm
    have unsuccessful : result.success = false := failed
    exact if_neg (by simp [unsuccessful])

/-- A text that waits after a visit waited before it, or its node was executed to the end or ended
the run. -/
theorem Faithful.producers (faithful : v.Faithful course env) (own : course.dispatch.NamesOwn)
    {p : String} (pending : p ∈ v.after.handoff.producers) :
    p ∈ v.before.handoff.producers ∨ v.fate ≠ .skipped ∧ p = v.node.id := by
  cases fate : v.fate with
  | skipped =>
    rw [faithful.same_of_skipped fate] at pending
    exact .inl pending
  | executed ended =>
    rcases faithful.ended_cases fate with ⟨-, -, same⟩ | ⟨e, _, _, found, -, after⟩
    · rw [same] at pending
      exact .inl pending
    · rw [after] at pending
      have working : (course.entered v.node v.before).handoff.current = some v.node.id := rfl
      exact (own _ e found _ _ env _ _ working p pending).imp id fun same => ⟨nofun, same⟩

theorem exists_id_of_mem_entries {e : RunEntry} (mem : e ∈ v.entries) :
    ∃ id, v.executedId? = some id ∧ e.nodeId = some id := by
  unfold entries at mem
  split at mem
  · rename_i r fate
    refine ⟨r.nodeId, by rw [executedId?, run?, fate, Option.map_some], ?_⟩
    rcases List.mem_append.mp mem with own | failure
    · obtain ⟨entry, -, rfl⟩ := List.mem_map.mp own
      rfl
    · split at failure
      · cases failure
      · rw [List.mem_singleton.mp failure, NodeRun.failureEntry]
  · cases mem

end Visit

namespace Passage

variable {course : Course} {env : Env} {settled : List String} {h h' : Handoff}
  {visits : List Visit} {log : List RunEntry} {v : Visit}

/-- The node at work at the end is none if an executor was called, and else what it was before. -/
theorem current (passage : Passage course settled h visits log h')
    (faithful : ∀ v ∈ visits, v.Faithful course env) :
    h'.current = if visits.any (Visit.works course) then none else h.current := by
  induction passage with
  | done => rfl
  | @ended settled v fatal => simpa using (faithful v List.mem_cons_self).current
  | @next settled v visits log h goesOn rest ih =>
    rw [ih fun u hu => faithful u (List.mem_cons_of_mem v hu), Visit.cleared,
      Handoff.current_discardAll, (faithful v List.mem_cons_self).current, List.any_cons]
    cases v.works course <;> simp

/-- An entry in the log is about an executed node, or about a text that was pending before. -/
theorem tagged (passage : Passage course settled h visits log h')
    (faithful : ∀ v ∈ visits, v.Faithful course env) (own : course.dispatch.NamesOwn)
    {e : RunEntry} (mem : e ∈ log) :
    ∃ id, e.nodeId = some id ∧ (id ∈ h.producers ∨ id ∈ visits.filterMap Visit.executedId?) := by
  induction passage with
  | done => cases mem
  | ended => cases mem
  | @next settled v visits log h goesOn rest ih =>
    have first := faithful v List.mem_cons_self
    have executed : v.fate ≠ .skipped → v.executedId? = some v.node.id := by
      intro called
      rcases first.ids with ⟨own, -⟩ | ⟨-, skipped, -⟩ | ⟨-, -, aborted⟩
      · exact own
      · exact absurd (Visit.skippedId?_eq_some_iff.mp skipped).1 called
      · rw [Visit.abortedId?, goesOn] at aborted
        cases aborted
    have known : ∀ p ∈ v.after.handoff.producers,
        p ∈ v.before.handoff.producers ∨ p ∈ (v :: visits).filterMap Visit.executedId? := by
      intro p pending
      refine (first.producers own pending).imp id ?_
      rintro ⟨called, rfl⟩
      exact List.mem_filterMap.mpr ⟨v, List.mem_cons_self, executed called⟩
    rcases List.mem_append.mp mem with here | later
    · rcases List.mem_append.mp here with entry | drop
      · obtain ⟨id, named, tag⟩ := Visit.exists_id_of_mem_entries entry
        exact ⟨id, tag, .inr (List.mem_filterMap.mpr ⟨v, List.mem_cons_self, named⟩)⟩
      · obtain ⟨p, stranded, rfl⟩ := List.mem_map.mp drop
        exact ⟨p, rfl, known p ((List.filter_sublist.map _).subset stranded)⟩
    · obtain ⟨id, tag, source⟩ := ih (fun u hu => faithful u (List.mem_cons_of_mem v hu)) later
      refine ⟨id, tag, ?_⟩
      rcases source with pending | visited
      · obtain ⟨text, held, rfl⟩ := List.mem_map.mp pending
        exact known _ (List.mem_map_of_mem (Handoff.mem_pending_discardAll.mp held).1)
      · obtain ⟨u, hu, named⟩ := List.mem_filterMap.mp visited
        exact .inr (List.mem_filterMap.mpr ⟨u, List.mem_cons_of_mem v hu, named⟩)

theorem exists_last (passage : Passage course settled h visits log h') (mem : v ∈ visits)
    (fatal : v.fatal? ≠ none) :
    ∃ before, visits = before ++ [v] ∧ ∀ u ∈ before, u.fatal? = none := by
  induction passage with
  | done => cases mem
  | ended =>
    obtain rfl := List.mem_singleton.mp mem
    exact ⟨[], rfl, List.forall_mem_nil _⟩
  | @next settled u visits log h goesOn rest ih =>
    rcases List.mem_cons.mp mem with rfl | later
    · exact absurd goesOn fatal
    · obtain ⟨before, rfl, others⟩ := ih later
      exact ⟨u :: before, rfl, List.forall_mem_cons.mpr ⟨goesOn, others⟩⟩

end Passage

/-- What the result of a run that found its trigger says about its visits, and how it leaves the
world. -/
structure Account (course : Course) (env : Env) (visits : List Visit) (result : RunResult)
    (w w' : World) : Prop where
  faithful : ∀ v ∈ visits, v.Faithful course env
  nodes : result.nodes = visits.filterMap Visit.run?
  skipped : result.skipped = visits.filterMap Visit.skippedId?
  softFailures : result.softFailures = (result.nodes.filter (!·.success)).map NodeRun.nodeId
  itemless : ∀ r ∈ result.nodes, r.success = false → r.items = []
  status : result.status =
    if result.fatal ≠ none then .failed
    else if result.softFailures ≠ [] then .partly
    else .success
  /-- After the first entry each node has its own ones, one more if it failed, and one for each text
  that is dropped after it. An error that ended the run has the last one. -/
  logs : ∃ log, Passage course [course.start] w.handoff visits log w'.handoff ∧
    result.logs = RunEntry.opening w.clock.milliseconds course.start :: log ++
      RunEntry.ending w'.clock.milliseconds result.fatal
  tags : ∀ e ∈ result.logs, ∀ id ∈ result.skipped, e.nodeId ≠ some id
  /-- The visit whose error ended the run is the last one, and nothing is lost of those before
  it. -/
  aborts : ∀ fatal, result.fatal = some fatal → ∃ before v,
    visits = before ++ [v] ∧ v.fatal? = some fatal ∧ fatal.nodeId = some v.node.id ∧
    (∀ u ∈ before, u.fatal? = none) ∧
    result.nodes = before.filterMap Visit.run? ∧
    result.skipped = before.filterMap Visit.skippedId? ∧
    v.node.id ∉ result.executed ∧ v.node.id ∉ result.skipped
  current : w'.handoff.current =
    if visits.any (Visit.works course) then none else w.handoff.current

variable {course : Course} {env : Env} {opening : Parcel} {visits : List Visit}
  {result : RunResult} {w w' : World}

theorem Trace.not_mem_of_aborted (trace : Trace course env opening visits result) {id : String}
    (aborted : result.aborted = some id) : id ∉ result.executed ∧ id ∉ result.skipped := by
  have nodup := (List.nodup_cons.mp trace.nodup_visited).2
  have apart := (List.nodup_append.mp nodup).2.2
  have own : id ∈ result.aborted.toList := by
    rw [aborted]
    exact List.mem_singleton_self id
  exact ⟨fun mem => apart id (List.mem_append_left _ mem) id own rfl,
    fun mem => apart id (List.mem_append_right _ mem) id own rfl⟩

/-- No entry in the log of a run is about a skipped node. -/
theorem Trace.tags (trace : Trace course env opening visits result)
    (recorded : Recorded course visits result w w') (own : course.dispatch.NamesOwn)
    (empty : w.handoff.pending = []) {e : RunEntry} (mem : e ∈ result.logs) {id : String}
    (skipped : id ∈ result.skipped) : e.nodeId ≠ some id := by
  obtain ⟨log, passage, logs⟩ := recorded.passage
  obtain ⟨fresh, nodup⟩ := List.nodup_cons.mp trace.nodup_visited
  rw [logs, List.cons_append, List.mem_cons, List.mem_append] at mem
  rintro tag
  rcases mem with rfl | entry | last
  · obtain rfl : course.start = id := Option.some.inj tag
    exact fresh (List.mem_append_left _ (List.mem_append_right _ skipped))
  · obtain ⟨_, tag', source⟩ := passage.tagged (fun v hv => trace.faithful hv) own entry
    cases tag.symm.trans tag'
    rcases source with pending | executed
    · rw [Handoff.producers, empty] at pending
      cases pending
    · rw [← trace.executed_eq] at executed
      exact (List.nodup_append.mp (List.nodup_append.mp nodup).1).2.2 id executed id skipped rfl
  · have aborted : result.aborted = some id := by
      unfold RunEntry.ending at last
      split at last
      · cases last
      · rename_i fatal ended
        rw [List.mem_singleton.mp last] at tag
        rw [RunResult.aborted, ended]
        exact tag
    exact (trace.not_mem_of_aborted aborted).2 skipped

/-- An error ends a run with the visit of its node. -/
theorem Trace.exists_aborting (trace : Trace course env opening visits result)
    (recorded : Recorded course visits result w w') {fatal : FatalError}
    (ended : result.fatal = some fatal) :
    ∃ before v, visits = before ++ [v] ∧ v.fatal? = some fatal ∧ fatal.nodeId = some v.node.id ∧
      ∀ u ∈ before, u.fatal? = none := by
  obtain ⟨log, passage, -⟩ := recorded.passage
  have mem : fatal ∈ visits.filterMap Visit.fatal? := by
    rw [trace.ended, ended]
    exact List.mem_singleton_self fatal
  obtain ⟨v, visited, own⟩ := List.mem_filterMap.mp mem
  obtain ⟨before, split, goesOn⟩ := passage.exists_last visited (by simp [own])
  have about := ((trace.faithful visited).executed (Visit.fatal?_eq_some_iff.mp own)).1
  exact ⟨before, v, split, own, about, goesOn⟩

theorem Trace.account (trace : Trace course env opening visits result)
    (recorded : Recorded course visits result w w') (own : course.dispatch.NamesOwn)
    (empty : w.handoff.pending = []) : Account course env visits result w w' where
  faithful := fun v hv => trace.faithful hv
  nodes := trace.nodes
  skipped := trace.skipped
  softFailures := recorded.softFailures
  itemless := by
    intro r mem failed
    rw [trace.nodes] at mem
    obtain ⟨v, visited, ran⟩ := List.mem_filterMap.mp mem
    exact (trace.faithful visited).items_eq_nil ran failed
  status := recorded.status_eq
  logs := recorded.passage
  tags := fun e mem id skipped => trace.tags recorded own empty mem skipped
  aborts := by
    intro fatal ended
    obtain ⟨before, v, rfl, fails, about, goesOn⟩ := trace.exists_aborting recorded ended
    have aborted : result.aborted = some v.node.id := by rw [RunResult.aborted, ended]; exact about
    have last : v.run? = none ∧ v.skippedId? = none := by
      simp [Visit.run?, Visit.skippedId?, Visit.fatal?_eq_some_iff.mp fails]
    refine ⟨before, v, rfl, fails, about, goesOn, ?_, ?_, trace.not_mem_of_aborted aborted⟩
    · simp [trace.nodes, last]
    · simp [trace.skipped, last]
  current := by
    obtain ⟨log, passage, -⟩ := recorded.passage
    exact passage.current fun v hv => trace.faithful hv

/-- The result of a run accounts for the run: what became of each node, how the run ended, and the
log in the order of the visits. No node is at work at its end if one was, or if none was at its
start. -/
theorem run_accounts {d : Dispatch} (own : d.NamesOwn) {f : Flow} {kind : String}
    {trigger : FlowNode} (found : (Graph.ofFlow f).trigger? (Text.upper kind) = some trigger)
    (items : Option (List Item)) (env : Env) {w : World} (empty : w.handoff.pending = []) :
    Prod.snd <$> Exec.traceRun d f kind items = Exec.run d f kind items ∧
    ∃ visits result w',
      Exec.outcome (Exec.traceRun d f kind items) env w = (.ok (visits, result), w') ∧
      Account ⟨d, Graph.ofFlow f, trigger.id⟩ env visits result w w' := by
  refine ⟨Exec.snd_traceRun d f kind items, ?_⟩
  obtain ⟨visits, result, w', traces, trace, recorded⟩ :=
    Exec.exists_recorded_traceRun env w d found items
  exact ⟨visits, result, w', traces, trace.account recorded own empty⟩

/-- A flow with a node that sends a text and has none. -/
def speechless : Flow where
  nodes := [⟨"start", .trigger, "DM", "", []⟩, ⟨"send", .action, "MESSAGE", "", []⟩]
  edges := [⟨none, "start", "send", none⟩]

theorem trigger_speechless : (Graph.ofFlow speechless).trigger? (Text.upper "DM") =
    some ⟨"start", .trigger, "DM", "", []⟩ := by
  simp [Text.upper_dm, Graph.trigger?, Graph.triggers, Graph.ofFlow, Graph.firstDeclared,
    speechless, FlowNode.isTrigger]

theorem speechless_accounts :
    (⟨.builtin, none⟩ : Dispatch).NamesOwn ∧
    (Graph.ofFlow speechless).trigger? (Text.upper "DM") =
      some ⟨"start", .trigger, "DM", "", []⟩ ∧
    World.bare.handoff.pending = [] ∧
    ∃ visits result w',
      Exec.outcome (Exec.traceRun ⟨.builtin, none⟩ speechless "DM" none) (.bare "run") .bare =
        (.ok (visits, result), w') ∧
      Account ⟨⟨.builtin, none⟩, Graph.ofFlow speechless, "start"⟩ (.bare "run") visits result .bare
        w' ∧
      result.softFailures = ["send"] ∧ result.status = .partly := by
  have own := (Dispatch.conducts_builtin .none none).namesOwn
  have passes : (Exec.outcome (Exec.traceRun ⟨.builtin, none⟩ speechless "DM" none) (.bare "run")
      .bare).1.toOption.any (fun r => r.2.softFailures == ["send"] && r.2.status == .partly) =
        true := by
    rw [Exec.traceRun, trigger_speechless]
    decide
  obtain ⟨⟨visits, result⟩, w', traces, both⟩ := Exec.exists_outcome_of_any passes
  simp only [Bool.and_eq_true, beq_iff_eq] at both
  obtain ⟨-, visits', result', w'', traces', account⟩ :=
    run_accounts own trigger_speechless none (.bare "run") (rfl : World.bare.handoff.pending = [])
  cases traces.symm.trans traces'
  exact ⟨own, trigger_speechless, rfl, visits, result, w', traces, account, both⟩

/-- A run that calls no executor leaves the node at work as it was. -/
theorem speechless_keeps_current :
    (⟨.builtin, none⟩ : Dispatch).NamesOwn ∧
    (Graph.ofFlow speechless).trigger? (Text.upper "DM") =
      some ⟨"start", .trigger, "DM", "", []⟩ ∧
    ∃ result w',
      Exec.outcome (Exec.run ⟨.builtin, none⟩ speechless "DM" (some [])) (.bare "run")
        { World.bare with handoff := ⟨[], some "x", none⟩ } = (.ok result, w') ∧
      result.fatal = none ∧ w'.handoff.current = some "x" := by
  let w : World := { World.bare with handoff := ⟨[], some "x", none⟩ }
  have passes : (Exec.outcome (Exec.run ⟨.builtin, none⟩ speechless "DM" (some [])) (.bare "run")
      w).1.toOption.any (fun r => r.fatal == none) = true := by
    simp only [Exec.run, trigger_speechless]
    decide
  have keeps : (Exec.outcome (Exec.run ⟨.builtin, none⟩ speechless "DM" (some [])) (.bare "run")
      w).2.handoff.current = some "x" := by
    simp only [Exec.run, trigger_speechless]
    decide
  obtain ⟨result, w', ends, fatal⟩ := Exec.exists_outcome_of_any passes
  rw [ends] at keeps
  exact ⟨(Dispatch.conducts_builtin .none none).namesOwn, trigger_speechless, result, w', ends,
    by simpa using fatal, keeps⟩

end Chatflow
