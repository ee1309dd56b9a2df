import Chatflow.Proofs.Flow.Schedule
import Chatflow.Proofs.Run.Visit

/-!
# Traces of runs

A traced run is the run with the list of its visits (`snd_traceRun`). The trace accounts for the
result: `exists_outcome_traceRun` has the run end with a result, whatever the executors do, and
gives for each visit the visits from which its node received something.
-/

namespace Chatflow

/-- What a visit received is what arrives from the start and from the visits before it. -/
structure Explained (course : Course) (env : Env) (opening : Parcel) (earlier : List Visit)
    (v : Visit) : Prop where
  input : v.input =
    course.graph.arriving (opening :: earlier.map Visit.parcel) v.node.id
  faithful : v.Faithful course env

/-- How far a run has come with some visits, none of which ended it. -/
structure Reached (course : Course) (opening : Parcel) (visits : List Visit) (p : Progress) :
    Prop where
  nodes : p.nodes = visits.filterMap Visit.run?
  skipped : p.skipped = visits.filterMap Visit.skippedId?
  inbox : ∀ id, course.graph.has id = true → id ≠ course.start →
    id ∉ visits.map (·.node.id) →
    p.inbox.itemsOf id = course.graph.arriving (opening :: visits.map Visit.parcel) id

/-- The visits of nodes in their order account for the progress after them, and for the error that
ended them early. -/
structure Accounts (course : Course) (env : Env) (opening : Parcel) (nodes : List FlowNode)
    (earlier visits : List Visit) (p : Progress) (fatal : Option FatalError) : Prop where
  runs : p.nodes = (earlier ++ visits).filterMap Visit.run?
  skipped : p.skipped = (earlier ++ visits).filterMap Visit.skippedId?
  ended : visits.filterMap Visit.fatal? = fatal.toList
  order : visits.map Visit.node <+: nodes
  complete : fatal = none → visits.map Visit.node = nodes
  explained : ∀ before v after, visits = before ++ v :: after →
    Explained course env opening (earlier ++ before) v

structure Concludes (p : Progress) (status : RunStatus) (trigger : Option String)
    (fatal : Option FatalError) (result : RunResult) : Prop where
  nodes : result.nodes = p.nodes
  skipped : result.skipped = p.skipped
  softFailures : result.softFailures = p.failures
  status : result.status = status
  fatal : result.fatal = fatal
  trigger : result.triggerNodeId = trigger
  violations : result.violations = []
  logs : result.logs = p.logs

/-- The visits of a run account for its result. -/
structure Trace (course : Course) (env : Env) (opening : Parcel) (visits : List Visit)
    (result : RunResult) : Prop where
  nodes : result.nodes = visits.filterMap Visit.run?
  skipped : result.skipped = visits.filterMap Visit.skippedId?
  ended : visits.filterMap Visit.fatal? = result.fatal.toList
  trigger : result.triggerNodeId = some course.start
  violations : result.violations = []
  order : visits.map (·.node.id) <+: course.graph.runOrder course.start
  complete : result.fatal = none → visits.map (·.node.id) = course.graph.runOrder course.start
  declared : ∀ v ∈ visits, course.graph.get? v.node.id = some v.node
  explained : ∀ before v after, visits = before ++ v :: after →
    Explained course env opening before v

/-- The hand-off on the way through some visits, with what they add to the log of the run. After
each visit the texts are dropped that no node can send any more, unless it ended the run. -/
inductive Passage (course : Course) :
    List String → Handoff → List Visit → List RunEntry → Handoff → Prop
  | done (settled : List String) (h : Handoff) : Passage course settled h [] [] h
  | ended (settled : List String) {v : Visit} (fatal : v.fatal? ≠ none) :
      Passage course settled v.before.handoff [v] [] v.after.handoff
  | next {settled : List String} {v : Visit} {visits : List Visit} {log : List RunEntry}
      {h : Handoff} (goesOn : v.fatal? = none)
      (rest : Passage course (v.node.id :: settled) (v.cleared course settled) visits log h) :
      Passage course settled v.before.handoff (v :: visits) (v.log course settled ++ log) h

def RunEntry.opening (time : Int) (trigger : String) : RunEntry :=
  ⟨some trigger, .make time .info ("Starting flow from trigger: " ++ trigger) []⟩

def RunEntry.ending (time : Int) : Option FatalError → List RunEntry
  | none => []
  | some fatal => [⟨fatal.nodeId, .make time .error fatal.text []⟩]

/-- The visits lead from one world to another, and account for the log of the result up to the note
of an error that ended the run. The result names the nodes that failed. -/
structure Recorded (course : Course) (visits : List Visit) (result : RunResult) (w w' : World) :
    Prop where
  softFailures : result.softFailures = (result.nodes.filter (!·.success)).map NodeRun.nodeId
  status : result.status = (Exec.verdict result.softFailures result.fatal).1
  passage : ∃ log, Passage course [course.start] w.handoff visits log w'.handoff ∧
    result.logs = RunEntry.opening w.clock.milliseconds course.start :: log ++
      RunEntry.ending w'.clock.milliseconds result.fatal

variable {course : Course} {env : Env} {opening : Parcel} {w : World}

theorem Recorded.status_eq {visits : List Visit} {result : RunResult} {w' : World}
    (recorded : Recorded course visits result w w') :
    result.status =
      if result.fatal ≠ none then .failed
      else if result.softFailures ≠ [] then .partly
      else .success := by
  rw [recorded.status]
  cases result.fatal <;> cases result.softFailures <;> rfl

theorem Trace.faithful {visits : List Visit} {result : RunResult}
    (trace : Trace course env opening visits result) {v : Visit} (mem : v ∈ visits) :
    v.Faithful course env := by
  obtain ⟨before, after, split⟩ := List.append_of_mem mem
  exact (trace.explained before v after split).faithful

theorem Trace.skipped_eq {visits : List Visit} {result : RunResult}
    (trace : Trace course env opening visits result) :
    result.skipped = (visits.filter (·.input.isEmpty)).map (·.node.id) := by
  have skippedId : ∀ v ∈ visits,
      v.skippedId? = if v.input.isEmpty then some v.node.id else none := by
    intro v hv
    have faithful := trace.faithful hv
    cases received : v.input with
    | nil =>
      have skips := faithful.skips received
      simp [Visit.skippedId?, skips]
    | cons item items =>
      obtain ⟨ended, executes, -⟩ := faithful.executes (by simp [received])
      simp [Visit.skippedId?, executes]
  rw [trace.skipped, List.filterMap_congr skippedId, ← List.filterMap_eq_map',
    List.filterMap_filter]

theorem Reached.advance {visits : List Visit} {v : Visit} {p p' : Progress}
    (reached : Reached course opening visits p) (has : course.graph.has v.node.id = true)
    (advances : Advances course v p p') : Reached course opening (visits ++ [v]) p' where
  nodes := by
    rw [advances.nodes, reached.nodes, List.filterMap_append, List.filterMap_cons]
    cases v.run? <;> rfl
  skipped := by
    rw [advances.skipped, reached.skipped, List.filterMap_append, List.filterMap_cons]
    cases v.skippedId? <;> rfl
  inbox := by
    intro id node off fresh
    rw [List.map_append, List.mem_append, not_or] at fresh
    have other : id ≠ v.parcel.source := fun same => fresh.2 (List.mem_singleton.mpr same)
    rw [advances.inbox, Graph.itemsOf_deliver v.parcel has node off other,
      reached.inbox id node off fresh.1, List.map_append, ← List.cons_append,
      Graph.arriving_append]
    rfl

/-! ### Accounts, visit by visit -/

theorem Reached.accounts_nil {earlier : List Visit} {p : Progress}
    (reached : Reached course opening earlier p) :
    Accounts course env opening [] earlier [] p none where
  runs := by rw [reached.nodes, List.append_nil]
  skipped := by rw [reached.skipped, List.append_nil]
  ended := rfl
  order := List.nil_prefix
  complete := fun _ => rfl
  explained := by
    intro before v after split
    exact absurd split (by simp)

/-- The visit that ended the run adds no node to those that ran or were skipped. -/
theorem Reached.accounts_ended {earlier : List Visit} {p : Progress} {v : Visit}
    {fatal : FatalError} {rest : List FlowNode} (reached : Reached course opening earlier p)
    (explained : Explained course env opening earlier v)
    (fate : v.fate = .executed (.error fatal)) :
    Accounts course env opening (v.node :: rest) earlier [v] p (some fatal) where
  runs := by simp [reached.nodes, Visit.run?, fate]
  skipped := by simp [reached.skipped, Visit.skippedId?, fate]
  ended := by simp [Visit.fatal?, fate]
  order := List.prefix_append [v.node] rest
  complete := nofun
  explained := by
    intro before u after split
    obtain ⟨rfl, rfl, -⟩ : before = [] ∧ v = u ∧ after = [] := by
      cases before <;> simp_all
    rwa [List.append_nil]

theorem Accounts.cons {earlier visits : List Visit} {p : Progress} {v : Visit}
    {fatal : Option FatalError} {rest : List FlowNode}
    (accounts : Accounts course env opening rest (earlier ++ [v]) visits p fatal)
    (explained : Explained course env opening earlier v) (goesOn : v.fatal? = none) :
    Accounts course env opening (v.node :: rest) earlier (v :: visits) p fatal where
  runs := by rw [accounts.runs, List.append_assoc, List.singleton_append]
  skipped := by rw [accounts.skipped, List.append_assoc, List.singleton_append]
  ended := by rw [List.filterMap_cons_none goesOn, accounts.ended]
  order := List.cons_prefix_cons.mpr ⟨rfl, accounts.order⟩
  complete := fun none => congrArg (v.node :: ·) (accounts.complete none)
  explained := by
    intro before u after split
    cases before with
    | nil =>
      obtain ⟨rfl, -⟩ := List.cons.inj split
      rwa [List.append_nil]
    | cons first before =>
      obtain ⟨rfl, tail⟩ := List.cons.inj split
      have later := accounts.explained before u after tail
      rwa [List.append_assoc, List.singleton_append] at later

theorem Accounts.trace {visits : List Visit} {p : Progress} {fatal : Option FatalError}
    {logs : List RunEntry} {status : RunStatus} {result : RunResult}
    (accounts : Accounts course env opening (course.graph.runNodes course.start) [] visits p fatal)
    (has : course.graph.has course.start = true)
    (concludes : Concludes { p with logs } status (some course.start) fatal result) :
    Trace course env opening visits result := by
  have ids := Graph.ids_runNodes has
  have nodesOf : visits.map (·.node.id) = (visits.map Visit.node).map FlowNode.id := by
    rw [List.map_map]
    rfl
  exact
    { nodes := concludes.nodes.trans accounts.runs
      skipped := concludes.skipped.trans accounts.skipped
      ended := by rw [accounts.ended, concludes.fatal]
      trigger := concludes.trigger
      violations := concludes.violations
      order := by
        rw [nodesOf, ← ids]
        exact accounts.order.map FlowNode.id
      complete := by
        intro none
        rw [nodesOf, accounts.complete (concludes.fatal ▸ none), ids]
      declared := by
        intro v hv
        have visited := accounts.order.subset (List.mem_map_of_mem hv)
        exact Graph.get?_of_mem (Graph.mem_of_mem_runNodes visited)
      explained := accounts.explained }

structure Unvisited (course : Course) (earlier : List Visit) (nodes : List FlowNode) : Prop where
  nodup : (nodes.map FlowNode.id).Nodup
  fresh : ∀ n ∈ nodes, course.graph.has n.id = true ∧ n.id ≠ course.start ∧
    n.id ∉ earlier.map (·.node.id)

theorem Unvisited.tail {earlier : List Visit} {v : Visit} {rest : List FlowNode}
    (unvisited : Unvisited course earlier (v.node :: rest)) :
    Unvisited course (earlier ++ [v]) rest := by
  obtain ⟨other, nodup⟩ := List.nodup_cons.mp unvisited.nodup
  refine ⟨nodup, fun m hm => ?_⟩
  obtain ⟨has, off, unseen⟩ := unvisited.fresh m (List.mem_cons_of_mem _ hm)
  refine ⟨has, off, ?_⟩
  rw [List.map_append, List.mem_append, not_or]
  exact ⟨unseen, fun same => other (List.mem_map.mpr ⟨m, hm, List.mem_singleton.mp same⟩)⟩

theorem unvisited_runNodes (has : course.graph.has course.start = true) :
    Unvisited course [] (course.graph.runNodes course.start) := by
  have ids := Graph.ids_runNodes has
  refine ⟨ids ▸ (List.nodup_cons.mp (Graph.nodup_runOrder course.graph course.start)).2,
    fun n hn => ?_⟩
  have mem : n.id ∈ course.graph.runOrder course.start := ids ▸ List.mem_map_of_mem hn
  refine ⟨(Graph.reaches_of_mem_runOrder has mem).has has, ?_, List.not_mem_nil⟩
  exact fun same => Graph.start_not_mem_runOrder (same ▸ mem)

/-- The items with which a run starts: the given ones, or those of the event. -/
def startItems (env : Env) (w : World) (items : Option (List Item)) : List Item :=
  items.getD (env.context.initialItems w.clock.milliseconds)

/-- The kind of direct messages is named in its normal form. -/
theorem Text.upper_dm : Text.upper "DM" = "DM" := by
  unfold upper upperChar mapRuns
  simp only [← Array.find?_toList]
  decide

theorem Graph.has_trigger {g : Graph} {kind : String} {trigger : FlowNode}
    (found : g.trigger? kind = some trigger) : g.has trigger.id = true := by
  have mem := (List.mem_filter.mp (List.mem_of_find?_eq_some found)).1
  exact Graph.has_iff.mpr (List.mem_map_of_mem mem)

namespace Exec

/-! ### Traced runs -/

def traceNodes (course : Course) :
    Progress → List FlowNode → Exec (List Visit × Progress × Option FatalError)
  | p, [] => return ([], p, none)
  | p, n :: rest => do
    let (visit, result) ← traceNode course p n
    match result with
    | .error fatal => return ([visit], p, some fatal)
    | .ok p =>
      let (visits, ended) ← traceNodes course p rest
      return (visit :: visits, ended)

def traceRunFrom (d : Dispatch) (g : Graph) (kind : String) (started : Float) (trigger : FlowNode)
    (items : List Item) : Exec (List Visit × RunResult) := do
  let course : Course := ⟨d, g, trigger.id⟩
  let p ← openRun course kind items
  let (visits, p, fatal) ← traceNodes course p (course.graph.runNodes course.start)
  return (visits, ← closeRun kind started trigger.id p fatal)

/-- Runs a flow for a kind of event, with all visits. Without a trigger there are none. -/
def traceRun (d : Dispatch) (f : Flow) (kind : String) (items : Option (List Item)) :
    Exec (List Visit × RunResult) := do
  match (Graph.ofFlow f).trigger? (Text.upper kind) with
  | none => return ([], ← run d f kind items)
  | some trigger =>
    let started ← elapsed
    let items ← match items with
      | some items => pure items
      | none => pure ((← context).initialItems (← now))
    traceRunFrom d (Graph.ofFlow f) (Text.upper kind) started trigger items

theorem snd_traceNodes (p : Progress) (nodes : List FlowNode) :
    Prod.snd <$> traceNodes course p nodes = visitNodes course p nodes := by
  induction nodes generalizing p with
  | nil => simp only [traceNodes, visitNodes, map_pure]
  | cons n rest ih =>
    simp only [traceNodes, visitNodes, map_bind, ← snd_traceNode, bind_map_left]
    refine bind_congr fun visited => ?_
    obtain ⟨visit, result⟩ := visited
    cases result with
    | error fatal => simp only [map_pure]
    | ok p => simp only [← ih, ← bind_pure_comp, bind_assoc, pure_bind]

theorem snd_traceRunFrom (d : Dispatch) (g : Graph) (kind : String) (started : Float)
    (trigger : FlowNode) (items : List Item) :
    Prod.snd <$> traceRunFrom d g kind started trigger items =
      runFrom d g kind started trigger items := by
  simp only [traceRunFrom, runFrom, map_bind, map_pure, ← snd_traceNodes, bind_map_left,
    bind_pure]

theorem snd_traceRun (d : Dispatch) (f : Flow) (kind : String) (items : Option (List Item)) :
    Prod.snd <$> traceRun d f kind items = run d f kind items := by
  unfold traceRun
  cases found : (Graph.ofFlow f).trigger? (Text.upper kind) with
  | none => simp only [map_bind, map_pure, bind_pure]
  | some trigger =>
    cases items <;> simp only [run, found, map_bind, snd_traceRunFrom]

theorem outcome_run_of_traceRun {d : Dispatch} {f : Flow} {kind : String}
    {items : Option (List Item)} {env : Env} {w w' : World} {visits : List Visit}
    {result : RunResult}
    (traces : outcome (traceRun d f kind items) env w = (.ok (visits, result), w')) :
    outcome (run d f kind items) env w = (.ok result, w') := by
  rw [← snd_traceRun, outcome_map, traces]
  rfl

theorem outcome_traceRun_of_none {d : Dispatch} {f : Flow} {kind : String}
    {items : Option (List Item)} {env : Env} {w w' : World} {result : RunResult}
    (none : (Graph.ofFlow f).trigger? (Text.upper kind) = none)
    (ends : outcome (run d f kind items) env w = (.ok result, w')) :
    outcome (traceRun d f kind items) env w = (.ok ([], result), w') := by
  rw [traceRun, none]
  exact outcome_bind_ok ends _

/-! ### Outcomes of traced runs -/

variable (env : Env) (w : World) (course : Course)

theorem exists_outcome_noteStart (start kind : String) :
    ∃ records, outcome (noteStart start kind) env w =
      (.ok ⟨[], [], [], [], [.opening w.clock.milliseconds start]⟩, { w with records }) := by
  unfold noteStart
  rw [outcome_bind_ok (outcome_runEntry ..)]
  obtain ⟨records, logged⟩ := exists_outcome_emitInRun env w ["trigger_node_id", "trigger_type"]
    (by decide) runLogger .info "Run started"
    [("trigger_node_id", .str start), ("trigger_type", .str kind)] rfl
  rw [outcome_bind_ok logged]
  exact ⟨records, rfl⟩

theorem exists_outcome_openRun (kind : String) (items : List Item) :
    ∃ records, outcome (openRun course kind items) env w =
      (.ok ⟨course.graph.deliver course.start course.start w.clock.milliseconds items [],
        [course.start], [], [], [.opening w.clock.milliseconds course.start]⟩,
        { w with records }) := by
  obtain ⟨records, notes⟩ := exists_outcome_noteStart env w course.start kind
  rw [openRun, outcome_bind_ok notes, outcome_settle]
  exact ⟨records, rfl⟩

theorem exists_outcome_finishRun (kind : String) (started : Float) (trigger : Option String)
    (p : Progress) (status : RunStatus) (text : String) (fatal : Option FatalError) :
    ∃ result records, outcome (finishRun kind started trigger p status text fatal) env w =
      (.ok result, { w with records }) ∧ Concludes p status trigger fatal result := by
  unfold finishRun
  rw [outcome_bind_ok outcome_context, outcome_bind_ok outcome_get]
  obtain ⟨records, logged⟩ := exists_outcome_emitInRun env w
    ["status", "nodes_executed", "soft_failures", "duration_ms"] (by decide) runLogger .info
    "Run finished"
    [("status", .str status.name), ("nodes_executed", .int p.nodes.length),
      ("soft_failures", .int p.failures.length),
      ("duration_ms", .float (Decimal.roundPlaces 2 (w.clock.since started)))] rfl
  rw [outcome_bind_ok logged]
  exact ⟨_, records, rfl, rfl, rfl, rfl, rfl, rfl, rfl, rfl, rfl⟩

theorem exists_outcome_noteFatal (p : Progress) (fatal : Option FatalError) :
    ∃ records, outcome (noteFatal p fatal) env w =
      (.ok { p with logs := p.logs ++ RunEntry.ending w.clock.milliseconds fatal },
        { w with records }) := by
  cases fatal with
  | none =>
    refine ⟨w.records, ?_⟩
    rw [RunEntry.ending, List.append_nil]
    rfl
  | some fatal =>
    unfold noteFatal
    rw [outcome_bind_ok (outcome_runEntry ..)]
    obtain ⟨records, logged⟩ := exists_outcome_emitInRun env w ["node_id", "code", "reason"]
      (by decide) runLogger .error "Run aborted"
      [("node_id", .ofText? fatal.nodeId), ("code", .str fatal.code.name),
        ("reason", .str fatal.text)] rfl
    rw [outcome_bind_ok logged]
    exact ⟨records, rfl⟩

theorem exists_outcome_closeRun (kind : String) (started : Float) (trigger : String)
    (p : Progress) (fatal : Option FatalError) :
    ∃ result records, outcome (closeRun kind started trigger p fatal) env w =
      (.ok result, { w with records }) ∧
      Concludes { p with logs := p.logs ++ RunEntry.ending w.clock.milliseconds fatal }
        (verdict p.failures fatal).1 (some trigger) fatal result := by
  unfold closeRun
  obtain ⟨records, notes⟩ := exists_outcome_noteFatal env w p fatal
  rw [outcome_bind_ok notes]
  exact exists_outcome_finishRun env { w with records } kind started (some trigger)
    { p with logs := p.logs ++ RunEntry.ending w.clock.milliseconds fatal }
    (verdict p.failures fatal).1 (verdict p.failures fatal).2 fatal

theorem exists_outcome_traceNodes {course : Course} {earlier : List Visit} {p : Progress}
    (nodes : List FlowNode) (reached : Reached course opening earlier p)
    (unvisited : Unvisited course earlier nodes) :
    ∃ visits p' fatal w', outcome (traceNodes course p nodes) env w =
      (.ok (visits, p', fatal), w') ∧
      Accounts course env opening nodes earlier visits p' fatal ∧
      ∃ log, Passage course p.settled w.handoff visits log w'.handoff ∧
        p'.logs = p.logs ++ log := by
  induction nodes generalizing earlier p w with
  | nil => exact ⟨[], p, none, w, rfl, reached.accounts_nil, [], .done _ _,
      (List.append_nil _).symm⟩
  | cons n rest ih =>
    obtain ⟨has, off, unseen⟩ := unvisited.fresh n List.mem_cons_self
    obtain ⟨visit, result, w', visits, rfl, input, rfl, faithful, ends⟩ :=
      exists_outcome_traceNode env w course p n
    have explained : Explained course env opening earlier visit :=
      ⟨input.trans (reached.inbox _ has off unseen), faithful⟩
    rw [traceNodes, outcome_bind_ok visits]
    cases result with
    | error fatal =>
      obtain ⟨fate, rfl⟩ := ends
      have passage : Passage course p.settled visit.before.handoff [visit] [] visit.after.handoff :=
        .ended _ (by simp [Visit.fatal?, fate])
      exact ⟨[visit], p, some fatal, _, rfl, reached.accounts_ended explained fate, [], passage,
        (List.append_nil _).symm⟩
    | ok p' =>
      obtain ⟨advances, clears⟩ := ends
      obtain ⟨more, p'', fatal, w'', traces, accounts, log, passage, logs⟩ :=
        ih w' (reached.advance has advances) unvisited.tail
      dsimp only
      rw [outcome_bind_ok traces]
      rw [clears.settled, clears.handoff] at passage
      exact ⟨visit :: more, p'', fatal, w'', rfl, accounts.cons explained advances.goesOn, _,
        .next advances.goesOn passage, by rw [logs, clears.logs, List.append_assoc]⟩

theorem exists_outcome_traceRunFrom (d : Dispatch) (g : Graph) (kind : String) (started : Float)
    (trigger : FlowNode) (has : g.has trigger.id = true) (items : List Item) :
    ∃ visits result w', outcome (traceRunFrom d g kind started trigger items) env w =
      (.ok (visits, result), w') ∧
      Trace ⟨d, g, trigger.id⟩ env ⟨trigger.id, items, w.clock.milliseconds⟩ visits result ∧
      Recorded ⟨d, g, trigger.id⟩ visits result w w' := by
  unfold traceRunFrom
  obtain ⟨records, opens⟩ := exists_outcome_openRun env w
    ⟨d, g, trigger.id⟩ kind items
  dsimp only
  rw [outcome_bind_ok opens]
  let opening : Parcel := ⟨trigger.id, items, w.clock.milliseconds⟩
  have reached : Reached ⟨d, g, trigger.id⟩ opening []
      ⟨g.deliver trigger.id trigger.id w.clock.milliseconds items [], [trigger.id], [], [],
        [.opening w.clock.milliseconds trigger.id]⟩ :=
    ⟨rfl, rfl, fun id node off _ => Graph.itemsOf_deliver opening has node off off []⟩
  obtain ⟨visits, p, fatal, w', traces, accounts, log, passage, logs⟩ := exists_outcome_traceNodes
    env { w with records } (g.runNodes trigger.id) reached (unvisited_runNodes has)
  rw [outcome_bind_ok traces]
  obtain ⟨result, records, closes, concludes⟩ := exists_outcome_closeRun env w' kind started
    trigger.id p fatal
  rw [outcome_bind_ok closes]
  refine ⟨visits, result, _, rfl, accounts.trace has concludes, ?_, ?_, log, passage, ?_⟩
  · rw [concludes.softFailures, concludes.nodes]
    rfl
  · rw [concludes.status, concludes.fatal, concludes.softFailures]
    rfl
  · rw [concludes.logs, logs, concludes.fatal]
    rfl

theorem outcome_traceRun (d : Dispatch) {f : Flow} {kind : String} {trigger : FlowNode}
    (found : (Graph.ofFlow f).trigger? (Text.upper kind) = some trigger)
    (items : Option (List Item)) :
    outcome (traceRun d f kind items) env w =
      outcome (traceRunFrom d (Graph.ofFlow f) (Text.upper kind) w.clock.elapsed trigger
        (startItems env w items)) env w := by
  unfold traceRun
  rw [found]
  dsimp only
  rw [outcome_bind_ok outcome_elapsed]
  cases items with
  | some items => rfl
  | none =>
    dsimp only
    rw [outcome_bind_ok outcome_context, outcome_bind_ok outcome_now, pure_bind]
    rfl

/-- A run from a trigger ends with a result for which its visits account. -/
theorem exists_recorded_traceRun (d : Dispatch) {f : Flow} {kind : String} {trigger : FlowNode}
    (found : (Graph.ofFlow f).trigger? (Text.upper kind) = some trigger)
    (items : Option (List Item)) :
    ∃ visits result w', outcome (traceRun d f kind items) env w = (.ok (visits, result), w') ∧
      Trace ⟨d, Graph.ofFlow f, trigger.id⟩ env
        ⟨trigger.id, startItems env w items, w.clock.milliseconds⟩ visits result ∧
      Recorded ⟨d, Graph.ofFlow f, trigger.id⟩ visits result w w' := by
  rw [outcome_traceRun env w d found]
  exact exists_outcome_traceRunFrom env w d _ _ _ trigger (Graph.has_trigger found) _

theorem exists_outcome_traceRun (d : Dispatch) {f : Flow} {kind : String} {trigger : FlowNode}
    (found : (Graph.ofFlow f).trigger? (Text.upper kind) = some trigger)
    (items : Option (List Item)) :
    ∃ visits result w', outcome (traceRun d f kind items) env w = (.ok (visits, result), w') ∧
      Trace ⟨d, Graph.ofFlow f, trigger.id⟩ env
        ⟨trigger.id, startItems env w items, w.clock.milliseconds⟩ visits result := by
  obtain ⟨visits, result, w', traces, trace, -⟩ := exists_recorded_traceRun env w d found items
  exact ⟨visits, result, w', traces, trace⟩

/-- A run without a trigger changes nothing but the records, and says so in its result. -/
theorem exists_records_run_of_none (d : Dispatch) {f : Flow} {kind : String}
    (none : (Graph.ofFlow f).trigger? (Text.upper kind) = none) (items : Option (List Item)) :
    ∃ result records, outcome (run d f kind items) env w = (.ok result, { w with records }) ∧
      result.status = .failed ∧
      result.nodes = [] ∧ result.skipped = [] ∧ result.triggerNodeId = .none ∧
      result.violations = [] ∧ result.fatal = some (.missingTrigger (Text.upper kind)) := by
  unfold run
  rw [outcome_bind_ok outcome_elapsed]
  dsimp only
  rw [none]
  dsimp only
  rw [outcome_bind_ok (outcome_runEntry ..)]
  let fatal := FatalError.missingTrigger (Text.upper kind)
  obtain ⟨result, records, finishes, concludes⟩ := exists_outcome_finishRun env w
    (Text.upper kind) w.clock.elapsed .none
    ⟨[], [], [], [], [⟨.none, .make w.clock.milliseconds .error fatal.text []⟩]⟩ .failed fatal.text
    (some fatal)
  exact ⟨result, records, finishes, concludes.status, concludes.nodes, concludes.skipped,
    concludes.trigger, concludes.violations, concludes.fatal⟩

theorem exists_outcome_run_of_none (d : Dispatch) {f : Flow} {kind : String}
    (none : (Graph.ofFlow f).trigger? (Text.upper kind) = none) (items : Option (List Item)) :
    ∃ result w', outcome (run d f kind items) env w = (.ok result, w') ∧
      result.nodes = [] ∧ result.skipped = [] ∧ result.triggerNodeId = .none ∧
      result.violations = [] ∧ result.fatal = some (.missingTrigger (Text.upper kind)) := by
  obtain ⟨result, records, ends, -, found⟩ := exists_records_run_of_none env w d none items
  exact ⟨result, _, ends, found⟩

theorem exists_outcome_run (d : Dispatch) {f : Flow} {kind : String} {trigger : FlowNode}
    (found : (Graph.ofFlow f).trigger? (Text.upper kind) = some trigger)
    (items : Option (List Item)) :
    ∃ visits result w', outcome (run d f kind items) env w = (.ok result, w') ∧
      Trace ⟨d, Graph.ofFlow f, trigger.id⟩ env
        ⟨trigger.id, startItems env w items, w.clock.milliseconds⟩ visits result := by
  obtain ⟨visits, result, w', traces, trace⟩ := exists_outcome_traceRun env w d found
    items
  exact ⟨visits, result, w', outcome_run_of_traceRun traces, trace⟩

end Exec

end Chatflow
