import Chatflow.Proofs.Exec
import Chatflow.Proofs.Run.Delivery

/-!
# Visits

What one visit of a run does. The visit is traced: the traced one notes what the node received and
what became of it, and is otherwise the visit itself (`snd_traceNode`). It never ends with a fault,
whatever the executors do.
-/

namespace Chatflow

inductive Fate where
  | skipped
  | executed (result : Except FatalError NodeRun)

/-- A node to which a run came: what it received, what became of it, and the world before and after
that. -/
structure Visit where
  node : FlowNode
  input : List Item
  fate : Fate
  before : World
  after : World

def NodeRun.failureEntry (r : NodeRun) (time : Int) : RunEntry :=
  let reason := (r.text.filter (!·.isEmpty)).getD "no message"
  ⟨some r.nodeId, .make time .warn ("Node " ++ r.subType ++ " failed: " ++ reason) []⟩

def NodeRun.entries (r : NodeRun) (time : Int) : List RunEntry :=
  r.logs.map (⟨some r.nodeId, ·⟩) ++ if r.success then [] else [r.failureEntry time]

def RunEntry.dropped (time : Int) (producer : String) : RunEntry :=
  ⟨some producer, .make time .warn ("Generated text from '" ++ producer ++ "' was never sent") []⟩

namespace Visit

def run? (v : Visit) : Option NodeRun :=
  match v.fate with
  | .executed (.ok r) => some r
  | _ => none

def fatal? (v : Visit) : Option FatalError :=
  match v.fate with
  | .executed (.error fatal) => some fatal
  | _ => none

def skippedId? (v : Visit) : Option String :=
  match v.fate with
  | .skipped => some v.node.id
  | .executed _ => none

/-- What the node hands on: its items if it was executed with success, and else nothing. -/
def output (v : Visit) : List Item :=
  match v.fate with
  | .executed (.ok r) => if r.success then r.items else []
  | _ => []

def parcel (v : Visit) : Parcel := ⟨v.node.id, v.output, v.after.clock.milliseconds⟩

def entries (v : Visit) : List RunEntry :=
  match v.fate with
  | .executed (.ok r) => r.entries v.after.clock.milliseconds
  | _ => []

variable {v : Visit}

theorem run?_eq_some_iff {r : NodeRun} : v.run? = some r ↔ v.fate = .executed (.ok r) := by
  unfold run?
  split <;> simp_all

theorem fatal?_eq_some_iff {fatal : FatalError} :
    v.fatal? = some fatal ↔ v.fate = .executed (.error fatal) := by
  unfold fatal?
  split <;> simp_all

theorem skippedId?_eq_some_iff {id : String} :
    v.skippedId? = some id ↔ v.fate = .skipped ∧ v.node.id = id := by
  unfold skippedId?
  split <;> simp_all

/-- The node was executed with what it received, unless it received nothing. -/
structure Faithful (course : Course) (env : Env) (v : Visit) : Prop where
  skips : v.input = [] → v.fate = .skipped
  idle : v.input = [] → v.after = v.before
  executes : v.input ≠ [] → ∃ result, v.fate = .executed result ∧
    Exec.outcome (Exec.executeNode course v.node v.input) env v.before = (.ok result, v.after)

end Visit

def Handoff.discardAll (h : Handoff) (producers : List String) : Handoff :=
  producers.foldl (fun h producer => (h.discard producer).2) h

/-- The pending texts that no node can send any more. -/
def Course.stranded (course : Course) (settled : List String) (h : Handoff) : Entries String :=
  h.pending.filter fun e => course.graph.isStranded course.start settled e.1

/-- The world in which the executor of a node is at work. -/
def Course.entered (course : Course) (n : FlowNode) (w : World) : World :=
  { w with handoff := w.handoff.enter (some n.id) (some (course.graph.ancestors n.id)) }

def World.left (w : World) : World := { w with handoff := w.handoff.enter none none }

/-- The node that the end of an execution is about. -/
def endedId? : Except FatalError NodeRun → Option String
  | .ok r => some r.nodeId
  | .error fatal => fatal.nodeId

namespace FlowNode

/-- What the end of an execution makes of the node. -/
def ended (n : FlowNode) (source : Source) (duration : Float) :
    Except Fault Reply → Except FatalError NodeRun
  | .error fault => .error (.raised n fault)
  | .ok (.stray kindName) => .error (.stray n kindName)
  | .ok (.result r) => .ok (.ofResult n source r duration)

variable (n : FlowNode) {source : Source} {duration : Float}

theorem endedId?_ended (source : Source) (duration : Float) (reply : Except Fault Reply) :
    endedId? (n.ended source duration reply) = some n.id := by
  match reply with
  | .error fault => rfl
  | .ok (.stray kindName) => rfl
  | .ok (.result r) => rfl

/-- A node runs to its end when its executor answers with a result. -/
theorem ended_eq_ok_iff {reply : Except Fault Reply} {r : NodeRun} :
    n.ended source duration reply = .ok r ↔
      ∃ result, reply = .ok (.result result) ∧ r = .ofResult n source result duration := by
  match reply with
  | .error fault => simp [ended]
  | .ok (.stray kindName) => simp [ended]
  | .ok (.result result) => simp [ended, eq_comm]

/-- An executor that was found ends the run with an error of its own only. -/
theorem code_ne_of_ended {reply : Except Fault Reply} {fatal : FatalError}
    (ends : n.ended source duration reply = .error fatal) : fatal.code ≠ .unresolvedSubType := by
  match reply with
  | .error fault =>
    cases ends
    nofun
  | .ok (.stray kindName) =>
    cases ends
    nofun
  | .ok (.result r) => cases ends

end FlowNode

structure Advances (course : Course) (v : Visit) (p p' : Progress) : Prop where
  goesOn : v.fatal? = none
  nodes : p'.nodes = p.nodes ++ v.run?.toList
  skipped : p'.skipped = p.skipped ++ v.skippedId?.toList
  inbox : p'.inbox = course.graph.deliver course.start v.parcel.source v.parcel.time v.parcel.items
    p.inbox

def Visit.stranded (course : Course) (settled : List String) (v : Visit) : Entries String :=
  course.stranded (v.node.id :: settled) v.after.handoff

/-- What a visit that does not end the run adds to the log of the run: the entries of the node, and
one for each text that is dropped. -/
def Visit.log (course : Course) (settled : List String) (v : Visit) : List RunEntry :=
  v.entries ++
    (v.stranded course settled).names.map (RunEntry.dropped v.after.clock.milliseconds)

def Visit.cleared (course : Course) (settled : List String) (v : Visit) : Handoff :=
  v.after.handoff.discardAll (v.stranded course settled).names

/-- After a visit the node is settled, and the texts are dropped that no node can send any more. -/
structure Clears (course : Course) (v : Visit) (p p' : Progress) (h : Handoff) : Prop where
  settled : p'.settled = v.node.id :: p.settled
  logs : p'.logs = p.logs ++ v.log course p.settled
  handoff : h = v.cleared course p.settled

namespace Exec

variable (env : Env) (w : World) (course : Course)

/-! ### The parts of a visit -/

theorem exists_outcome_emitInRun (names : List String) (loggable : Loggable names) (logger : String)
    (severity : Log.Severity) (text : String) (fields : Entries Value)
    (named : fields.names = names) :
    ∃ records, outcome (emitInRun logger severity text fields) env w =
      (.ok (), { w with records }) := by
  have own : Loggable ["run_id", "automation_id"] := by decide
  unfold emitInRun
  rw [outcome_bind_ok outcome_context]
  refine exists_outcome_emit env w _ (fun name mem => ?_) logger severity text _ rfl
  rcases Table.mem_names_merge mem with traced | given
  · exact own name traced
  · exact loggable name (named ▸ given)

theorem outcome_runEntry (level : Log.Level) (text : String) (nodeId : Option String) :
    outcome (runEntry level text nodeId) env w =
      (.ok ⟨nodeId, Log.Entry.make w.clock.milliseconds level text []⟩, w) := rfl

theorem outcome_settle (p : Progress) (id : String) (items : List Item) :
    outcome (settle course p id items) env w =
      (.ok { p with
        inbox := course.graph.deliver course.start id w.clock.milliseconds items p.inbox
        settled := id :: p.settled }, w) := rfl

theorem exists_outcome_noteSkip (p : Progress) (n : FlowNode) :
    ∃ records, outcome (noteSkip p n) env w =
      (.ok { p with skipped := p.skipped ++ [n.id] }, { w with records }) := by
  unfold noteSkip
  obtain ⟨records, logged⟩ := exists_outcome_emitInRun env w ["node_id"] (by decide) runLogger
    .debug "Node skipped" [("node_id", .str n.id)] rfl
  rw [outcome_bind_ok logged]
  exact ⟨records, rfl⟩

theorem exists_outcome_skipNode (p : Progress) (n : FlowNode) :
    ∃ records, outcome (skipNode course p n) env w =
      (.ok { p with
        inbox := course.graph.deliver course.start n.id w.clock.milliseconds [] p.inbox
        settled := n.id :: p.settled
        skipped := p.skipped ++ [n.id] }, { w with records }) := by
  obtain ⟨records, notes⟩ := exists_outcome_noteSkip env w p n
  rw [skipNode, outcome_bind_ok notes, outcome_settle]
  exact ⟨records, rfl⟩

theorem exists_outcome_noteRun (p : Progress) (r : NodeRun) :
    ∃ records, outcome (noteRun p r) env w =
      (.ok { p with
        nodes := p.nodes ++ [r]
        logs := p.logs ++ r.entries w.clock.milliseconds }, { w with records }) := by
  unfold noteRun NodeRun.entries
  split
  · rw [List.append_nil]
    exact ⟨w.records, rfl⟩
  · rw [outcome_bind_ok (outcome_runEntry ..)]
    obtain ⟨records, logged⟩ := exists_outcome_emitInRun env w ["node_id", "sub_type", "reason"]
      (by decide) runLogger .warning "Node failed"
      [("node_id", .str r.nodeId), ("sub_type", .str r.subType), ("reason", .ofText? r.text)] rfl
    rw [outcome_bind_ok logged, ← List.append_assoc]
    exact ⟨records, rfl⟩

theorem exists_outcome_acceptRun (p : Progress) (r : NodeRun) :
    ∃ records, outcome (acceptRun course p r) env w =
      (.ok { p with
        inbox := course.graph.deliver course.start r.nodeId w.clock.milliseconds r.handedOn p.inbox
        settled := r.nodeId :: p.settled
        nodes := p.nodes ++ [r]
        logs := p.logs ++ r.entries w.clock.milliseconds }, { w with records }) := by
  obtain ⟨records, notes⟩ := exists_outcome_noteRun env w p r
  rw [acceptRun, outcome_bind_ok notes, outcome_settle]
  exact ⟨records, rfl⟩

theorem exists_outcome_dropTexts (p : Progress) (producers : List String) :
    ∃ records, outcome (dropTexts p producers) env w =
      (.ok { p with
        logs := p.logs ++ producers.map (RunEntry.dropped w.clock.milliseconds) },
        { w with handoff := w.handoff.discardAll producers, records }) := by
  induction producers generalizing p w with
  | nil =>
    rw [List.map_nil, List.append_nil]
    exact ⟨w.records, rfl⟩
  | cons producer rest ih =>
    rw [dropTexts, outcome_bind_ok (outcome_discardText producer),
      outcome_bind_ok (outcome_runEntry ..)]
    obtain ⟨records, logged⟩ := exists_outcome_emitInRun env
      { w with handoff := (w.handoff.discard producer).2 } ["node_id"] (by decide) runLogger .info
      "Generated text dropped" [("node_id", .str producer)] rfl
    rw [outcome_bind_ok logged]
    have later := ih
      { w with handoff := (w.handoff.discard producer).2, records }
      { p with logs := p.logs ++ [RunEntry.dropped w.clock.milliseconds producer] }
    rwa [List.append_assoc, List.singleton_append] at later

theorem exists_outcome_dropStranded (p : Progress) :
    ∃ records, outcome (dropStranded course p) env w =
      (.ok { p with
        logs := p.logs ++ (course.stranded p.settled w.handoff).names.map
          (RunEntry.dropped w.clock.milliseconds) },
        { w with
          handoff := w.handoff.discardAll (course.stranded p.settled w.handoff).names
          records }) := by
  have names : (course.stranded p.settled w.handoff).names =
      w.handoff.producers.filter (course.graph.isStranded course.start p.settled) := by
    rw [Handoff.producers, Table.names, Table.names, List.filter_map]
    rfl
  rw [names]
  exact exists_outcome_dropTexts env w p _

theorem outcome_enterNode (node : Option String) (scope : Option (List String)) :
    outcome (enterNode node scope) env w =
      (.ok (), { w with handoff := w.handoff.enter node scope }) := rfl

/-- A node with an executor ends as the executor does, and leaves the world as the executor does,
with no node at work. -/
theorem outcome_executeNode_of_found {n : FlowNode} {e : Executor} {source : Source}
    (found : course.dispatch.find? n.subType = some (e, source)) (items : List Item) :
    outcome (executeNode course n items) env w =
      (.ok (n.ended source
        ((outcome (e.execute (.obj n.config) items) env (course.entered n w)).2.clock.since
          w.clock.elapsed)
        (outcome (e.execute (.obj n.config) items) env (course.entered n w)).1),
        (outcome (e.execute (.obj n.config) items) env (course.entered n w)).2.left) := by
  unfold executeNode
  rw [found]
  dsimp only
  rw [outcome_bind_ok outcome_elapsed, outcome_bind_ok (outcome_enterNode ..),
    outcome_bind_ok (outcome_attempt _), outcome_bind_ok (outcome_enterNode ..), Course.entered]
  rcases outcome _ env { w with handoff := w.handoff.enter _ _ } with ⟨reply, v⟩
  match reply with
  | .error fault => rfl
  | .ok (.stray kindName) => rfl
  | .ok (.result r) => rfl

theorem exists_outcome_executeNode_of_resolved {n : FlowNode} {e : Executor}
    (resolved : course.dispatch.resolve? n.subType = some e) (items : List Item) :
    ∃ source duration, outcome (executeNode course n items) env w =
      (.ok (n.ended source duration
        (outcome (e.execute (.obj n.config) items) env (course.entered n w)).1),
        (outcome (e.execute (.obj n.config) items) env (course.entered n w)).2.left) := by
  obtain ⟨source, found⟩ := Dispatch.exists_find?_of_resolve? resolved
  exact ⟨source, _, outcome_executeNode_of_found env w course found items⟩

theorem outcome_executeNode_of_unresolved {n : FlowNode}
    (unresolved : course.dispatch.find? n.subType = none) (items : List Item) :
    outcome (executeNode course n items) env w = (.ok (.error (.unresolved n)), w) := by
  unfold executeNode
  rw [unresolved]
  rfl

/-- Executing a node gives the run of the node or an error that ends the run of the flow. Either is
about the node, and only a node without an executor is not resolved. -/
theorem exists_outcome_executeNode (n : FlowNode) (items : List Item) :
    ∃ ended v, outcome (executeNode course n items) env w = (.ok ended, v) ∧
      endedId? ended = some n.id ∧
      ∀ fatal, ended = .error fatal → fatal.code = .unresolvedSubType →
        course.dispatch.find? n.subType = none := by
  cases found : course.dispatch.find? n.subType with
  | none => exact ⟨_, _, outcome_executeNode_of_unresolved env w course found items, rfl,
      fun _ _ _ => rfl⟩
  | some found' =>
    have resolved : course.dispatch.resolve? n.subType = some found'.1 := by
      rw [Dispatch.resolve?_eq_map_find?, found, Option.map_some]
    obtain ⟨source, duration, executes⟩ :=
      exists_outcome_executeNode_of_resolved env w course resolved items
    exact ⟨_, _, executes, n.endedId?_ended .., fun fatal eq code =>
      absurd code (n.code_ne_of_ended eq)⟩

/-! ### Traced visits -/

/-- Visits a node, and notes what it received and what became of it. -/
def traceNode (course : Course) (p : Progress) (n : FlowNode) :
    Exec (Visit × Except FatalError Progress) := do
  let before ← get
  match p.inbox.itemsOf n.id with
  | [] =>
    let next ← dropStranded course (← skipNode course p n)
    return (⟨n, [], .skipped, before, before⟩, .ok next)
  | items =>
    let result ← executeNode course n items
    let visit : Visit := ⟨n, items, .executed result, before, ← get⟩
    match result with
    | .error fatal => return (visit, .error fatal)
    | .ok r => return (visit, .ok (← dropStranded course (← acceptRun course p r)))

theorem get_bind {α : Type} (next : World → Exec α) (body : Exec α) (same : ∀ w, next w = body) :
    (get >>= next) = body := by
  rw [funext same]
  rfl

theorem snd_traceNode (p : Progress) (n : FlowNode) :
    Prod.snd <$> traceNode course p n = visitNode course p n := by
  unfold traceNode visitNode
  rw [map_bind]
  refine get_bind _ _ fun before => ?_
  cases p.inbox.itemsOf n.id with
  | nil => simp only [map_bind, map_pure]
  | cons item items =>
    simp only [map_bind]
    refine bind_congr fun result => get_bind _ _ fun after => ?_
    cases result with
    | error fatal => simp only [map_pure]
    | ok r => simp only [map_bind, map_pure]

/-- A visit ends the run with an error of the executed node, or it adds to the progress, and then
the texts are dropped that no node can send any more. -/
theorem exists_outcome_traceNode (p : Progress) (n : FlowNode) :
    ∃ visit result w', outcome (traceNode course p n) env w = (.ok (visit, result), w') ∧
      visit.node = n ∧ visit.input = p.inbox.itemsOf n.id ∧ visit.before = w ∧
      visit.Faithful course env ∧
      match result with
      | .error fatal => visit.fate = .executed (.error fatal) ∧ w' = visit.after
      | .ok p' => Advances course visit p p' ∧ Clears course visit p p' w'.handoff := by
  unfold traceNode
  rw [outcome_bind_ok outcome_get]
  cases waiting : p.inbox.itemsOf n.id with
  | nil =>
    dsimp only
    obtain ⟨records, skips⟩ := exists_outcome_skipNode env w course p n
    rw [outcome_bind_ok skips]
    obtain ⟨records, drops⟩ := exists_outcome_dropStranded env { w with records } course _
    rw [outcome_bind_ok drops]
    refine ⟨_, _, _, rfl, rfl, rfl, rfl, ⟨fun _ => rfl, fun _ => rfl, fun some => absurd rfl some⟩,
      ⟨rfl, (List.append_nil _).symm, rfl, rfl⟩, rfl, rfl, rfl⟩
  | cons item items =>
    dsimp only
    obtain ⟨result, v, executes, about, -⟩ := exists_outcome_executeNode env w course n
      (item :: items)
    rw [outcome_bind_ok executes, outcome_bind_ok outcome_get]
    have received : ∀ {proof : Prop}, item :: items = [] → proof := nofun
    cases result with
    | error fatal =>
      refine ⟨_, _, _, rfl, rfl, rfl, rfl, ⟨received, received, ?_⟩, rfl, rfl⟩
      exact fun _ => ⟨_, rfl, executes⟩
    | ok r =>
      dsimp only
      obtain ⟨records, accepts⟩ := exists_outcome_acceptRun env v course p r
      have names : r.nodeId = n.id := Option.some.inj about
      rw [names] at accepts
      rw [outcome_bind_ok accepts]
      obtain ⟨records, drops⟩ := exists_outcome_dropStranded env { v with records } course _
      rw [outcome_bind_ok drops]
      refine ⟨_, _, _, rfl, rfl, rfl, rfl, ⟨received, received, fun _ => ⟨_, rfl, executes⟩⟩, ?_⟩
      exact ⟨⟨rfl, rfl, (List.append_nil _).symm, rfl⟩, rfl, List.append_assoc .., rfl⟩

end Exec

namespace Visit

variable {env : Env} {course : Course} {v : Visit} {ended : Except FatalError NodeRun}

theorem Faithful.same_of_skipped (faithful : v.Faithful course env) (skipped : v.fate = .skipped) :
    v.after = v.before := by
  refine faithful.idle ?_
  by_contra received
  obtain ⟨ended, executed, -⟩ := faithful.executes received
  cases skipped.symm.trans executed

theorem Faithful.ended_cases (faithful : v.Faithful course env) (fate : v.fate = .executed ended) :
    (course.dispatch.find? v.node.subType = none ∧ ended = .error (.unresolved v.node) ∧
      v.after = v.before) ∨
    ∃ e source duration, course.dispatch.resolve? v.node.subType = some e ∧
      ended = v.node.ended source duration (Exec.outcome (e.execute (.obj v.node.config) v.input)
        env (course.entered v.node v.before)).1 ∧
      v.after = (Exec.outcome (e.execute (.obj v.node.config) v.input)
        env (course.entered v.node v.before)).2.left := by
  have received : v.input ≠ [] := fun none => by simp [faithful.skips none] at fate
  obtain ⟨ended', same, executes⟩ := faithful.executes received
  obtain rfl : ended = ended' := Fate.executed.inj (fate.symm.trans same)
  cases found : course.dispatch.resolve? v.node.subType with
  | none =>
    have unresolved := Dispatch.resolve?_eq_none_iff.mp found
    have ends := Exec.outcome_executeNode_of_unresolved env v.before course unresolved v.input
    obtain ⟨rfl, after⟩ := by simpa [executes] using ends
    exact .inl ⟨unresolved, rfl, after⟩
  | some e =>
    obtain ⟨source, duration, ends⟩ := Exec.exists_outcome_executeNode_of_resolved env v.before
      course found v.input
    obtain ⟨rfl, after⟩ := by simpa [executes] using ends
    exact .inr ⟨e, source, duration, rfl, rfl, after⟩

theorem Faithful.executed (faithful : v.Faithful course env) (fate : v.fate = .executed ended) :
    endedId? ended = some v.node.id ∧
      ∀ fatal, ended = .error fatal → fatal.code = .unresolvedSubType →
        course.dispatch.find? v.node.subType = none := by
  rcases faithful.ended_cases fate with ⟨unresolved, rfl, -⟩ | ⟨e, source, duration, -, rfl, -⟩
  · exact ⟨rfl, fun _ _ _ => unresolved⟩
  · exact ⟨v.node.endedId?_ended .., fun fatal eq code => absurd code (v.node.code_ne_of_ended eq)⟩

end Visit

end Chatflow
