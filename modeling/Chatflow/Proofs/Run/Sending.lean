import Chatflow.Proofs.Node.Calls
import Chatflow.Proofs.Run.Locality

/-!
# What a run sends

Between the visits of a run nothing is sent, so the calls that arrive in a run are those that arrive
in its visits, one visit after the other (`Linked.messages_eq`). A visit through the built-in
executors makes at most one call besides sender actions, again only as long as it is lost
(`Visit.SendsOnce`).
-/

namespace Chatflow

open Service

/-- The messages that have arrived: the calls that are not sender actions, oldest first. -/
def Service.Bundle.messages (b : Bundle) : List OutboundCall :=
  (callsOf b.messaging).filter OutboundCall.isVisible

def Visit.messages (v : Visit) : List OutboundCall :=
  v.after.services.messages.drop v.before.services.messages.length

inductive Linked : Bundle → List Visit → Bundle → Prop
  | done (b : Bundle) : Linked b [] b
  | next {v : Visit} {visits : List Visit} {b : Bundle} (later : Linked v.after.services visits b) :
      Linked v.before.services (v :: visits) b

namespace Exec

variable {course : Course} {env : Env} {w w' : World}

/-- A traced visit begins where it begins, and what the run does after it touches no
collaborator. -/
theorem services_traceNode {p : Progress} {n : FlowNode} {v : Visit}
    {result : Except FatalError Progress}
    (traces : outcome (traceNode course p n) env w = (.ok (v, result), w')) :
    v.before = w ∧ w'.services = v.after.services := by
  unfold traceNode at traces
  rw [outcome_bind_ok outcome_get] at traces
  cases waiting : p.inbox.itemsOf n.id with
  | nil =>
    rw [waiting] at traces
    dsimp only at traces
    obtain ⟨records, skips⟩ := exists_outcome_skipNode env w course p n
    rw [outcome_bind_ok skips] at traces
    obtain ⟨records, drops⟩ := exists_outcome_dropStranded env { w with records } course _
    rw [outcome_bind_ok drops] at traces
    cases traces
    exact ⟨rfl, rfl⟩
  | cons item items =>
    rw [waiting] at traces
    dsimp only at traces
    obtain ⟨ended, u, executes, -⟩ := exists_outcome_executeNode env w course n (item :: items)
    rw [outcome_bind_ok executes, outcome_bind_ok outcome_get] at traces
    cases ended with
    | error fatal =>
      cases traces
      exact ⟨rfl, rfl⟩
    | ok r =>
      dsimp only at traces
      obtain ⟨records, accepts⟩ := exists_outcome_acceptRun env u course p r
      rw [outcome_bind_ok accepts] at traces
      obtain ⟨records, drops⟩ := exists_outcome_dropStranded env { u with records } course _
      rw [outcome_bind_ok drops] at traces
      cases traces
      exact ⟨rfl, rfl⟩

theorem linked_traceNodes {p : Progress} {nodes : List FlowNode} {visits : List Visit}
    {ended : Progress × Option FatalError}
    (traces : outcome (traceNodes course p nodes) env w = (.ok (visits, ended), w')) :
    Linked w.services visits w'.services := by
  induction nodes generalizing p w visits ended with
  | nil =>
    cases traces
    exact .done _
  | cons n rest ih =>
    obtain ⟨v, result, u, visit, -⟩ := exists_outcome_traceNode env w course p n
    obtain ⟨rfl, same⟩ := services_traceNode visit
    rw [traceNodes, outcome_bind_ok visit] at traces
    cases result with
    | error fatal =>
      cases traces
      exact same ▸ .next (.done _)
    | ok p' =>
      dsimp only at traces
      obtain ⟨⟨more, ended'⟩, u', later, ends⟩ := exists_outcomes_of_bind traces
      cases ends
      exact .next (same ▸ ih later)

theorem linked_traceRunFrom {d : Dispatch} {g : Graph} {kind : String} {started : Float}
    {trigger : FlowNode} {items : List Item} {visits : List Visit} {result : RunResult}
    (traces : outcome (traceRunFrom d g kind started trigger items) env w =
      (.ok (visits, result), w')) : Linked w.services visits w'.services := by
  unfold traceRunFrom at traces
  obtain ⟨records, opens⟩ := exists_outcome_openRun env w ⟨d, g, trigger.id⟩ kind items
  dsimp only at traces
  rw [outcome_bind_ok opens] at traces
  obtain ⟨⟨visits', p, fatal⟩, u, visited, ends⟩ := exists_outcomes_of_bind traces
  obtain ⟨result', records, closes, -⟩ := exists_outcome_closeRun env u kind started trigger.id p
    fatal
  dsimp only at ends
  rw [outcome_bind_ok closes] at ends
  cases ends
  have linked := linked_traceNodes visited
  exact linked

/-- A run does nothing to the collaborators but what its visits do. -/
theorem linked_traceRun {d : Dispatch} {f : Flow} {kind : String} {items : Option (List Item)}
    {visits : List Visit} {result : RunResult}
    (traces : outcome (traceRun d f kind items) env w = (.ok (visits, result), w')) :
    Linked w.services visits w'.services := by
  cases found : (Graph.ofFlow f).trigger? (Text.upper kind) with
  | some trigger =>
    rw [outcome_traceRun env w d found] at traces
    exact linked_traceRunFrom traces
  | none =>
    obtain ⟨result', records, ends, -⟩ := exists_records_run_of_none env w d found items
    cases (outcome_traceRun_of_none found ends).symm.trans traces
    exact .done _

end Exec

/-! ### Visits -/

/-- What a visited node attempts: besides sender actions one call, which was accepted if a node that
sends something had success. A text is the one that was taken, or the node's own. -/
structure Visit.Sends (course : Course) (v : Visit) (attempts : List Attempt) : Prop where
  made : Attempts v.before.services.messaging attempts v.after.services.messaging
  idle : v.fate = .skipped → attempts = []
  once : ∃ call, Tries call (visibleOnes attempts)
  accepted : ∀ r, v.run? = some r → r.success = true → v.node.subType ∈ messagingSubTypes →
    ∃ a ∈ visibleOnes attempts, a.isAccepted = true
  texts : v.node.subType ∈ textSubTypes → ∀ a ∈ visibleOnes attempts, ∃ text,
    a.call.text = some text ∧
    sentText? v.node.subType (.obj v.node.config) (v.entry course).take.1 v.input = some text ∧
    v.after.handoff.pending = (v.entry course).take.2.pending

namespace Visit

variable {course : Course} {env : Env} {v : Visit} {attempts : List Attempt}

theorem sends_nothing (same : v.after = v.before) (silent : v.run? = none) :
    v.Sends course [] where
  made := same ▸ .done _
  idle := fun _ => rfl
  once := ⟨.senderAction "" "" "", .none⟩
  accepted := fun r ran => by cases silent.symm.trans ran
  texts := fun _ => List.forall_mem_nil _

theorem Faithful.exists_sends (faithful : v.Faithful course env) {bridge : Option Bridge}
    (builtin : course.dispatch = ⟨.builtin, bridge⟩) : ∃ attempts, v.Sends course attempts := by
  cases fate : v.fate with
  | skipped =>
    exact ⟨[], sends_nothing (faithful.same_of_skipped fate) (by simp [run?, fate])⟩
  | executed ended =>
    rcases faithful.ended_cases fate with ⟨-, rfl, same⟩ | ⟨e, source, duration, found, ends, after⟩
    · exact ⟨[], sends_nothing same (by simp [run?, fate])⟩
    · rw [builtin] at found
      obtain ⟨own, known⟩ := Dispatch.resolves_builtin found
      obtain ⟨attempts, makes⟩ := Executor.exists_makes known (.obj v.node.config) v.input env
        (course.entered v.node v.before)
      refine ⟨attempts, ?_, by simp [fate], makes.once, ?_, ?_⟩
      · rw [after]
        exact makes.made
      · intro r ran success sends
        refine makes.accepted (own ▸ sends) ?_
        have ran : ended = .ok r := Fate.executed.inj (fate.symm.trans (run?_eq_some_iff.mp ran))
        obtain ⟨result, answers, rfl⟩ := v.node.ended_eq_ok_iff.mp (ends.symm.trans ran)
        rw [answers]
        exact success
      · intro sends a mem
        obtain ⟨text, holds, taken, left⟩ := makes.texts (own ▸ sends) a mem
        refine ⟨text, holds, own ▸ taken, ?_⟩
        have pending := congrArg Handoff.pending left
        rw [after]
        exact pending

theorem Sends.messages_after (sends : v.Sends course attempts) :
    v.after.services.messages = v.before.services.messages ++ arrivals (visibleOnes attempts) := by
  rw [Bundle.messages, sends.made.callsOf_eq, List.filter_append, filter_arrivals]
  rfl

theorem Sends.messages_eq (sends : v.Sends course attempts) :
    v.messages = arrivals (visibleOnes attempts) := by
  rw [messages, sends.messages_after, List.drop_left]

end Visit

/-- The messages that arrive in a run are those that arrive in its visits, in their order. -/
theorem Linked.messages_eq {course : Course} {b b' : Bundle} {visits : List Visit}
    (linked : Linked b visits b') (sends : ∀ v ∈ visits, ∃ attempts, v.Sends course attempts) :
    b'.messages = b.messages ++ visits.flatMap Visit.messages := by
  induction linked with
  | done => simp
  | @next v visits b _ ih =>
    obtain ⟨attempts, own⟩ := sends v List.mem_cons_self
    rw [ih fun u mem => sends u (List.mem_cons_of_mem v mem), List.flatMap_cons, own.messages_eq,
      own.messages_after, List.append_assoc]

/-! ### Texts -/

namespace Visit

variable {course : Course} {env : Env} {v : Visit}

/-- A node of a built-in kind puts no blank text. -/
theorem Faithful.exists_present_uses (faithful : v.Faithful course env) {bridge : Option Bridge}
    (builtin : course.dispatch = ⟨.builtin, bridge⟩) : ∃ uses, v.Uses .none course uses ∧
      ∀ producer text, .put producer text ∈ uses → Text.allBlank text = false := by
  rcases faithful.handoff_cases with ⟨same, -⟩ | ⟨e, found, executed, after⟩
  · exact ⟨[], uses_nothing same, nofun⟩
  · rw [builtin] at found
    obtain ⟨uses, moves, few, present⟩ :=
      Dispatch.builtin_moves found .none (.obj v.node.config) v.input
      env (course.entered v.node v.before) rfl
    exact ⟨uses, ⟨⟨_, moves, after⟩, few, fun skipped => absurd skipped executed⟩, present⟩

end Visit

/-- Where no blank text is put, none is taken. -/
theorem Told.present_of_take {l : Handoff.Liberty} {course : Course} {settled : List String}
    {h h' : Handoff} {before after : List Chapter} {c : Chapter} {text : String}
    (story : Told l course settled h (before ++ c :: after) h') (empty : h.pending = [])
    (present : ∀ b ∈ before, ∀ producer text, .put producer text ∈ b.uses →
      Text.allBlank text = false)
    (took : (c.visit.entry course).take.1 = some text) : Text.allBlank text = false := by
  unfold Handoff.take at took
  split at took
  · rename_i producer _
    have pending : (producer, text) ∈ c.visit.before.handoff.pending :=
      Table.mem_of_get? took
    rw [story.pending_before empty] at pending
    obtain ⟨_, first, -⟩ := story.split
    obtain ⟨b, mem, -, put⟩ := first.exists_put (put_mem_of_mem_pendingAfter pending)
    exact present b mem producer text put
  · cases took

/-! ### Runs -/

/-- What a visited node sends. Of its attempts at most one arrived, and none follows it; a node that
sends something and had success made one that was accepted. A text that arrived is the one that the
node took from the hand-off or, if there was none, its own. -/
structure Visit.SendsOnce (course : Course) (v : Visit) (attempts : List Attempt) : Prop where
  made : Attempts v.before.services.messaging attempts v.after.services.messaging
  arrived : v.messages = arrivals (visibleOnes attempts)
  few : v.messages.length ≤ 1
  idle : v.fate = .skipped → attempts = []
  last : ∀ earlier a later, visibleOnes attempts = earlier ++ a :: later → a.arrival? ≠ none →
    later = []
  success : ∀ r, v.run? = some r → r.success = true → v.node.subType ∈ messagingSubTypes →
    ∃ a ∈ visibleOnes attempts, a.isAccepted = true ∧ v.messages = [a.call]
  texts : v.node.subType ∈ textSubTypes → ∀ call ∈ v.messages, call.text ≠ none ∧
    call.text = ((v.entry course).take.1 <|>
      ownText? v.node.subType v.node.config v.input) ∧
    v.after.handoff.pending = (v.entry course).take.2.pending

theorem Visit.Sends.once_of_present {course : Course} {v : Visit} {attempts : List Attempt}
    (sends : v.Sends course attempts)
    (present : ∀ text, (v.entry course).take.1 = some text → Text.allBlank text = false) :
    v.SendsOnce course attempts := by
  obtain ⟨call, tries⟩ := sends.once
  refine ⟨sends.made, sends.messages_eq, ?_, sends.idle,
    fun earlier a later => tries.last_of_arrived, ?_, ?_⟩
  · rw [sends.messages_eq]
    exact tries.length_arrivals_le
  · intro r ran success listed
    obtain ⟨a, mem, accepted⟩ := sends.accepted r ran success listed
    refine ⟨a, mem, accepted, ?_⟩
    rw [sends.messages_eq, tries.call_eq mem]
    exact tries.arrivals_of_accepted mem accepted
  · intro listed call arrived
    rw [sends.messages_eq] at arrived
    obtain ⟨a, mem, own⟩ := List.mem_filterMap.mp arrived
    have same : call = a.call := (tries.eq_of_mem_arrivals arrived).trans (tries.call_eq mem).symm
    obtain ⟨text, holds, found, left⟩ := sends.texts listed a mem
    rw [same, holds]
    exact ⟨by simp, sentText?_eq listed present found, left⟩

/-- In a run of the built-in executors that begins without generated texts no message is sent twice.
The messages of the run are those of its visits, of different nodes, one after the other. -/
theorem run_sends_once (bridge : Option Bridge) (f : Flow) (kind : String)
    (items : Option (List Item)) (env : Env) {w : World} (empty : w.handoff.pending = []) :
    Prod.snd <$> Exec.traceRun ⟨.builtin, bridge⟩ f kind items =
      Exec.run ⟨.builtin, bridge⟩ f kind items ∧
    ∃ visits result w',
      Exec.outcome (Exec.traceRun ⟨.builtin, bridge⟩ f kind items) env w =
        (.ok (visits, result), w') ∧
      result.nodes = visits.filterMap Visit.run? ∧
      result.skipped = visits.filterMap Visit.skippedId? ∧
      (result.triggerNodeId.toList ++ visits.map (·.node.id)).Nodup ∧
      w'.services.messages = w.services.messages ++ visits.flatMap Visit.messages ∧
      match (Graph.ofFlow f).trigger? (Text.upper kind) with
      | none => visits = []
      | some trigger => ∀ v ∈ visits, ∃ attempts,
          v.SendsOnce ⟨⟨.builtin, bridge⟩, Graph.ofFlow f, trigger.id⟩ attempts := by
  refine ⟨Exec.snd_traceRun ⟨.builtin, bridge⟩ f kind items, ?_⟩
  cases found : (Graph.ofFlow f).trigger? (Text.upper kind) with
  | none =>
    obtain ⟨result, records, ends, -, nodes, skipped, trigger, -, -⟩ :=
      Exec.exists_records_run_of_none env w ⟨.builtin, bridge⟩ found items
    refine ⟨[], result, { w with records }, Exec.outcome_traceRun_of_none found ends, nodes,
      skipped, ?_, ?_, rfl⟩
    · rw [trigger]
      exact List.nodup_nil
    · exact (List.append_nil _).symm
  | some trigger =>
    obtain ⟨chapters, result, w', traces, chronicle, present⟩ :=
      Exec.exists_chronicle_traceRun env w
      (P := fun _ uses => ∀ producer text, .put producer text ∈ uses → Text.allBlank text = false)
      found items fun v _ faithful => faithful.exists_present_uses rfl
    have trace := chronicle.trace
    have sends : ∀ v ∈ chapters.map Chapter.visit, ∃ attempts, v.Sends _ attempts :=
      fun v mem => (trace.faithful mem).exists_sends rfl
    refine ⟨chapters.map Chapter.visit, result, w', traces, trace.nodes, trace.skipped, ?_,
      (Exec.linked_traceRun traces).messages_eq sends, fun v mem => ?_⟩
    · rw [trace.trigger, List.map_map]
      exact chronicle.nodup_ids
    · obtain ⟨attempts, own⟩ := sends v mem
      refine ⟨attempts, own.once_of_present ?_⟩
      obtain ⟨c, chapter, rfl⟩ := List.mem_map.mp mem
      obtain ⟨before, after, rfl⟩ := List.append_of_mem chapter
      exact fun text => chronicle.story.present_of_take empty
        fun b earlier => present b (List.mem_append_left _ earlier)

def World.losing (text : String) : World :=
  { World.generating text with
    services := { (World.generating text).services with
      messaging := some ⟨[], [], .ofList [some (.lost (.outage .connection "reset")), none,
        some (.rejected none)]⟩ } }

theorem answering_sends_once :
    (World.losing "Hello").handoff.pending = [] ∧
    ∃ visits result w',
      Exec.outcome (Exec.traceRun ⟨.builtin, none⟩ answering "DM" none) (.standard "run")
        (.losing "Hello") = (.ok (visits, result), w') ∧
      result.executed = ["generate", "send"] ∧
      (visits.flatMap Visit.messages).map (·.text) = [some "Hello"] ∧
      w'.services.messages = (World.losing "Hello").services.messages ++
        visits.flatMap Visit.messages ∧
      ∀ v ∈ visits, ∃ attempts,
        v.SendsOnce ⟨⟨.builtin, none⟩, Graph.ofFlow answering, "start"⟩ attempts := by
  have ended : (Exec.outcome (Exec.traceRun ⟨.builtin, none⟩ answering "DM" none)
      (.standard "run") (.losing "Hello")).1.toOption.any (fun r =>
        r.2.executed == ["generate", "send"] &&
          (r.1.flatMap Visit.messages).map (·.text) == [some "Hello"]) = true := by
    rw [Exec.traceRun, trigger_answering]
    decide +kernel
  obtain ⟨⟨visits, result⟩, w', traces, all⟩ := Exec.exists_outcome_of_any ended
  simp only [Bool.and_eq_true, beq_iff_eq] at all
  have runs := run_sends_once none answering "DM" none (.standard "run")
    (rfl : (World.losing "Hello").handoff.pending = [])
  rw [trigger_answering] at runs
  obtain ⟨-, visits', result', w'', traces', -, -, -, messages, sends⟩ := runs
  cases traces.symm.trans traces'
  exact ⟨rfl, visits, result, w', traces, all.1, all.2, messages, sends⟩

end Chatflow
