import Chatflow.Proofs.Node.Payloads
import Chatflow.Proofs.Run.Conservation

/-!
# The event in a run

A run that starts with its event never loses the event. The nodes write fields of their own into
what they receive, and on the way from node to node nothing happens to a payload, so that whatever
reaches a node has the data of the event (`run_carries_event`). What an earlier node wrote may get
lost (`second_message_replaces`).
-/

namespace Chatflow

theorem Context.carries_initialItems (c : Context) (now : Int) :
    ∀ item ∈ c.initialItems now, item.Carries c.eventData := by
  intro item mem
  obtain rfl := List.mem_singleton.mp mem
  simp [Item.Carries, Item.get?, Context.eventData]

namespace Graph

variable {g : Graph} {data : Entries Value} {parcels : List Parcel}

/-- A payload stays as it is when an item is delivered. -/
theorem carries_arriving (carry : ∀ p ∈ parcels, ∀ item ∈ p.items, item.Carries data)
    (id : String) :
    ∀ item ∈ g.arriving parcels id, item.Carries data := by
  intro arrived mem
  obtain ⟨p, sent, passed⟩ := List.mem_flatMap.mp mem
  obtain ⟨_, -, copy⟩ := List.mem_flatMap.mp passed
  obtain ⟨item, handed, rfl⟩ := List.mem_map.mp copy
  exact carry p sent item handed

end Graph

namespace Visit

variable {bridge : Option Bridge} {g : Graph} {start : String} {env : Env} {v : Visit} {r : NodeRun}

/-- A successful node has amended what it received, unless it is a keyword filter that passes
nothing on. -/
theorem Faithful.amends (faithful : v.Faithful ⟨⟨.builtin, bridge⟩, g, start⟩ env)
    (ran : v.run? = some r) (succeeds : r.success = true) :
    v.node.subType = "KEYWORDS" ∧ r.items = [] ∨
      Amends (resultFields v.node.subType) v.input r.items := by
  have fate := run?_eq_some_iff.mp ran
  have received : v.input ≠ [] := fun none => by simp [faithful.skips none] at fate
  rcases faithful.ended_cases fate with ⟨-, none, -⟩ | ⟨e, source, duration, found, ends, -⟩
  · cases none
  · obtain ⟨result, answers, rfl⟩ := v.node.ended_eq_ok_iff.mp ends.symm
    have named : e.subType = v.node.subType := (Dispatch.resolves_builtin found).1
    have hands := Dispatch.amending_builtin found (.obj v.node.config) v.input received
    rw [named] at hands
    have success : result.success = true := succeeds
    have items : (NodeRun.ofResult v.node source result duration).items = result.items :=
      if_pos success
    rw [items]
    exact hands.holds _ _ _ _ (Prod.ext answers rfl) success

theorem Faithful.carries_output (faithful : v.Faithful ⟨⟨.builtin, bridge⟩, g, start⟩ env)
    {c : Context} (carry : ∀ item ∈ v.input, item.Carries c.eventData) :
    ∀ item ∈ v.output, item.Carries c.eventData := by
  intro item mem
  unfold output at mem
  split at mem
  · rename_i r fate
    split at mem
    · rename_i succeeds
      rcases faithful.amends (run?_eq_some_iff.mpr fate) succeeds with ⟨-, none⟩ | grows
      · rw [none] at mem
        cases mem
      · exact grows.carries (not_mem_resultFields c _) carry item mem
    · cases mem
  · cases mem

end Visit

/-- What is handed on before a visit has the data of the event. -/
theorem Trace.carries_settled {bridge : Option Bridge} {g : Graph} {start : String} {env : Env}
    {opening : Parcel} {visits : List Visit} {result : RunResult}
    (trace : Trace ⟨⟨.builtin, bridge⟩, g, start⟩ env opening visits result) {c : Context}
    (opens : ∀ item ∈ opening.items, item.Carries c.eventData) {before after : List Visit}
    (split : visits = before ++ after) :
    ∀ p ∈ opening :: before.map Visit.parcel, ∀ item ∈ p.items, item.Carries c.eventData := by
  -- What a node receives was handed on before it, so that the last visit follows from the earlier
  -- ones.
  induction before using List.reverseRecOn generalizing after with
  | nil => simpa using opens
  | append_singleton before v ih =>
    rw [List.append_assoc, List.singleton_append] at split
    have earlier := ih split
    have explained := trace.explained before v after split
    have input : ∀ item ∈ v.input, item.Carries c.eventData := by
      rw [explained.input]
      exact Graph.carries_arriving earlier _
    intro p mem
    rw [List.map_append, ← List.cons_append, List.mem_append] at mem
    rcases mem with old | new
    · exact earlier p old
    · obtain rfl : p = v.parcel := by simpa using new
      exact explained.faithful.carries_output input

/-- In every run of built-in and legacy nodes that starts with the item of its event, all items that
a node receives have the fields of the event, with their values. A node that succeeds hands on one
item for each that it received, in the same order, into whose payloads it has written fields that
belong to its subtype. Only a keyword filter may instead hand on nothing. -/
theorem run_carries_event (bridge : Option Bridge) (f : Flow) (kind : String) (moment : Option Int)
    (env : Env) (w : World) :
    let run := Exec.run ⟨.builtin, bridge⟩ f kind (moment.map env.context.initialItems)
    let traced := Exec.traceRun ⟨.builtin, bridge⟩ f kind (moment.map env.context.initialItems)
    Prod.snd <$> traced = run ∧
    ∃ visits result w', Exec.outcome traced env w = (.ok (visits, result), w') ∧
      result.nodes = visits.filterMap Visit.run? ∧
      ∀ v ∈ visits,
        (∀ item ∈ v.input, item.Carries env.context.eventData) ∧
        ∀ r, v.run? = some r → r.success = true →
          v.node.subType = "KEYWORDS" ∧ r.items = [] ∨
            Amends (resultFields v.node.subType) v.input r.items := by
  let d : Dispatch := ⟨.builtin, bridge⟩
  let items := moment.map env.context.initialItems
  refine ⟨Exec.snd_traceRun d f kind items, ?_⟩
  cases found : (Graph.ofFlow f).trigger? (Text.upper kind) with
  | none =>
    obtain ⟨result, w', ends, nodes, -⟩ := Exec.exists_outcome_run_of_none env w d found items
    exact ⟨[], result, w', Exec.outcome_traceRun_of_none found ends, nodes, by simp⟩
  | some trigger =>
    obtain ⟨visits, result, w', traces, trace⟩ := Exec.exists_outcome_traceRun env w d found items
    refine ⟨visits, result, w', traces, trace.nodes, fun v mem => ?_⟩
    obtain ⟨before, after, split⟩ := List.append_of_mem mem
    have explained := trace.explained before v after split
    have opens : ∀ item ∈ startItems env w items, item.Carries env.context.eventData := by
      cases moment with
      | none => exact env.context.carries_initialItems _
      | some moment => exact env.context.carries_initialItems _
    refine ⟨?_, fun r ran succeeds => explained.faithful.amends ran succeeds⟩
    rw [explained.input]
    exact Graph.carries_arriving (trace.carries_settled opens split) _

def insisting : Flow where
  nodes :=
    [⟨"start", .trigger, "DM", "", []⟩,
      ⟨"first", .action, "MESSAGE", "", [("message", .str "One")]⟩,
      ⟨"second", .action, "MESSAGE", "", [("message", .str "Two")]⟩]
  edges := [⟨none, "start", "first", none⟩, ⟨none, "first", "second", none⟩]

theorem trigger_insisting : (Graph.ofFlow insisting).trigger? (Text.upper "DM") =
    some ⟨"start", .trigger, "DM", "", []⟩ := by
  simp [Text.upper_dm, Graph.trigger?, Graph.triggers, Graph.ofFlow, Graph.firstDeclared, insisting,
    FlowNode.isTrigger]

/-- What the first node has noted about its message is gone after the second one. -/
theorem second_message_replaces :
    ∃ (visits : List Visit) (result : RunResult) (w' : World),
      Exec.outcome (Exec.traceRun ⟨.builtin, none⟩ insisting "DM" none) (.standard "run")
        (.generating "Hello") = (.ok (visits, result), w') ∧
      ∃ v ∈ visits, ∃ r, v.run? = some r ∧ r.success = true ∧
        ¬ List.Forall₂ (fun received handed => handed.Carries received.data) v.input r.items := by
  let sent (item : Item) : Option String := (item.get? "messageSent").bind Value.text?
  have passes : (Exec.outcome (Exec.traceRun ⟨.builtin, none⟩ insisting "DM" none)
      (.standard "run") (.generating "Hello")).1.toOption.any (fun r => r.1.any fun v =>
        v.input.map sent == [some "One"] &&
          v.run?.any fun r => r.success && r.items.map sent == [some "Two"]) = true := by
    rw [Exec.traceRun, trigger_insisting]
    decide +kernel
  obtain ⟨⟨visits, result⟩, w', traces, passes⟩ := Exec.exists_outcome_of_any passes
  simp only [List.any_eq_true, Option.any_eq_true, Bool.and_eq_true, beq_iff_eq] at passes
  obtain ⟨v, mem, received, r, ran, succeeds, handed⟩ := passes
  refine ⟨visits, result, w', traces, v, mem, r, ran, succeeds, fun pairs => ?_⟩
  -- Both have one item, and the one that was handed on would still name the first message.
  obtain ⟨item, input, one⟩ := List.map_eq_singleton_iff.mp received
  obtain ⟨last, output, two⟩ := List.map_eq_singleton_iff.mp handed
  rw [input, output] at pairs
  obtain ⟨kept, -⟩ := List.forall₂_cons.mp pairs
  obtain ⟨x, found, named⟩ := Option.bind_eq_some_iff.mp one
  have still : last.get? "messageSent" = some x := kept ("messageSent", x) (Table.mem_of_get? found)
  have same : sent last = some "One" := by simp [sent, still, named]
  simp [same] at two

end Chatflow
