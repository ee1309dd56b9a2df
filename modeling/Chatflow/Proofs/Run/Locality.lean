import Chatflow.Proofs.Flow.Agreement
import Chatflow.Proofs.Handoff.Unaware
import Chatflow.Proofs.Run.Conservation

/-!
# What a run does not see

A run depends on nothing but the part of the flow that can be reached from its trigger. Of two flows
that have this part in common the runs are the same to the last detail, as long as the executors
notice none of the other nodes: neither those nodes matter nor the edges that leave them, nor edges
to nowhere, nor how the nodes and the edges of different nodes are ordered. An executor that puts a
text under the id of another node or that looks at its scope can tell them apart
(`strangers_noticed`).
-/

namespace Chatflow

open Chatflow.Graph (AgreeFrom Stranger)

def Handoff.Familiar (h : Handoff) (g g' : Graph) (start : String) : Prop :=
  ∀ p ∈ h.producers, ¬Stranger g g' start p

namespace Exec

variable {d : Dispatch} {g g' : Graph} {start : String} {n : FlowNode} (env : Env) {w : World}

theorem settle_congr (agree : AgreeFrom g g' start) {id : String} (reach : g.Reaches start id)
    (p : Progress) (items : List Item) :
    settle ⟨d, g, start⟩ p id items = settle ⟨d, g', start⟩ p id items := by
  simp only [settle, agree.deliver_eq reach]

theorem skipNode_congr (agree : AgreeFrom g g' start) (reach : g.Reaches start n.id)
    (p : Progress) : skipNode ⟨d, g, start⟩ p n = skipNode ⟨d, g', start⟩ p n := by
  simp only [skipNode, settle_congr agree reach]

theorem acceptRun_congr (agree : AgreeFrom g g' start) {r : NodeRun}
    (reach : g.Reaches start r.nodeId) (p : Progress) :
    acceptRun ⟨d, g, start⟩ p r = acceptRun ⟨d, g', start⟩ p r := by
  simp only [acceptRun, settle_congr agree reach]

theorem exists_outcome_dropStranded_both (agree : AgreeFrom g g' start) (has : g.has start = true)
    (p : Progress) (familiar : w.handoff.Familiar g g' start) :
    ∃ p' v, outcome (dropStranded ⟨d, g, start⟩ p) env w = (.ok p', v) ∧
      outcome (dropStranded ⟨d, g', start⟩ p) env w = (.ok p', v) ∧
      v.handoff.Familiar g g' start := by
  have producers : w.handoff.producers.filter (g.isStranded start p.settled) =
      w.handoff.producers.filter (g'.isStranded start p.settled) :=
    List.filter_congr fun producer pending =>
      agree.isStranded_eq has (familiar producer pending) p.settled
  have same : outcome (dropStranded ⟨d, g, start⟩ p) env w =
      outcome (dropStranded ⟨d, g', start⟩ p) env w := by
    unfold dropStranded
    rw [outcome_bind_ok outcome_handoff, outcome_bind_ok outcome_handoff, producers]
  obtain ⟨records, drops⟩ := exists_outcome_dropStranded env w ⟨d, g, start⟩ p
  refine ⟨_, _, drops, same.symm.trans drops, ?_⟩
  intro producer pending
  obtain ⟨text, mem, rfl⟩ := List.mem_map.mp pending
  exact familiar _ (List.mem_map_of_mem (Handoff.mem_pending_discardAll.mp mem).1)

/-- A node behind the start does the same in both flows: its scopes differ in strangers only. -/
theorem exists_outcome_executeNode_both (agree : AgreeFrom g g' start)
    (unaware : d.Unaware (Stranger g g' start)) (reach : g.Reaches start n.id)
    (items : List Item) (familiar : w.handoff.Familiar g g' start) :
    ∃ ended v, outcome (executeNode ⟨d, g, start⟩ n items) env w = (.ok ended, v) ∧
      outcome (executeNode ⟨d, g', start⟩ n items) env w = (.ok ended, v) ∧
      endedId? ended = some n.id ∧ v.handoff.Familiar g g' start := by
  cases found : d.find? n.subType with
  | none =>
    exact ⟨_, w, outcome_executeNode_of_unresolved env w ⟨d, g, start⟩ found items,
      outcome_executeNode_of_unresolved env w ⟨d, g', start⟩ found items, rfl, familiar⟩
  | some served =>
    obtain ⟨e, source⟩ := served
    have resolved : d.resolve? n.subType = some e := by
      rw [Dispatch.resolve?_eq_map_find?, found, Option.map_some]
    let entered : World := Course.entered ⟨d, g, start⟩ n w
    have avoids : entered.handoff.Avoids (Stranger g g' start) :=
      ⟨familiar, n.id, rfl, fun stranger => stranger.2 reach⟩
    have same : entered.handoff.SameView (Stranger g g' start) (some (g'.ancestors n.id)) := by
      intro p known
      refine Bool.eq_iff_iff.mpr ?_
      simp only [Handoff.sees, Handoff.seenIn, entered, Course.entered, Handoff.enter,
        List.contains_iff_mem]
      exact (agree.mem_ancestors_iff known).symm
    obtain ⟨ends, leaves, kept⟩ :=
      unaware n.subType e resolved (.obj n.config) items env entered _ avoids same
    have moved : Course.entered ⟨d, g', start⟩ n w = entered.seenIn (some (g'.ancestors n.id)) :=
      rfl
    have clocks : (outcome (e.execute (.obj n.config) items) env
          (entered.seenIn (some (g'.ancestors n.id)))).2.clock =
        (outcome (e.execute (.obj n.config) items) env entered).2.clock := by
      have same := congrArg World.clock leaves
      exact same
    have second := outcome_executeNode_of_found env w ⟨d, g', start⟩ found items
    rw [moved, ends, leaves, clocks] at second
    exact ⟨_, _, outcome_executeNode_of_found env w ⟨d, g, start⟩ found items, second,
      n.endedId?_ended .., kept⟩

/-- A run comes away from a node behind the start in the same way in both flows. -/
theorem exists_outcome_visitNode_both (agree : AgreeFrom g g' start) (has : g.has start = true)
    (unaware : d.Unaware (Stranger g g' start)) (reach : g.Reaches start n.id) (p : Progress)
    (familiar : w.handoff.Familiar g g' start) :
    ∃ next v, outcome (visitNode ⟨d, g, start⟩ p n) env w = (.ok next, v) ∧
      outcome (visitNode ⟨d, g', start⟩ p n) env w = (.ok next, v) ∧
      v.handoff.Familiar g g' start := by
  unfold visitNode
  cases received : p.inbox.itemsOf n.id with
  | nil =>
    dsimp only
    rw [skipNode_congr agree reach]
    obtain ⟨records, skips⟩ := exists_outcome_skipNode env w ⟨d, g', start⟩ p n
    obtain ⟨q, v, first, second, familiar⟩ :=
      exists_outcome_dropStranded_both (w := { w with records }) env agree has _ familiar
    rw [outcome_bind_ok skips, outcome_bind_ok skips, outcome_bind_ok first, outcome_bind_ok second]
    exact ⟨_, v, rfl, rfl, familiar⟩
  | cons item items =>
    dsimp only
    obtain ⟨ended, v, first, second, about, familiar⟩ :=
      exists_outcome_executeNode_both env agree unaware reach (item :: items) familiar
    rw [outcome_bind_ok first, outcome_bind_ok second]
    cases ended with
    | error fatal => exact ⟨_, v, rfl, rfl, familiar⟩
    | ok r =>
      have named : r.nodeId = n.id := Option.some.inj about
      dsimp only
      rw [acceptRun_congr agree (named ▸ reach)]
      obtain ⟨records, accepts⟩ := exists_outcome_acceptRun env v ⟨d, g', start⟩ p r
      obtain ⟨q, v, first, second, familiar⟩ :=
        exists_outcome_dropStranded_both (w := { v with records }) env agree has _ familiar
      rw [outcome_bind_ok accepts, outcome_bind_ok accepts, outcome_bind_ok first,
        outcome_bind_ok second]
      exact ⟨_, v, rfl, rfl, familiar⟩

theorem exists_outcome_visitNodes_both (agree : AgreeFrom g g' start) (has : g.has start = true)
    (unaware : d.Unaware (Stranger g g' start)) {nodes : List FlowNode}
    (reach : ∀ n ∈ nodes, g.Reaches start n.id) (p : Progress)
    (familiar : w.handoff.Familiar g g' start) :
    ∃ next v, outcome (visitNodes ⟨d, g, start⟩ p nodes) env w = (.ok next, v) ∧
      outcome (visitNodes ⟨d, g', start⟩ p nodes) env w = (.ok next, v) := by
  induction nodes generalizing p w with
  | nil => exact ⟨_, w, rfl, rfl⟩
  | cons n rest ih =>
    obtain ⟨next, v, first, second, familiar⟩ := exists_outcome_visitNode_both env agree has
      unaware (reach n List.mem_cons_self) p familiar
    unfold visitNodes
    rw [outcome_bind_ok first, outcome_bind_ok second]
    cases next with
    | error fatal => exact ⟨_, v, rfl, rfl⟩
    | ok p => exact ih (fun m hm => reach m (List.mem_cons_of_mem n hm)) p familiar

theorem outcome_runFrom_congr {trigger : FlowNode} (agree : AgreeFrom g g' trigger.id)
    (has : g.has trigger.id = true) (unaware : d.Unaware (Stranger g g' trigger.id))
    (empty : w.handoff.pending = []) (kind : String) (started : Float) (items : List Item) :
    outcome (runFrom d g kind started trigger items) env w =
      outcome (runFrom d g' kind started trigger items) env w := by
  have reach : ∀ n ∈ g.runNodes trigger.id, g.Reaches trigger.id n.id := by
    intro n mem
    refine Graph.reaches_of_mem_runOrder has ?_
    rw [← Graph.ids_runNodes has]
    exact List.mem_map_of_mem mem
  unfold runFrom
  dsimp only
  rw [← agree.runNodes_eq has]
  have opens : openRun ⟨d, g, trigger.id⟩ kind items = openRun ⟨d, g', trigger.id⟩ kind items := by
    simp only [openRun, settle_congr agree .refl]
  rw [opens]
  obtain ⟨records, opened⟩ := exists_outcome_openRun env w ⟨d, g', trigger.id⟩ kind items
  rw [outcome_bind_ok opened, outcome_bind_ok opened]
  have familiar : w.handoff.Familiar g g' trigger.id := by
    rw [Handoff.Familiar, Handoff.producers, empty]
    exact List.forall_mem_nil _
  obtain ⟨next, v, first, second⟩ :=
    exists_outcome_visitNodes_both (w := { w with records }) env agree has unaware reach _ familiar
  rw [outcome_bind_ok first, outcome_bind_ok second]

theorem outcome_run_congr {f f' : Flow} {kind : String} {trigger : FlowNode}
    (found : (Graph.ofFlow f).trigger? (Text.upper kind) = some trigger)
    (found' : (Graph.ofFlow f').trigger? (Text.upper kind) = some trigger)
    (agree : AgreeFrom (Graph.ofFlow f) (Graph.ofFlow f') trigger.id)
    (unaware : d.Unaware (Stranger (Graph.ofFlow f) (Graph.ofFlow f') trigger.id))
    (items : Option (List Item)) (empty : w.handoff.pending = []) :
    outcome (run d f kind items) env w = outcome (run d f' kind items) env w := by
  have runs := outcome_runFrom_congr env agree (Graph.has_trigger found) unaware empty
    (Text.upper kind) w.clock.elapsed
  unfold run
  rw [outcome_bind_ok outcome_elapsed, outcome_bind_ok outcome_elapsed]
  dsimp only
  rw [found, found']
  cases items with
  | some items =>
    dsimp only
    rw [pure_bind, pure_bind]
    exact runs items
  | none =>
    dsimp only
    rw [outcome_bind_ok outcome_context, outcome_bind_ok outcome_now, pure_bind,
      outcome_bind_ok outcome_context, outcome_bind_ok outcome_now, pure_bind]
    exact runs _

end Exec

/-- A run depends only on the part of the flow behind its trigger. Another flow that agrees with it
there runs alike, and so does what remains when everything else is left out, for executors that do
not notice the other nodes. -/
theorem run_sees_reachable {d : Dispatch} {f : Flow} {kind : String} {trigger : FlowNode}
    (found : (Graph.ofFlow f).trigger? (Text.upper kind) = some trigger)
    (items : Option (List Item)) (env : Env) {w : World} (empty : w.handoff.pending = []) :
    (∀ f' : Flow, (Graph.ofFlow f').trigger? (Text.upper kind) = some trigger →
      AgreeFrom (Graph.ofFlow f) (Graph.ofFlow f') trigger.id →
      d.Unaware (Stranger (Graph.ofFlow f) (Graph.ofFlow f') trigger.id) →
      Exec.outcome (Exec.run d f kind items) env w =
        Exec.outcome (Exec.run d f' kind items) env w) ∧
    (d.Unaware (Stranger (Graph.ofFlow f) (Graph.ofFlow (f.part trigger.id)) trigger.id) →
      Exec.outcome (Exec.run d f kind items) env w =
        Exec.outcome (Exec.run d (f.part trigger.id) kind items) env w) := by
  constructor
  · intro f' found' agree unaware
    exact Exec.outcome_run_congr env found found' agree unaware items empty
  · intro unaware
    have agree := Graph.agreeFrom_part (Graph.has_trigger found)
    exact Exec.outcome_run_congr env found (Graph.trigger?_part found) agree unaware items empty

def cluttered : Flow where
  nodes :=
    [⟨"orphan", .action, "SMARTAI", "", [("message", .str "Never asked")]⟩,
      ⟨"send", .action, "MESSAGE", "", []⟩, ⟨"start", .trigger, "DM", "", []⟩,
      ⟨"generate", .action, "SMARTAI", "", [("message", .str "Answer politely")]⟩]
  edges :=
    [⟨none, "orphan", "send", none⟩, ⟨none, "generate", "send", none⟩,
      ⟨none, "send", "nowhere", none⟩, ⟨none, "start", "generate", none⟩]

theorem trigger_cluttered : (Graph.ofFlow cluttered).trigger? (Text.upper "DM") =
    some ⟨"start", .trigger, "DM", "", []⟩ := by
  simp [Text.upper_dm, Graph.trigger?, Graph.triggers, Graph.ofFlow, Graph.firstDeclared, cluttered,
    FlowNode.isTrigger]

theorem agreeFrom_cluttered :
    AgreeFrom (Graph.ofFlow cluttered) (Graph.ofFlow answering) "start" := by
  have ids : (Graph.ofFlow cluttered).reachable ["start"] = ["start", "generate", "send"] := by
    decide
  have part : ∀ id, (Graph.ofFlow cluttered).Reaches "start" id →
      id = "start" ∨ id = "generate" ∨ id = "send" := by
    intro id reach
    have mem := (Graph.mem_reachable_singleton (by decide)).mpr reach
    rw [ids] at mem
    simpa using mem
  constructor
  · intro id reach
    rcases part id reach with rfl | rfl | rfl <;> rfl
  · intro id reach
    rcases part id reach with rfl | rfl | rfl <;> decide

theorem cluttered_runs_alike :
    (Graph.ofFlow cluttered).trigger? (Text.upper "DM") =
      some ⟨"start", .trigger, "DM", "", []⟩ ∧
    (Graph.ofFlow answering).trigger? (Text.upper "DM") =
      some ⟨"start", .trigger, "DM", "", []⟩ ∧
    AgreeFrom (Graph.ofFlow cluttered) (Graph.ofFlow answering) "start" ∧
    (∀ f f' : Graph, (⟨.builtin, none⟩ : Dispatch).Unaware (Stranger f f' "start")) ∧
    (World.generating "Hello").handoff.pending = [] ∧
    "orphan" ∈ (Graph.ofFlow cluttered).ancestors "send" ∧
    ∃ (result : RunResult) (w' : World),
      Exec.outcome (Exec.run ⟨.builtin, none⟩ cluttered "DM" none) (.standard "run")
        (.generating "Hello") = (.ok result, w') ∧
      Exec.outcome (Exec.run ⟨.builtin, none⟩ answering "DM" none) (.standard "run")
        (.generating "Hello") = (.ok result, w') ∧
      Exec.outcome (Exec.run ⟨.builtin, none⟩ (cluttered.part "start") "DM" none) (.standard "run")
        (.generating "Hello") = (.ok result, w') ∧
      result.executed = ["generate", "send"] := by
  have unaware : ∀ f f' : Graph, (⟨.builtin, none⟩ : Dispatch).Unaware (Stranger f f' "start") :=
    fun f f' => Dispatch.unaware_builtin none
  obtain ⟨alike, part⟩ := run_sees_reachable trigger_cluttered none (.standard "run")
    (rfl : (World.generating "Hello").handoff.pending = [])
  have passes : (Exec.outcome (Exec.run ⟨.builtin, none⟩ cluttered "DM" none) (.standard "run")
      (.generating "Hello")).1.toOption.any (·.executed == ["generate", "send"]) = true := by
    simp only [Exec.run, trigger_cluttered]
    decide +kernel
  obtain ⟨result, w', ends, executed⟩ := Exec.exists_outcome_of_any passes
  refine ⟨trigger_cluttered, trigger_answering, agreeFrom_cluttered, unaware,
    rfl, by decide, result, w', ends, ?_, ?_, by simpa using executed⟩
  · exact (alike answering trigger_answering agreeFrom_cluttered (unaware _ _)).symm.trans ends
  · exact (part (unaware _ _)).symm.trans ends

/-! ### Executors that notice strangers -/

def Executor.straying : Executor :=
  .doing "STRAY" (do Exec.putText "Hello" (some "stranger"); return none)

/-- An executor that tells for how many nodes it sees texts. -/
def Executor.prying : Executor :=
  .doing "PRY" (do return some (toString (((← Exec.handoff).scope.map List.length).getD 0)))

def Executor.taking : Executor := .doing "TAKE" Exec.takeText

open Executor in
def Dispatch.curious : Dispatch :=
  ⟨⟨[directMessage, straying, prying, taking], true, by decide⟩, none⟩

def lonely (subType : String) : Flow where
  nodes :=
    [⟨"start", .trigger, "DM", "", []⟩, ⟨"work", .action, subType, "", []⟩,
      ⟨"next", .action, "TAKE", "", []⟩]
  edges := [⟨none, "start", "work", none⟩, ⟨none, "work", "next", none⟩]

/-- The same flow beside a node that leads to both but cannot be reached. -/
def haunted (subType : String) : Flow where
  nodes := (lonely subType).nodes ++ [⟨"stranger", .action, "TAKE", "", []⟩]
  edges := (lonely subType).edges ++
    [⟨none, "stranger", "work", none⟩, ⟨none, "stranger", "next", none⟩]

theorem trigger_lonely (subType : String) :
    (Graph.ofFlow (lonely subType)).trigger? (Text.upper "DM") =
      some ⟨"start", .trigger, "DM", "", []⟩ := by
  simp [Text.upper_dm, Graph.trigger?, Graph.triggers, Graph.ofFlow, Graph.firstDeclared, lonely,
    FlowNode.isTrigger]

theorem trigger_haunted (subType : String) :
    (Graph.ofFlow (haunted subType)).trigger? (Text.upper "DM") =
      some ⟨"start", .trigger, "DM", "", []⟩ := by
  simp [Text.upper_dm, Graph.trigger?, Graph.triggers, Graph.ofFlow, Graph.firstDeclared, haunted,
    lonely, FlowNode.isTrigger]

theorem agreeFrom_lonely {subType : String} (known : subType = "STRAY" ∨ subType = "PRY") :
    AgreeFrom (Graph.ofFlow (lonely subType)) (Graph.ofFlow (haunted subType)) "start" := by
  have ids : (Graph.ofFlow (lonely subType)).reachable ["start"] = ["start", "work", "next"] := by
    rcases known with rfl | rfl <;> decide
  have part : ∀ id, (Graph.ofFlow (lonely subType)).Reaches "start" id →
      id = "start" ∨ id = "work" ∨ id = "next" := by
    intro id reach
    have has : (Graph.ofFlow (lonely subType)).has "start" = true := rfl
    have mem := (Graph.mem_reachable_singleton has).mpr reach
    rw [ids] at mem
    simpa using mem
  constructor
  · intro id reach
    rcases part id reach with rfl | rfl | rfl <;> rfl
  · intro id reach
    rcases known with rfl | rfl <;> rcases part id reach with rfl | rfl | rfl <;> decide

def toldIn (f : Flow) : Option (List (Option String)) :=
  (Exec.outcome (Exec.run .curious f "DM" none) (.standard "run") .bare).1.toOption.map
    (·.nodes.map NodeRun.text)

/-- Executors that notice which nodes cannot be reached do not run alike. A text under the id of
such a node is dropped, or it is taken by a node behind it; and the scope of a node has the nodes
before it that cannot be reached. -/
theorem strangers_noticed :
    AgreeFrom (Graph.ofFlow (lonely "STRAY")) (Graph.ofFlow (haunted "STRAY")) "start" ∧
    AgreeFrom (Graph.ofFlow (lonely "PRY")) (Graph.ofFlow (haunted "PRY")) "start" ∧
    (∀ subType, (Graph.ofFlow (lonely subType)).trigger? (Text.upper "DM") =
        some ⟨"start", .trigger, "DM", "", []⟩ ∧
      (Graph.ofFlow (haunted subType)).trigger? (Text.upper "DM") =
        some ⟨"start", .trigger, "DM", "", []⟩) ∧
    World.bare.handoff.pending = [] ∧
    toldIn (lonely "STRAY") = some [none, none] ∧
    toldIn (haunted "STRAY") = some [none, some "Hello"] ∧
    toldIn (lonely "PRY") = some [some "1", none] ∧
    toldIn (haunted "PRY") = some [some "2", none] := by
  refine ⟨agreeFrom_lonely (.inl rfl), agreeFrom_lonely (.inr rfl),
    fun subType => ⟨trigger_lonely subType, trigger_haunted subType⟩, rfl, ?_, ?_, ?_, ?_⟩
  · simp only [toldIn, Exec.run, trigger_lonely]
    decide
  · simp only [toldIn, Exec.run, trigger_haunted]
    decide
  · simp only [toldIn, Exec.run, trigger_lonely]
    decide
  · simp only [toldIn, Exec.run, trigger_haunted]
    decide

end Chatflow
