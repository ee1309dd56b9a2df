import Chatflow.Proofs.Cycle
import Chatflow.Proofs.Flow.Depth
import Chatflow.Proofs.Validation.Handoff

/-!
# Well-formed flows

What a flow must be like to run, in terms of its own nodes and edges, and what it must be like to
run on a plan. The rules of the check are compared with it one by one.
-/

namespace Chatflow

namespace Flow

variable (f : Flow)

structure TriggerPath (path : List String) : Prop where
  starts : ∃ t ∈ f.nodes, t.category = .trigger ∧ path.head? = some t.id
  chain : path.IsChain f.Leads

def Produces (d : Dispatch) (id : String) : Prop :=
  ∃ n ∈ f.nodes, n.id = id ∧ ∃ e, d.resolve? n.subType = some e ∧ e.producesText = true

def Consumes (d : Dispatch) (id : String) : Prop :=
  ∃ n ∈ f.nodes, n.id = id ∧ ∃ e, d.resolve? n.subType = some e ∧ e.consumesText = true

/-- A flow that can run with some executors. -/
structure WellFormed (d : Dispatch) : Prop where
  distinct : f.ids.Nodup
  connected : ∀ e ∈ f.edges, e.source ∈ f.ids ∧ e.target ∈ f.ids
  started : ∃ t ∈ f.nodes, t.category = .trigger
  resolved : ∀ n ∈ f.nodes, ∃ e, d.resolve? n.subType = some e
  configured : ∀ n ∈ f.nodes, ∀ e, d.resolve? n.subType = some e → e.problems (.obj n.config) = []
  /-- A node that sends a text has one in its settings, or another node before it generates one. -/
  supplied : ∀ n ∈ f.nodes, ∀ e, d.resolve? n.subType = some e → e.consumesText = true →
    e.hasStaticText n.config = true ∨
      ∃ producer, f.Produces d producer ∧ producer ≠ n.id ∧ f.Reaches producer n.id
  acyclic : ∀ t ∈ f.nodes, t.category = .trigger →
    ∀ first rest, IsCycle f.Leads first rest → ¬f.Reaches t.id first
  quiet : ∀ path, f.TriggerPath path → ¬Validation.Clashes (f.Produces d) (f.Consumes d) path

/-- A flow that a plan allows. -/
structure Within (limit : PlanLimit) : Prop where
  allowed : ∀ n ∈ f.nodes, limit.allows n.subType = true
  nodes : f.nodes.length ≤ limit.maxNodes
  depth : ∀ path, f.TriggerPath path → path.length ≤ limit.maxDepth

end Flow

/-! ### Graphs of flows without defects -/

namespace Graph

variable {f : Flow}

theorem nodes_ofFlow (distinct : f.ids.Nodup) : (ofFlow f).nodes = f.nodes :=
  firstDeclared_of_nodup distinct

theorem mem_triggers (distinct : f.ids.Nodup) {t : FlowNode} :
    t ∈ (ofFlow f).triggers ↔ t ∈ f.nodes ∧ t.category = .trigger := by
  rw [triggers, nodes_ofFlow distinct, List.mem_filter]
  simp [FlowNode.isTrigger]

theorem forall_trigger (distinct : f.ids.Nodup) {p : String → Prop} :
    (∀ id ∈ (ofFlow f).triggers.map FlowNode.id, p id) ↔
      ∀ t ∈ f.nodes, t.category = .trigger → p t.id := by
  simp only [List.forall_mem_map, mem_triggers distinct, and_imp]

theorem forall_triggerPath (distinct : f.ids.Nodup)
    (connected : ∀ e ∈ f.edges, e.source ∈ f.ids ∧ e.target ∈ f.ids) {p : List String → Prop} :
    (∀ id ∈ (ofFlow f).triggers.map FlowNode.id, ∀ path : List String, path.head? = some id →
      path.IsChain (ofFlow f).Leads → p path) ↔ ∀ path, f.TriggerPath path → p path := by
  rw [forall_trigger distinct, leads_ofFlow connected]
  constructor
  · rintro all path ⟨⟨t, mem, trigger, head⟩, chain⟩
    exact all t mem trigger path head chain
  · intro all t mem trigger path head chain
    exact all path ⟨⟨t, mem, trigger, head⟩, chain⟩

theorem has_triggers {g : Graph} : ∀ id ∈ g.triggers.map FlowNode.id, g.has id = true := by
  intro id mem
  obtain ⟨t, trigger, rfl⟩ := List.mem_map.mp mem
  exact has_iff.mpr (List.mem_map_of_mem (List.mem_filter.mp trigger).1)

end Graph

namespace Validation

variable {d : Dispatch} {g : Graph} {f : Flow}

/-! ### Rules on nodes and edges -/

theorem repeatedIds_eq_nil_iff {seen : List String} {nodes : List FlowNode} :
    repeatedIds seen [] nodes = [] ↔
      (nodes.map FlowNode.id).Nodup ∧ ∀ n ∈ nodes, n.id ∉ seen := by
  induction nodes generalizing seen with
  | nil => simp [repeatedIds]
  | cons n rest ih =>
    rw [repeatedIds]
    by_cases again : n.id ∈ seen
    · simp [again]
    · rw [if_neg (by simp [again]), ih]
      simp only [List.map_cons, List.nodup_cons, List.mem_map, List.mem_cons, not_or,
        forall_eq_or_imp]
      grind

theorem duplicates_eq_nil_iff : duplicates f.nodes = [] ↔ f.ids.Nodup := by
  rw [duplicates, List.map_eq_nil_iff, repeatedIds_eq_nil_iff]
  simp [Flow.ids]

theorem danglingEdges_eq_nil_iff :
    danglingEdges (Graph.ofFlow f) = [] ↔
      ∀ e ∈ f.edges, e.source ∈ f.ids ∧ e.target ∈ f.ids := by
  have connects : ∀ e, Graph.connects (Graph.ofFlow f).nodes e = true ↔
      e.source ∈ f.ids ∧ e.target ∈ f.ids := by
    intro e
    exact Bool.and_eq_true_iff.trans (and_congr Graph.has_ofFlow Graph.has_ofFlow)
  rw [danglingEdges, List.map_eq_nil_iff, Graph.dangling, List.filter_eq_nil_iff]
  constructor
  · intro none e mem
    obtain ⟨a, placed, rfl⟩ := Graph.exists_placed mem
    exact (connects _).mp (by simpa using none a placed)
  · intro ends a placed
    simpa using (connects _).mpr (ends a.edge (Graph.mem_placed placed))

theorem withoutTrigger_eq_nil_iff : withoutTrigger g = [] ↔ ∃ t, t ∈ g.triggers := by
  unfold withoutTrigger
  cases g.triggers <;> simp

theorem unknownSubTypes_eq_nil_iff :
    unknownSubTypes d g = [] ↔ ∀ n ∈ g.nodes, ∃ e, d.resolve? n.subType = some e := by
  rw [unknownSubTypes, List.map_eq_nil_iff, List.filter_eq_nil_iff]
  simp [← Option.isSome_iff_exists, Option.isSome_iff_ne_none]

theorem mem_resolved {n : FlowNode} {e : Executor} :
    (n, e) ∈ resolved d g ↔ n ∈ g.nodes ∧ d.resolve? n.subType = some e := by
  simp only [resolved, List.mem_filterMap, Option.map_eq_some_iff, Prod.mk.injEq]
  constructor
  · rintro ⟨m, mem, x, found, rfl, rfl⟩
    exact ⟨mem, found⟩
  · rintro ⟨mem, found⟩
    exact ⟨n, mem, e, found, rfl, rfl⟩

theorem mem_producers {id : String} :
    id ∈ producers d g ↔
      ∃ n ∈ g.nodes, n.id = id ∧ ∃ e, d.resolve? n.subType = some e ∧ e.producesText = true := by
  simp only [producers, List.mem_map, List.mem_filter, Prod.exists, mem_resolved]
  grind

theorem lacksText_eq_false_iff {ids : List String} {n : FlowNode} {e : Executor} :
    lacksText g ids n e = false ↔
      (e.consumesText = true → e.hasStaticText n.config = true ∨
        ∃ producer ∈ ids, producer ≠ n.id ∧ g.Reaches producer n.id) := by
  have before : (g.ancestors n.id).any ids.contains = true ↔
      ∃ producer ∈ ids, producer ≠ n.id ∧ g.Reaches producer n.id := by
    simp only [List.any_eq_true, Graph.mem_ancestors, List.contains_iff_mem, and_comm]
  rw [← before, lacksText]
  cases e.consumesText <;> cases e.hasStaticText n.config <;> simp

theorem missingText_eq_nil_iff {ids : List String} {n : FlowNode} {e : Executor} :
    missingText g ids n e = [] ↔ lacksText g ids n e = false := by
  unfold missingText
  split
  · rename_i lacks
    simp [lacks]
  · rename_i lacks
    simp [lacks]

theorem settings_eq_nil_iff :
    settings d g = [] ↔ ∀ n ∈ g.nodes, ∀ e, d.resolve? n.subType = some e →
      e.problems (.obj n.config) = [] ∧
        (e.consumesText = true → e.hasStaticText n.config = true ∨
          ∃ producer ∈ producers d g, producer ≠ n.id ∧ g.Reaches producer n.id) := by
  simp only [settings, List.flatMap_eq_nil_iff, Prod.forall, mem_resolved, and_imp,
    List.append_eq_nil_iff, invalidSettings, List.map_eq_nil_iff, missingText_eq_nil_iff,
    lacksText_eq_false_iff]
  grind

/-! ### Rules on paths -/

theorem cycles_eq_nil_iff {starts : List String} :
    cycles g starts = [] ↔
      ∀ start ∈ starts, g.has start = true → ∀ first rest, IsCycle g.Leads first rest →
        ¬g.Reaches start first := by
  rw [cycles, List.map_eq_nil_iff, Graph.backArcs_eq_nil_iff]
  constructor
  · intro acyclic start mem has first rest cycle path
    exact acyclic first (Graph.mem_reachable.mpr ⟨start, mem, has, path⟩) cycle.transGen
  · intro acyclic id reached around
    obtain ⟨start, mem, has, path⟩ := Graph.mem_reachable.mp reached
    obtain ⟨rest, cycle⟩ := exists_isCycle around
    exact acyclic start mem has id rest cycle path

theorem executorOf?_eq_some_iff {id : String} {e : Executor} :
    executorOf? d g id = some e ↔ ∃ n ∈ g.nodes, n.id = id ∧ d.resolve? n.subType = some e := by
  rw [executorOf?, Option.bind_eq_some_iff]
  constructor
  · rintro ⟨n, found, resolves⟩
    exact ⟨n, Graph.mem_of_get? found, Graph.get?_id found, resolves⟩
  · rintro ⟨n, mem, rfl, resolves⟩
    exact ⟨n, Graph.get?_of_mem mem, resolves⟩

theorem produces_ofFlow (distinct : f.ids.Nodup) :
    Produces (executorOf? d (Graph.ofFlow f)) = f.Produces d := by
  funext id
  simp only [Produces, Flow.Produces, Option.any_eq_true, executorOf?_eq_some_iff,
    Graph.nodes_ofFlow distinct, eq_iff_iff]
  grind

theorem consumes_ofFlow (distinct : f.ids.Nodup) :
    Consumes (executorOf? d (Graph.ofFlow f)) = f.Consumes d := by
  funext id
  simp only [Consumes, Flow.Consumes, Option.any_eq_true, executorOf?_eq_some_iff,
    Graph.nodes_ofFlow distinct, eq_iff_iff]
  grind

/-! ### Rules on a flow without defects of its ids and edges -/

theorem withoutTrigger_ofFlow (distinct : f.ids.Nodup) :
    withoutTrigger (Graph.ofFlow f) = [] ↔ ∃ t ∈ f.nodes, t.category = .trigger := by
  simp only [withoutTrigger_eq_nil_iff, Graph.mem_triggers distinct]

theorem unknownSubTypes_ofFlow (distinct : f.ids.Nodup) :
    unknownSubTypes d (Graph.ofFlow f) = [] ↔
      ∀ n ∈ f.nodes, ∃ e, d.resolve? n.subType = some e := by
  rw [unknownSubTypes_eq_nil_iff, Graph.nodes_ofFlow distinct]

section

variable (distinct : f.ids.Nodup) (connected : ∀ e ∈ f.edges, e.source ∈ f.ids ∧ e.target ∈ f.ids)

include distinct connected

theorem settings_ofFlow :
    settings d (Graph.ofFlow f) = [] ↔ ∀ n ∈ f.nodes, ∀ e, d.resolve? n.subType = some e →
      e.problems (.obj n.config) = [] ∧
        (e.consumesText = true → e.hasStaticText n.config = true ∨
          ∃ producer, f.Produces d producer ∧ producer ≠ n.id ∧ f.Reaches producer n.id) := by
  simp only [settings_eq_nil_iff, mem_producers, Graph.nodes_ofFlow distinct,
    Graph.reaches_ofFlow connected]
  rfl

theorem cycles_ofFlow :
    cycles (Graph.ofFlow f) ((Graph.ofFlow f).triggers.map FlowNode.id) = [] ↔
      ∀ t ∈ f.nodes, t.category = .trigger → ∀ first rest, IsCycle f.Leads first rest →
        ¬f.Reaches t.id first := by
  rw [cycles_eq_nil_iff, Graph.forall_trigger distinct, Graph.leads_ofFlow connected,
    Graph.reaches_ofFlow connected]
  constructor
  · intro acyclic t mem trigger
    exact acyclic t mem trigger (Graph.has_ofFlow.mpr (List.mem_map_of_mem mem))
  · intro acyclic t mem trigger _
    exact acyclic t mem trigger

theorem handoffConflicts_ofFlow :
    handoffConflicts (executorOf? d (Graph.ofFlow f)) (Graph.ofFlow f)
        ((Graph.ofFlow f).triggers.map FlowNode.id) = [] ↔
      ∀ path, f.TriggerPath path → ¬Clashes (f.Produces d) (f.Consumes d) path := by
  rw [handoffConflicts_eq_nil_iff Graph.has_triggers, Graph.forall_triggerPath distinct connected,
    produces_ofFlow distinct, consumes_ofFlow distinct]

end

/-! ### Rules of a plan -/

theorem refusedSubTypes_eq_nil_iff {limit : PlanLimit} :
    refusedSubTypes limit g = [] ↔ ∀ n ∈ g.nodes, limit.allows n.subType = true := by
  have none : ∀ l : List String, l.eraseDups = [] ↔ l = [] := by
    intro l
    cases l <;> simp [List.eraseDups_cons]
  rw [refusedSubTypes, List.map_eq_nil_iff, none, List.map_eq_nil_iff, List.filter_eq_nil_iff]
  simp

theorem beyondLimits_eq_nil_iff {limit : PlanLimit} {plan : String} {starts : List String} :
    beyondLimits limit plan g starts = [] ↔
      (∀ n ∈ g.nodes, limit.allows n.subType = true) ∧ g.nodes.length ≤ limit.maxNodes ∧
        g.longestDepth starts ≤ limit.maxDepth := by
  have none : ∀ (p : Prop) [Decidable p] (v : Violation), (if p then [v] else []) = [] ↔ ¬p := by
    intro p _ v
    split <;> simp [*]
  simp only [beyondLimits, List.append_eq_nil_iff, List.map_eq_nil_iff, refusedSubTypes_eq_nil_iff,
    none, not_lt, and_assoc]

theorem planRules_eq_nil_iff {table : Except PlanTableFault PlanTable} {plan : String}
    {starts : List String} :
    planRules table plan g starts = [] ↔
      ∃ t limit, table = .ok t ∧ t.get? plan = some limit ∧
        beyondLimits limit plan g starts = [] := by
  unfold planRules
  cases table with
  | error cause => simp
  | ok t => cases found : t.get? plan <;> simp [found]

/-! ### All rules -/

/-- All parts can be read exactly when reading them one after the other gives them. -/
theorem readParts_eq_iff {α : Type} {noun : String} {read : Record α → Except Schema.Invalid α}
    {records : List (Record α)} {index : Nat} {parts : List α} :
    readParts noun read index records = (parts, []) ↔ records.mapM read = .ok parts := by
  induction records generalizing index parts with
  | nil => simp [readParts, pure, Except.pure, eq_comm]
  | cons r records ih =>
    rw [readParts, List.mapM_cons]
    cases part : read r with
    | error invalid => simp [bind, Except.bind]
    | ok part =>
      have later : ∀ more, readParts noun read (index + 1) records = (more, []) ↔
          records.mapM read = .ok more := fun more => ih
      generalize readParts noun read (index + 1) records = ended at later ⊢
      obtain ⟨more, violations⟩ := ended
      cases rest : records.mapM read with
      | error invalid =>
        have bad : violations ≠ [] := fun none => by
          have whole := (later more).mp (by rw [none])
          simp [rest] at whole
        simp [bind, Except.bind, bad]
      | ok more' =>
        obtain ⟨rfl, rfl⟩ := Prod.mk.inj ((later more').mpr rest)
        simp [bind, Except.bind, pure, Except.pure]

theorem flow?_eq_ok_iff {draft : Draft} {f : Flow} :
    draft.flow? = .ok f ↔
      draft.nodes.mapM Record.node? = .ok f.nodes ∧
        draft.edges.mapM Record.edge? = .ok f.edges := by
  obtain ⟨nodes, edges⟩ := f
  unfold Draft.flow?
  cases draft.nodes.mapM Record.node? with
  | error invalid => simp [bind, Except.bind]
  | ok ns =>
    cases draft.edges.mapM Record.edge? with
    | error invalid => simp [bind, Except.bind]
    | ok es => simp [bind, Except.bind, pure, Except.pure]

def flowRules (d : Dispatch) (f : Flow) : List Violation :=
  let g := Graph.ofFlow f
  let starts := g.triggers.map FlowNode.id
  duplicates f.nodes ++ danglingEdges g ++ withoutTrigger g ++ unknownSubTypes d g ++ settings d g
    ++ cycles g starts ++ handoffConflicts (executorOf? d g) g starts

theorem flowRules_eq_nil_iff : flowRules d f = [] ↔ f.WellFormed d := by
  simp only [flowRules, List.append_eq_nil_iff, duplicates_eq_nil_iff, danglingEdges_eq_nil_iff,
    and_assoc]
  -- Once ids are distinct and edges connected, the graph has the nodes and edges of the flow.
  constructor
  · rintro ⟨distinct, connected, started, resolved, settings, acyclic, quiet⟩
    rw [settings_ofFlow distinct connected] at settings
    exact {
      distinct, connected
      started := (withoutTrigger_ofFlow distinct).mp started
      resolved := (unknownSubTypes_ofFlow distinct).mp resolved
      configured := fun n mem e found => (settings n mem e found).1
      supplied := fun n mem e found => (settings n mem e found).2
      acyclic := (cycles_ofFlow distinct connected).mp acyclic
      quiet := (handoffConflicts_ofFlow distinct connected).mp quiet }
  · rintro ⟨distinct, connected, started, resolved, configured, supplied, acyclic, quiet⟩
    exact ⟨distinct, connected, (withoutTrigger_ofFlow distinct).mpr started,
      (unknownSubTypes_ofFlow distinct).mpr resolved,
      (settings_ofFlow distinct connected).mpr fun n mem e found =>
        ⟨configured n mem e found, supplied n mem e found⟩,
      (cycles_ofFlow distinct connected).mpr acyclic,
      (handoffConflicts_ofFlow distinct connected).mpr quiet⟩

theorem beyondLimits_eq_nil_iff_within {limit : PlanLimit} {plan : String}
    (wellFormed : f.WellFormed d) :
    beyondLimits limit plan (Graph.ofFlow f) ((Graph.ofFlow f).triggers.map FlowNode.id) = [] ↔
      f.Within limit := by
  have distinct := wellFormed.distinct
  have noCycles := (List.append_eq_nil_iff.mp
    (List.append_eq_nil_iff.mp (flowRules_eq_nil_iff.mpr wellFormed)).1).2
  have acyclic : (Graph.ofFlow f).backArcs ((Graph.ofFlow f).triggers.map FlowNode.id) = [] :=
    List.map_eq_nil_iff.mp noCycles
  have depth : ∀ m : Nat,
      (Graph.ofFlow f).longestDepth ((Graph.ofFlow f).triggers.map FlowNode.id) ≤ m ↔
        ∀ path, f.TriggerPath path → path.length ≤ m := by
    intro m
    rw [Graph.longestDepth_le_iff acyclic Graph.has_triggers,
      Graph.forall_triggerPath distinct wellFormed.connected]
  rw [beyondLimits_eq_nil_iff, Graph.nodes_ofFlow distinct]
  constructor
  · rintro ⟨allowed, nodes, least⟩
    obtain ⟨m, most⟩ : ∃ m : Nat, limit.maxDepth = m :=
      Int.eq_ofNat_of_zero_le (le_trans (Int.natCast_nonneg _) least)
    refine ⟨allowed, nodes, fun path begins => ?_⟩
    rw [most] at least ⊢
    exact_mod_cast (depth m).mp (by exact_mod_cast least) path begins
  · intro within
    refine ⟨within.allowed, within.nodes, ?_⟩
    obtain ⟨t, mem, trigger⟩ := wellFormed.started
    have single := within.depth [t.id] ⟨⟨t, mem, trigger, rfl⟩, .singleton t.id⟩
    obtain ⟨m, most⟩ : ∃ m : Nat, limit.maxDepth = m :=
      Int.eq_ofNat_of_zero_le (le_trans (Int.natCast_nonneg _) single)
    rw [most]
    exact_mod_cast (depth m).mpr fun path begins => by
      have least := within.depth path begins
      rw [most] at least
      exact_mod_cast least

theorem violations_report (table : Except PlanTableFault PlanTable) (plan : String)
    (draft : Draft) :
    (report d table plan draft).violations =
      (readParts "node" Record.node? 0 draft.nodes).2 ++
        (readParts "edge" Record.edge? 0 draft.edges).2 ++
        flowRules d ⟨(readParts "node" Record.node? 0 draft.nodes).1,
          (readParts "edge" Record.edge? 0 draft.edges).1⟩ ++
        planRules table plan
          (Graph.ofFlow ⟨(readParts "node" Record.node? 0 draft.nodes).1,
            (readParts "edge" Record.edge? 0 draft.edges).1⟩)
          ((Graph.ofFlow ⟨(readParts "node" Record.node? 0 draft.nodes).1,
            (readParts "edge" Record.edge? 0 draft.edges).1⟩).triggers.map FlowNode.id) := by
  simp only [report, flowRules, List.append_assoc]

/-- A flow is found without violations exactly if it can be read, is well-formed, and is within the
limits of its plan, which is in the table. -/
theorem violations_eq_nil_iff {table : Except PlanTableFault PlanTable} {plan : String}
    {draft : Draft} :
    (report d table plan draft).violations = [] ↔
      ∃ f, draft.flow? = .ok f ∧ f.WellFormed d ∧
        ∃ t limit, table = .ok t ∧ t.get? plan = some limit ∧ f.Within limit := by
  rw [violations_report, List.append_eq_nil_iff, List.append_eq_nil_iff, List.append_eq_nil_iff,
    flowRules_eq_nil_iff, planRules_eq_nil_iff]
  constructor
  · rintro ⟨⟨⟨nodes, edges⟩, wellFormed⟩, t, limit, loaded, found, within⟩
    refine ⟨_, flow?_eq_ok_iff.mpr ⟨readParts_eq_iff.mp (Prod.ext rfl nodes),
      readParts_eq_iff.mp (Prod.ext rfl edges)⟩, wellFormed, t, limit, loaded, found, ?_⟩
    exact (beyondLimits_eq_nil_iff_within wellFormed).mp within
  · rintro ⟨f, reads, wellFormed, t, limit, loaded, found, within⟩
    obtain ⟨nodes, edges⟩ := flow?_eq_ok_iff.mp reads
    rw [readParts_eq_iff.mpr nodes, readParts_eq_iff.mpr edges]
    exact ⟨⟨⟨rfl, rfl⟩, wellFormed⟩, t, limit, loaded, found,
      (beyondLimits_eq_nil_iff_within wellFormed).mpr within⟩

end Validation

end Chatflow
