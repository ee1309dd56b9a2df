import Chatflow.Proofs.Flow.Schedule
import Chatflow.Proofs.Run.Delivery

/-!
# Graphs that agree behind a node

Two graphs agree from a node when each node behind it is the same in both and has the same edges to
other nodes, in the same order. The places of the edges among those of other nodes do not matter,
nor does anything that cannot be reached from the node: the nodes behind it come in the same order
(`AgreeFrom.runOrder_eq`), and items go the same ways (`AgreeFrom.deliver_eq`).
-/

namespace Chatflow.Graph

/-! ### Arcs source by source -/

/-- The same edges leave each node in the same order. -/
def SameBySource (arcs others : List Arc) : Prop :=
  ∀ id, (arcs.filter (·.source == id)).map Arc.edge = (others.filter (·.source == id)).map Arc.edge

namespace SameBySource

variable {arcs others : List Arc}

theorem symm (same : SameBySource arcs others) : SameBySource others arcs :=
  fun id => (same id).symm

theorem exists_mem (same : SameBySource arcs others) {a : Arc} (mem : a ∈ arcs) :
    ∃ b ∈ others, b.edge = a.edge := by
  have own : a.edge ∈ (arcs.filter (·.source == a.source)).map Arc.edge :=
    List.mem_map_of_mem (List.mem_filter.mpr ⟨mem, beq_self_eq_true _⟩)
  rw [same] at own
  obtain ⟨b, there, eq⟩ := List.mem_map.mp own
  exact ⟨b, (List.mem_filter.mp there).1, eq⟩

theorem any_target (same : SameBySource arcs others) (v : String) :
    arcs.any (·.target == v) = others.any (·.target == v) := by
  refine Bool.eq_iff_iff.mpr ?_
  simp only [List.any_eq_true, beq_iff_eq]
  constructor
  · rintro ⟨a, mem, rfl⟩
    obtain ⟨b, there, eq⟩ := same.exists_mem mem
    exact ⟨b, there, congrArg FlowEdge.target eq⟩
  · rintro ⟨b, mem, rfl⟩
    obtain ⟨a, there, eq⟩ := same.symm.exists_mem mem
    exact ⟨a, there, congrArg FlowEdge.target eq⟩

theorem length_eq (same : SameBySource arcs others) : arcs.length = others.length := by
  have perm : (arcs.map Arc.source).Perm (others.map Arc.source) := by
    refine List.perm_iff_count.mpr fun id => ?_
    have lengths := congrArg List.length (same id)
    rw [List.length_map, List.length_map] at lengths
    rw [List.count_eq_countP, List.count_eq_countP, List.countP_map, List.countP_map,
      List.countP_eq_length_filter, List.countP_eq_length_filter]
    exact lengths
  simpa using perm.length_eq

theorem filter (same : SameBySource arcs others) (p : FlowEdge → Bool) :
    SameBySource (arcs.filter (p ·.edge)) (others.filter (p ·.edge)) := by
  have swap : ∀ (l : List Arc) id, ((l.filter (p ·.edge)).filter (·.source == id)).map Arc.edge =
      ((l.filter (·.source == id)).map Arc.edge).filter p := by
    intro l id
    rw [List.filter_map, List.filter_filter, List.filter_filter]
    simp only [Bool.and_comm, Function.comp_apply]
  intro id
  rw [swap, swap, same]

theorem openAfter (same : SameBySource arcs others) (id : String) :
    SameBySource (Graph.openAfter arcs id) (Graph.openAfter others id) :=
  same.filter fun e => e.source != id

end SameBySource

theorem readied_congr {rest rest' own own' : List Arc}
    (open' : ∀ v, rest.any (·.target == v) = rest'.any (·.target == v))
    (same : own.map Arc.edge = own'.map Arc.edge) : readied rest own = readied rest' own' := by
  induction own generalizing own' with
  | nil =>
    obtain rfl := List.map_eq_nil_iff.mp same.symm
    rfl
  | cons arc more ih =>
    obtain ⟨arc', more', rfl, edge, same⟩ := List.map_eq_cons_iff.mp same.symm
    have target : arc'.target = arc.target := congrArg FlowEdge.target edge
    have later : more.any (·.target == arc.target) = more'.any (·.target == arc.target) := by
      have any := congrArg (List.any · (·.target == arc.target)) same.symm
      rw [List.any_map, List.any_map] at any
      exact any
    rw [readied, readied, target, later, open', ih same.symm]

/-- The order in which nodes settle follows the edges of each node and nothing else. -/
theorem settlingOrder_congr {fuel : Nat} {arcs others : List Arc} (queue : List String)
    (same : SameBySource arcs others) :
    settlingOrder fuel arcs queue = settlingOrder fuel others queue := by
  induction fuel generalizing arcs others queue with
  | zero => rfl
  | succ fuel ih =>
    cases queue with
    | nil => rfl
    | cons id queue =>
      have rest := same.openAfter id
      rw [settlingOrder_cons, settlingOrder_cons, readyAfter, readyAfter,
        readied_congr rest.any_target (same id), ih _ rest]

/-! ### Agreement -/

/-- Each node behind a start is the same in both graphs, and so are its edges to other nodes, in
their order. -/
structure AgreeFrom (g g' : Graph) (start : String) : Prop where
  nodes : ∀ id, g.Reaches start id → g.get? id = g'.get? id
  edges : ∀ id, g.Reaches start id →
    (g.outgoing id).map Arc.edge = (g'.outgoing id).map Arc.edge

/-- A node of one of two graphs to which no path leads from a start. -/
def Stranger (g g' : Graph) (start id : String) : Prop :=
  (g.has id = true ∨ g'.has id = true) ∧ ¬g.Reaches start id

variable {g g' : Graph} {start : String}

theorem has_of_get? {id : String} {n : FlowNode} (found : g.get? id = some n) :
    g.has id = true := by
  obtain rfl := get?_id found
  exact has_iff.mpr (List.mem_map_of_mem (mem_of_get? found))

theorem leads_iff_mem_map {u v : String} :
    g.Leads u v ↔ v ∈ ((g.outgoing u).map Arc.edge).map FlowEdge.target := by
  simp [Leads, mem_outgoing, and_assoc, Arc.target]

/-- The edges of a node behind the start that a run waits for. -/
theorem edges_runArcs (has : g.has start = true) {id : String} (reach : g.Reaches start id) :
    ((g.runArcs start).filter (·.source == id)).map Arc.edge =
      ((g.outgoing id).map Arc.edge).filter fun e => e.target != start && e.target != e.source := by
  have there : (g.reachable [start]).contains id = true :=
    List.contains_iff_mem.mpr ((mem_reachable_singleton has).mpr reach)
  rw [List.filter_map, outgoing, List.filter_filter, runArcs, List.filter_filter]
  congr 1
  refine List.filter_congr fun a _ => ?_
  by_cases own : a.source = id
  · subst own
    simp only [there, beq_self_eq_true, Bool.true_and, Bool.and_true]
    rfl
  · have other : (a.source == id) = false := beq_eq_false_iff_ne.mpr own
    simp only [other, Bool.false_and, Bool.and_false]

theorem filter_runArcs_eq_nil (has : g.has start = true) {id : String}
    (unreached : ¬g.Reaches start id) : (g.runArcs start).filter (·.source == id) = [] := by
  refine List.filter_eq_nil_iff.mpr fun a mem own => unreached ?_
  rw [beq_iff_eq] at own
  exact own ▸ ((mem_runArcs has).mp mem).2.1

namespace AgreeFrom

theorem leads_iff (agree : AgreeFrom g g' start) {u v : String} (reach : g.Reaches start u) :
    g.Leads u v ↔ g'.Leads u v := by
  rw [leads_iff_mem_map, leads_iff_mem_map, agree.edges u reach]

/-- Graphs that agree from a node have the same nodes behind it. -/
theorem reaches_iff (agree : AgreeFrom g g' start) {id : String} :
    g.Reaches start id ↔ g'.Reaches start id := by
  constructor <;> intro path
  · induction path with
    | refl => exact .refl
    | tail front step ih => exact ih.tail ((agree.leads_iff front).mp step)
  · induction path with
    | refl => exact .refl
    | tail _ step ih => exact ih.tail ((agree.leads_iff ih).mpr step)

/-- Graphs that agree from a node agree from each node behind it. -/
theorem behind (agree : AgreeFrom g g' start) {id : String} (reach : g.Reaches start id) :
    AgreeFrom g g' id :=
  ⟨fun v path => agree.nodes v (reach.trans path), fun v path => agree.edges v (reach.trans path)⟩

theorem has (agree : AgreeFrom g g' start) (has : g.has start = true) {id : String}
    (reach : g.Reaches start id) : g'.has id = true := by
  obtain ⟨n, found⟩ := exists_get? (reach.has has)
  rw [agree.nodes id reach] at found
  exact has_of_get? found

/-! ### Runs -/

theorem runArcs (agree : AgreeFrom g g' start) (has : g.has start = true) :
    SameBySource (g.runArcs start) (g'.runArcs start) := by
  have has' := agree.has has .refl
  intro id
  by_cases reach : g.Reaches start id
  · rw [edges_runArcs has reach, edges_runArcs has' (agree.reaches_iff.mp reach),
      agree.edges id reach]
  · rw [filter_runArcs_eq_nil has reach,
      filter_runArcs_eq_nil has' (mt agree.reaches_iff.mpr reach)]

/-- Runs from the node come by the same nodes in the same order. -/
theorem runOrder_eq (agree : AgreeFrom g g' start) (has : g.has start = true) :
    g.runOrder start = g'.runOrder start := by
  have same := agree.runArcs has
  unfold runOrder
  dsimp only
  rw [same.length_eq, settlingOrder_congr _ same]

theorem runNodes_eq (agree : AgreeFrom g g' start) (has : g.has start = true) :
    g.runNodes start = g'.runNodes start := by
  unfold runNodes
  rw [← agree.runOrder_eq has]
  exact List.filterMap_congr fun id mem => agree.nodes id (reaches_of_mem_runOrder has mem)

theorem follows_eq (agree : AgreeFrom g g' start) {a : Arc} {id : String}
    (reach : g.Reaches start id) (mem : a ∈ g.outgoing id) (outcome : Option String) :
    g.follows a.edge outcome = g'.follows a.edge outcome := by
  obtain ⟨inside, rfl⟩ := mem_outgoing.mp mem
  have source := agree.nodes a.source reach
  have target := agree.nodes a.target (reach.tail (leads_of_mem inside))
  unfold follows branchOf
  rw [show a.edge.source = a.source from rfl, show a.edge.target = a.target from rfl, source,
    target]

theorem deliver_eq (agree : AgreeFrom g g' start) {id : String} (reach : g.Reaches start id)
    (now : Int) (items : List Item) (inbox : Inbox) :
    g.deliver start id now items inbox = g'.deliver start id now items inbox := by
  cases items with
  | nil => rfl
  | cons first rest =>
    let sent := (first :: rest).map (·.sendOn now (some id) none)
    let carry (h : Graph) (inbox : Inbox) (e : FlowEdge) : Inbox :=
      if (e.target != start && e.target != e.source) && h.follows e first.branch
      then inbox.add e.target sent else inbox
    have byEdge : ∀ h : Graph, h.deliver start id now (first :: rest) inbox =
        ((h.outgoing id).map Arc.edge).foldl (carry h) inbox := fun h => by
      rw [List.foldl_map]
      rfl
    rw [byEdge, byEdge, ← agree.edges id reach]
    refine List.foldl_ext _ _ _ fun inbox e mem => ?_
    obtain ⟨a, inside, rfl⟩ := List.mem_map.mp mem
    dsimp only [carry]
    rw [agree.follows_eq reach inside]

/-! ### What does not come from strangers -/

theorem mem_reachable_iff (agree : AgreeFrom g g' start) (has : g.has start = true) {id v : String}
    (known : ¬Stranger g g' start id) : v ∈ g.reachable [id] ↔ v ∈ g'.reachable [id] := by
  by_cases reach : g.Reaches start id
  · rw [mem_reachable_singleton (reach.has has), mem_reachable_singleton (agree.has has reach),
      (agree.behind reach).reaches_iff]
  · have absent : ¬(g.has id = true ∨ g'.has id = true) := fun one => known ⟨one, reach⟩
    rw [not_or] at absent
    simp [mem_reachable, absent]

/-- Everything behind a producer is settled in the one graph if it is in the other. -/
theorem isStranded_eq (agree : AgreeFrom g g' start) (has : g.has start = true) {producer : String}
    (known : ¬Stranger g g' start producer) (settled : List String) :
    g.isStranded start settled producer = g'.isStranded start settled producer := by
  refine Bool.eq_iff_iff.mpr ?_
  unfold isStranded
  simp only [List.all_eq_true, agree.mem_reachable_iff has known]

/-- The nodes before any node are the same, but for strangers. -/
theorem mem_ancestors_iff (agree : AgreeFrom g g' start) {id p : String}
    (known : ¬Stranger g g' start p) :
    p ∈ g.ancestors id ↔ p ∈ g'.ancestors id := by
  rw [mem_ancestors, mem_ancestors]
  refine and_congr_right fun other => ?_
  by_cases there : g.Reaches start p
  · exact (agree.behind there).reaches_iff
  · refine iff_of_false (fun path => ?_) fun path => ?_
    · exact known ⟨.inl (path.has_source other), there⟩
    · exact known ⟨.inr (path.has_source other), there⟩

end AgreeFrom

/-! ### The part of a flow behind a node -/

theorem firstDeclared_filter (p : String → Bool) (nodes : List FlowNode) :
    firstDeclared (nodes.filter (p ·.id)) = (firstDeclared nodes).filter (p ·.id) := by
  induction nodes with
  | nil => rfl
  | cons n rest ih =>
    by_cases kept : p n.id = true
    · rw [List.filter_cons, if_pos kept, firstDeclared, ih, firstDeclared, List.filter_cons,
        if_pos kept, List.filter_filter, List.filter_filter]
      simp only [Bool.and_comm]
    · rw [List.filter_cons, if_neg kept, ih, firstDeclared, List.filter_cons, if_neg kept,
        List.filter_filter]
      refine List.filter_congr fun m _ => ?_
      by_cases same : m.id = n.id
      · simp [same, kept]
      · simp [same]

/-- The edges that leave a node are those to other nodes, in the order of the flow. -/
theorem map_edge_outgoing (g : Graph) (id : String) :
    (g.outgoing id).map Arc.edge = g.edges.filter fun e =>
      e.source == id && connects g.nodes e := by
  rw [outgoing, g.arcs_eq, connecting, List.filter_filter]
  conv_rhs => rw [← map_edge_placed g.edges, List.filter_map]
  rfl

end Chatflow.Graph

namespace Chatflow

/-- What remains of a flow without the nodes to which no path leads from a start, the edges that
leave them, and the edges to nowhere. -/
def Flow.part (f : Flow) (start : String) : Flow where
  nodes := f.nodes.filter fun n => ((Graph.ofFlow f).reachable [start]).contains n.id
  edges := f.edges.filter fun e =>
    ((Graph.ofFlow f).reachable [start]).contains e.source && (Graph.ofFlow f).has e.target

namespace Graph

variable {f : Flow} {start : String}

theorem nodes_part (f : Flow) (start : String) :
    (ofFlow (f.part start)).nodes =
      (ofFlow f).nodes.filter fun n => ((ofFlow f).reachable [start]).contains n.id :=
  firstDeclared_filter ((ofFlow f).reachable [start]).contains f.nodes

theorem has_part {id : String} :
    (ofFlow (f.part start)).has id = true ↔
      (ofFlow f).has id = true ∧ id ∈ (ofFlow f).reachable [start] := by
  rw [has_iff, has_iff, nodes_part, List.mem_map, List.mem_map]
  constructor
  · rintro ⟨n, mem, rfl⟩
    obtain ⟨there, kept⟩ := List.mem_filter.mp mem
    exact ⟨⟨n, there, rfl⟩, List.contains_iff_mem.mp kept⟩
  · rintro ⟨⟨n, there, rfl⟩, kept⟩
    exact ⟨n, List.mem_filter.mpr ⟨there, List.contains_iff_mem.mpr kept⟩, rfl⟩

/-- A flow and its part behind a node agree from that node. -/
theorem agreeFrom_part (has : (ofFlow f).has start = true) :
    AgreeFrom (ofFlow f) (ofFlow (f.part start)) start := by
  have there : ∀ {id}, (ofFlow f).Reaches start id ↔ id ∈ (ofFlow f).reachable [start] :=
    (mem_reachable_singleton has).symm
  constructor
  · intro id reach
    rw [get?, get?, nodes_part, ← List.head?_filter, ← List.head?_filter, List.filter_filter]
    congr 1
    refine List.filter_congr fun n _ => ?_
    by_cases same : n.id = id
    · simp [same, there.mp reach]
    · simp [same]
  · intro id reach
    rw [map_edge_outgoing, map_edge_outgoing]
    change f.edges.filter _ = (f.edges.filter _).filter _
    rw [List.filter_filter]
    refine List.filter_congr fun e mem => ?_
    by_cases own : e.source = id
    · subst own
      have target : (ofFlow f).has e.target = true → e.target ∈ (ofFlow f).reachable [start] := by
        intro node
        obtain ⟨a, place, rfl⟩ := exists_placed mem
        have inside : a ∈ (ofFlow f).arcs := mem_arcs.mpr ⟨place, reach.has has, node⟩
        exact there.mp (reach.tail (leads_of_mem inside))
      have part : ∀ v, hasNode (ofFlow (f.part start)).nodes v = true ↔
          (ofFlow f).has v = true ∧ v ∈ (ofFlow f).reachable [start] := fun v => has_part
      have whole : ∀ v, hasNode (ofFlow f).nodes v = (ofFlow f).has v := fun v => rfl
      refine Bool.eq_iff_iff.mpr ?_
      simp only [connects, Bool.and_eq_true, part, whole, List.contains_iff_mem, there.mp reach,
        beq_self_eq_true, true_and, and_true]
      tauto
    · have other : (e.source == id) = false := beq_eq_false_iff_ne.mpr own
      simp only [other, Bool.false_and]

/-- A flow and its part behind a trigger have the trigger in common. -/
theorem trigger?_part {kind : String} {trigger : FlowNode}
    (found : (ofFlow f).trigger? kind = some trigger) :
    (ofFlow (f.part trigger.id)).trigger? kind = some trigger := by
  have has : (ofFlow f).has trigger.id = true :=
    has_iff.mpr (List.mem_map_of_mem (List.mem_filter.mp (List.mem_of_find?_eq_some found)).1)
  have kept : trigger.id ∈ (ofFlow f).reachable [trigger.id] :=
    (mem_reachable_singleton has).mpr .refl
  rw [trigger?, triggers, List.find?_filter, List.find?_eq_some_iff_append] at found ⊢
  rw [nodes_part]
  obtain ⟨fits, before, after, split, none⟩ := found
  rw [split, List.filter_append, List.filter_cons, if_pos (List.contains_iff_mem.mpr kept)]
  exact ⟨fits, _, _, rfl, fun n mem => none n (List.mem_filter.mp mem).1⟩

end Graph

end Chatflow
