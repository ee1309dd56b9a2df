import Chatflow.Flow.Graph
import Chatflow.Proofs.Walk
import Mathlib.Data.List.Dedup

/-!
# Paths in graphs

Arcs lead from node to node, and paths follow them. The two searches of a graph compute the
relation: `mem_reachable` for the nodes behind some starts, `mem_ancestors` for the nodes before
one. The arcs of a flow are its edges between nodes (`leads_eq_links`).
-/

namespace Chatflow

namespace Graph

theorem mem_ids_firstDeclared {id : String} {nodes : List FlowNode} :
    id ∈ (firstDeclared nodes).map FlowNode.id ↔ id ∈ nodes.map FlowNode.id := by
  induction nodes with
  | nil => rfl
  | cons m rest ih =>
    simp only [firstDeclared, List.map_cons, List.mem_cons, ← ih, List.mem_map, List.mem_filter,
      bne_iff_ne]
    grind

theorem firstDeclared_of_nodup {nodes : List FlowNode}
    (nodup : (nodes.map FlowNode.id).Nodup) : firstDeclared nodes = nodes := by
  induction nodes with
  | nil => rfl
  | cons m rest ih =>
    have parts := List.nodup_cons.mp nodup
    rw [firstDeclared, ih parts.2, List.filter_eq_self.mpr]
    intro n hn
    rw [bne_iff_ne]
    exact fun eq => parts.1 (List.mem_map.mpr ⟨n, hn, eq⟩)

theorem hasNode_iff {nodes : List FlowNode} {id : String} :
    hasNode nodes id = true ↔ id ∈ nodes.map FlowNode.id := by
  simp [hasNode]

theorem mem_placed {a : Arc} {edges : List FlowEdge} (mem : a ∈ placed edges) : a.edge ∈ edges := by
  obtain ⟨e, he, rfl⟩ := List.mem_map.mp mem
  exact List.fst_mem_of_mem_zipIdx he

theorem exists_placed {e : FlowEdge} {edges : List FlowEdge} (mem : e ∈ edges) :
    ∃ a ∈ placed edges, a.edge = e := by
  obtain ⟨i, hi, eq⟩ := List.mem_iff_getElem.mp mem
  have indexed : (e, i) ∈ edges.zipIdx := by
    simp [List.mem_zipIdx_iff_getElem?, hi, eq]
  exact ⟨⟨i, e⟩, List.mem_map.mpr ⟨(e, i), indexed, rfl⟩, rfl⟩

variable (g : Graph)

/-! ### Arcs -/

def Leads (u v : String) : Prop := ∃ a ∈ g.arcs, a.source = u ∧ a.target = v

/-- A path leads from one node to another; the empty path leads from a node to itself. -/
def Reaches : String → String → Prop := Relation.ReflTransGen g.Leads

variable {g}

theorem mem_outgoing {a : Arc} {id : String} : a ∈ g.outgoing id ↔ a ∈ g.arcs ∧ a.source = id := by
  simp [outgoing]

theorem mem_incoming {a : Arc} {id : String} : a ∈ g.incoming id ↔ a ∈ g.arcs ∧ a.target = id := by
  simp [incoming]

theorem leads_of_mem {a : Arc} (mem : a ∈ g.arcs) : g.Leads a.source a.target := ⟨a, mem, rfl, rfl⟩

theorem has_iff {id : String} : g.has id = true ↔ id ∈ g.nodes.map FlowNode.id := hasNode_iff

theorem mem_arcs {a : Arc} :
    a ∈ g.arcs ↔ a ∈ placed g.edges ∧ g.has a.source = true ∧ g.has a.target = true := by
  rw [g.arcs_eq, connecting, List.mem_filter]
  exact and_congr_right fun _ => Bool.and_eq_true_iff

theorem has_ends {a : Arc} (mem : a ∈ g.arcs) : g.has a.source = true ∧ g.has a.target = true :=
  (mem_arcs.mp mem).2

theorem Reaches.has {u v : String} (start : g.has u = true) (path : g.Reaches u v) :
    g.has v = true := by
  induction path with
  | refl => exact start
  | tail _ step _ =>
    obtain ⟨a, mem, -, rfl⟩ := step
    exact (has_ends mem).2

theorem Reaches.has_source {u v : String} (path : g.Reaches u v) (other : u ≠ v) :
    g.has u = true := by
  rcases path.cases_head with same | ⟨_, ⟨a, mem, rfl, -⟩, -⟩
  · exact absurd same other
  · exact (has_ends mem).1

theorem get?_id {id : String} {n : FlowNode} (found : g.get? id = some n) : n.id = id := by
  simpa using List.find?_some found

theorem mem_of_get? {id : String} {n : FlowNode} (found : g.get? id = some n) : n ∈ g.nodes :=
  List.mem_of_find?_eq_some found

theorem exists_get? {id : String} (has : g.has id = true) : ∃ n, g.get? id = some n := by
  obtain ⟨n, hn, eq⟩ := List.mem_map.mp (has_iff.mp has)
  cases found : g.get? id with
  | some n => exact ⟨n, rfl⟩
  | none =>
    have differs := List.find?_eq_none.mp found n hn
    simp [eq] at differs

theorem get?_of_mem {n : FlowNode} (mem : n ∈ g.nodes) : g.get? n.id = some n := by
  obtain ⟨m, found⟩ := exists_get? (has_iff.mpr (List.mem_map_of_mem mem))
  rw [found]
  exact congrArg some (List.inj_on_of_nodup_map g.distinct (mem_of_get? found) mem (get?_id found))

/-! ### Searches -/

/-- The arcs of each of some keys, one key after the other, are the arcs whose keys are among
them. -/
theorem perm_flatMap_filter {κ : Type} [DecidableEq κ] (key : Arc → κ) (arcs : List Arc)
    {keys : List κ} (nodup : keys.Nodup) :
    (keys.flatMap fun k => arcs.filter (key · == k)).Perm
      (arcs.filter fun a => keys.contains (key a)) := by
  induction keys with
  | nil => simp
  | cons k rest ih =>
    obtain ⟨new, nodup⟩ := List.nodup_cons.mp nodup
    rw [List.flatMap_cons]
    refine ((ih nodup).append_left _).trans ?_
    refine .trans (.of_eq ?_) (List.filter_append_perm (key · == k) _)
    rw [List.filter_filter, List.filter_filter]
    congr 1 <;> refine List.filter_congr fun a _ => ?_
    · by_cases own : key a = k <;> simp [own]
    · by_cases own : key a = k <;> simp [own, new]

/-- Arcs that are told apart by a key are at most all of them. -/
theorem sum_length_filter_le {κ : Type} [DecidableEq κ] (key : Arc → κ) (arcs : List Arc)
    {keys : List κ} (nodup : keys.Nodup) :
    (keys.map fun k => (arcs.filter (key · == k)).length).sum ≤ arcs.length := by
  rw [← List.length_flatMap, (perm_flatMap_filter key arcs nodup).length_eq]
  exact List.length_filter_le _ _

theorem steps_outgoing_iff {u v : String} :
    Steps (fun id => (g.outgoing id).map Arc.target) u v ↔ g.Reaches u v := by
  have same : (fun s t => t ∈ (g.outgoing s).map Arc.target) = g.Leads := by
    funext s t
    simp [Leads, mem_outgoing, and_assoc]
  rw [Steps, same, Reaches]

theorem steps_incoming_iff {u v : String} :
    Steps (fun id => (g.incoming id).map Arc.source) v u ↔ g.Reaches u v := by
  have same : (fun s t => t ∈ (g.incoming s).map Arc.source) = Function.swap g.Leads := by
    funext s t
    simp only [Leads, Function.swap, mem_incoming, List.mem_map, and_comm, and_left_comm]
  rw [Steps, same, Reaches, Relation.reflTransGen_swap]

/-- Against the arcs, steps lead from the nodes just before a node to all others from which a path
leads to it. -/
theorem exists_steps_incoming_iff {u v : String} (other : u ≠ v) :
    (∃ s ∈ (g.incoming v).map Arc.source, Steps (fun id => (g.incoming id).map Arc.source) s u) ↔
      g.Reaches u v := by
  simp only [steps_incoming_iff]
  constructor
  · rintro ⟨s, hs, path⟩
    obtain ⟨a, mem, rfl⟩ := List.mem_map.mp hs
    obtain ⟨inside, rfl⟩ := mem_incoming.mp mem
    exact path.tail (leads_of_mem inside)
  · intro path
    rcases Relation.ReflTransGen.cases_tail path with eq | ⟨s, front, a, inside, rfl, rfl⟩
    · exact absurd eq.symm other
    · exact ⟨a.source, List.mem_map_of_mem (mem_incoming.mpr ⟨inside, rfl⟩), front⟩

theorem mem_reachable {starts : List String} {id : String} :
    id ∈ g.reachable starts ↔ ∃ s ∈ starts, g.has s = true ∧ g.Reaches s id := by
  -- The starts and the targets of arcs are all that a walk along arcs can meet.
  let all := (starts.filter g.has ++ g.arcs.map Arc.target).dedup
  have nodup : all.Nodup := List.nodup_dedup _
  have closed : ∀ s ∈ all, ∀ t ∈ (g.outgoing s).map Arc.target, t ∈ all := by
    intro s _ t step
    obtain ⟨a, mem, rfl⟩ := List.mem_map.mp step
    exact List.mem_dedup.mpr (List.mem_append_right _
      (List.mem_map_of_mem (mem_outgoing.mp mem).1))
  have inside : ∀ s ∈ starts.filter g.has, s ∈ all := fun s hs =>
    List.mem_dedup.mpr (List.mem_append_left _ hs)
  have enough : (starts.filter g.has).length +
      (all.map fun s => ((g.outgoing s).map Arc.target).length).sum ≤
        starts.length + g.arcs.length := by
    have few := List.length_filter_le g.has starts
    have arcs := sum_length_filter_le Arc.source g.arcs nodup
    simp only [List.length_map, outgoing]
    omega
  rw [reachable, mem_walk nodup closed inside enough]
  simp only [List.mem_filter, steps_outgoing_iff, and_assoc]

theorem has_of_mem_reachable {starts : List String} {id : String} (mem : id ∈ g.reachable starts) :
    g.has id = true := by
  obtain ⟨s, -, has, path⟩ := mem_reachable.mp mem
  exact path.has has

theorem nodup_reachable (starts : List String) : (g.reachable starts).Nodup := nodup_walk _ _

theorem mem_reachable_singleton {start id : String} (has : g.has start = true) :
    id ∈ g.reachable [start] ↔ g.Reaches start id := by
  simp [mem_reachable, has]

/-- The ancestors of a node are the other nodes from which a path leads to it. -/
theorem mem_ancestors {u v : String} : u ∈ g.ancestors v ↔ u ≠ v ∧ g.Reaches u v := by
  let all := (g.arcs.map Arc.source).dedup
  have nodup : all.Nodup := List.nodup_dedup _
  have sources : ∀ s, ∀ t ∈ (g.incoming s).map Arc.source, t ∈ all := by
    intro s t step
    obtain ⟨a, mem, rfl⟩ := List.mem_map.mp step
    exact List.mem_dedup.mpr (List.mem_map_of_mem (mem_incoming.mp mem).1)
  have enough : ((g.incoming v).map Arc.source).length +
      (all.map fun s => ((g.incoming s).map Arc.source).length).sum ≤ 2 * g.arcs.length := by
    have few : (g.incoming v).length ≤ g.arcs.length := List.length_filter_le _ _
    have arcs := sum_length_filter_le Arc.target g.arcs nodup
    simp only [List.length_map, incoming] at few ⊢
    omega
  rw [ancestors, List.mem_filter, bne_iff_ne, and_comm,
    mem_walk nodup (fun s _ => sources s) (sources v) enough]
  exact and_congr_right exists_steps_incoming_iff

end Graph

/-! ### Paths in flows -/

namespace Flow

variable (f : Flow)

def ids : List String := f.nodes.map FlowNode.id

def Leads (u v : String) : Prop := ∃ e ∈ f.edges, e.source = u ∧ e.target = v

def Reaches : String → String → Prop := Relation.ReflTransGen f.Leads

def Links (u v : String) : Prop := f.Leads u v ∧ u ∈ f.ids ∧ v ∈ f.ids

end Flow

namespace Graph

variable {f : Flow}

theorem has_ofFlow {id : String} : (ofFlow f).has id = true ↔ id ∈ f.ids :=
  has_iff.trans mem_ids_firstDeclared

theorem leads_eq_links (f : Flow) : (ofFlow f).Leads = f.Links := by
  funext u v
  refine propext ⟨?_, ?_⟩
  · rintro ⟨a, mem, rfl, rfl⟩
    obtain ⟨place, source, target⟩ := mem_arcs.mp mem
    exact ⟨⟨a.edge, mem_placed place, rfl, rfl⟩, has_ofFlow.mp source, has_ofFlow.mp target⟩
  · rintro ⟨⟨e, mem, rfl, rfl⟩, source, target⟩
    obtain ⟨a, place, rfl⟩ := exists_placed mem
    exact ⟨a, mem_arcs.mpr ⟨place, has_ofFlow.mpr source, has_ofFlow.mpr target⟩, rfl, rfl⟩

theorem leads_ofFlow (connected : ∀ e ∈ f.edges, e.source ∈ f.ids ∧ e.target ∈ f.ids) :
    (ofFlow f).Leads = f.Leads := by
  rw [leads_eq_links]
  funext u v
  refine propext ⟨And.left, ?_⟩
  rintro ⟨e, mem, rfl, rfl⟩
  exact ⟨⟨e, mem, rfl, rfl⟩, connected e mem⟩

theorem reaches_ofFlow (connected : ∀ e ∈ f.edges, e.source ∈ f.ids ∧ e.target ∈ f.ids) :
    (ofFlow f).Reaches = f.Reaches := by
  rw [Reaches, Flow.Reaches, leads_ofFlow connected]

end Graph

end Chatflow
