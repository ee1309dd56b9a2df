import Chatflow.Proofs.Flow.Depth

/-!
# The topological order

The topological order as a loop that counts, for each node, the arcs that are still to be followed
to it. The loop stops on every graph with the order in which the nodes settle
(`stops_topologicalOrder`), which has every node behind the starts once and the source of an arc
before its target, unless the arc leads back (`topologicalOrder_exact`).
-/

namespace Chatflow

namespace Graph

/-- A topological sort between two rounds of its loop: how many arcs are still to be followed to
each node, the nodes that wait, and the order so far. -/
structure Sorting where
  counts : String → Int
  queue : List String
  order : List String

namespace Sorting

def count (counts : String → Int) (a : Arc) : String → Int :=
  Function.update counts a.target (counts a.target + 1)

/-- Follows an arc. Its target waits once no arc is left to be followed to it. -/
def follow (t : Sorting) (a : Arc) : Sorting :=
  let left := t.counts a.target - 1
  { t with
    counts := Function.update t.counts a.target left
    queue := if left = 0 then t.queue ++ [a.target] else t.queue }

variable (g : Graph) (starts : List String)

def onward (id : String) : List Arc :=
  (g.outgoing id).filter fun a => !(g.backArcs starts).contains a

/-- A sort begins with the arcs counted that leave reachable nodes, and with the reachable nodes to
which none of them leads. -/
def initial : Sorting :=
  let counts := ((g.reachable starts).flatMap (onward g starts)).foldl count fun _ => 0
  { counts
    queue := (g.nodes.map FlowNode.id).filter fun id =>
      (g.reachable starts).contains id && counts id == 0
    order := [] }

/-- A round of the loop. The first node that waits is next in the order, and its arcs are
followed. -/
def round? (t : Sorting) : Option Sorting :=
  match t.queue with
  | [] => none
  | id :: queue =>
    some ((onward g starts id).foldl follow { t with queue, order := t.order ++ [id] })

@[simp] theorem round?_cons (counts : String → Int) (id : String) (queue order : List String) :
    round? g starts ⟨counts, id :: queue, order⟩ =
      some ((onward g starts id).foldl follow ⟨counts, queue, order ++ [id]⟩) := rfl

/-! ### Counts -/

def countOf (arcs : List Arc) (v : String) : Int := arcs.countP (·.target == v)

variable {g starts}

theorem foldl_count (arcs : List Arc) (counts : String → Int) (v : String) :
    arcs.foldl count counts v = counts v + countOf arcs v := by
  induction arcs generalizing counts with
  | nil => simp [countOf]
  | cons a arcs ih =>
    rw [List.foldl_cons, ih]
    by_cases own : a.target = v
    · subst own
      simp [count, countOf]
      omega
    · simp [count, countOf, own, Function.update_of_ne (Ne.symm own)]

theorem countOf_nonneg (arcs : List Arc) (v : String) : 0 ≤ countOf arcs v := Int.natCast_nonneg _

theorem countOf_eq_zero {arcs : List Arc} {v : String} :
    countOf arcs v = 0 ↔ ∀ a ∈ arcs, a.target ≠ v := by
  simp [countOf, List.countP_eq_zero]

/-- An arc of two lists leads to a node exactly when the counts of the two do not add up to zero. -/
theorem any_target_iff (more rest : List Arc) (v : String) :
    (more.any (·.target == v) || rest.any (·.target == v)) = true ↔
      countOf more v + countOf rest v ≠ 0 := by
  have nonneg := countOf_nonneg more v
  have nonneg' := countOf_nonneg rest v
  have none : countOf more v + countOf rest v = 0 ↔ countOf more v = 0 ∧ countOf rest v = 0 := by
    omega
  rw [Ne, none, countOf_eq_zero, countOf_eq_zero, not_and_or]
  simp

/-- Following the arcs of a node leaves the counts of the other arcs. A target joins the queue where
the last arc to it is followed. -/
theorem foldl_follow {rest own : List Arc} {counts : String → Int}
    (total : ∀ v, counts v = countOf own v + countOf rest v) (queue order : List String) :
    own.foldl follow ⟨counts, queue, order⟩ = ⟨countOf rest, queue ++ readied rest own, order⟩ := by
  induction own generalizing counts queue with
  | nil =>
    have same : counts = countOf rest := funext fun v => by simp [total, countOf]
    simp [readied, same]
  | cons a more ih =>
    have left : counts a.target - 1 = countOf more a.target + countOf rest a.target := by
      simp [total, countOf]
      omega
    have total' : ∀ v, Function.update counts a.target (counts a.target - 1) v =
        countOf more v + countOf rest v := by
      intro v
      by_cases own : v = a.target
      · rw [own, Function.update_self, left]
      · simp [Function.update_of_ne own, total, countOf, Ne.symm own]
    rw [List.foldl_cons, follow, ih total', left, readied]
    -- The count is at zero exactly where the order of the ready nodes has the target.
    by_cases last : countOf more a.target + countOf rest a.target = 0
    · have none := mt (any_target_iff more rest a.target).mp (not_not_intro last)
      rw [if_pos last, if_neg none, List.append_assoc, List.singleton_append]
    · rw [if_neg last, if_pos ((any_target_iff more rest a.target).mpr last)]

/-! ### The loop -/

/-- What holds between two rounds, of the arcs that are still to be followed: they are those that do
not leave settled nodes, and none of them leads to a node that is settled or waits. -/
structure Sound (g : Graph) (starts : List String) (arcs opened : List Arc)
    (queue order : List String) : Prop where
  queued : Queued opened (order ++ queue)
  left : opened = arcs.filter fun a => !order.contains a.source
  reached : ∀ id ∈ queue, id ∈ g.reachable starts

section

variable {arcs opened : List Arc} {id : String} {queue order : List String}

theorem Sound.not_mem_order (sound : Sound g starts arcs opened (id :: queue) order) : id ∉ order :=
  fun mem => (List.nodup_append.mp sound.queued.nodup).2.2 id mem id List.mem_cons_self rfl

/-- No arc of the first node that waits was followed before. -/
theorem Sound.own_eq (sound : Sound g starts arcs opened (id :: queue) order) :
    opened.filter (·.source == id) = arcs.filter (·.source == id) := by
  have new := sound.not_mem_order
  rw [sound.left, List.filter_filter]
  refine List.filter_congr fun a _ => ?_
  by_cases own : a.source = id
  · simp [own, new]
  · simp [beq_eq_false_iff_ne.mpr own]

theorem Sound.foldl_follow_own (sound : Sound g starts arcs opened (id :: queue) order) :
    (arcs.filter (·.source == id)).foldl follow ⟨countOf opened, queue, order ++ [id]⟩ =
      ⟨countOf (openAfter opened id), queue ++ readyAfter opened id, order ++ [id]⟩ := by
  have total : ∀ v, countOf opened v =
      countOf (opened.filter (·.source == id)) v + countOf (openAfter opened id) v := by
    intro v
    rw [countOf, List.countP_eq_countP_filter_add opened _ (·.source == id)]
    rfl
  rw [← sound.own_eq]
  exact foldl_follow total queue (order ++ [id])

theorem Sound.settle (sound : Sound g starts arcs opened (id :: queue) order)
    (declared : arcs ⊆ g.arcs) :
    Sound g starts arcs (openAfter opened id) (queue ++ readyAfter opened id) (order ++ [id]) where
  queued := by
    have joined := sound.queued.join id
    rwa [List.append_assoc, List.cons_append, ← List.singleton_append,
      ← List.append_assoc] at joined
  left := by
    rw [openAfter, sound.left, List.filter_filter]
    refine List.filter_congr fun a _ => ?_
    by_cases own : a.source = id <;> simp [own]
  reached := by
    intro v hv
    rcases List.mem_append.mp hv with waiting | joined
    · exact sound.reached v (List.mem_cons_of_mem id waiting)
    · obtain ⟨⟨a, mem, source, rfl⟩, -⟩ := mem_readyAfter.mp joined
      obtain ⟨start, hs, has, path⟩ := mem_reachable.mp (sound.reached id List.mem_cons_self)
      rw [sound.left] at mem
      have arc := declared (List.mem_filter.mp mem).1
      exact mem_reachable.mpr ⟨start, hs, has, path.tail (source ▸ leads_of_mem arc)⟩

end

theorem onward_eq {id : String} (reached : id ∈ g.reachable starts) :
    onward g starts id = (g.forwardArcs starts).filter (·.source == id) := by
  rw [forwardArcs, List.filter_filter, onward, outgoing, List.filter_filter]
  refine List.filter_congr fun a _ => ?_
  by_cases own : a.source = id
  · subst own
    simp [reached]
  · simp [beq_eq_false_iff_ne.mpr own]

theorem forwardArcs_subset : g.forwardArcs starts ⊆ g.arcs := List.filter_subset_self _

variable {opened : List Arc} {id : String} {queue order : List String}

theorem Sound.round (sound : Sound g starts (g.forwardArcs starts) opened (id :: queue) order) :
    round? g starts ⟨countOf opened, id :: queue, order⟩ =
      some ⟨countOf (openAfter opened id), queue ++ readyAfter opened id, order ++ [id]⟩ := by
  rw [round?_cons, onward_eq (sound.reached id List.mem_cons_self), sound.foldl_follow_own]

/-- The loop settles the nodes in their order and stops. By induction on the fuel, of which each
round costs one. -/
theorem Sound.stops {fuel : Nat}
    (sound : Sound g starts (g.forwardArcs starts) opened queue order)
    (enough : queue.length + opened.length ≤ fuel) :
    ∃ counts, Stops (round? g starts) ⟨countOf opened, queue, order⟩
      ⟨counts, [], order ++ settlingOrder fuel opened queue⟩ := by
  induction fuel generalizing opened queue order with
  | zero =>
    obtain rfl : queue = [] := List.length_eq_zero_iff.mp (by omega)
    rw [settlingOrder_nil, List.append_nil]
    exact ⟨_, .refl, rfl⟩
  | succ fuel ih =>
    cases queue with
    | nil =>
      rw [settlingOrder_nil, List.append_nil]
      exact ⟨_, .refl, rfl⟩
    | cons id queue =>
      have cost := length_after_le opened id
      simp only [List.length_cons] at enough
      obtain ⟨counts, stops⟩ :=
        ih (sound.settle forwardArcs_subset) (by rw [List.length_append]; omega)
      rw [List.append_assoc, List.singleton_append, ← settlingOrder_cons] at stops
      exact ⟨counts, stops.head sound.round⟩

/-- The arcs of the reachable nodes are counted, whatever the order in which these come. -/
theorem foldl_count_reachable (g : Graph) (starts : List String) (p : Arc → Bool) :
    ((g.reachable starts).flatMap fun id => (g.outgoing id).filter p).foldl count (fun _ => 0) =
      countOf (g.arcs.filter fun a => (g.reachable starts).contains a.source && p a) := by
  have own : (fun id => (g.outgoing id).filter p) = fun id =>
      (g.arcs.filter p).filter (·.source == id) := by
    funext id
    rw [outgoing, List.filter_comm]
  have perm := perm_flatMap_filter Arc.source (g.arcs.filter p)
    (nodup_reachable (g := g) starts)
  funext v
  rw [foldl_count, Int.zero_add, own, countOf, perm.countP_eq, List.filter_filter]
  rfl

theorem initial_eq (g : Graph) (starts : List String) :
    initial g starts = ⟨countOf (g.forwardArcs starts), g.unprecededNodes starts, []⟩ := by
  have counts : ((g.reachable starts).flatMap (onward g starts)).foldl count (fun _ => 0) =
      countOf (g.forwardArcs starts) := foldl_count_reachable g starts _
  have none : ∀ id, (countOf (g.forwardArcs starts) id == 0) =
      !(g.forwardArcs starts).any (·.target == id) := by
    intro id
    rw [Bool.eq_iff_iff, beq_iff_eq, countOf_eq_zero]
    simp
  unfold initial unprecededNodes
  simp only [counts, none]

theorem sound_initial (g : Graph) (starts : List String) :
    Sound g starts (g.forwardArcs starts) (g.forwardArcs starts) (g.unprecededNodes starts) [] where
  queued := queued_unprecededNodes g starts
  left := by simp
  reached := fun _ mem => (mem_unprecededNodes.mp mem).1

end Sorting

variable {g : Graph} {starts : List String}

theorem stops_topologicalOrder (g : Graph) (starts : List String) :
    ∃ counts, Stops (Sorting.round? g starts) (Sorting.initial g starts)
      ⟨counts, [], g.topologicalOrder starts⟩ := by
  rw [Sorting.initial_eq, topologicalOrder_eq]
  exact (Sorting.sound_initial g starts).stops (Nat.le_refl _)

theorem nodup_topologicalOrder (g : Graph) (starts : List String) :
    (g.topologicalOrder starts).Nodup :=
  nodup_settlingOrder _ (queued_unprecededNodes g starts)

/-- The loop of a topological sort stops on every graph and from all starts, with an order that has
exactly the nodes behind the starts, each once. Of an edge between two of them the source stands
before the target, unless the edge is among those that the search for cycles finds. -/
theorem topologicalOrder_exact (g : Graph) (starts : List String) :
    (∃ counts, Stops (Sorting.round? g starts) (Sorting.initial g starts)
      ⟨counts, [], g.topologicalOrder starts⟩) ∧
    (g.topologicalOrder starts).Nodup ∧
    (∀ id, id ∈ g.topologicalOrder starts ↔
      ∃ start ∈ starts, g.has start = true ∧ g.Reaches start id) ∧
    ∀ a ∈ placed g.edges, a.source ∈ g.topologicalOrder starts →
      a.target ∈ g.topologicalOrder starts → a ∉ g.backArcs starts →
      (g.topologicalOrder starts).idxOf a.source < (g.topologicalOrder starts).idxOf a.target := by
  refine ⟨stops_topologicalOrder g starts, nodup_topologicalOrder g starts,
    fun id => mem_topologicalOrder.trans mem_reachable, fun a place source target forward => ?_⟩
  have reached := mem_topologicalOrder.mp source
  have arc : a ∈ g.arcs := mem_arcs.mpr
    ⟨place, has_of_mem_reachable reached, has_of_mem_reachable (mem_topologicalOrder.mp target)⟩
  have counted := mem_forwardArcs.mpr ⟨arc, reached, forward⟩
  rw [topologicalOrder_eq] at target ⊢
  exact (idxOf_source_lt _ (queued_unprecededNodes g starts) counted target).2

end Graph

end Chatflow
