import Chatflow.Proofs.Cycle
import Chatflow.Proofs.Flow.Search
import Chatflow.Proofs.Flow.Settling
import Chatflow.Proofs.Table
import Mathlib.Order.Bounds.Defs

/-!
# The depth of a graph

The topological order lists what can be reached from some starts (`mem_topologicalOrder`). Following
it, the depths grow to the lengths of the longest paths: without cycles the depth of a graph is a
bound for all paths, and the least one (`longestDepth_le_iff`): it is the number of nodes on a
longest path (`longestDepth_isGreatest`).
-/

namespace Chatflow

namespace Graph

variable {g : Graph} {starts : List String}

inductive PathTo (g : Graph) (starts : List String) : Nat → String → Prop where
  | start {s : String} : s ∈ starts → g.has s = true → PathTo g starts 1 s
  | step {n : Nat} {u v : String} : PathTo g starts n u → g.Leads u v → PathTo g starts (n + 1) v

theorem PathTo.mem_reachable {n : Nat} {v : String} (path : g.PathTo starts n v) :
    v ∈ g.reachable starts := by
  induction path with
  | start mem has => exact Graph.mem_reachable.mpr ⟨_, mem, has, .refl⟩
  | step _ step ih =>
    obtain ⟨s, mem, has, path⟩ := Graph.mem_reachable.mp ih
    exact Graph.mem_reachable.mpr ⟨s, mem, has, path.tail step⟩

theorem PathTo.exists_isChain {n : Nat} {v : String} (path : g.PathTo starts n v) :
    ∃ start ∈ starts, g.has start = true ∧ ∃ front : List String,
      (front ++ [v]).head? = some start ∧ (front ++ [v]).IsChain g.Leads ∧
      (front ++ [v]).length = n := by
  induction path with
  | @start s mem has => exact ⟨s, mem, has, [], rfl, .singleton s, rfl⟩
  | @step n u v _ step ih =>
    obtain ⟨start, mem, has, front, head, chain, length⟩ := ih
    refine ⟨start, mem, has, front ++ [u], ?_, ?_, ?_⟩
    · rwa [List.head?_append_of_ne_nil _ (by simp)]
    · refine List.isChain_append.mpr ⟨chain, .singleton v, ?_⟩
      simpa using step
    · rw [List.length_append, length, List.length_singleton]

theorem PathTo.extend {n : Nat} {u : String} (path : g.PathTo starts n u) {rest : List String}
    (chain : (u :: rest).IsChain g.Leads) : ∃ v, g.PathTo starts (n + rest.length) v := by
  induction rest generalizing n u with
  | nil => exact ⟨u, path⟩
  | cons v rest ih =>
    obtain ⟨step, chain⟩ := List.isChain_cons_cons.mp chain
    obtain ⟨w, path⟩ := ih (path.step step) chain
    refine ⟨w, ?_⟩
    rwa [List.length_cons, Nat.add_comm rest.length, ← Nat.add_assoc]

/-- A path along arcs, given by its nodes, begins at one of the starts that are nodes. -/
structure DirectedPath (g : Graph) (starts path : List String) : Prop where
  begins : ∃ start ∈ starts, g.has start = true ∧ path.head? = some start
  linked : path.IsChain g.Leads

theorem exists_directedPath_iff {n : Nat} :
    (∃ path, g.DirectedPath starts path ∧ path.length = n) ↔ ∃ v, g.PathTo starts n v := by
  constructor
  · rintro ⟨path, ⟨⟨start, mem, has, head⟩, linked⟩, rfl⟩
    obtain ⟨rest, rfl⟩ := List.head?_eq_some_iff.mp head
    obtain ⟨v, path⟩ := (PathTo.start mem has).extend linked
    rw [List.length_cons, Nat.add_comm]
    exact ⟨v, path⟩
  · rintro ⟨v, path⟩
    obtain ⟨start, mem, has, front, head, linked, length⟩ := path.exists_isChain
    exact ⟨_, ⟨⟨start, mem, has, head⟩, linked⟩, length⟩

theorem exists_pathTo {v : String} (mem : v ∈ g.reachable starts) :
    ∃ n, 1 ≤ n ∧ g.PathTo starts n v := by
  obtain ⟨s, hs, has, path⟩ := Graph.mem_reachable.mp mem
  clear mem
  induction path with
  | refl => exact ⟨1, Nat.le_refl 1, .start hs has⟩
  | tail _ step ih =>
    obtain ⟨n, pos, path⟩ := ih
    exact ⟨n + 1, Nat.le_add_left 1 n, path.step step⟩

/-! ### The topological order -/

def unprecededNodes (g : Graph) (starts : List String) : List String :=
  (g.nodes.map FlowNode.id).filter fun id =>
    (g.reachable starts).contains id && !(g.forwardArcs starts).any (·.target == id)

theorem topologicalOrder_eq : g.topologicalOrder starts =
    settlingOrder ((g.unprecededNodes starts).length + (g.forwardArcs starts).length)
      (g.forwardArcs starts) (g.unprecededNodes starts) := rfl

theorem mem_unprecededNodes {v : String} : v ∈ g.unprecededNodes starts ↔
    v ∈ g.reachable starts ∧ ∀ a ∈ g.forwardArcs starts, a.target ≠ v := by
  have node : v ∈ g.reachable starts → v ∈ g.nodes.map FlowNode.id := fun mem =>
    has_iff.mp (has_of_mem_reachable mem)
  simp only [unprecededNodes, List.mem_filter, Bool.and_eq_true, List.contains_iff_mem,
    Bool.not_eq_true', List.any_eq_false, beq_iff_eq]
  exact ⟨fun mem => mem.2, fun mem => ⟨node mem.1, mem⟩⟩

theorem queued_unprecededNodes (g : Graph) (starts : List String) :
    Queued (g.forwardArcs starts) (g.unprecededNodes starts) where
  nodup := g.distinct.filter _
  free := fun _ mem => (mem_unprecededNodes.mp mem).2

/-- A node that can be reached and that the order misses stands behind another such node. -/
theorem exists_unlisted_before {v : String} (reached : v ∈ g.reachable starts)
    (unlisted : v ∉ g.topologicalOrder starts) :
    ∃ u ∈ g.reachable starts, u ∉ g.topologicalOrder starts ∧ g.Forward starts u v := by
  rw [topologicalOrder_eq,
    mem_settlingOrder_iff (queued_unprecededNodes g starts) (Nat.le_refl _), not_or,
    mem_unprecededNodes, ← topologicalOrder_eq] at unlisted
  obtain ⟨preceded, waits⟩ := unlisted
  push Not at preceded waits
  obtain ⟨a, ha, target, source⟩ := waits (preceded reached)
  exact ⟨a.source, (reachable_of_mem_forwardArcs ha).1, source, a, ha, rfl, target⟩

theorem mem_topologicalOrder {v : String} :
    v ∈ g.topologicalOrder starts ↔ v ∈ g.reachable starts := by
  constructor
  · intro mem
    rcases queued_or_target _ _ _ mem with waiting | ⟨a, ha, rfl⟩
    · exact (mem_unprecededNodes.mp waiting).1
    · exact (reachable_of_mem_forwardArcs ha).2
  · intro reached
    by_contra unlisted
    -- Each missing node would have a missing one before it, and so there would be a cycle.
    let missing := (g.reachable starts).filter (· ∉ g.topologicalOrder starts)
    have mem_missing : ∀ {u}, u ∈ missing ↔
        u ∈ g.reachable starts ∧ u ∉ g.topologicalOrder starts := by
      intro u
      rw [List.mem_filter, decide_eq_true_iff]
    have before : ∀ w ∈ missing, ∃ u ∈ missing, g.Forward starts u w := by
      intro w hw
      obtain ⟨reached, unlisted⟩ := mem_missing.mp hw
      obtain ⟨u, source, first, forward⟩ := exists_unlisted_before reached unlisted
      exact ⟨u, mem_missing.mpr ⟨source, first⟩, forward⟩
    obtain ⟨c, around, -⟩ := exists_cycle_before before (mem_missing.mpr ⟨reached, unlisted⟩)
    exact not_transGen_forward g starts c around

/-! ### Depths -/

def Realized (g : Graph) (starts : List String) (depths : Table String Nat) : Prop :=
  ∀ e ∈ depths, ∃ n, e.2 ≤ n ∧ g.PathTo starts n e.1

/-- The nodes that were extended have depths, and a node behind one of them has a greater depth. -/
structure Extended (arcs : List Arc) (done : List String) (depths : Table String Nat) : Prop where
  positive : ∀ id k, depths.get? id = some k → 1 ≤ k
  known : ∀ id ∈ done, ∃ k, depths.get? id = some k
  grows : ∀ a ∈ arcs, a.source ∈ done →
    ∃ k m, k < m ∧ depths.get? a.source = some k ∧ depths.get? a.target = some m

theorem get?_foldl_deepen (depth : Nat) (arcs : List Arc) (depths : Table String Nat) (v : String) :
    Table.get? (arcs.foldl (deepen depth) depths) v =
      if ∃ a ∈ arcs, a.target = v then some (max ((depths.get? v).getD 1) (depth + 1))
      else depths.get? v := by
  induction arcs generalizing depths with
  | nil => simp
  | cons a arcs ih =>
    rw [List.foldl_cons, ih, deepen, Table.get?_put]
    by_cases own : v = a.target
    · simp [own]
    · simp [own, Ne.symm own]

theorem Realized.put {depths : Table String Nat} (realized : g.Realized starts depths) {id : String}
    {depth n : Nat} (le : depth ≤ n) (path : g.PathTo starts n id) :
    g.Realized starts (depths.put id depth) := by
  intro e mem
  rcases Table.mem_put mem with old | rfl
  · exact realized e old
  · exact ⟨n, le, path⟩

theorem Realized.getD {depths : Table String Nat} (realized : g.Realized starts depths)
    {id : String}
    (mem : id ∈ g.reachable starts) :
    ∃ n, (depths.get? id).getD 1 ≤ n ∧ g.PathTo starts n id := by
  cases found : depths.get? id with
  | some depth => exact realized _ (Table.mem_of_get? found)
  | none => exact exists_pathTo mem

theorem Realized.foldl_deepen {depths : Table String Nat} (realized : g.Realized starts depths)
    {id : String} {depth n : Nat} (le : depth ≤ n) (path : g.PathTo starts n id) {arcs : List Arc}
    (own : ∀ a ∈ arcs, g.Leads id a.target) :
    g.Realized starts (arcs.foldl (deepen depth) depths) := by
  induction arcs generalizing depths with
  | nil => exact realized
  | cons a arcs ih =>
    have onward := path.step (own a List.mem_cons_self)
    refine ih ?_ fun b hb => own b (List.mem_cons_of_mem a hb)
    obtain ⟨m, le', path'⟩ := realized.getD onward.mem_reachable
    rcases Nat.le_total ((depths.get? a.target).getD 1) (depth + 1) with less | more
    · rw [deepen, Nat.max_eq_right less]
      exact realized.put (Nat.succ_le_succ le) onward
    · rw [deepen, Nat.max_eq_left more]
      exact realized.put le' path'

theorem Realized.extend {depths : Table String Nat} (realized : g.Realized starts depths)
    {id : String} (mem : id ∈ g.reachable starts) :
    g.Realized starts (extendDepths (g.forwardArcs starts) depths id) := by
  obtain ⟨n, le, path⟩ := realized.getD mem
  refine (realized.put le path).foldl_deepen le path fun a ha => ?_
  obtain ⟨ha, source⟩ := List.mem_filter.mp ha
  exact ⟨a, (mem_forwardArcs.mp ha).1, by simpa using source, rfl⟩

theorem get?_extendDepths (arcs : List Arc) (depths : Table String Nat) (id v : String) :
    (extendDepths arcs depths id).get? v =
      if ∃ a ∈ arcs, a.source = id ∧ a.target = v then
        some (max (((depths.put id ((depths.get? id).getD 1)).get? v).getD 1)
          ((depths.get? id).getD 1 + 1))
      else (depths.put id ((depths.get? id).getD 1)).get? v := by
  unfold extendDepths
  rw [get?_foldl_deepen]
  simp only [List.mem_filter, beq_iff_eq, and_assoc]

section

variable {arcs : List Arc} {depths : Table String Nat} {id v : String}

theorem exists_get?_extendDepths (arcs : List Arc) (id : String) {m : Nat}
    (found : depths.get? v = some m) :
    ∃ m', m ≤ m' ∧ (extendDepths arcs depths id).get? v = some m' := by
  have still : (depths.put id ((depths.get? id).getD 1)).get? v = some m := by
    rw [Table.get?_put]
    split
    · rename_i same
      rw [← same, found, Option.getD_some]
    · exact found
  rw [get?_extendDepths, still]
  split
  · exact ⟨_, Nat.le_max_left m _, rfl⟩
  · exact ⟨m, Nat.le_refl m, rfl⟩

/-- A node keeps its depth if no arc leads to it from the node that is extended. -/
theorem get?_extendDepths_of_ne (apart : ∀ a ∈ arcs, a.target = v → a.source ≠ id) :
    (extendDepths arcs depths id).get? v =
      if v = id then some ((depths.get? id).getD 1) else depths.get? v := by
  rw [get?_extendDepths, if_neg, Table.get?_put]
  rintro ⟨a, ha, source, target⟩
  exact apart a ha target source

/-- A node behind the one that is extended gets a greater depth. -/
theorem exists_get?_extendDepths_target (depths : Table String Nat) {a : Arc} (ha : a ∈ arcs)
    (source : a.source = id) :
    ∃ m, (depths.get? id).getD 1 < m ∧ (extendDepths arcs depths id).get? a.target = some m := by
  rw [get?_extendDepths, if_pos ⟨a, ha, source, rfl⟩]
  exact ⟨_, Nat.lt_of_lt_of_le (Nat.lt_succ_self _) (Nat.le_max_right _ _), rfl⟩

variable {done : List String}

theorem Extended.one_le_getD (extended : Extended arcs done depths) :
    1 ≤ (depths.get? id).getD 1 := by
  cases found : depths.get? id with
  | none => exact Nat.le_refl 1
  | some depth => exact extended.positive id depth found

theorem Extended.extend (extended : Extended arcs done depths) (new : id ∉ done)
    (before : ∀ a ∈ arcs, a.target ∈ id :: done → a.source ∈ done) :
    Extended arcs (id :: done) (extendDepths arcs depths id) := by
  -- What was extended, and the node itself, keep their depths: no arc leads back to them.
  have kept : ∀ v ∈ id :: done, (extendDepths arcs depths id).get? v =
      if v = id then some ((depths.get? id).getD 1) else depths.get? v := by
    intro v hv
    refine get?_extendDepths_of_ne ?_
    rintro a ha rfl source
    exact new (source ▸ before a ha hv)
  constructor
  · intro v k found
    rw [get?_extendDepths, Table.get?_put] at found
    split at found
    · obtain rfl := Option.some.inj found
      exact Nat.le_trans (Nat.le_add_left 1 _) (Nat.le_max_right _ _)
    · split at found
      · exact Option.some.inj found ▸ extended.one_le_getD
      · exact extended.positive v k found
  · intro v hv
    rw [kept v hv]
    split
    · exact ⟨_, rfl⟩
    · rename_i other
      exact extended.known v ((List.mem_cons.mp hv).resolve_left other)
  · intro a ha source
    rcases List.mem_cons.mp source with own | earlier
    · obtain ⟨m, less, target⟩ := exists_get?_extendDepths_target depths ha own
      exact ⟨_, m, less, by rw [kept _ source, if_pos own], target⟩
    · obtain ⟨k, m, less, sourceDepth, targetDepth⟩ := extended.grows a ha earlier
      obtain ⟨m', le, targetDepth⟩ := exists_get?_extendDepths arcs id targetDepth
      refine ⟨k, m', Nat.lt_of_lt_of_le less le, ?_, targetDepth⟩
      have other : a.source ≠ id := fun same => new (same ▸ earlier)
      rw [kept _ source, if_neg other, sourceDepth]

end

def finalDepths (g : Graph) (starts : List String) : Table String Nat :=
  (g.topologicalOrder starts).foldl (extendDepths (g.forwardArcs starts)) []

theorem realized_finalDepths (g : Graph) (starts : List String) :
    g.Realized starts (g.finalDepths starts) := by
  have reached : ∀ id ∈ g.topologicalOrder starts, id ∈ g.reachable starts := fun _ mem =>
    mem_topologicalOrder.mp mem
  have empty : g.Realized starts [] := fun _ mem => absurd mem List.not_mem_nil
  unfold finalDepths
  generalize ([] : Table String Nat) = depths at empty
  generalize g.topologicalOrder starts = order at reached
  induction order generalizing depths with
  | nil => exact empty
  | cons id order ih =>
    exact ih _ (empty.extend (reached id List.mem_cons_self))
      fun v hv => reached v (List.mem_cons_of_mem id hv)

theorem extended_finalDepths (g : Graph) (starts : List String) :
    Extended (g.forwardArcs starts) (g.topologicalOrder starts).reverse (g.finalDepths starts) := by
  have queued := queued_unprecededNodes g starts
  have nodup := nodup_settlingOrder
    ((g.unprecededNodes starts).length + (g.forwardArcs starts).length) queued
  have blank : Extended (g.forwardArcs starts) [] [] := ⟨by simp, by simp, by simp⟩
  -- By induction on the part of the order that is done.
  suffices ∀ done rest, g.topologicalOrder starts = done ++ rest →
      Extended (g.forwardArcs starts) done.reverse
        (done.foldl (extendDepths (g.forwardArcs starts)) []) from
    this _ [] (List.append_nil _).symm
  intro done
  induction done using List.reverseRecOn with
  | nil => exact fun _ _ => blank
  | append_singleton done id ih =>
    intro rest order
    rw [List.append_assoc, List.singleton_append] at order
    rw [← topologicalOrder_eq, order] at nodup
    have new : id ∉ done := fun again =>
      (List.nodup_append.mp nodup).2.2 id again id List.mem_cons_self rfl
    rw [List.reverse_append, List.reverse_singleton, List.singleton_append, List.foldl_append]
    refine (ih _ order).extend (by simpa using new) fun a ha target => ?_
    rw [List.mem_reverse]
    rcases List.mem_cons.mp target with this | earlier
    · exact source_mem_of_append _ queued order ha this
    · obtain ⟨front, back, split⟩ := List.append_of_mem (List.mem_reverse.mp earlier)
      rw [split, List.append_assoc, List.cons_append] at order
      rw [split]
      exact List.mem_append_left _ (source_mem_of_append _ queued order ha rfl)

theorem foldl_max_le {l : List Nat} {a m : Nat} :
    l.foldl max a ≤ m ↔ a ≤ m ∧ ∀ k ∈ l, k ≤ m := by
  induction l generalizing a with
  | nil => simp
  | cons k l ih => simp [ih, and_assoc]

theorem longestDepth_le_iff_pathTo (acyclic : g.backArcs starts = []) {m : Nat} :
    g.longestDepth starts ≤ m ↔ ∀ n v, g.PathTo starts n v → n ≤ m := by
  have extended := extended_finalDepths g starts
  have listed : ∀ {n v}, g.PathTo starts n v → v ∈ (g.topologicalOrder starts).reverse :=
    fun path => List.mem_reverse.mpr (mem_topologicalOrder.mpr path.mem_reachable)
  have covered : ∀ n v, g.PathTo starts n v →
      ∃ k, n ≤ k ∧ (g.finalDepths starts).get? v = some k := by
    intro n v path
    induction path with
    | start mem has =>
      obtain ⟨k, found⟩ := extended.known _ (listed (.start mem has))
      exact ⟨k, extended.positive _ k found, found⟩
    | step path step ih =>
      obtain ⟨a, mem, rfl, rfl⟩ := step
      have forward : a ∈ g.forwardArcs starts :=
        mem_forwardArcs.mpr ⟨mem, path.mem_reachable, by simp [acyclic]⟩
      obtain ⟨k, le, found⟩ := ih
      obtain ⟨k', m, less, source, target⟩ := extended.grows a forward (listed path)
      obtain rfl : k = k' := Option.some.inj (found.symm.trans source)
      exact ⟨m, Nat.lt_of_le_of_lt le less, target⟩
  change ((g.finalDepths starts).map (·.2)).foldl max 0 ≤ m ↔ _
  rw [foldl_max_le]
  constructor
  · rintro ⟨-, bounded⟩ n v path
    obtain ⟨k, le, found⟩ := covered n v path
    exact le.trans (bounded k (List.mem_map.mpr ⟨_, Table.mem_of_get? found, rfl⟩))
  · intro bounded
    refine ⟨Nat.zero_le m, fun k mem => ?_⟩
    obtain ⟨e, he, rfl⟩ := List.mem_map.mp mem
    obtain ⟨n, le, path⟩ := realized_finalDepths g starts e he
    exact le.trans (bounded n _ path)

/-- Without cycles the depth of a graph is the number of nodes on its longest paths from the
starts. -/
theorem longestDepth_le_iff (acyclic : g.backArcs starts = [])
    (nodes : ∀ s ∈ starts, g.has s = true) {m : Nat} :
    g.longestDepth starts ≤ m ↔
      ∀ start ∈ starts, ∀ path : List String, path.head? = some start → path.IsChain g.Leads →
        path.length ≤ m := by
  rw [longestDepth_le_iff_pathTo acyclic]
  constructor
  · intro bounded start mem path head linked
    have own : g.DirectedPath starts path := ⟨⟨start, mem, nodes start mem, head⟩, linked⟩
    obtain ⟨v, path⟩ := exists_directedPath_iff.mp ⟨path, own, rfl⟩
    exact bounded _ v path
  · intro bounded n v path
    obtain ⟨own, ⟨⟨start, mem, -, head⟩, linked⟩, rfl⟩ := exists_directedPath_iff.mpr ⟨v, path⟩
    exact bounded start mem own head linked

/-! ### Longest paths -/

/-- Where no cycle can be reached, the depth of a graph from some starts is the number of nodes on
the longest paths from those of the starts that are nodes, and it is zero if none of them is. -/
theorem longestDepth_isGreatest (g : Graph) (starts : List String)
    (acyclic : ∀ start ∈ starts, g.has start = true → ∀ id, g.Reaches start id → ¬g.OnCycle id) :
    ((∃ start ∈ starts, g.has start = true) →
      IsGreatest {n | ∃ path, g.DirectedPath starts path ∧ path.length = n}
        (g.longestDepth starts)) ∧
    ((∀ start ∈ starts, g.has start = false) → g.longestDepth starts = 0) := by
  have none : g.backArcs starts = [] := backArcs_eq_nil_iff.mpr fun id reached => by
    obtain ⟨start, mem, has, path⟩ := mem_reachable.mp reached
    exact acyclic start mem has id path
  have bounded : ∀ n v, g.PathTo starts n v → n ≤ g.longestDepth starts :=
    (longestDepth_le_iff_pathTo none).mp (Nat.le_refl _)
  constructor
  · rintro ⟨start, mem, has⟩
    constructor
    · -- A smaller number is no bound.
      have positive : 1 ≤ g.longestDepth starts := bounded 1 start (.start mem has)
      have exceeded : ¬g.longestDepth starts ≤ g.longestDepth starts - 1 := by omega
      rw [longestDepth_le_iff_pathTo none] at exceeded
      push Not at exceeded
      obtain ⟨n, v, path, greater⟩ := exceeded
      have same : n = g.longestDepth starts := by
        have le := bounded n v path
        omega
      exact exists_directedPath_iff.mpr ⟨v, same ▸ path⟩
    · intro n paths
      obtain ⟨v, path⟩ := exists_directedPath_iff.mp paths
      exact bounded n v path
  · intro absent
    refine Nat.le_zero.mp ((longestDepth_le_iff_pathTo none).mpr fun n v path => ?_)
    obtain ⟨start, mem, has, -⟩ := path.exists_isChain
    rw [absent start mem] at has
    cases has

def bypass : Flow where
  nodes := [⟨"a", .trigger, "DM", "", []⟩, ⟨"b", .action, "MESSAGE", "", []⟩,
    ⟨"c", .action, "MESSAGE", "", []⟩]
  edges := [⟨none, "a", "c", none⟩, ⟨none, "a", "b", none⟩, ⟨none, "a", "b", none⟩,
    ⟨none, "b", "c", none⟩]

/-- The longest path has all three nodes, also if it passes another start and a third start is no
node. -/
theorem bypass_isGreatest :
    (∀ start ∈ ["b", "a", "x"], (ofFlow bypass).has start = true →
      ∀ id, (ofFlow bypass).Reaches start id → ¬(ofFlow bypass).OnCycle id) ∧
    (ofFlow bypass).has "a" = true ∧ (ofFlow bypass).has "x" = false ∧
    (ofFlow bypass).longestDepth ["b", "a", "x"] = 3 ∧
    IsGreatest
      {n | ∃ path, (ofFlow bypass).DirectedPath ["b", "a", "x"] path ∧ path.length = n} 3 := by
  have none : (ofFlow bypass).backArcs ["b", "a", "x"] = [] := by decide
  have acyclic : ∀ start ∈ ["b", "a", "x"], (ofFlow bypass).has start = true →
      ∀ id, (ofFlow bypass).Reaches start id → ¬(ofFlow bypass).OnCycle id :=
    fun start mem has id path =>
      backArcs_eq_nil_iff.mp none id (mem_reachable.mpr ⟨start, mem, has, path⟩)
  have node : (ofFlow bypass).has "a" = true := by decide
  have depth : (ofFlow bypass).longestDepth ["b", "a", "x"] = 3 := by decide
  have greatest :=
    (longestDepth_isGreatest (ofFlow bypass) ["b", "a", "x"] acyclic).1 ⟨"a", by simp, node⟩
  rw [depth] at greatest
  exact ⟨acyclic, node, by decide, depth, greatest⟩

end Graph

end Chatflow
