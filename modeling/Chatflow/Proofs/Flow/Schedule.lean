import Chatflow.Proofs.Cycle
import Chatflow.Proofs.Flow.Settling

/-!
# The nodes that a run settles

A run waits at each node for all arcs that lead to it from somewhere it can come to. It gets to
every reachable node but for those on a cycle of two or more nodes without the start, and those
behind such a cycle (`mem_runOrder_iff`).
-/

namespace Chatflow

open Relation (ReflTransGen TransGen)

namespace Graph

variable (g : Graph) (start : String)

/-- A path that does not come back to the start. -/
def ReachesOff : String → String → Prop := ReflTransGen fun u v => g.Leads u v ∧ v ≠ start

/-- A node on a cycle of two or more nodes without the start, or behind it on a path that does not
come back to the start. -/
def Blocked (v : String) : Prop :=
  ∃ first rest, IsCycle g.Leads first rest ∧ rest ≠ [] ∧ start ∉ first :: rest ∧
    g.Reaches start first ∧ g.ReachesOff start first v

/-- An arc that a run from the start waits for. -/
def RunStep (u v : String) : Prop := ∃ a ∈ g.runArcs start, a.source = u ∧ a.target = v

variable {g start}

theorem mem_runArcs (has : g.has start = true) {a : Arc} :
    a ∈ g.runArcs start ↔
      a ∈ g.arcs ∧ g.Reaches start a.source ∧ a.target ≠ start ∧ a.target ≠ a.source := by
  simp [runArcs, mem_reachable_singleton has, and_assoc]

theorem runStep_iff (has : g.has start = true) {u v : String} :
    g.RunStep start u v ↔ g.Leads u v ∧ g.Reaches start u ∧ v ≠ start ∧ v ≠ u := by
  constructor
  · rintro ⟨a, mem, rfl, rfl⟩
    obtain ⟨mem, reach, off, other⟩ := (mem_runArcs has).mp mem
    exact ⟨leads_of_mem mem, reach, off, other⟩
  · rintro ⟨⟨a, mem, rfl, rfl⟩, reach, off, other⟩
    exact ⟨a, (mem_runArcs has).mpr ⟨mem, reach, off, other⟩, rfl, rfl⟩

theorem queued_start : Queued (g.runArcs start) [start] where
  nodup := List.nodup_singleton start
  free := by
    intro id hid a mem
    obtain rfl := List.mem_singleton.mp hid
    have kept := (List.mem_filter.mp mem).2
    simp only [Bool.and_eq_true, bne_iff_ne] at kept
    exact kept.1.2

theorem settlingOrder_runArcs (g : Graph) (start : String) :
    settlingOrder (1 + (g.runArcs start).length) (g.runArcs start) [start] =
      start :: g.runOrder start := by
  rw [runOrder, Nat.add_comm, settlingOrder_cons, List.tail_cons]

theorem nodup_runOrder (g : Graph) (start : String) : (start :: g.runOrder start).Nodup := by
  rw [← settlingOrder_runArcs]
  exact nodup_settlingOrder _ queued_start

theorem start_not_mem_runOrder : start ∉ g.runOrder start :=
  (List.nodup_cons.mp (nodup_runOrder g start)).1

theorem reaches_of_mem_runOrder (has : g.has start = true) {v : String}
    (mem : v ∈ g.runOrder start) : g.Reaches start v := by
  have settled := List.mem_cons_of_mem start mem
  rw [← settlingOrder_runArcs] at settled
  rcases queued_or_target _ _ _ settled with waiting | ⟨a, ha, rfl⟩
  · exact List.mem_singleton.mp waiting ▸ .refl
  · obtain ⟨inside, reach, -⟩ := (mem_runArcs has).mp ha
    exact .tail reach (leads_of_mem inside)

/-- A node comes after all other nodes from which an arc leads to it, as far as the start reaches
them. -/
theorem source_mem_runOrder (has : g.has start = true) {before after : List String} {u v : String}
    (order : g.runOrder start = before ++ v :: after) (step : g.Leads u v)
    (reach : g.Reaches start u) (ne : u ≠ v) : u ∈ start :: before := by
  have other : v ≠ start := by
    rintro rfl
    exact start_not_mem_runOrder (by rw [order]; simp)
  obtain ⟨a, mem, rfl, rfl⟩ := (runStep_iff has).mpr ⟨step, reach, other, ne.symm⟩
  have whole := settlingOrder_runArcs g start
  rw [order, ← List.cons_append] at whole
  exact source_mem_of_append _ queued_start whole mem rfl

/-! ### Nodes that are never settled -/

theorem mem_runOrder_of_runStep {u v : String} (step : g.RunStep start u v)
    (mem : v ∈ start :: g.runOrder start) :
    u ∈ start :: g.runOrder start ∧
      (start :: g.runOrder start).idxOf u < (start :: g.runOrder start).idxOf v := by
  obtain ⟨a, ha, rfl, rfl⟩ := step
  rw [← settlingOrder_runArcs] at mem ⊢
  exact idxOf_source_lt _ queued_start ha mem

/-- Nothing behind a cycle of steps is settled. -/
theorem not_mem_of_transGen {c v : String} (around : TransGen (g.RunStep start) c c)
    (path : ReflTransGen (g.RunStep start) c v) : v ∉ start :: g.runOrder start := by
  have upTo : ∀ {u w}, ReflTransGen (g.RunStep start) u w → w ∈ start :: g.runOrder start →
      u ∈ start :: g.runOrder start := by
    intro u w path
    induction path with
    | refl => exact id
    | tail _ step ih => exact fun mem => ih (mem_runOrder_of_runStep step mem).1
  have earlier : ∀ {u w}, TransGen (g.RunStep start) u w → w ∈ start :: g.runOrder start →
      (start :: g.runOrder start).idxOf u < (start :: g.runOrder start).idxOf w := by
    intro u w path
    induction path with
    | single step => exact fun mem => (mem_runOrder_of_runStep step mem).2
    | tail _ step ih =>
      intro mem
      have ⟨before, less⟩ := mem_runOrder_of_runStep step mem
      exact (ih before).trans less
  exact fun mem => Nat.lt_irrefl _ (earlier around (upTo path mem))

theorem exists_runStep (has : g.has start = true) {v : String} (reach : g.Reaches start v)
    (ne : v ≠ start) : ∃ u, g.RunStep start u v := by
  induction reach with
  | refl => exact absurd rfl ne
  | @tail u w path step ih =>
    by_cases same : w = u
    · exact same ▸ ih (same ▸ ne)
    · exact ⟨u, (runStep_iff has).mpr ⟨step, path, ne, same⟩⟩

/-- A reachable node is settled unless it is behind a cycle of steps. -/
theorem mem_or_exists_transGen (has : g.has start = true) {v : String}
    (reach : g.Reaches start v) :
    v ∈ start :: g.runOrder start ∨
      ∃ c, TransGen (g.RunStep start) c c ∧ ReflTransGen (g.RunStep start) c v := by
  rw [or_iff_not_imp_left]
  intro unsettled
  let waiting := (g.reachable [start]).filter (· ∉ start :: g.runOrder start)
  have mem_waiting : ∀ {u}, u ∈ waiting ↔ g.Reaches start u ∧ u ∉ start :: g.runOrder start := by
    intro u
    rw [List.mem_filter, mem_reachable_singleton has, decide_eq_true_iff]
  refine exists_cycle_before ?_ (mem_waiting.mpr ⟨reach, unsettled⟩)
  -- What waits for settled nodes only is settled itself.
  intro w hw
  obtain ⟨reach, unsettled⟩ := mem_waiting.mp hw
  by_contra none
  apply unsettled
  have ne : w ≠ start := fun eq => unsettled (eq ▸ List.mem_cons_self)
  rw [← settlingOrder_runArcs,
    mem_settlingOrder_iff queued_start (by rw [List.length_singleton]), settlingOrder_runArcs]
  obtain ⟨u, a, mem, -, target⟩ := exists_runStep has reach ne
  refine .inr ⟨⟨a, mem, target⟩, fun a mem target => ?_⟩
  by_contra open'
  have step : g.RunStep start a.source w := ⟨a, mem, rfl, target⟩
  exact none ⟨a.source, mem_waiting.mpr ⟨((runStep_iff has).mp step).2.1, open'⟩, step⟩

/-! ### Cycles of steps -/

/-- A path without two equal neighbours that stays off the start takes steps only. -/
theorem isChain_runStep (has : g.has start = true) {u : String} {path : List String}
    (reach : g.Reaches start u) (chain : (u :: path).IsChain g.Leads)
    (differ : (u :: path).IsChain (· ≠ ·)) (off : start ∉ path) :
    (u :: path).IsChain (g.RunStep start) := by
  induction path generalizing u with
  | nil => exact .singleton u
  | cons v path ih =>
    obtain ⟨step, chain⟩ := List.isChain_cons_cons.mp chain
    obtain ⟨ne, differ⟩ := List.isChain_cons_cons.mp differ
    obtain ⟨other, off⟩ := not_or.mp (mt List.mem_cons.mpr off)
    exact .cons_cons ((runStep_iff has).mpr ⟨step, reach, Ne.symm other, ne.symm⟩)
      (ih (reach.tail step) chain differ off)

theorem transGen_of_isCycle (has : g.has start = true) {first : String} {rest : List String}
    (cycle : IsCycle g.Leads first rest) (more : rest ≠ []) (off : start ∉ first :: rest)
    (reach : g.Reaches start first) : TransGen (g.RunStep start) first first := by
  have differ : (first :: rest ++ [first]).IsChain (· ≠ ·) := by
    refine List.isChain_append.mpr ⟨cycle.distinct.isChain, .singleton first, ?_⟩
    intro last hlast again hagain
    obtain rfl : again = first := by simpa [eq_comm] using hagain
    rintro rfl
    rw [List.getLast?_cons_of_ne_nil more] at hlast
    exact (List.nodup_cons.mp cycle.distinct).1 (List.mem_of_getLast? hlast)
  refine transGen_of_isChain (isChain_runStep has reach cycle.closed differ ?_) (by simp)
  simp only [List.mem_cons, not_or] at off
  simp [off]

/-- On a path that does not come back to the start, a run takes all steps but those that stay where
they are. -/
theorem reflTransGen_runStep (has : g.has start = true) {u v : String}
    (reach : g.Reaches start u) (path : g.ReachesOff start u v) :
    ReflTransGen (g.RunStep start) u v := by
  have both : g.Reaches start v ∧ ReflTransGen (g.RunStep start) u v := by
    induction path with
    | refl => exact ⟨reach, .refl⟩
    | @tail w x _ step ih =>
      refine ⟨ih.1.tail step.1, ?_⟩
      by_cases same : x = w
      · exact same ▸ ih.2
      · exact ih.2.tail ((runStep_iff has).mpr ⟨step.1, ih.1, step.2, same⟩)
  exact both.2

theorem blocked_iff (has : g.has start = true) {v : String} :
    g.Blocked start v ↔
      ∃ c, TransGen (g.RunStep start) c c ∧ ReflTransGen (g.RunStep start) c v := by
  constructor
  · rintro ⟨first, rest, cycle, more, off, reach, path⟩
    exact ⟨first, transGen_of_isCycle has cycle more off reach, reflTransGen_runStep has reach path⟩
  · rintro ⟨c, around, path⟩
    obtain ⟨rest, cycle⟩ := exists_isCycle around
    have leads : ∀ {u w}, g.RunStep start u w → g.Leads u w := fun step =>
      ((runStep_iff has).mp step).1
    refine ⟨c, rest, ⟨cycle.distinct, cycle.closed.imp fun _ _ => leads⟩, ?_, ?_, ?_, ?_⟩
    · rintro rfl
      obtain ⟨step, -⟩ := List.isChain_cons_cons.mp cycle.closed
      exact ((runStep_iff has).mp step).2.2.2 rfl
    · intro mem
      -- Each node of the cycle is one that a step leads to, and no step leads to the start.
      have target : start ∈ rest ++ [c] := by
        simpa [or_comm] using mem
      obtain ⟨_, _, step⟩ := TransGen.tail'_iff.mp (transGen_of_isChain cycle.closed target)
      exact ((runStep_iff has).mp step).2.2.1 rfl
    · obtain ⟨_, step, _⟩ := TransGen.head'_iff.mp around
      exact ((runStep_iff has).mp step).2.1
    · refine ReflTransGen.mono ?_ _ _ path
      exact fun _ _ step => ⟨leads step, ((runStep_iff has).mp step).2.2.1⟩

/-- A run gets to a reachable node other than its start exactly if no cycle blocks the node. -/
theorem mem_runOrder_iff (has : g.has start = true) {v : String} (reach : g.Reaches start v)
    (ne : v ≠ start) : v ∈ g.runOrder start ↔ ¬g.Blocked start v := by
  rw [blocked_iff has]
  constructor
  · rintro mem ⟨c, around, path⟩
    exact not_mem_of_transGen around path (List.mem_cons_of_mem start mem)
  · intro free
    have settled := (mem_or_exists_transGen has reach).resolve_right free
    exact (List.mem_cons.mp settled).resolve_left ne

/-! ### Runs without cycles -/

def AcyclicFrom (g : Graph) (start : String) : Prop :=
  ∀ first rest, IsCycle g.Leads first rest → ¬g.Reaches start first

theorem AcyclicFrom.not_blocked (acyclic : g.AcyclicFrom start) (v : String) :
    ¬g.Blocked start v := by
  rintro ⟨first, rest, cycle, -, -, path, -⟩
  exact acyclic first rest cycle path

/-- Two nodes without a cycle do not lead to each other. -/
theorem AcyclicFrom.eq_of_reaches (acyclic : g.AcyclicFrom start) {u v : String}
    (reach : g.Reaches start u) (forth : g.Reaches u v) (back : g.Reaches v u) : u = v := by
  rcases Relation.reflTransGen_iff_eq_or_transGen.mp forth with same | onward
  · exact same.symm
  · obtain ⟨rest, cycle⟩ := exists_isCycle (onward.trans_left back)
    exact absurd reach (acyclic u rest cycle)

/-- A run without cycles comes to all nodes that it reaches. -/
theorem AcyclicFrom.mem_runOrder (acyclic : g.AcyclicFrom start) (has : g.has start = true)
    {v : String} (reach : g.Reaches start v) (ne : v ≠ start) : v ∈ g.runOrder start :=
  (mem_runOrder_iff has reach ne).mpr (acyclic.not_blocked v)

/-- A run without cycles comes to a node after all others that lead to it. -/
theorem AcyclicFrom.mem_before (acyclic : g.AcyclicFrom start) (has : g.has start = true)
    {before after : List String} {u v : String}
    (order : g.runOrder start = before ++ v :: after) (reach : g.Reaches start u)
    (path : g.Reaches u v) (ne : u ≠ v) : u ∈ start :: before := by
  induction path generalizing before after with
  | refl => exact absurd rfl ne
  | @tail v w path step ih =>
    by_cases last : v = w
    · exact ih (last ▸ order) (last ▸ ne)
    · have earlier := source_mem_runOrder has order step (reach.trans path) last
      by_cases same : u = v
      · exact same ▸ earlier
      · rcases List.mem_cons.mp earlier with rfl | mem
        · exact absurd (acyclic.eq_of_reaches reach path reach) same
        · obtain ⟨front, rest, rfl⟩ := List.append_of_mem mem
          rw [List.append_assoc] at order
          rcases List.mem_cons.mp (ih order same) with start | mem
          · exact start ▸ List.mem_cons_self
          · exact List.mem_cons_of_mem _ (List.mem_append_left _ mem)

/-! ### The visited nodes -/

theorem ids_runNodes (has : g.has start = true) :
    (g.runNodes start).map FlowNode.id = g.runOrder start := by
  have found : ∀ id ∈ g.runOrder start, ∃ n, g.get? id = some n := fun id mem =>
    exists_get? ((reaches_of_mem_runOrder has mem).has has)
  unfold runNodes
  generalize g.runOrder start = order at found
  induction order with
  | nil => rfl
  | cons id rest ih =>
    obtain ⟨n, eq⟩ := found id List.mem_cons_self
    rw [List.filterMap_cons_some eq, List.map_cons, get?_id eq,
      ih fun id mem => found id (List.mem_cons_of_mem _ mem)]

theorem mem_of_mem_runNodes {n : FlowNode} (mem : n ∈ g.runNodes start) : n ∈ g.nodes := by
  obtain ⟨id, -, found⟩ := List.mem_filterMap.mp mem
  exact mem_of_get? found

end Graph

end Chatflow
