import Chatflow.Proofs.Flow.Search
import Mathlib.Data.List.Chain

/-!
# Arcs that close cycles

The depth-first search as a loop: the path with the arcs that are still to be followed from each of
its nodes is kept on a stack. The loop stops on every graph and finds what the recursive search
finds (`stops_backArcs`), namely arcs that close cycles, one for every cycle behind the starts
(`backArcs_exact`).
-/

namespace Chatflow

namespace Graph

/-- A search between two rounds of its loop: the starts that are left, the path from its innermost
node on, each node with the arcs that are still to be followed from it, and what was found. -/
structure Suspended where
  starts : List String
  path : List (String × List Arc)
  search : Search

namespace Suspended

variable (g : Graph)

/-- The innermost node of a path follows its next arc. The target of the arc may be on the path or
entered before, and else it is entered. -/
def follow (starts : List String) (path : List (String × List Arc)) (s : Search) (arc : Arc) :
    Suspended :=
  if (path.map Prod.fst).contains arc.target then ⟨starts, path, { s with back := s.back ++ [arc] }⟩
  else if s.entered.contains arc.target then ⟨starts, path, s⟩
  else
    ⟨starts, (arc.target, g.outgoing arc.target) :: path,
      { s with entered := arc.target :: s.entered }⟩

/-- A round of the loop. A node without further arcs leaves the path, and behind an empty path the
next start is entered, unless it was entered before or is no node. -/
def round? (t : Suspended) : Option Suspended :=
  match t.path, t.starts with
  | (id, arc :: arcs) :: path, starts => some (follow g starts ((id, arcs) :: path) t.search arc)
  | (_, []) :: path, starts => some ⟨starts, path, t.search⟩
  | [], start :: starts =>
    some (if g.has start && !t.search.entered.contains start then
      ⟨starts, [(start, g.outgoing start)],
        { t.search with entered := start :: t.search.entered }⟩
    else ⟨starts, [], t.search⟩)
  | [], [] => none

def Rounds : Suspended → Suspended → Prop :=
  Relation.ReflTransGen fun t u => round? g t = some u

end Suspended

open Suspended (Rounds)

variable {g : Graph} {starts : List String} {path : List (String × List Arc)} {s : Search}
  {id : String}

/-- If the loop does what a visit does, it does what following the arcs of a node does. By induction
on these arcs. -/
theorem rounds_foldl_followArc {visit : Search → String → Search}
    (visits : ∀ (s : Search) (target : String) (arcs : List Arc), g.has target = true →
      target ∉ id :: path.map Prod.fst →
      Rounds g ⟨starts, (target, g.outgoing target) :: (id, arcs) :: path,
        { s with entered := target :: s.entered }⟩ ⟨starts, (id, arcs) :: path, visit s target⟩)
    {arcs : List Arc} (leave : arcs ⊆ g.arcs) (s : Search) :
    Rounds g ⟨starts, (id, arcs) :: path, s⟩
      ⟨starts, (id, []) :: path, arcs.foldl (followArc visit (id :: path.map Prod.fst)) s⟩ := by
  induction arcs generalizing s with
  | nil => exact .refl
  | cons arc arcs ih =>
    obtain ⟨mem, leave⟩ := List.cons_subset.mp leave
    refine .trans ?_ (ih leave _)
    have first : Rounds g ⟨starts, (id, arc :: arcs) :: path, s⟩
        (Suspended.follow g starts ((id, arcs) :: path) s arc) := .single rfl
    refine first.trans ?_
    unfold Suspended.follow followArc
    rw [List.map_cons]
    split
    · exact .refl
    · rename_i off
      split
      · exact .refl
      · exact visits s arc.target arcs (has_ends mem).2 (by simpa using off)

/-- The loop does what a search from a node behind a path does, if its fuel lasts for a path through
all nodes. -/
theorem rounds_search (fuel : Nat) (path : List (String × List Arc))
    (nodup : (path.map Prod.fst).Nodup) (nodes : ∀ v ∈ path.map Prod.fst, g.has v = true)
    (enough : g.nodes.length ≤ fuel + path.length) (s : Search) {id : String}
    (has : g.has id = true) (off : id ∉ path.map Prod.fst) :
    Rounds g ⟨starts, (id, g.outgoing id) :: path, { s with entered := id :: s.entered }⟩
      ⟨starts, path, g.search fuel (path.map Prod.fst) s id⟩ := by
  have nodupCons : (id :: path.map Prod.fst).Nodup := List.nodup_cons.mpr ⟨off, nodup⟩
  have nodesCons : ∀ v ∈ id :: path.map Prod.fst, g.has v = true :=
    List.forall_mem_cons.mpr ⟨has, nodes⟩
  induction fuel generalizing path s id with
  | zero =>
    have few := length_le_of_nodup nodupCons nodesCons
    simp only [List.length_cons, List.length_map] at few
    omega
  | succ fuel ih =>
    have visits : ∀ (s : Search) (target : String) (arcs : List Arc), g.has target = true →
        target ∉ id :: path.map Prod.fst →
        Rounds g ⟨starts, (target, g.outgoing target) :: (id, arcs) :: path,
          { s with entered := target :: s.entered }⟩
          ⟨starts, (id, arcs) :: path, g.search fuel (id :: path.map Prod.fst) s target⟩ :=
      fun s target arcs has off =>
        ih ((id, arcs) :: path) nodupCons nodesCons (by rw [List.length_cons]; omega) s has off
          (List.nodup_cons.mpr ⟨off, nodupCons⟩) (List.forall_mem_cons.mpr ⟨has, nodesCons⟩)
    have leave : g.outgoing id ⊆ g.arcs := fun _ mem => (mem_outgoing.mp mem).1
    exact (rounds_foldl_followArc visits leave _).tail rfl

theorem rounds_searchStart (start : String) (s : Search) :
    Rounds g ⟨start :: starts, [], s⟩ ⟨starts, [], g.searchStart s start⟩ := by
  have first : Suspended.round? g ⟨start :: starts, [], s⟩ = some _ := rfl
  refine .head first ?_
  unfold searchStart
  split
  · rename_i fresh
    obtain ⟨has, -⟩ : g.has start = true ∧ start ∉ s.entered := by simpa using fresh
    exact rounds_search g.nodes.length [] List.nodup_nil (by simp) (by simp) s has (by simp)
  · exact .refl

/-- The loop stops, with the arcs that the recursive search finds. -/
theorem stops_backArcs (g : Graph) (starts : List String) :
    ∃ s, Stops (Suspended.round? g) ⟨starts, [], ⟨[], []⟩⟩ ⟨[], [], s⟩ ∧
      s.back = g.backArcs starts := by
  have rounds : ∀ s : Search,
      Rounds g ⟨starts, [], s⟩ ⟨[], [], starts.foldl g.searchStart s⟩ := by
    induction starts with
    | nil => exact fun s => .refl
    | cons start starts ih => exact fun s => (rounds_searchStart start s).trans (ih _)
  exact ⟨_, ⟨rounds _, rfl⟩, rfl⟩

/-! ### Cycles -/

structure Circuit (g : Graph) (arcs : List Arc) : Prop where
  nonempty : arcs ≠ []
  inside : arcs ⊆ g.arcs
  linked : arcs.IsChain fun a b => a.target = b.source
  closed : ∀ first ∈ arcs.head?, ∀ last ∈ arcs.getLast?, last.target = first.source

/-- Where every arc of a path of arcs goes down, so does the path. By induction on it. -/
theorem rank_lt_of_isChain {rank : String → Nat} {first last : Arc} {arcs : List Arc}
    (linked : (first :: arcs).IsChain fun a b => a.target = b.source)
    (down : ∀ a ∈ first :: arcs, rank a.target < rank a.source)
    (ends : (first :: arcs).getLast? = some last) : rank last.target < rank first.source := by
  induction arcs generalizing first with
  | nil =>
    obtain rfl := Option.some.inj ends
    exact down first List.mem_cons_self
  | cons second arcs ih =>
    obtain ⟨next, linked⟩ := List.isChain_cons_cons.mp linked
    obtain ⟨lower, down⟩ := List.forall_mem_cons.mp down
    rw [List.getLast?_cons_cons] at ends
    exact Nat.lt_trans (ih linked down ends) (next ▸ lower)

/-- Without the arcs that lead back there is no circuit. -/
theorem Circuit.exists_mem_backArcs {arcs : List Arc} (circuit : g.Circuit arcs)
    (reached : ∀ a ∈ arcs, a.source ∈ g.reachable starts) : ∃ a ∈ arcs, a ∈ g.backArcs starts := by
  by_contra none
  obtain ⟨rank, lower⟩ := exists_rank_forwardArcs g starts
  have down : ∀ a ∈ arcs, rank a.target < rank a.source := fun a ha =>
    lower a (mem_forwardArcs.mpr
      ⟨circuit.inside ha, reached a ha, fun back => none ⟨a, ha, back⟩⟩)
  cases arcs with
  | nil => exact circuit.nonempty rfl
  | cons first arcs =>
    have ends := List.getLast?_eq_some_getLast (List.cons_ne_nil first arcs)
    have around := rank_lt_of_isChain circuit.linked down ends
    rw [circuit.closed first rfl _ ends] at around
    exact Nat.lt_irrefl _ around

theorem reaches_of_isChain {first a : Arc} {arcs : List Arc} (inside : first :: arcs ⊆ g.arcs)
    (linked : (first :: arcs).IsChain fun a b => a.target = b.source) (mem : a ∈ first :: arcs) :
    g.Reaches first.source a.source := by
  induction arcs generalizing first with
  | nil => exact List.mem_singleton.mp mem ▸ .refl
  | cons second arcs ih =>
    obtain ⟨next, linked⟩ := List.isChain_cons_cons.mp linked
    obtain ⟨arc, inside⟩ := List.cons_subset.mp inside
    rcases List.mem_cons.mp mem with rfl | later
    · exact .refl
    · exact .head (next ▸ leads_of_mem arc) (ih inside linked later)

theorem Circuit.onCycle {arcs : List Arc} (circuit : g.Circuit arcs) {a : Arc} (mem : a ∈ arcs) :
    g.OnCycle a.source := by
  obtain ⟨before, after, rfl⟩ := List.append_of_mem mem
  have ends := List.getLast?_eq_some_getLast (List.cons_ne_nil a after)
  generalize (a :: after).getLast _ = last at ends
  have inAfter : last ∈ a :: after := List.mem_of_getLast? ends
  have there : g.Reaches a.source last.source :=
    reaches_of_isChain (fun b hb => circuit.inside (List.mem_append_right before hb))
      circuit.linked.right_of_append inAfter
  have step := leads_of_mem (circuit.inside (List.mem_append_right before inAfter))
  obtain ⟨first, head⟩ : ∃ first, (before ++ a :: after).head? = some first := by
    cases before <;> exact ⟨_, rfl⟩
  obtain ⟨rest, whole⟩ := List.head?_eq_some_iff.mp head
  have closed := circuit.closed first head last (by rw [List.getLast?_append_cons, ends]; rfl)
  have back : g.Reaches first.source a.source := by
    rw [whole] at mem
    exact reaches_of_isChain (whole ▸ circuit.inside) (whole ▸ circuit.linked) mem
  exact .trans_left (.tail' there step) (closed ▸ back)

theorem exists_arcs_of_reaches {u v : String} (path : g.Reaches u v) :
    ∃ arcs : List Arc, arcs ⊆ g.arcs ∧ ∀ before : Arc, before.target = u →
      (before :: arcs).IsChain (fun a b => a.target = b.source) ∧
        ∀ last ∈ (before :: arcs).getLast?, last.target = v := by
  induction path using Relation.ReflTransGen.head_induction_on with
  | refl =>
    refine ⟨[], List.nil_subset _, fun before target => ⟨.singleton before, ?_⟩⟩
    rintro last ⟨⟩
    exact target
  | head step _ ih =>
    obtain ⟨a, mem, rfl, rfl⟩ := step
    obtain ⟨arcs, inside, rest⟩ := ih
    obtain ⟨chain, ends⟩ := rest a rfl
    refine ⟨a :: arcs, List.cons_subset.mpr ⟨mem, inside⟩, fun before target =>
      ⟨.cons_cons target chain, ?_⟩⟩
    rwa [List.getLast?_cons_cons]

/-- An arc from whose target a path leads back to its source is on a circuit. -/
theorem exists_circuit {a : Arc} (mem : a ∈ g.arcs) (back : g.Reaches a.target a.source) :
    ∃ arcs, g.Circuit (a :: arcs) := by
  obtain ⟨arcs, inside, rest⟩ := exists_arcs_of_reaches back
  obtain ⟨chain, ends⟩ := rest a rfl
  refine ⟨arcs, List.cons_ne_nil a arcs, List.cons_subset.mpr ⟨mem, inside⟩, chain, ?_⟩
  rintro first ⟨⟩ last hlast
  exact ends last hlast

/-- The search for arcs that lead back comes to an end on every graph and from all starts, those
that are no nodes included. Each arc that it finds leaves a node behind the starts and is on a
circuit, for a path leads from its target back to its source. Each circuit through nodes behind the
starts has an arc that it finds, and so it finds nothing exactly when there is no such circuit. -/
theorem backArcs_exact (g : Graph) (starts : List String) :
    (∃ s, Stops (Suspended.round? g) ⟨starts, [], ⟨[], []⟩⟩ ⟨[], [], s⟩ ∧
      s.back = g.backArcs starts) ∧
    (∀ a ∈ g.backArcs starts, a ∈ g.arcs ∧
      (∃ start ∈ starts, g.has start = true ∧ g.Reaches start a.source) ∧
      g.Reaches a.target a.source ∧ ∃ arcs, g.Circuit (a :: arcs)) ∧
    (∀ arcs, g.Circuit arcs →
      (∀ a ∈ arcs, ∃ start ∈ starts, g.has start = true ∧ g.Reaches start a.source) →
      ∃ a ∈ arcs, a ∈ g.backArcs starts) ∧
    (g.backArcs starts = [] ↔ ∀ arcs, g.Circuit arcs →
      ¬∃ a ∈ arcs, ∃ start ∈ starts, g.has start = true ∧ g.Reaches start a.source) := by
  refine ⟨stops_backArcs g starts, fun a found => ?_, fun arcs circuit reached => ?_, ?_⟩
  · obtain ⟨mem, source, back⟩ := closes_of_mem_backArcs found
    exact ⟨mem, mem_reachable.mp source, back, exists_circuit mem back⟩
  · exact circuit.exists_mem_backArcs fun a mem => mem_reachable.mpr (reached a mem)
  · constructor
    · rintro none arcs circuit ⟨a, mem, reached⟩
      exact backArcs_eq_nil_iff.mp none a.source (mem_reachable.mpr reached) (circuit.onCycle mem)
    · intro none
      refine List.eq_nil_iff_forall_not_mem.mpr fun a found => ?_
      obtain ⟨mem, source, back⟩ := closes_of_mem_backArcs found
      obtain ⟨arcs, circuit⟩ := exists_circuit mem back
      exact none _ circuit ⟨a, List.mem_cons_self, mem_reachable.mp source⟩

end Graph

end Chatflow
