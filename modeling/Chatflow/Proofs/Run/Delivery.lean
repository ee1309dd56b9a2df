import Chatflow.Proofs.Flow.Path
import Chatflow.Run

/-!
# Deliveries

What a node receives, as a function of what the nodes before it hand on. A run delivers over one arc
after the other; in the end each node has what the function gives (`itemsOf_deliver`).
-/

namespace Chatflow

structure Parcel where
  source : String
  items : List Item
  time : Int

namespace Parcel

def outcome (p : Parcel) : Option String := p.items.head?.bind Item.branch

/-- The items as they leave the node: with the node as their source, and without an outcome. -/
def sent (p : Parcel) : List Item := p.items.map (·.sendOn p.time (some p.source) none)

end Parcel

namespace Graph

variable (g : Graph)

/-- An edge without a branch admits everything, an edge with one what has the same outcome or none.
-/
def Admits (e : FlowEdge) (outcome : Option String) : Prop :=
  g.branchOf e = none ∨ outcome = none ∨
    g.branchOf e = outcome.map fun branch => Text.lower (Text.strip branch)

instance (e : FlowEdge) (outcome : Option String) : Decidable (g.Admits e outcome) :=
  inferInstanceAs (Decidable (_ ∨ _ ∨ _))

def passing (p : Parcel) (id : String) : List FlowEdge :=
  g.edges.filter fun e => e.source = p.source ∧ e.target = id ∧ g.Admits e p.outcome

/-- What a node receives of some parcels, in their order: each once for every edge that it passes.
-/
def arriving (parcels : List Parcel) (id : String) : List Item :=
  parcels.flatMap fun p => (g.passing p id).flatMap fun _ => p.sent

variable {g}

theorem follows_iff {e : FlowEdge} {outcome : Option String} :
    g.follows e outcome = true ↔ g.Admits e outcome := by
  unfold follows Admits
  cases g.branchOf e with
  | none => simp
  | some branch => cases outcome <;> simp

theorem arriving_append (before after : List Parcel) (id : String) :
    g.arriving (before ++ after) id = g.arriving before id ++ g.arriving after id :=
  List.flatMap_append

theorem map_edge_placed (edges : List FlowEdge) : (placed edges).map Arc.edge = edges := by
  rw [placed, List.map_map]
  exact List.zipIdx_map_fst 0 edges

theorem edges_between {u v : String} (source : g.has u = true) (target : g.has v = true) :
    ((g.outgoing u).filter (·.target == v)).map Arc.edge =
      g.edges.filter fun e => e.source = u ∧ e.target = v := by
  have kept : (g.outgoing u).filter (·.target == v) =
      (placed g.edges).filter fun a => a.edge.source = u ∧ a.edge.target = v := by
    rw [outgoing, g.arcs_eq, connecting, List.filter_filter, List.filter_filter]
    refine List.filter_congr fun a _ => ?_
    have ends : a.edge.source = u → a.edge.target = v → connects g.nodes a.edge = true := by
      rintro rfl rfl
      exact Bool.and_eq_true_iff.mpr ⟨source, target⟩
    grind [Arc.source, Arc.target]
  rw [kept]
  conv_rhs => rw [← map_edge_placed g.edges, List.filter_map]
  rfl

end Graph

namespace Inbox

theorem itemsOf_add (inbox : Inbox) (id other : String) (items : List Item) :
    (inbox.add id items).itemsOf other =
      inbox.itemsOf other ++ if id = other then items else [] := by
  unfold add itemsOf
  split
  · rename_i same
    rw [← same, Table.get?_put_self]
    rfl
  · rename_i differ
    rw [Table.get?_put_of_ne _ _ (Ne.symm differ), List.append_nil]

end Inbox

namespace Graph

variable {g : Graph}

theorem itemsOf_foldl_add {start u v : String} {outcome : Option String} {sent : List Item}
    {arcs : List Arc} (off : v ≠ start) (other : v ≠ u) (own : ∀ a ∈ arcs, a.source = u)
    (inbox : Inbox) :
    Inbox.itemsOf (arcs.foldl
        (fun (inbox : Inbox) a =>
          if carries start a && g.follows a.edge outcome then inbox.add a.target sent else inbox)
        inbox) v =
      inbox.itemsOf v ++
        (arcs.filter fun a => a.target = v ∧ g.Admits a.edge outcome).flatMap fun _ => sent := by
  induction arcs generalizing inbox with
  | nil => exact (List.append_nil _).symm
  | cons a arcs ih =>
    have source : a.source = u := own a List.mem_cons_self
    rw [List.foldl_cons, ih fun b hb => own b (List.mem_cons_of_mem a hb)]
    by_cases target : a.target = v
    · have carried : carries start a = true := by
        simp [carries, target, source, off, other]
      by_cases admits : g.Admits a.edge outcome
      · simp [carried, follows_iff.mpr admits, target, admits, Inbox.itemsOf_add]
      · simp [mt follows_iff.mp admits, target, admits]
    · have kept : Inbox.itemsOf
          (if carries start a && g.follows a.edge outcome then inbox.add a.target sent else inbox)
          v = inbox.itemsOf v := by
        split
        · rw [Inbox.itemsOf_add, if_neg target, List.append_nil]
        · rfl
      rw [kept, List.filter_cons_of_neg (by simp [target])]

/-- Settling a node adds what it hands on to what waits for each other node but the start. -/
theorem itemsOf_deliver {start v : String} (p : Parcel) (source : g.has p.source = true)
    (target : g.has v = true) (off : v ≠ start) (other : v ≠ p.source) (inbox : Inbox) :
    (g.deliver start p.source p.time p.items inbox).itemsOf v =
      inbox.itemsOf v ++ g.arriving [p] v := by
  have passed : (g.passing p v).flatMap (fun _ => p.sent) =
      ((g.outgoing p.source).filter fun a =>
        a.target = v ∧ g.Admits a.edge p.outcome).flatMap fun _ => p.sent := by
    have split : g.passing p v =
        (((g.outgoing p.source).filter (·.target == v)).map Arc.edge).filter
          fun e => g.Admits e p.outcome := by
      rw [edges_between source target, List.filter_filter, passing]
      refine List.filter_congr fun e _ => ?_
      grind
    rw [split, List.filter_map, List.flatMap_map, List.filter_filter]
    congr 1
    refine List.filter_congr fun a _ => ?_
    simp [Bool.and_comm, Bool.beq_eq_decide_eq]
  have arrives : g.arriving [p] v = (g.passing p v).flatMap fun _ => p.sent := by
    simp [arriving]
  have own : ∀ a ∈ g.outgoing p.source, a.source = p.source := fun a mem => (mem_outgoing.mp mem).2
  rw [arrives, passed]
  obtain ⟨u, items, time⟩ := p
  cases items with
  | nil => simp [deliver, Parcel.sent]
  | cons first rest => exact itemsOf_foldl_add off other own inbox

end Graph

end Chatflow
