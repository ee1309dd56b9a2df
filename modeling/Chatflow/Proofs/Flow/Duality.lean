import Chatflow.Proofs.Flow.Path

/-!
# What lies behind a node, and what lies before it

Both searches of a graph as loops along a queue. The loops stop on every graph and meet what the
walks meet (`stops_reachable`, `stops_ancestors`), namely the nodes at the other end of a path in
the flow, and so a node is before another one exactly when that one is behind it (`reachable_dual`).
-/

namespace Chatflow

/-! ### Searches along a queue -/

/-- A loop whose rounds keep an invariant and get cheaper stops, and the invariant holds in the
end. -/
theorem exists_stops {τ : Type} {round? : τ → Option τ} {P : τ → Prop} (cost : τ → Nat)
    (keeps : ∀ s t, P s → round? s = some t → P t ∧ cost t < cost s) {s : τ} (first : P s) :
    ∃ t, Stops round? s t ∧ P t := by
  induction bound : cost s using Nat.strongRecOn generalizing s with
  | ind n ih =>
    cases round : round? s with
    | none => exact ⟨s, ⟨.refl, round⟩, first⟩
    | some t =>
      obtain ⟨next, less⟩ := keeps s t first round
      obtain ⟨u, stops, last⟩ := ih (cost t) (bound ▸ less) next rfl
      exact ⟨u, stops.head round, last⟩

variable {σ : Type}

/-- A round of a search along a queue. The first state leaves the queue, and if it is met for the
first time, the states that `joins` gives for it join the queue. -/
def queueRound? [BEq σ] (joins : List σ → σ → List σ) : List σ × List σ → Option (List σ × List σ)
  | (_, []) => none
  | (seen, s :: queue) =>
    some (if seen.contains s then (seen, queue) else (s :: seen, queue ++ joins (s :: seen) s))

/-- What joins the queue are steps from a state. Of these only states that were seen may be
missing. -/
structure Joins (next : σ → List σ) (joins : List σ → σ → List σ) : Prop where
  steps : ∀ seen s, (joins seen s).Sublist (next s)
  others : ∀ seen s, ∀ t ∈ next s, t ∈ seen ∨ t ∈ joins seen s

structure Searched (next : σ → List σ) (starts : List σ) (t : List σ × List σ) : Prop where
  nodup : t.1.Nodup
  behind : ∀ s, s ∈ t.1 ∨ s ∈ t.2 → ∃ start ∈ starts, Steps next start s
  started : ∀ s ∈ starts, s ∈ t.1 ∨ s ∈ t.2
  followed : ∀ s ∈ t.1, ∀ u ∈ next s, u ∈ t.1 ∨ u ∈ t.2

namespace Searched

variable {next : σ → List σ} {joins : List σ → σ → List σ} {starts seen queue : List σ} {s : σ}

theorem blank (next : σ → List σ) (starts : List σ) : Searched next starts ([], starts) where
  nodup := List.nodup_nil
  behind := fun s mem => ⟨s, mem.resolve_left List.not_mem_nil, .refl⟩
  started := fun _ mem => .inr mem
  followed := fun _ mem => absurd mem List.not_mem_nil

theorem skip (searched : Searched next starts (seen, s :: queue)) (old : s ∈ seen) :
    Searched next starts (seen, queue) := by
  -- A state at the head of the queue was seen, so it need not wait.
  have waits : ∀ u, u ∈ seen ∨ u ∈ s :: queue → u ∈ seen ∨ u ∈ queue := by
    rintro u (mem | mem)
    · exact .inl mem
    · rcases List.mem_cons.mp mem with rfl | later
      · exact .inl old
      · exact .inr later
  exact ⟨searched.nodup, fun u mem => searched.behind u (mem.imp_right (List.mem_cons_of_mem s)),
    fun u mem => waits u (searched.started u mem),
    fun u mem v step => waits v (searched.followed u mem v step)⟩

theorem meet (searched : Searched next starts (seen, s :: queue)) (new : s ∉ seen)
    (joining : Joins next joins) :
    Searched next starts (s :: seen, queue ++ joins (s :: seen) s) := by
  obtain ⟨start, mem, steps⟩ := searched.behind s (.inr List.mem_cons_self)
  have waits : ∀ u, u ∈ seen ∨ u ∈ s :: queue →
      u ∈ s :: seen ∨ u ∈ queue ++ joins (s :: seen) s := by
    rintro u (mem | mem)
    · exact .inl (List.mem_cons_of_mem s mem)
    · rcases List.mem_cons.mp mem with rfl | later
      · exact .inl List.mem_cons_self
      · exact .inr (List.mem_append_left _ later)
  constructor
  · exact List.nodup_cons.mpr ⟨new, searched.nodup⟩
  · rintro u (met | waiting)
    · rcases List.mem_cons.mp met with rfl | old
      · exact ⟨start, mem, steps⟩
      · exact searched.behind u (.inl old)
    · rcases List.mem_append.mp waiting with later | joined
      · exact searched.behind u (.inr (List.mem_cons_of_mem s later))
      · exact ⟨start, mem, steps.tail ((joining.steps _ s).subset joined)⟩
  · exact fun u mem => waits u (searched.started u mem)
  · intro u met v step
    rcases List.mem_cons.mp met with rfl | old
    · exact (joining.others _ u v step).imp_right (List.mem_append_right queue)
    · exact waits v (searched.followed u old v step)

theorem mem_iff (searched : Searched next starts (seen, [])) :
    s ∈ seen ↔ ∃ start ∈ starts, Steps next start s := by
  have resolve : ∀ {u}, u ∈ seen ∨ u ∈ [] → u ∈ seen := fun mem =>
    mem.resolve_right List.not_mem_nil
  constructor
  · exact fun mem => searched.behind s (.inl mem)
  · rintro ⟨start, mem, steps⟩
    induction steps with
    | refl => exact resolve (searched.started start mem)
    | tail _ step ih => exact resolve (searched.followed _ ih _ step)

end Searched

/-- What a search may still cost: the states in the queue, and the steps that leave states not
seen. -/
def queueCost [DecidableEq σ] (next : σ → List σ) (all : List σ) (t : List σ × List σ) : Nat :=
  t.2.length + openSteps next t.1 all

/-- A round keeps what holds of a search. It costs an entry of the queue, and what joins the queue
are steps that were open. -/
theorem Searched.round [DecidableEq σ] {next : σ → List σ} {joins : List σ → σ → List σ}
    (joining : Joins next joins) {all starts : List σ} (nodup : all.Nodup)
    (inside : ∀ start ∈ starts, ∀ s, Steps next start s → s ∈ all) {t u : List σ × List σ}
    (searched : Searched next starts t) (round : queueRound? joins t = some u) :
    Searched next starts u ∧ queueCost next all u < queueCost next all t := by
  obtain ⟨seen, queue⟩ := t
  cases queue with
  | nil => cases round
  | cons s queue =>
    obtain rfl := Option.some.inj round
    unfold queueCost
    rw [List.length_cons]
    split
    · rename_i old
      exact ⟨searched.skip (List.contains_iff_mem.mp old), by dsimp only; omega⟩
    · rename_i fresh
      have new : s ∉ seen := by simpa using fresh
      obtain ⟨start, mem, steps⟩ := searched.behind s (.inr List.mem_cons_self)
      have fewer := openSteps_see next nodup (inside start mem s steps) new
      have few := (joining.steps (s :: seen) s).length_le
      exact ⟨searched.meet new joining, by dsimp only; rw [List.length_append]; omega⟩

/-- A search along a queue stops where steps lead to finitely many states, and it has seen exactly
these, each once. -/
theorem stops_queueRound [DecidableEq σ] {next : σ → List σ} {joins : List σ → σ → List σ}
    (joining : Joins next joins) {all starts : List σ} (nodup : all.Nodup)
    (inside : ∀ start ∈ starts, ∀ s, Steps next start s → s ∈ all) :
    ∃ seen, Stops (queueRound? joins) ([], starts) (seen, []) ∧ seen.Nodup ∧
      ∀ s, s ∈ seen ↔ ∃ start ∈ starts, Steps next start s := by
  have keeps : ∀ t u, Searched next starts t → queueRound? joins t = some u →
      Searched next starts u ∧ queueCost next all u < queueCost next all t :=
    fun _ _ searched round => searched.round joining nodup inside round
  obtain ⟨⟨seen, queue⟩, stops, searched⟩ :=
    exists_stops (queueCost next all) keeps (.blank next starts)
  cases queue with
  | nil => exact ⟨seen, stops, searched.nodup, fun _ => searched.mem_iff⟩
  | cons s queue => cases stops.last

/-! ### The searches of a graph -/

namespace Graph

variable (g : Graph)

def reachableRound? : List String × List String → Option (List String × List String) :=
  queueRound? fun seen id => ((g.outgoing id).map Arc.target).filter (!seen.contains ·)

def ancestorsRound? : List String × List String → Option (List String × List String) :=
  queueRound? fun _ id => (g.incoming id).map Arc.source

variable {g}

/-- The loop of the search behind some nodes stops, with the nodes that the walk meets. -/
theorem stops_reachable (g : Graph) (starts : List String) :
    ∃ seen, Stops g.reachableRound? ([], starts.filter g.has) (seen, []) ∧
      seen.Perm (g.reachable starts) := by
  have joining : Joins (fun id => (g.outgoing id).map Arc.target) fun seen id =>
      ((g.outgoing id).map Arc.target).filter (!seen.contains ·) := by
    refine ⟨fun seen id => List.filter_sublist, fun seen id t step => ?_⟩
    by_cases old : t ∈ seen
    · exact .inl old
    · exact .inr (List.mem_filter.mpr ⟨step, by simpa using old⟩)
  have inside : ∀ start ∈ starts.filter g.has, ∀ id,
      Steps (fun id => (g.outgoing id).map Arc.target) start id → id ∈ g.nodes.map FlowNode.id :=
    fun start mem id steps =>
      has_iff.mp ((steps_outgoing_iff.mp steps).has (List.mem_filter.mp mem).2)
  obtain ⟨seen, stops, nodup, met⟩ := stops_queueRound joining g.distinct inside
  refine ⟨seen, stops, (List.perm_ext_iff_of_nodup nodup (nodup_reachable starts)).mpr fun id => ?_⟩
  rw [met, mem_reachable]
  simp only [List.mem_filter, steps_outgoing_iff, and_assoc]

/-- The loop of the search before a node stops. But for the node itself it has seen what the walk
meets. -/
theorem stops_ancestors (g : Graph) (id : String) :
    ∃ seen, Stops g.ancestorsRound? ([], (g.incoming id).map Arc.source) (seen, []) ∧
      (seen.filter (· != id)).Perm (g.ancestors id) := by
  have joining : Joins (fun id => (g.incoming id).map Arc.source) fun _ id =>
      (g.incoming id).map Arc.source :=
    ⟨fun _ _ => List.Sublist.refl _, fun _ _ _ step => .inr step⟩
  have inside : ∀ start ∈ (g.incoming id).map Arc.source, ∀ u,
      Steps (fun id => (g.incoming id).map Arc.source) start u → u ∈ g.nodes.map FlowNode.id := by
    intro start mem u steps
    obtain ⟨a, arc, rfl⟩ := List.mem_map.mp mem
    have source := (has_ends (mem_incoming.mp arc).1).1
    by_cases same : u = a.source
    · exact has_iff.mp (same ▸ source)
    · exact has_iff.mp ((steps_incoming_iff.mp steps).has_source same)
  obtain ⟨seen, stops, nodup, met⟩ := stops_queueRound joining g.distinct inside
  have distinct : (g.ancestors id).Nodup := (nodup_walk _ _).filter _
  refine ⟨seen, stops, (List.perm_ext_iff_of_nodup (nodup.filter _) distinct).mpr fun u => ?_⟩
  rw [mem_ancestors, List.mem_filter, met, bne_iff_ne, and_comm]
  exact and_congr_right exists_steps_incoming_iff

/-! ### Both ends of a path -/

/-- A node is before another one exactly when that one is behind it. -/
theorem mem_ancestors_iff_mem_reachable {u v : String} :
    u ∈ g.ancestors v ↔ u ≠ v ∧ v ∈ g.reachable [u] := by
  rw [mem_ancestors, mem_reachable]
  refine and_congr_right fun other => ?_
  constructor
  · exact fun path => ⟨u, List.mem_singleton_self u, path.has_source other, path⟩
  · rintro ⟨start, mem, -, path⟩
    exact List.mem_singleton.mp mem ▸ path

/-- What is behind some ids are the nodes of a flow to which a path leads from one of them. A path
from an id to another one makes it a node, and the empty path leads from a node to itself. -/
theorem mem_reachable_ofFlow {f : Flow} {starts : List String} {v : String} :
    v ∈ (ofFlow f).reachable starts ↔
      v ∈ f.ids ∧ ∃ start ∈ starts, Relation.ReflTransGen f.Links start v := by
  rw [← leads_eq_links, ← has_ofFlow]
  constructor
  · intro reached
    obtain ⟨start, mem, -, path⟩ := mem_reachable.mp reached
    exact ⟨has_of_mem_reachable reached, start, mem, path⟩
  · rintro ⟨has, start, mem, path⟩
    refine mem_reachable.mpr ⟨start, mem, ?_, path⟩
    by_cases same : start = v
    · exact same ▸ has
    · exact Reaches.has_source path same

/-- Both searches come to an end on the graph of any flow, one with the nodes behind some starts and
the other with the nodes before a node. What is behind some starts are the nodes to which a path, be
it empty, leads from one of them, and a node is before another one exactly when the two differ and
the second one is behind the first. -/
theorem reachable_dual (f : Flow) :
    (∀ starts, ∃ seen,
      Stops (ofFlow f).reachableRound? ([], starts.filter (ofFlow f).has) (seen, []) ∧
      seen.Perm ((ofFlow f).reachable starts)) ∧
    (∀ v, ∃ seen,
      Stops (ofFlow f).ancestorsRound? ([], ((ofFlow f).incoming v).map Arc.source) (seen, []) ∧
      (seen.filter (· != v)).Perm ((ofFlow f).ancestors v)) ∧
    (∀ starts v, v ∈ (ofFlow f).reachable starts ↔
      v ∈ f.ids ∧ ∃ start ∈ starts, Relation.ReflTransGen f.Links start v) ∧
    ∀ u v, u ∈ (ofFlow f).ancestors v ↔ u ≠ v ∧ v ∈ (ofFlow f).reachable [u] :=
  ⟨stops_reachable _, stops_ancestors _, fun _ _ => mem_reachable_ofFlow,
    fun _ _ => mem_ancestors_iff_mem_reachable⟩

end Graph

end Chatflow
