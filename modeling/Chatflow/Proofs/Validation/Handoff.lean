import Chatflow.Proofs.Flow.Path
import Chatflow.Validation
import Mathlib.Data.List.Chain
import Mathlib.Data.List.ProdSigma

/-!
# Conflicts of texts

The check of the hand-off walks over nodes together with the text that waits there. It finds a
conflict exactly when some path comes by two producers with no consumer in between
(`handoffConflicts_eq_nil_iff`).
-/

namespace Chatflow

namespace Validation

/-- A path comes by a producer, and then by a producer again without having come by a consumer, the
second producer included. -/
def Clashes (produces consumes : String → Prop) (path : List String) : Prop :=
  ∃ before p between q after, path = before ++ p :: (between ++ q :: after) ∧
    produces p ∧ produces q ∧ ∀ v ∈ between ++ [q], ¬consumes v

variable (executors : String → Option Executor) (g : Graph)

def Produces (id : String) : Prop := (executors id).any (·.producesText) = true

def Consumes (id : String) : Prop := (executors id).any (·.consumesText) = true

def Met (starts : List String) (s : HandoffState) : Prop :=
  ∃ start ∈ starts, Steps (HandoffState.next executors g) ⟨start, none⟩ s

variable {executors g} {starts : List String} {s : HandoffState}

theorem waiting_eq_none (consumes : Consumes executors s.node) : s.waiting executors = none :=
  if_pos consumes

theorem waiting_eq_pending (keeps : ¬Consumes executors s.node) : s.waiting executors = s.pending :=
  if_neg keeps

theorem after_of_produces (produces : Produces executors s.node) :
    s.after executors = some s.node :=
  if_pos produces

theorem after_eq_waiting (silent : ¬Produces executors s.node) :
    s.after executors = s.waiting executors :=
  if_neg silent

theorem clash?_eq_none_iff :
    s.clash? executors = none ↔ ¬(Produces executors s.node ∧ (s.waiting executors).isSome) := by
  have produces : s.produces executors = true ↔ Produces executors s.node := Iff.rfl
  unfold HandoffState.clash?
  split
  · rename_i own
    simp [produces.mp own]
  · rename_i silent
    simp [mt produces.mpr silent]

theorem mem_next {t : HandoffState} :
    t ∈ s.next executors g ↔ g.Leads s.node t.node ∧ t.pending = s.after executors := by
  simp only [HandoffState.next, List.mem_map, Graph.mem_outgoing, Graph.Leads]
  constructor
  · rintro ⟨a, ⟨mem, source⟩, rfl⟩
    exact ⟨⟨a, mem, source, rfl⟩, rfl⟩
  · rintro ⟨⟨a, mem, source, target⟩, pending⟩
    exact ⟨a, ⟨mem, source⟩, by rw [target, ← pending]⟩

/-! ### The states of a walk -/

/-- The states of a walk are made of a node, and of another one or none. -/
def allStates (g : Graph) : List HandoffState :=
  ((g.nodes.map FlowNode.id) ×ˢ (none :: g.nodes.map fun n => some n.id)).map fun p => ⟨p.1, p.2⟩

theorem mem_allStates : s ∈ allStates g ↔
    g.has s.node = true ∧ ∀ p, s.pending = some p → g.has p = true := by
  obtain ⟨node, pending⟩ := s
  cases pending <;>
    simp [allStates, Graph.has_iff]

theorem nodup_allStates (g : Graph) : (allStates g).Nodup := by
  have some_inj : Function.Injective (some : String → Option String) := fun _ _ eq =>
    Option.some.inj eq
  have pendings : (none :: g.nodes.map fun n => some n.id).Nodup := by
    refine List.nodup_cons.mpr ⟨by simp, ?_⟩
    have ids := g.distinct.map some_inj
    rwa [List.map_map] at ids
  refine (g.distinct.product pendings).map ?_
  rintro ⟨node, pending⟩ ⟨node', pending'⟩ eq
  obtain ⟨rfl, rfl⟩ := HandoffState.mk.inj eq
  rfl

theorem sum_map_product_fst {α β : Type} (l : List α) (m : List β) (f : α → Nat) :
    ((l ×ˢ m).map fun p => f p.1).sum = m.length * (l.map f).sum := by
  induction l with
  | nil => simp
  | cons a l ih =>
    have own : ((m.map (Prod.mk a)).map fun p => f p.1).sum = m.length * f a := by
      rw [List.map_map]
      change (m.map fun _ => f a).sum = m.length * f a
      rw [List.map_const', List.sum_replicate_nat]
    rw [List.product_cons, List.map_append, List.sum_append, own, ih, List.map_cons,
      List.sum_cons, Nat.mul_add]

theorem next_mem_allStates {t : HandoffState} (mem : s ∈ allStates g)
    (step : t ∈ s.next executors g) : t ∈ allStates g := by
  obtain ⟨node, pending⟩ := mem_allStates.mp mem
  obtain ⟨⟨a, arc, -, target⟩, waits⟩ := mem_next.mp step
  refine mem_allStates.mpr ⟨target ▸ (Graph.has_ends arc).2, fun p hp => ?_⟩
  rw [waits] at hp
  by_cases produces : Produces executors s.node
  · rw [after_of_produces produces] at hp
    exact Option.some.inj hp ▸ node
  · rw [after_eq_waiting produces] at hp
    by_cases consumes : Consumes executors s.node
    · rw [waiting_eq_none consumes] at hp
      cases hp
    · exact pending p (waiting_eq_pending consumes ▸ hp)

theorem start_mem_allStates (nodes : ∀ id ∈ starts, g.has id = true) :
    ∀ s ∈ starts.map (HandoffState.mk · none), s ∈ allStates g := by
  intro s hs
  obtain ⟨id, mem, rfl⟩ := List.mem_map.mp hs
  exact mem_allStates.mpr ⟨nodes id mem, nofun⟩

/-- The walk has fuel for the starts and for every step of every state. -/
theorem sum_steps_le (executors : String → Option Executor) (g : Graph) (starts : List String) :
    (starts.map (HandoffState.mk · none)).length +
      ((allStates g).map fun s => (s.next executors g).length).sum ≤
        starts.length + (g.nodes.length + 1) * g.arcs.length := by
  have arcs : ((g.nodes.map FlowNode.id).map fun id => (g.outgoing id).length).sum ≤
      g.arcs.length := Graph.sum_length_filter_le Arc.source g.arcs g.distinct
  have steps : ((allStates g).map fun s => (s.next executors g).length).sum =
      (g.nodes.length + 1) *
        ((g.nodes.map FlowNode.id).map fun id => (g.outgoing id).length).sum := by
    have products := sum_map_product_fst (g.nodes.map FlowNode.id)
      (none :: g.nodes.map fun n => some n.id) fun id => (g.outgoing id).length
    rw [List.length_cons, List.length_map] at products
    rw [allStates, List.map_map]
    simpa only [Function.comp_def, HandoffState.next, List.length_map] using products
  have most := Nat.mul_le_mul_left (g.nodes.length + 1) arcs
  rw [List.length_map, steps]
  omega

theorem mem_handoffStates (nodes : ∀ id ∈ starts, g.has id = true) :
    s ∈ handoffStates executors g starts ↔ Met executors g starts s := by
  rw [handoffStates, mem_walk (nodup_allStates g) (fun _ mem _ step => next_mem_allStates mem step)
    (start_mem_allStates nodes) (sum_steps_le executors g starts), Met]
  simp only [List.mem_map, exists_exists_and_eq_and]

/-- The walk is what the loop without a bound comes to. -/
theorem stops_handoffStates (nodes : ∀ id ∈ starts, g.has id = true) :
    Stops (walkRound? (HandoffState.next executors g)) ([], starts.map (⟨·, none⟩))
      ((handoffStates executors g starts).reverse, []) :=
  stops_walk (nodup_allStates g) (fun _ mem _ step => next_mem_allStates mem step)
    (start_mem_allStates nodes) (sum_steps_le executors g starts)

/-! ### Paths -/

/-- Where a text waits its producer lies behind, and nothing since that sends or generates one. -/
theorem Met.path (met : Met executors g starts s) :
    ∃ front, (front ++ [s.node]).IsChain g.Leads ∧
      (∃ start ∈ starts, (front ++ [s.node]).head? = some start) ∧
      ∀ p, s.pending = some p → ∃ before between, front = before ++ p :: between ∧
        Produces executors p ∧ ∀ v ∈ between, ¬Consumes executors v ∧ ¬Produces executors v := by
  obtain ⟨start, mem, steps⟩ := met
  induction steps with
  | refl => exact ⟨[], .singleton start, ⟨start, mem, rfl⟩, nofun⟩
  | @tail s t _ step ih =>
    obtain ⟨front, chain, first, waits⟩ := ih
    obtain ⟨leads, pending⟩ := mem_next.mp step
    refine ⟨front ++ [s.node], ?_, ?_, ?_⟩
    · refine List.isChain_append.mpr ⟨chain, .singleton t.node, ?_⟩
      simpa using leads
    · rwa [List.head?_append_of_ne_nil _ (by simp)]
    · intro p hp
      rw [pending] at hp
      by_cases produces : Produces executors s.node
      · rw [after_of_produces produces] at hp
        obtain rfl := Option.some.inj hp
        exact ⟨front, [], rfl, produces, nofun⟩
      · rw [after_eq_waiting produces] at hp
        have keeps : ¬Consumes executors s.node := fun consumes => by
          simp [waiting_eq_none consumes] at hp
        rw [waiting_eq_pending keeps] at hp
        obtain ⟨before, between, rfl, producer, silent⟩ := waits p hp
        refine ⟨before, between ++ [s.node], by simp, producer, fun v hv => ?_⟩
        rcases List.mem_append.mp hv with earlier | last
        · exact silent v earlier
        · exact List.mem_singleton.mp last ▸ ⟨keeps, produces⟩

theorem Met.step (met : Met executors g starts s) {v : String} (leads : g.Leads s.node v) :
    Met executors g starts ⟨v, s.after executors⟩ := by
  obtain ⟨start, mem, steps⟩ := met
  exact ⟨start, mem, steps.tail (mem_next.mpr ⟨leads, rfl⟩)⟩

theorem exists_met {u : String} {path : List String} {pending : Option String}
    (met : Met executors g starts ⟨u, pending⟩) (chain : (u :: path).IsChain g.Leads) {v : String}
    (mem : v ∈ u :: path) : ∃ pending, Met executors g starts ⟨v, pending⟩ := by
  induction path generalizing u pending with
  | nil => exact ⟨pending, List.mem_singleton.mp mem ▸ met⟩
  | cons w path ih =>
    obtain ⟨step, chain⟩ := List.isChain_cons_cons.mp chain
    rcases List.mem_cons.mp mem with rfl | later
    · exact ⟨pending, met⟩
    · exact ih (met.step step) chain later

/-- A text that waits behind a node still waits where a path without consumers comes to. -/
theorem exists_met_waiting {u q : String} {between : List String} {pending : Option String}
    (met : Met executors g starts ⟨u, pending⟩)
    (waits : (HandoffState.after executors ⟨u, pending⟩).isSome = true)
    (chain : (u :: (between ++ [q])).IsChain g.Leads)
    (silent : ∀ v ∈ between, ¬Consumes executors v) :
    ∃ pending, pending.isSome = true ∧ Met executors g starts ⟨q, pending⟩ := by
  induction between generalizing u pending with
  | nil =>
    obtain ⟨step, -⟩ := List.isChain_cons_cons.mp chain
    exact ⟨_, waits, met.step step⟩
  | cons v between ih =>
    rw [List.cons_append] at chain
    obtain ⟨step, chain⟩ := List.isChain_cons_cons.mp chain
    refine ih (met.step step) ?_ chain fun w hw => silent w (List.mem_cons_of_mem v hw)
    by_cases produces : Produces executors v
    · rw [after_of_produces produces]
      rfl
    · have keeps : ¬Consumes executors v := silent v List.mem_cons_self
      rw [after_eq_waiting produces, waiting_eq_pending keeps]
      exact waits

/-- Along a path that clashes the walk comes to a producer while a text waits. -/
theorem Clashes.exists_met {start : String} {path : List String}
    (clashes : Clashes (Produces executors) (Consumes executors) path) (mem : start ∈ starts)
    (head : path.head? = some start) (chain : path.IsChain g.Leads) :
    ∃ s, Met executors g starts s ∧ Produces executors s.node ∧
      (s.waiting executors).isSome = true := by
  obtain ⟨before, p, between, q, after, rfl, first, second, silent⟩ := clashes
  have metFirst : ∃ pending, Met executors g starts ⟨p, pending⟩ := by
    cases before with
    | nil =>
      obtain rfl : p = start := Option.some.inj head
      exact ⟨none, p, mem, .refl⟩
    | cons u before =>
      obtain rfl : u = start := Option.some.inj head
      exact Validation.exists_met ⟨u, mem, .refl⟩ chain (by simp)
  obtain ⟨pending, met⟩ := metFirst
  have part : (p :: (between ++ [q])).IsChain g.Leads := by
    have rest := chain.right_of_append
    rw [show p :: (between ++ q :: after) = p :: (between ++ [q]) ++ after by simp] at rest
    exact rest.left_of_append
  have waits : (HandoffState.after executors ⟨p, pending⟩).isSome = true := by
    rw [after_of_produces first]
    rfl
  obtain ⟨pending, some, met⟩ := exists_met_waiting met waits part fun v hv =>
    silent v (List.mem_append_left _ hv)
  have keeps : ¬Consumes executors q := silent q (by simp)
  exact ⟨_, met, second, by rw [waiting_eq_pending keeps]; exact some⟩

/-- Where a text waits at a producer, the path there clashes. -/
theorem Met.exists_clashes (met : Met executors g starts s) (produces : Produces executors s.node)
    (waits : (s.waiting executors).isSome = true) :
    ∃ start ∈ starts, ∃ path : List String, path.head? = some start ∧ path.IsChain g.Leads ∧
      Clashes (Produces executors) (Consumes executors) path := by
  have keeps : ¬Consumes executors s.node := fun consumes => by
    simp [waiting_eq_none consumes] at waits
  rw [waiting_eq_pending keeps] at waits
  obtain ⟨p, pending⟩ := Option.isSome_iff_exists.mp waits
  obtain ⟨front, chain, ⟨start, mem, head⟩, behind⟩ := met.path
  obtain ⟨before, between, rfl, producer, silent⟩ := behind p pending
  refine ⟨start, mem, _, head, chain,
    before, p, between, s.node, [], by simp, producer, produces, fun v hv => ?_⟩
  rcases List.mem_append.mp hv with earlier | last
  · exact (silent v earlier).1
  · exact List.mem_singleton.mp last ▸ keeps

/-- No conflict is found exactly when no path from a start clashes. -/
theorem handoffConflicts_eq_nil_iff (nodes : ∀ id ∈ starts, g.has id = true) :
    handoffConflicts executors g starts = [] ↔
      ∀ start ∈ starts, ∀ path : List String, path.head? = some start → path.IsChain g.Leads →
        ¬Clashes (Produces executors) (Consumes executors) path := by
  simp only [handoffConflicts, List.map_eq_nil_iff, List.filterMap_eq_nil_iff,
    mem_handoffStates nodes, clash?_eq_none_iff]
  constructor
  · intro quiet start mem path head chain clashes
    obtain ⟨s, met, produces, waits⟩ := clashes.exists_met mem head chain
    exact quiet s met ⟨produces, waits⟩
  · rintro quiet s met ⟨produces, waits⟩
    obtain ⟨start, mem, path, head, chain, clashes⟩ := met.exists_clashes produces waits
    exact quiet start mem path head chain clashes

end Validation

end Chatflow
