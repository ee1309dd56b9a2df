import Chatflow.Proofs.Validation.WellFormed

/-!
# What the check of the hand-off reports

The check walks over pairs of a node and the producer whose text waits there. Hence it tells apart
which two producers clash and whose text is left over, each once, on every flow and whatever
executors its nodes have (`handoff_exact`).
-/

namespace Chatflow

structure Graph.PathFrom (g : Graph) (starts path : List String) : Prop where
  start : ∃ start ∈ starts, path.head? = some start
  chain : path.IsChain g.Leads

namespace Validation

variable {executors : String → Option Executor} {g : Graph} {starts : List String}
  {s : HandoffState} {p q v : String}

/-- A node that leaves the text that waits there to the nodes behind it. -/
structure Passes (executors : String → Option Executor) (id : String) : Prop where
  keeps : ¬Consumes executors id
  silent : ¬Produces executors id

theorem Passes.after (passes : Passes executors s.node) : s.after executors = s.pending := by
  rw [after_eq_waiting passes.silent, waiting_eq_pending passes.keeps]

/-! ### The text that waits at a node -/

theorem exists_met_of_path {path : List String} (from_ : g.PathFrom starts path)
    (mem : v ∈ path) : ∃ pending, Met executors g starts ⟨v, pending⟩ := by
  obtain ⟨start, first, head⟩ := from_.start
  obtain ⟨rest, rfl⟩ := List.head?_eq_some_iff.mp head
  exact exists_met ⟨start, first, .refl⟩ from_.chain mem

/-- The text of a producer still waits behind nodes that pass it on. By induction on these. -/
theorem Met.pass {u : String} {pending : Option String} {between : List String}
    (met : Met executors g starts ⟨u, pending⟩)
    (waits : HandoffState.after executors ⟨u, pending⟩ = some p)
    (chain : (u :: (between ++ [v])).IsChain g.Leads)
    (passing : ∀ w ∈ between, Passes executors w) :
    Met executors g starts ⟨v, some p⟩ := by
  induction between generalizing u pending with
  | nil =>
    obtain ⟨step, -⟩ := List.isChain_cons_cons.mp chain
    exact waits ▸ met.step step
  | cons w between ih =>
    rw [List.cons_append] at chain
    obtain ⟨step, chain⟩ := List.isChain_cons_cons.mp chain
    obtain ⟨passes, later⟩ := List.forall_mem_cons.mp passing
    have next := met.step step
    rw [waits] at next
    exact ih next passes.after chain later

/-- The text of a producer waits at a node exactly when a path comes by the producer, and from there
to the node by nodes that pass the text on. -/
theorem met_waiting_iff :
    Met executors g starts ⟨v, some p⟩ ↔ ∃ before between,
      g.PathFrom starts (before ++ p :: (between ++ [v])) ∧ Produces executors p ∧
        ∀ w ∈ between, Passes executors w := by
  constructor
  · intro met
    obtain ⟨front, chain, start, behind⟩ := met.path
    obtain ⟨before, between, rfl, produces, passing⟩ := behind p rfl
    rw [List.append_assoc, List.cons_append] at chain start
    exact ⟨before, between, ⟨start, chain⟩, produces,
      fun w hw => ⟨(passing w hw).1, (passing w hw).2⟩⟩
  · rintro ⟨before, between, path, produces, passing⟩
    obtain ⟨pending, met⟩ := exists_met_of_path (v := p) path (by simp)
    exact met.pass (after_of_produces produces) path.chain.right_of_append passing

/-! ### Clashes -/

theorem clash?_eq_some_iff :
    s.clash? executors = some (p, q) ↔
      s = ⟨q, some p⟩ ∧ Produces executors q ∧ ¬Consumes executors q := by
  obtain ⟨node, pending⟩ := s
  constructor
  · intro clash
    unfold HandoffState.clash? at clash
    split at clash
    · rename_i produces
      obtain ⟨earlier, waits, same⟩ := Option.map_eq_some_iff.mp clash
      obtain ⟨rfl, rfl⟩ := Prod.mk.inj same
      have keeps : ¬Consumes executors node := fun consumes => by
        have none := waiting_eq_none (s := ⟨node, pending⟩) consumes
        cases none.symm.trans waits
      rw [waiting_eq_pending keeps] at waits
      exact ⟨congrArg _ waits, produces, keeps⟩
    · cases clash
  · rintro ⟨same, produces, keeps⟩
    obtain ⟨rfl, rfl⟩ := HandoffState.mk.inj same
    have waits := waiting_eq_pending (s := ⟨node, some p⟩) keeps
    have clash : HandoffState.clash? executors ⟨node, some p⟩ =
        (HandoffState.waiting executors ⟨node, some p⟩).map (·, node) := if_pos produces
    rw [clash, waits]
    rfl

theorem mem_clashes (nodes : ∀ id ∈ starts, g.has id = true) :
    (p, q) ∈ (handoffStates executors g starts).filterMap (HandoffState.clash? executors) ↔
      Met executors g starts ⟨q, some p⟩ ∧ Produces executors q ∧ ¬Consumes executors q := by
  simp only [List.mem_filterMap, clash?_eq_some_iff, mem_handoffStates nodes]
  constructor
  · rintro ⟨s, met, rfl, producer⟩
    exact ⟨met, producer⟩
  · rintro ⟨met, producer⟩
    exact ⟨_, met, rfl, producer⟩

theorem nodup_clashes (executors : String → Option Executor) (g : Graph) (starts : List String) :
    ((handoffStates executors g starts).filterMap (HandoffState.clash? executors)).Nodup := by
  refine List.Nodup.filterMap ?_ (nodup_walk _ _)
  intro s t clash first second
  rw [(clash?_eq_some_iff.mp first).1, (clash?_eq_some_iff.mp second).1]

/-- A report tells which two producers clash. -/
theorem conflictOf_injective (executors : String → Option Executor) :
    Function.Injective fun clash : String × String => conflictOf executors clash.1 clash.2 := by
  rintro ⟨p, q⟩ ⟨p', q'⟩ same
  obtain ⟨-, text, node, -⟩ := Violation.mk.inj same
  obtain rfl := Option.some.inj node
  simpa using text

/-! ### Texts that are left over -/

theorem mem_unsent (nodes : ∀ id ∈ starts, g.has id = true) :
    p ∈ (handoffStates executors g starts).filterMap (HandoffState.unsent? executors g) ↔
      ∃ before behind, g.PathFrom starts (before ++ p :: behind) ∧ Produces executors p ∧
        (∀ w ∈ behind, Passes executors w) ∧
        ∀ last, (p :: behind).getLast? = some last → g.outgoing last = [] := by
  have unsent : ∀ s : HandoffState, s.unsent? executors g = some p ↔
      g.outgoing s.node = [] ∧ s.after executors = some p := by
    intro s
    simp [HandoffState.unsent?]
  simp only [List.mem_filterMap, mem_handoffStates nodes, unsent]
  constructor
  · rintro ⟨s, met, ends, waits⟩
    by_cases produces : Produces executors s.node
    · obtain ⟨front, chain, start, -⟩ := met.path
      obtain rfl := Option.some.inj ((after_of_produces produces).symm.trans waits)
      exact ⟨front, [], ⟨start, chain⟩, produces, nofun, by simpa using ends⟩
    · have keeps : ¬Consumes executors s.node := fun consumes => by
        rw [after_eq_waiting produces, waiting_eq_none consumes] at waits
        cases waits
      have passes : Passes executors s.node := ⟨keeps, produces⟩
      rw [passes.after] at waits
      obtain ⟨before, between, path, generates, passing⟩ :=
        met_waiting_iff.mp (show Met executors g starts ⟨s.node, some p⟩ from waits ▸ met)
      refine ⟨before, between ++ [s.node], path, generates, ?_, ?_⟩
      · simpa [or_imp, forall_and] using ⟨passing, passes⟩
      · rw [← List.cons_append, List.getLast?_concat]
        simpa using ends
  · rintro ⟨before, behind, path, produces, passing, ends⟩
    rcases List.eq_nil_or_concat' behind with rfl | ⟨between, v, rfl⟩
    · obtain ⟨pending, met⟩ := exists_met_of_path (v := p) path (by simp)
      exact ⟨_, met, ends p rfl, after_of_produces produces⟩
    · obtain ⟨passingFront, passes⟩ : (∀ w ∈ between, Passes executors w) ∧ Passes executors v := by
        simpa [or_imp, forall_and] using passing
      refine ⟨_, met_waiting_iff.mpr ⟨before, between, path, produces, passingFront⟩, ?_,
        passes.after⟩
      exact ends v (by rw [← List.cons_append, List.getLast?_concat])

theorem nodup_eraseDups {α : Type} [DecidableEq α] (l : List α) : l.eraseDups.Nodup := by
  induction length : l.length using Nat.strongRecOn generalizing l with
  | ind n ih =>
    cases l with
    | nil => exact List.nodup_nil
    | cons a rest =>
      rw [List.eraseDups_cons, List.nodup_cons]
      refine ⟨by simp, ih _ ?_ _ rfl⟩
      rw [← length, List.length_cons]
      exact Nat.lt_succ_of_le (List.length_filter_le _ _)

theorem unsentText_injective : Function.Injective unsentText := by
  intro p q same
  obtain ⟨-, -, node, -⟩ := Violation.mk.inj same
  exact Option.some.inj node

/-- The check of the hand-off comes to an end on every flow, also on one with cycles. Of two
producers it reports once that they clash, when a path from a trigger comes by the first one and
then by the second one, with no consumer behind the first up to and with the second and no producer
in between; and of a producer it warns once, when a path from a trigger comes by it and ends where
nothing leads on, with neither a consumer nor a producer behind it. It reports nothing else. -/
theorem handoff_exact (executors : String → Option Executor) (g : Graph) :
    let starts := g.triggers.map FlowNode.id
    (∃ met, Stops (walkRound? (HandoffState.next executors g)) ([], starts.map (⟨·, none⟩))
        (met, []) ∧ handoffStates executors g starts = met.reverse) ∧
    (∃ clashes : List (String × String), clashes.Nodup ∧
      (∀ p q, (p, q) ∈ clashes ↔ ∃ before between,
        g.PathFrom starts (before ++ p :: (between ++ [q])) ∧
          Produces executors p ∧ Produces executors q ∧
          (∀ v ∈ between ++ [q], ¬Consumes executors v) ∧
          ∀ v ∈ between, ¬Produces executors v) ∧
      handoffConflicts executors g starts =
        clashes.map fun clash => conflictOf executors clash.1 clash.2) ∧
    (handoffConflicts executors g starts).Nodup ∧
    (∃ producers : List String, producers.Nodup ∧
      (∀ p, p ∈ producers ↔ ∃ before behind, g.PathFrom starts (before ++ p :: behind) ∧
        Produces executors p ∧ (∀ v ∈ behind, ¬Consumes executors v ∧ ¬Produces executors v) ∧
        ∀ last, (p :: behind).getLast? = some last → g.outgoing last = []) ∧
      unsentTexts executors g starts = producers.map unsentText) ∧
    (unsentTexts executors g starts).Nodup ∧
    ∀ id, executors id = none → ¬Produces executors id ∧ ¬Consumes executors id := by
  intro starts
  have nodes : ∀ id ∈ starts, g.has id = true := Graph.has_triggers
  have clashes := nodup_clashes executors g starts
  have unsent := nodup_eraseDups
    ((handoffStates executors g starts).filterMap (HandoffState.unsent? executors g))
  refine ⟨⟨_, stops_handoffStates nodes, (List.reverse_reverse _).symm⟩,
    ⟨_, clashes, fun p q => ?_, rfl⟩, clashes.map (conflictOf_injective executors),
    ⟨_, unsent, fun p => ?_, rfl⟩, unsent.map unsentText_injective, fun id none => ?_⟩
  · rw [mem_clashes nodes, met_waiting_iff]
    constructor
    · rintro ⟨⟨before, between, path, first, passing⟩, second, keeps⟩
      refine ⟨before, between, path, first, second, ?_, fun v hv => (passing v hv).silent⟩
      simpa [or_imp, forall_and] using ⟨fun v hv => (passing v hv).keeps, keeps⟩
    · rintro ⟨before, between, path, first, second, keeps, silent⟩
      exact ⟨⟨before, between, path, first,
        fun v hv => ⟨keeps v (List.mem_append_left _ hv), silent v hv⟩⟩, second,
        keeps q (by simp)⟩
  · rw [List.mem_eraseDups, mem_unsent nodes]
    constructor
    · rintro ⟨before, behind, path, produces, passing, ends⟩
      exact ⟨before, behind, path, produces,
        fun v hv => ⟨(passing v hv).keeps, (passing v hv).silent⟩, ends⟩
    · rintro ⟨before, behind, path, produces, passing, ends⟩
      exact ⟨before, behind, path, produces,
        fun v hv => ⟨(passing v hv).1, (passing v hv).2⟩, ends⟩
  · constructor <;> simp [Produces, Consumes, none]

end Validation

end Chatflow
