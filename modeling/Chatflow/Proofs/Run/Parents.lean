import Chatflow.Proofs.Node.Transparent
import Chatflow.Proofs.Run.Trace
import Chatflow.Proofs.Validation.Acceptance

/-!
# Parents of a node

A node receives the items of its satisfied parents, in the order in which these were settled. Every
edge over which a parent delivers adds the parent's items once more, so a node gets them exactly
once only when a single edge leads there. No check keeps two edges from joining the same two nodes
(`welcome_doubled`).
-/

namespace Chatflow

/-- The items as they leave the node, as often as they are delivered. -/
def Parcel.copies (p : Parcel) (count : Nat) : List Item := (List.replicate count p.sent).flatten

/-- No two edges join the same two nodes in the same direction. -/
def Flow.Simple (f : Flow) : Prop :=
  f.edges.Pairwise fun e other => ¬(e.source = other.source ∧ e.target = other.target)

/-! ### Copies -/

namespace Parcel

variable {p : Parcel}

theorem sent_eq_nil_iff : p.sent = [] ↔ p.items = [] := List.map_eq_nil_iff

theorem copies_one (p : Parcel) : p.copies 1 = p.sent := List.append_nil _

theorem length_copies (p : Parcel) (count : Nat) :
    (p.copies count).length = count * p.sent.length := by
  induction count with
  | zero => exact (Nat.zero_mul _).symm
  | succ count ih =>
    have next : p.copies (count + 1) = p.sent ++ p.copies count := rfl
    rw [next, List.length_append, ih, Nat.add_mul, Nat.one_mul, Nat.add_comm]

theorem copies_eq_nil {count : Nat} (starves : ¬(p.items ≠ [] ∧ 0 < count)) :
    p.copies count = [] := by
  rw [← List.length_eq_zero_iff, length_copies, Nat.mul_eq_zero]
  rcases not_and_or.mp starves with empty | none
  · exact .inr (List.length_eq_zero_iff.mpr (sent_eq_nil_iff.mpr (not_not.mp empty)))
  · exact .inl (Nat.eq_zero_of_not_pos none)

end Parcel

namespace Graph

variable (g : Graph)

def deliveries (id : String) (p : Parcel) : Nat := (g.passing p id).length

/-- The parcels of which something reaches a node: what its satisfied parents hand on. -/
def feeding (parcels : List Parcel) (id : String) : List Parcel :=
  parcels.filter fun p => p.items ≠ [] ∧ 0 < g.deliveries id p

variable {g} {parcels : List Parcel} {id : String}

/-- What arrives at a node are the copies of what feeds it. -/
theorem arriving_eq_copies (parcels : List Parcel) (id : String) :
    g.arriving parcels id =
      (g.feeding parcels id).flatMap fun p => p.copies (g.deliveries id p) := by
  induction parcels with
  | nil => rfl
  | cons p rest ih =>
    have own : (g.passing p id).flatMap (fun _ => p.sent) = p.copies (g.deliveries id p) := by
      rw [Parcel.copies, deliveries, List.flatMap_def, List.map_const']
    have head : g.arriving (p :: rest) id =
        p.copies (g.deliveries id p) ++ g.arriving rest id := by
      rw [← own]
      rfl
    rw [head, ih]
    by_cases feeds : p.items ≠ [] ∧ 0 < g.deliveries id p
    · rw [feeding, feeding, List.filter_cons_of_pos (by simpa using feeds), List.flatMap_cons]
    · rw [feeding, feeding, List.filter_cons_of_neg (by simpa using feeds),
        Parcel.copies_eq_nil feeds, List.nil_append]

theorem length_sent_le {fed : List Parcel} {count : Parcel → Nat}
    (feeds : ∀ p ∈ fed, 0 < count p) :
    (fed.flatMap Parcel.sent).length ≤ (fed.flatMap fun p => p.copies (count p)).length := by
  induction fed with
  | nil => exact Nat.le_refl _
  | cons p rest ih =>
    obtain ⟨own, others⟩ := List.forall_mem_cons.mp feeds
    rw [List.flatMap_cons, List.flatMap_cons, List.length_append, List.length_append,
      Parcel.length_copies]
    exact Nat.add_le_add (Nat.le_mul_of_pos_left _ own) (ih others)

/-- All copies together are what is handed on only when there is one copy of each: there are at
least as many copies of each parcel as that. -/
theorem copies_eq_sent_iff {fed : List Parcel} {count : Parcel → Nat}
    (feeds : ∀ p ∈ fed, p.items ≠ [] ∧ 0 < count p) :
    (fed.flatMap fun p => p.copies (count p)) = fed.flatMap Parcel.sent ↔
      ∀ p ∈ fed, count p = 1 := by
  induction fed with
  | nil => simp
  | cons p rest ih =>
    obtain ⟨⟨filled, own⟩, others⟩ := List.forall_mem_cons.mp feeds
    rw [List.forall_mem_cons, ← ih others, List.flatMap_cons, List.flatMap_cons]
    constructor
    · intro same
      have lengths := congrArg List.length same
      rw [List.length_append, List.length_append, Parcel.length_copies] at lengths
      have least := Nat.le_mul_of_pos_left p.sent.length own
      have rests := length_sent_le fun q mem => (others q mem).2
      have some : p.sent.length ≠ 0 :=
        mt List.length_eq_zero_iff.mp (mt Parcel.sent_eq_nil_iff.mp filled)
      have once : count p = 1 := (Nat.mul_eq_right some).mp (by omega)
      rw [once, Parcel.copies_one] at same
      exact ⟨once, List.append_cancel_left same⟩
    · rintro ⟨once, same⟩
      rw [once, Parcel.copies_one, same]

theorem mem_feeding {p : Parcel} : p ∈ g.feeding parcels id ↔
    p ∈ parcels ∧ p.items ≠ [] ∧ 0 < g.deliveries id p := by
  simp [feeding]

/-- A node receives its satisfied parents' items once if and only if one edge delivers each of
them. -/
theorem arriving_eq_sent_iff (parcels : List Parcel) (id : String) :
    g.arriving parcels id = (g.feeding parcels id).flatMap Parcel.sent ↔
      ∀ p ∈ g.feeding parcels id, g.deliveries id p = 1 := by
  rw [arriving_eq_copies]
  exact copies_eq_sent_iff fun p mem => (mem_feeding.mp mem).2

theorem deliveries_le_one {f : Flow} (simple : f.Simple) (id : String) (p : Parcel) :
    (ofFlow f).deliveries id p ≤ 1 := by
  have apart := simple.filter fun e =>
    e.source = p.source ∧ e.target = id ∧ (ofFlow f).Admits e p.outcome
  change ((ofFlow f).passing p id).Pairwise _ at apart
  have ends : ∀ e ∈ (ofFlow f).passing p id, e.source = p.source ∧ e.target = id := by
    intro e mem
    obtain ⟨source, target, -⟩ := of_decide_eq_true (List.mem_filter.mp mem).2
    exact ⟨source, target⟩
  unfold deliveries
  match passed : (ofFlow f).passing p id with
  | [] => exact Nat.zero_le 1
  | [_] => exact Nat.le_refl 1
  | e :: other :: rest =>
    rw [passed] at apart ends
    obtain ⟨source, target⟩ := ends e (by simp)
    obtain ⟨source', target'⟩ := ends other (by simp)
    have parallel := (List.pairwise_cons.mp apart).1 other (by simp)
    exact absurd ⟨source.trans source'.symm, target.trans target'.symm⟩ parallel

end Graph

structure Visit.Fed (g : Graph) (settled : List Parcel) (v : Visit) : Prop where
  distinct : (settled.map Parcel.source).Nodup
  input : v.input = (g.feeding settled v.node.id).flatMap fun p =>
    p.copies (g.deliveries v.node.id p)
  once : v.input = (g.feeding settled v.node.id).flatMap Parcel.sent ↔
    ∀ p ∈ g.feeding settled v.node.id, g.deliveries v.node.id p = 1

/-- In every run a node receives what its satisfied parents hand on, in the order in which they were
settled, each as often as edges deliver it. This is each exactly once if and only if no parent
delivers over two edges, and always so in a flow in which no two edges join the same two nodes. -/
theorem run_feeds_per_edge (d : Dispatch) (f : Flow) (kind : String) (items : Option (List Item))
    (env : Env) (w : World) :
    Prod.snd <$> Exec.traceRun d f kind items = Exec.run d f kind items ∧
    ∃ visits result w',
      Exec.outcome (Exec.traceRun d f kind items) env w = (.ok (visits, result), w') ∧
      result.nodes = visits.filterMap Visit.run? ∧
      match (Graph.ofFlow f).trigger? (Text.upper kind) with
      | none => visits = []
      | some trigger =>
        ∀ before v after, visits = before ++ v :: after →
          let settled := ⟨trigger.id, startItems env w items, w.clock.milliseconds⟩ ::
            before.map Visit.parcel
          v.Faithful ⟨d, Graph.ofFlow f, trigger.id⟩ env ∧ v.Fed (Graph.ofFlow f) settled ∧
          (f.Simple →
            v.input = ((Graph.ofFlow f).feeding settled v.node.id).flatMap Parcel.sent) := by
  refine ⟨Exec.snd_traceRun d f kind items, ?_⟩
  cases found : (Graph.ofFlow f).trigger? (Text.upper kind) with
  | none =>
    obtain ⟨result, w', ends, nodes, -⟩ := Exec.exists_outcome_run_of_none env w d found items
    exact ⟨[], result, w', Exec.outcome_traceRun_of_none found ends, nodes, rfl⟩
  | some trigger =>
    obtain ⟨visits, result, w', traces, trace⟩ := Exec.exists_outcome_traceRun env w d found items
    refine ⟨visits, result, w', traces, trace.nodes, fun before v after split => ?_⟩
    have explained := trace.explained before v after split
    have distinct : (trigger.id :: before.map (·.node.id)).Nodup := by
      have all := Graph.nodup_runOrder (Graph.ofFlow f) trigger.id
      refine all.sublist (List.Sublist.cons_cons _ ?_)
      have visited := trace.order.sublist
      rw [split, List.map_append] at visited
      exact (List.sublist_append_left _ _).trans visited
    have fed : v.Fed (Graph.ofFlow f) (⟨trigger.id, startItems env w items, w.clock.milliseconds⟩ ::
        before.map Visit.parcel) := by
      refine ⟨?_, explained.input.trans (Graph.arriving_eq_copies _ _), ?_⟩
      · rw [List.map_cons, List.map_map]
        exact distinct
      · rw [explained.input]
        exact Graph.arriving_eq_sent_iff _ _
    refine ⟨explained.faithful, fed, fun simple => fed.once.mpr fun p mem => ?_⟩
    exact Nat.le_antisymm (Graph.deliveries_le_one simple _ p) (Graph.mem_feeding.mp mem).2.2

def welcome (edges : Nat) : Flow where
  nodes :=
    [⟨"start", .trigger, "DM", "", []⟩,
      ⟨"send", .action, "MESSAGE", "", [("message", .str "Welcome")]⟩]
  edges := List.replicate edges ⟨none, "start", "send", none⟩

def welcomeParcel : Parcel :=
  ⟨"start", startItems (.standard "run") .sending none, World.sending.clock.milliseconds⟩

/-- A flow with two edges from the trigger to the same node is accepted, and the node receives the
item of the event twice. -/
theorem welcome_doubled :
    (Draft.ofFlow (welcome 2)).Accepted ⟨.builtin, none⟩ ∧
    (Draft.ofFlow (welcome 2)).flow? = .ok (welcome 2) ∧
    ∃ (visits : List Visit) (result : RunResult) (w' : World),
      Exec.outcome (Exec.traceRun ⟨.builtin, none⟩ (welcome 2) "DM" none) (.standard "run")
        .sending = (.ok (visits, result), w') ∧
      result.executed = ["send"] ∧
      ∃ v ∈ visits, v.node.id = "send" ∧ v.input.length = 2 ∧
        (((Graph.ofFlow (welcome 2)).feeding [welcomeParcel] "send").flatMap
          Parcel.sent).length = 1 := by
  have accepted : (Draft.ofFlow (welcome 2)).Accepted ⟨.builtin, none⟩ := by
    let free : PlanTable := ⟨[("FREE", ⟨10, 10, ["*"]⟩)]⟩
    have none : (Validation.report ⟨.builtin, none⟩ (.ok free) (Settings.planName "FREE")
        (.ofFlow (welcome 2))).violations = [] := by decide +kernel
    exact Draft.accepted_of_violations (by decide) none
  have passes : (Exec.outcome (Exec.traceRun ⟨.builtin, none⟩ (welcome 2) "DM" none)
      (.standard "run") .sending).1.toOption.any (fun r =>
        r.2.executed == ["send"] && r.1.any fun v => v.node.id == "send" &&
          v.input.length == 2) = true := by
    have trigger : (Graph.ofFlow (welcome 2)).trigger? (Text.upper "DM") =
        some ⟨"start", .trigger, "DM", "", []⟩ := by
      simp [Text.upper_dm, Graph.trigger?, Graph.triggers, Graph.ofFlow, Graph.firstDeclared,
        welcome, FlowNode.isTrigger]
    rw [Exec.traceRun, trigger]
    decide +kernel
  obtain ⟨⟨visits, result⟩, w', traces, all⟩ := Exec.exists_outcome_of_any passes
  simp only [Bool.and_eq_true, List.any_eq_true, beq_iff_eq] at all
  obtain ⟨executed, v, mem, named, two⟩ := all
  exact ⟨accepted, rfl, visits, result, w', traces, executed, v, mem, named, two, by decide⟩

end Chatflow
