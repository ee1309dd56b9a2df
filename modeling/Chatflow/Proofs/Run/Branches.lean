import Chatflow.Proofs.Run.Conduct

/-!
# What a failed condition lets through

What a node receives, edge by edge. An edge that leaves a condition and names no outcome is followed
only when the condition holds, unless it leads to a branch node. Whether a node is a condition is
what the flow says of it: the executor that serves the node has no part in it.
-/

namespace Chatflow

def FlowEdge.Unlabelled (e : FlowEdge) : Prop := e.branch.filter (!·.isEmpty) = none

instance (e : FlowEdge) : Decidable e.Unlabelled := inferInstanceAs (Decidable (_ = _))

namespace Graph

variable {g : Graph} {e : FlowEdge} {n : FlowNode}

theorem branchOfSubType?_eq_none_iff {subType : String} :
    branchOfSubType? subType = none ↔ subType ≠ "YES" ∧ subType ≠ "NO" := by
  unfold branchOfSubType?
  split <;> simp_all

/-- A plain edge from a condition stands for its success. -/
theorem branchOf_of_decides (unlabelled : e.Unlabelled)
    (plain : ∀ m, g.get? e.target = some m → m.subType ≠ "YES" ∧ m.subType ≠ "NO")
    (source : g.get? e.source = some n) (decides : decides n = true) :
    g.branchOf e = some "yes" := by
  have target : ((g.get? e.target).bind fun m => branchOfSubType? m.subType) = none := by
    cases found : g.get? e.target with
    | none => rfl
    | some m => exact branchOfSubType?_eq_none_iff.mpr (plain m found)
  unfold branchOf
  rw [unlabelled, target, source]
  simp [decides]

/-- An edge of a branch admits no other outcome. -/
theorem not_admits_of_branchOf {branch outcome : String} (leads : g.branchOf e = some branch)
    (other : Text.lower (Text.strip outcome) ≠ branch) : ¬g.Admits e (some outcome) := by
  simp [Admits, leads, other.symm]

/-! ### Deliveries by edges -/

variable (g) in
/-- What an edge delivers of a parcel. -/
def delivered (p : Parcel) (e : FlowEdge) : List Item :=
  if e.source = p.source ∧ g.Admits e p.outcome then p.sent else []

theorem delivered_eq_nil_of_not_admits {p : Parcel} (refuses : ¬g.Admits e p.outcome) :
    g.delivered p e = [] := if_neg fun passes => refuses passes.2

/-- What arrives at a node is what the edges to it deliver. -/
theorem arriving_eq_delivered (parcels : List Parcel) (id : String) :
    g.arriving parcels id = parcels.flatMap fun p =>
      (g.edges.filter (·.target = id)).flatMap (g.delivered p) := by
  unfold arriving passing
  refine congrArg parcels.flatMap (funext fun p => ?_)
  induction g.edges with
  | nil => rfl
  | cons e rest ih =>
    simp only [List.filter_cons, decide_eq_true_eq]
    by_cases target : e.target = id
    · rw [if_pos target, List.flatMap_cons, ← ih, delivered]
      by_cases passes : e.source = p.source ∧ g.Admits e p.outcome
      · rw [if_pos passes, if_pos ⟨passes.1, target, passes.2⟩, List.flatMap_cons]
      · rw [if_neg passes, if_neg fun all => passes ⟨all.1, all.2.2⟩, List.nil_append]
    · rw [if_neg target, if_neg fun all => target all.2.1, ih]

end Graph

namespace Visit

variable {course : Course} {env : Env} {v : Visit} {r : NodeRun}

theorem Faithful.outcome_eq (faithful : v.Faithful course env) (ran : v.run? = some r) :
    r.subType = v.node.subType ∧ v.parcel.outcome = r.outcome := by
  have fate := run?_eq_some_iff.mp ran
  rcases faithful.ended_cases fate with ⟨-, unknown, -⟩ | ⟨e, source, duration, -, ends, -⟩
  · cases unknown
  · obtain ⟨result, -, rfl⟩ := v.node.ended_eq_ok_iff.mp ends.symm
    refine ⟨rfl, ?_⟩
    cases success : result.success <;>
      simp [Parcel.outcome, parcel, output, fate, NodeRun.ofResult, NodeRun.outcome, success]

/-- Over a plain edge a condition delivers nothing, unless its outcome is that it holds. -/
theorem Faithful.delivered_eq_nil (faithful : v.Faithful course env)
    (declared : course.graph.get? v.node.id = some v.node) (ran : v.run? = some r)
    (decides : Graph.decides v.node = true) {outcome : String} (reports : r.outcome = some outcome)
    (fails : Text.lower (Text.strip outcome) ≠ "yes") {e : FlowEdge} (source : e.source = v.node.id)
    (unlabelled : e.Unlabelled) (plain : ∀ m, course.graph.get? e.target = some m →
      m.subType ≠ "YES" ∧ m.subType ≠ "NO") :
    course.graph.delivered v.parcel e = [] := by
  refine Graph.delivered_eq_nil_of_not_admits ?_
  rw [(faithful.outcome_eq ran).2, reports]
  exact Graph.not_admits_of_branchOf
    (Graph.branchOf_of_decides unlabelled plain (source ▸ declared) decides) fails

end Visit

/-- A condition that does not hold stops its plain children. In every run each node receives what
the edges to it deliver, and a plain edge that leaves an executed condition for followers or
hashtags delivers nothing when the condition reports "no", as long as the flow says that it is a
condition. -/
theorem run_stops_at_failed_condition (d : Dispatch) (f : Flow) (kind : String)
    (items : Option (List Item)) (env : Env) (w : World) :
    Prod.snd <$> Exec.traceRun d f kind items = Exec.run d f kind items ∧
    ∃ visits result w',
      Exec.outcome (Exec.traceRun d f kind items) env w = (.ok (visits, result), w') ∧
      result.nodes = visits.filterMap Visit.run? ∧
      match (Graph.ofFlow f).trigger? (Text.upper kind) with
      | none => visits = []
      | some trigger =>
        (∀ before u after, visits = before ++ u :: after →
          u.input = (⟨trigger.id, startItems env w items, w.clock.milliseconds⟩ ::
            before.map Visit.parcel).flatMap fun p =>
              (f.edges.filter (·.target = u.node.id)).flatMap ((Graph.ofFlow f).delivered p)) ∧
        ∀ v ∈ visits, ∀ r, v.run? = some r → r.subType ∈ ["IS_FOLLOWER", "HAS_TAG"] →
          v.node.category = .condition → r.outcome = some "no" →
          ∀ e ∈ f.edges, e.source = v.node.id → e.Unlabelled →
            (∀ m, (Graph.ofFlow f).get? e.target = some m → m.subType ∉ ["YES", "NO"]) →
            (Graph.ofFlow f).delivered v.parcel e = [] := by
  refine ⟨Exec.snd_traceRun d f kind items, ?_⟩
  cases found : (Graph.ofFlow f).trigger? (Text.upper kind) with
  | none =>
    obtain ⟨result, w', ends, nodes, -⟩ := Exec.exists_outcome_run_of_none env w d found items
    exact ⟨[], result, w', Exec.outcome_traceRun_of_none found ends, nodes, rfl⟩
  | some trigger =>
    obtain ⟨visits, result, w', traces, trace⟩ := Exec.exists_outcome_traceRun env w d found items
    refine ⟨visits, result, w', traces, trace.nodes, ?_, ?_⟩
    · intro before u after split
      exact (trace.explained before u after split).input.trans (Graph.arriving_eq_delivered ..)
    · intro v mem r ran checks category reports e _ source unlabelled plain
      have faithful := trace.faithful mem
      rw [(faithful.outcome_eq ran).1] at checks
      have decides : Graph.decides v.node = true := by
        have own : Graph.branchOfSubType? v.node.subType = none :=
          Graph.branchOfSubType?_eq_none_iff.mpr
            ⟨by rintro same; simp [same] at checks, by rintro same; simp [same] at checks⟩
        simp [Graph.decides, category, own]
      have fails : Text.lower (Text.strip "no") ≠ "yes" := by decide +kernel
      exact faithful.delivered_eq_nil (trace.declared v mem) ran decides reports fails source
        unlabelled fun m target => by simpa using plain m target

def greetingEdge : FlowEdge := ⟨none, "check", "send", none⟩

/-- A flow that greets whoever passes a check for followers, which the flow places in a category. -/
def greeting (category : Category) : Flow where
  nodes :=
    [⟨"start", .trigger, "DM", "", []⟩, ⟨"check", category, "IS_FOLLOWER", "", []⟩,
      ⟨"send", .action, "MESSAGE", "", [("message", .str "Thanks for following")]⟩]
  edges := [⟨none, "start", "check", none⟩, greetingEdge]

def World.unfollowed : World :=
  { World.bare with
    services := { Service.Bundle.none with
      messaging := some .recording
      content := some (.ofFollowers []) } }

def Visit.turnsDown (v : Visit) : Bool :=
  v.node.id == "check" && v.run?.any fun r => r.subType == "IS_FOLLOWER" && r.outcome == some "no"

theorem Visit.turnsDown_iff {v : Visit} : v.turnsDown = true ↔ v.node.id = "check" ∧
    ∃ r, v.run? = some r ∧ r.subType = "IS_FOLLOWER" ∧ r.outcome = some "no" := by
  simp [turnsDown, Option.any_eq_true]

theorem accepted_greeting {category : Category} (other : category ≠ .trigger) :
    (Draft.ofFlow (greeting category)).Accepted ⟨.builtin, none⟩ := by
  let free : PlanTable := ⟨[("FREE", ⟨10, 10, ["*"]⟩)]⟩
  have none : (Validation.report ⟨.builtin, none⟩ (.ok free) (Settings.planName "FREE")
      (.ofFlow (greeting category))).violations = [] := by
    cases category
    · exact absurd rfl other
    · decide +kernel
    · decide +kernel
  exact Draft.accepted_of_violations (by decide) none

theorem trigger_greeting {category : Category} (other : category ≠ .trigger) :
    (Graph.ofFlow (greeting category)).trigger? (Text.upper "DM") =
      some ⟨"start", .trigger, "DM", "", []⟩ := by
  simp [Text.upper_dm, Graph.trigger?, Graph.triggers, Graph.ofFlow, Graph.firstDeclared, greeting,
    FlowNode.isTrigger, other]

theorem greeting_stops_at_condition :
    (Draft.ofFlow (greeting .condition)).Accepted ⟨.builtin, none⟩ ∧
    (Draft.ofFlow (greeting .condition)).flow? = .ok (greeting .condition) ∧
    ∃ (visits : List Visit) (result : RunResult) (w' : World),
      Exec.outcome (Exec.traceRun ⟨.builtin, none⟩ (greeting .condition) "DM" none)
        (.standard "run") .unfollowed = (.ok (visits, result), w') ∧
      result.executed = ["check"] ∧ result.skipped = ["send"] ∧
      ∃ v ∈ visits, ∃ r, v.run? = some r ∧ r.subType ∈ ["IS_FOLLOWER", "HAS_TAG"] ∧
        v.node.category = .condition ∧ r.outcome = some "no" ∧
        greetingEdge ∈ (greeting .condition).edges ∧ greetingEdge.source = v.node.id ∧
        greetingEdge.Unlabelled ∧
        (∀ m, (Graph.ofFlow (greeting .condition)).get? greetingEdge.target = some m →
          m.subType ∉ ["YES", "NO"]) ∧
        (Graph.ofFlow (greeting .condition)).delivered v.parcel greetingEdge = [] := by
  have passes : (Exec.outcome (Exec.traceRun ⟨.builtin, none⟩ (greeting .condition) "DM" none)
      (.standard "run") .unfollowed).1.toOption.any (fun r =>
        r.2.executed == ["check"] && r.2.skipped == ["send"] &&
          r.1.any fun v => v.turnsDown && decide (v.node.category = .condition)) = true := by
    rw [Exec.traceRun, trigger_greeting (by decide)]
    decide +kernel
  obtain ⟨⟨visits, result⟩, w', traces, all⟩ := Exec.exists_outcome_of_any passes
  simp only [Bool.and_eq_true, List.any_eq_true, beq_iff_eq, decide_eq_true_eq,
    Visit.turnsDown_iff] at all
  obtain ⟨⟨executed, skipped⟩, v, mem, ⟨named, r, ran, checks, reports⟩, category⟩ := all
  have runs := run_stops_at_failed_condition ⟨.builtin, none⟩ (greeting .condition) "DM" none
    (.standard "run") .unfollowed
  rw [trigger_greeting (by decide)] at runs
  obtain ⟨-, visits', result', w'', traces', -, -, stops⟩ := runs
  cases traces.symm.trans traces'
  have listed : r.subType ∈ ["IS_FOLLOWER", "HAS_TAG"] := by simp [checks]
  have edge : greetingEdge ∈ (greeting .condition).edges := by simp [greeting]
  have plain : ∀ m, (Graph.ofFlow (greeting .condition)).get? greetingEdge.target = some m →
      m.subType ∉ ["YES", "NO"] := by
    rintro m target
    cases target
    decide
  exact ⟨accepted_greeting (by decide), rfl, visits, result, w', traces, executed, skipped, v, mem,
    r, ran, listed, category, reports, edge, named.symm, rfl, plain,
    stops v mem r ran listed category reports greetingEdge edge named.symm rfl plain⟩

/-- A flow that calls the check an action passes, and the failed check stops nothing. -/
theorem greeting_passes_action :
    (Draft.ofFlow (greeting .action)).Accepted ⟨.builtin, none⟩ ∧
    (Draft.ofFlow (greeting .action)).flow? = .ok (greeting .action) ∧
    ∃ (visits : List Visit) (result : RunResult) (w' : World),
      Exec.outcome (Exec.traceRun ⟨.builtin, none⟩ (greeting .action) "DM" none)
        (.standard "run") .unfollowed = (.ok (visits, result), w') ∧
      result.executed = ["check", "send"] ∧
      ∃ v ∈ visits, ∃ r, v.run? = some r ∧ r.subType = "IS_FOLLOWER" ∧ r.outcome = some "no" ∧
        greetingEdge ∈ (greeting .action).edges ∧ greetingEdge.source = v.node.id ∧
        greetingEdge.Unlabelled ∧
        (∀ m, (Graph.ofFlow (greeting .action)).get? greetingEdge.target = some m →
          m.subType ∉ ["YES", "NO"]) ∧
        (Graph.ofFlow (greeting .action)).delivered v.parcel greetingEdge ≠ [] := by
  have passes : (Exec.outcome (Exec.traceRun ⟨.builtin, none⟩ (greeting .action) "DM" none)
      (.standard "run") .unfollowed).1.toOption.any (fun r =>
        r.2.executed == ["check", "send"] && r.1.any fun v => v.turnsDown &&
          !((Graph.ofFlow (greeting .action)).delivered v.parcel greetingEdge).isEmpty) = true := by
    rw [Exec.traceRun, trigger_greeting (by decide)]
    decide +kernel
  obtain ⟨⟨visits, result⟩, w', traces, all⟩ := Exec.exists_outcome_of_any passes
  simp only [Bool.and_eq_true, List.any_eq_true, beq_iff_eq, Bool.not_eq_true',
    Visit.turnsDown_iff] at all
  obtain ⟨executed, v, mem, ⟨named, r, ran, checks, reports⟩, delivers⟩ := all
  refine ⟨accepted_greeting (by decide), rfl, visits, result, w', traces, executed, v, mem, r, ran,
    checks, reports, by simp [greeting], named.symm, rfl, ?_, by simpa using delivers⟩
  rintro m target
  cases target
  decide

end Chatflow
