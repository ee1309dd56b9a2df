import Chatflow.Proofs.Node.Senders
import Chatflow.Proofs.Run.Generators

/-!
# Texts for senders

The check of a flow asks for a generator before each node that sends texts and has none of its own.
In a run in which all generators succeed such a node goes without a text exactly when nothing is
left for it: each generator before it was passed over, or another sender came first and took its
text.
-/

namespace Chatflow

def NodeRun.LacksText (r : NodeRun) : Prop :=
  (⟨r.success, r.items, r.text, r.logs⟩ : NodeResult).LacksText

instance (r : NodeRun) : Decidable r.LacksText :=
  inferInstanceAs (Decidable (NodeResult.LacksText _))

def RunResult.Generated (result : RunResult) : Prop :=
  ∀ r ∈ result.nodes, r.subType = "SMARTAI" → r.success = true

instance (result : RunResult) : Decidable result.Generated :=
  inferInstanceAs (Decidable (∀ r ∈ result.nodes, _))

/-- Why a node that sends texts finds none: it has none of its own, and each generator before it was
not executed, or a sender that came first took its text. -/
structure Unsupplied (f : Flow) (course : Course) (env : Env) (before : List Chapter) (c : Chapter)
    (result : RunResult) : Prop where
  target : ¬env.context.LacksTarget c.visit.node.subType
  textless : sentText? c.visit.node.subType (.obj c.visit.node.config) none c.visit.input = none
  relies : ∃ g, f.Produces course.dispatch g ∧ g ≠ c.id ∧ f.Reaches g c.id
  spent : ∀ g, f.Produces course.dispatch g → g ≠ c.id → f.Reaches g c.id →
    g ∉ result.executed ∨
      ∃ d ∈ before, f.Consumes course.dispatch d.id ∧ ∃ text, .taken d.id g text ∈ d.uses

/-- A node that runs to its end has the result of its executor. -/
theorem Visit.Faithful.exists_outcome {course : Course} {env : Env} {v : Visit} {e : Executor}
    {r : NodeRun} (faithful : v.Faithful course env) (ran : v.run? = some r)
    (found : course.dispatch.resolve? v.node.subType = some e) :
    ∃ result w', Exec.outcome (e.execute (.obj v.node.config) v.input) env
        (course.entered v.node v.before) = (.ok (.result result), w') ∧
      ∃ source duration, r = .ofResult v.node source result duration := by
  rcases faithful.ended_cases (run?_eq_some_iff.mp ran) with
    ⟨-, other, -⟩ | ⟨e', source, duration, found', ends, -⟩
  · cases other
  · obtain rfl : e' = e := Option.some.inj (found'.symm.trans found)
    obtain ⟨result, answers, same⟩ := v.node.ended_eq_ok_iff.mp ends.symm
    exact ⟨result, _, Prod.ext answers rfl, source, duration, same⟩

namespace Performance

variable {bridge : Option Bridge} {f : Flow} {trigger : FlowNode} {env : Env} {opening : Parcel}
  {before after : List Chapter} {c : Chapter} {result : RunResult} {h h' : Handoff}

theorem present_of_pending {e : String × String}
    (run : Performance bridge f trigger env opening (before ++ after) result h h')
    (mem : e ∈ pendingAfter (historyOf before)) : Text.allBlank e.2 = false := by
  obtain ⟨b, earlier, -, put⟩ := run.exists_generator mem
  exact (run.acts b (List.mem_append_left _ earlier)).present e.1 e.2 put

/-- A node finds a text to send if it sees a generated one or has one of its own. -/
theorem sentText?_take {config : Entries Value} {e : Executor}
    (run : Performance bridge f trigger env opening (before ++ c :: after) result h h')
    (sender : e.Sender config) (items : List Item) :
    sentText? e.subType (.obj config)
        (c.visit.entry ⟨⟨.builtin, bridge⟩, Graph.ofFlow f, trigger.id⟩).take.1 items = none ↔
      (c.visit.entry ⟨⟨.builtin, bridge⟩, Graph.ofFlow f, trigger.id⟩).visible = [] ∧
        sentText? e.subType (.obj config) none items = none := by
  unfold Handoff.take
  split
  · rename_i producer last
    have seen := List.mem_of_getLast? last
    obtain ⟨text, held⟩ := Handoff.exists_held seen
    have mem := Table.mem_of_get? held
    have pending : (producer, text) ∈ pendingAfter (historyOf before) := run.pending_before ▸ mem
    dsimp only
    rw [held]
    refine iff_of_false (sender.generated text items (run.present_of_pending pending)) ?_
    rintro ⟨unseen, -⟩
    rw [unseen] at seen
    cases seen
  · rename_i none
    exact (and_iff_right (List.getLast?_eq_none_iff.mp none)).symm

theorem exists_run_of_executed {b : Chapter} {chapters : List Chapter}
    (run : Performance bridge f trigger env opening chapters result h h') (mem : b ∈ chapters)
    (executed : b.id ∈ result.executed) : ∃ r ∈ result.nodes, b.visit.run? = some r := by
  rw [run.chronicle.trace.executed_eq] at executed
  obtain ⟨v, visited, named⟩ := List.mem_filterMap.mp executed
  obtain ⟨d, chapter, rfl⟩ := List.mem_map.mp visited
  obtain ⟨r, ran, own⟩ := Option.map_eq_some_iff.mp named
  have same : d.id = b.id := by
    rcases (run.chronicle.trace.faithful visited).ids with ⟨id, -⟩ | ⟨id, -⟩ | ⟨id, -⟩
    · exact Option.some.inj (id.symm.trans named)
    · cases id.symm.trans named
    · cases id.symm.trans named
  obtain rfl : d = b :=
    List.inj_on_of_nodup_map (List.nodup_cons.mp run.nodup_ids).2 chapter mem same
  refine ⟨r, ?_, ran⟩
  rw [run.chronicle.trace.nodes]
  exact List.mem_filterMap.mpr ⟨d.visit, visited, ran⟩

theorem exists_before_of_executed {g : String}
    (run : Performance bridge f trigger env opening (before ++ c :: after) result h h')
    (executed : g ∈ result.executed) (other : g ≠ c.id) (path : f.Reaches g c.id) :
    ∃ b ∈ before, b.id = g := by
  have visited := run.chronicle.trace.executed_sublist.subset executed
  rw [List.map_map] at visited
  have reach : f.Reaches trigger.id g := by
    obtain ⟨b, chapter, rfl⟩ := List.mem_map.mp visited
    exact run.reaches chapter
  refine List.mem_map.mp ((List.mem_cons.mp (run.mem_before reach path other)).resolve_left ?_)
  rintro rfl
  exact (List.nodup_cons.mp run.nodup_ids).1 visited

/-- A generator that was executed put a text, when all generators succeeded. -/
theorem exists_put_of_executed {b : Chapter} {chapters : List Chapter}
    (run : Performance bridge f trigger env opening chapters result h h')
    (generated : result.Generated) (mem : b ∈ chapters)
    (produces : f.Produces ⟨.builtin, bridge⟩ b.id) (executed : b.id ∈ result.executed) :
    ∃ text, .put b.id text ∈ b.uses := by
  obtain ⟨n, node, same, e, found, generates⟩ := produces
  obtain rfl : n = b.visit.node :=
    List.inj_on_of_nodup_map run.wellFormed.distinct node (run.node_mem mem) same
  obtain ⟨r, listed, ran⟩ := run.exists_run_of_executed mem executed
  refine (run.acts b mem).succeeds e r found generates ran (generated r listed ?_)
  obtain ⟨_, _, -, _, _, rfl⟩ :=
    (run.chronicle.trace.faithful (List.mem_map_of_mem mem)).exists_outcome ran found
  obtain ⟨own, kind⟩ := Dispatch.builtin_resolves found
  rcases kind with rfl | rfl | rfl | rfl | silent
  · cases generates
  · cases generates
  · cases generates
  · exact own.symm
  · exact absurd (silent.produces.symm.trans generates) Bool.false_ne_true

theorem consumes_of_taken {d : Chapter} {chapters : List Chapter} {taker producer text : String}
    (run : Performance bridge f trigger env opening chapters result h h') (mem : d ∈ chapters)
    (took : .taken taker producer text ∈ d.uses) : f.Consumes ⟨.builtin, bridge⟩ d.id :=
  ⟨d.visit.node, run.node_mem mem, rfl, (run.acts d mem).takes taker producer text took⟩

/-- A text that was put before a node behind its generator waits for it, or a sender took it. -/
theorem pending_or_taken {g text : String}
    (run : Performance bridge f trigger env opening (before ++ c :: after) result h h')
    (path : f.Reaches g c.id) (put : .put g text ∈ historyOf before) :
    (g, text) ∈ pendingAfter (historyOf before) ∨
      ∃ d ∈ before, f.Consumes ⟨.builtin, bridge⟩ d.id ∧ .taken d.id g text ∈ d.uses := by
  have coherent := run.coherent
  rw [historyOf_append] at coherent
  have whole := coherent.of_append.perm_put.mem_iff.mp (mem_putTexts_iff.mpr put)
  refine (List.mem_append.mp whole).symm.imp id fun gone => ?_
  obtain ⟨event, there, removed⟩ := List.mem_filterMap.mp gone
  obtain ⟨d, chapter, own⟩ := List.mem_flatMap.mp there
  have mem : d ∈ before ++ c :: after := List.mem_append_left _ chapter
  rcases List.mem_append.mp own with used | drop
  · rcases (run.chronicle.story.uses mem).own used with ⟨_, rfl⟩ | ⟨_, _, rfl⟩ | ⟨_, _, rfl, ⟨⟩⟩
    · cases removed
    · cases Option.some.inj removed
      exact ⟨d, chapter, run.consumes_of_taken mem used, used⟩
  · -- The node behind the generator has not had its turn, so the text cannot have been dropped.
    obtain ⟨⟨_, _⟩, dropped, rfl⟩ := List.mem_map.mp drop
    cases Option.some.inj removed
    obtain ⟨first, rest, rfl⟩ := List.append_of_mem chapter
    have fresh := run.not_mem_before
    rw [List.append_assoc, List.cons_append] at run
    rw [← run.reaches_eq] at path
    have done := run.chronicle.mem_ids_of_reaches run.has run.acyclic run.empty dropped path
    refine absurd (List.mem_cons_of_mem _ ?_) fresh
    rw [List.append_cons, List.map_append]
    exact List.mem_append_left _ done

/-- A node sees no text exactly when each generator before it was not executed, or a sender that
came first took its text. -/
theorem visible_eq_nil_iff
    (run : Performance bridge f trigger env opening (before ++ c :: after) result h h')
    (generated : result.Generated) :
    (c.visit.entry ⟨⟨.builtin, bridge⟩, Graph.ofFlow f, trigger.id⟩).visible = [] ↔
      ∀ g, f.Produces ⟨.builtin, bridge⟩ g → g ≠ c.id → f.Reaches g c.id →
        g ∉ result.executed ∨ ∃ d ∈ before, f.Consumes ⟨.builtin, bridge⟩ d.id ∧
          ∃ text, .taken d.id g text ∈ d.uses := by
  constructor
  · intro unseen g produces other path
    refine or_iff_not_imp_left.mpr fun executed => ?_
    obtain ⟨b, earlier, rfl⟩ := run.exists_before_of_executed (not_not.mp executed) other path
    have mem : b ∈ before ++ c :: after := List.mem_append_left _ earlier
    obtain ⟨text, put⟩ := run.exists_put_of_executed generated mem produces (not_not.mp executed)
    have event : .put b.id text ∈ historyOf before :=
      List.mem_flatMap_of_mem earlier (List.mem_append_left _ put)
    rcases run.pending_or_taken path event with pending | ⟨d, chapter, consumes, took⟩
    · have seen := run.mem_visible.mpr ⟨List.mem_map_of_mem pending, other, path⟩
      rw [unseen] at seen
      cases seen
    · exact ⟨d, chapter, consumes, text, took⟩
  · intro spent
    by_contra some
    obtain ⟨p, seen⟩ := List.exists_mem_of_ne_nil _ some
    obtain ⟨-, other, path⟩ := run.mem_visible.mp seen
    obtain ⟨text, pending, produces, b, earlier, rfl, put⟩ := run.exists_generator_of_seen seen
    rcases spent b.id produces other path with passed | ⟨d, chapter, -, text', took⟩
    · exact passed (run.chronicle.mem_executed (List.mem_append_left _ earlier)
        (run.chronicle.story.goesOn earlier) (List.ne_nil_of_mem put))
    · have event : .taken d.id b.id text' ∈ historyOf before :=
        List.mem_flatMap_of_mem chapter (List.mem_append_left _ took)
      have coherent := run.coherent
      rw [historyOf_append] at coherent
      exact coherent.of_append.ne_of_removed pending event rfl rfl

/-- A node that sends texts lacks one exactly when nothing is left for it. -/
theorem lacksText_iff {r : NodeRun}
    (run : Performance bridge f trigger env opening (before ++ c :: after) result h h')
    (generated : result.Generated) (consumes : f.Consumes ⟨.builtin, bridge⟩ c.id)
    (ran : c.visit.run? = some r) :
    r.LacksText ↔
      Unsupplied f ⟨⟨.builtin, bridge⟩, Graph.ofFlow f, trigger.id⟩ env before c result := by
  have mem : c ∈ before ++ c :: after := by simp
  obtain ⟨n, node, same, e, found, sends⟩ := consumes
  obtain rfl : n = c.visit.node :=
    List.inj_on_of_nodup_map run.wellFormed.distinct node (run.node_mem mem) same
  have sender := Dispatch.sender_builtin found sends (run.wellFormed.configured _ node e found)
  have own := (Dispatch.builtin_resolves found).1
  obtain ⟨res, w', ends, _, _, rfl⟩ :=
    (run.chronicle.trace.faithful (List.mem_map_of_mem mem)).exists_outcome ran found
  have lacks : res.LacksText ↔ ¬env.context.LacksTarget e.subType ∧
      sentText? e.subType (.obj c.visit.node.config)
        (c.visit.entry ⟨⟨.builtin, bridge⟩, Graph.ofFlow f, trigger.id⟩).take.1
        c.visit.input = none := sender.lacks _ _ _ _ _ ends
  rw [run.sentText?_take sender, run.visible_eq_nil_iff generated, own] at lacks
  refine Iff.trans lacks ⟨fun ⟨target, spent, textless⟩ => ?_, fun un => ?_⟩
  · refine ⟨target, textless, ?_, spent⟩
    refine (run.wellFormed.supplied _ node e found sends).resolve_left fun static => ?_
    exact sender.static static _ (own.symm ▸ textless)
  · exact ⟨un.target, un.spent, un.textless⟩

end Performance

def echoing : Flow where
  nodes :=
    [⟨"start", .trigger, "DM", "", []⟩,
      ⟨"ask", .action, "SMARTAI", "", [("message", .str "Say hello")]⟩,
      ⟨"send", .action, "MESSAGE", "", []⟩, ⟨"again", .action, "MESSAGE", "", []⟩]
  edges :=
    [⟨none, "start", "ask", none⟩, ⟨none, "ask", "send", none⟩, ⟨none, "send", "again", none⟩]

theorem accepted_echoing : (Draft.ofFlow echoing).Accepted ⟨.builtin, none⟩ := by
  let free : PlanTable := ⟨[("FREE", ⟨10, 10, ["*"]⟩)]⟩
  have none : (Validation.report ⟨.builtin, none⟩ (.ok free) (Settings.planName "FREE")
      (.ofFlow echoing)).violations = [] := by
    decide +kernel
  exact Draft.accepted_of_violations (by decide) none

theorem flow_echoing : (Draft.ofFlow echoing).flow? = .ok echoing := rfl

theorem trigger_echoing : (Graph.ofFlow echoing).trigger? (Text.upper "DM") =
    some ⟨"start", .trigger, "DM", "", []⟩ := by
  simp [Text.upper_dm, Graph.trigger?, Graph.triggers, Graph.ofFlow, Graph.firstDeclared, echoing,
    FlowNode.isTrigger]

theorem consumes_echoing : echoing.Consumes ⟨.builtin, none⟩ "again" :=
  ⟨⟨"again", .action, "MESSAGE", "", []⟩, by simp [echoing], rfl, message, rfl, rfl⟩

/-- The first sender takes the text, and the second one has none. -/
theorem exists_outcome_echoing :
    ∃ (visits : List Visit) (result : RunResult) (w' : World),
      Exec.outcome (Exec.traceRun ⟨.builtin, none⟩ echoing "DM" none) (.standard "run")
        (.generating "Hello") = (.ok (visits, result), w') ∧
      result.Generated ∧
      ∃ v ∈ visits, v.node.id = "again" ∧
        ∃ r ∈ result.nodes, v.run? = some r ∧ r.subType = "MESSAGE" ∧ r.LacksText := by
  have passes : (Exec.outcome (Exec.traceRun ⟨.builtin, none⟩ echoing "DM" none)
      (.standard "run") (.generating "Hello")).1.toOption.any (fun r =>
        decide r.2.Generated && r.1.any (fun v => v.node.id == "again" &&
          v.run?.any fun r => r.subType == "MESSAGE" && decide r.LacksText)) = true := by
    rw [Exec.traceRun, trigger_echoing]
    decide +kernel
  obtain ⟨⟨visits, result⟩, w', traces, both⟩ := Exec.exists_outcome_of_any passes
  simp only [Bool.and_eq_true, List.any_eq_true, beq_iff_eq, decide_eq_true_eq,
    Option.any_eq_true] at both
  obtain ⟨generated, v, mem, named, r, ran, sends, lacks⟩ := both
  obtain ⟨_, _, _, traces', trace⟩ := Exec.exists_outcome_traceRun (.standard "run")
    (.generating "Hello") ⟨.builtin, none⟩ trigger_echoing none
  cases traces.symm.trans traces'
  have listed : r ∈ result.nodes := by
    rw [trace.nodes]
    exact List.mem_filterMap.mpr ⟨v, mem, ran⟩
  exact ⟨visits, result, w', traces, generated, v, mem, named, r, listed, ran, sends, lacks⟩

/-- In a run of a flow that passed the check and in which all generators succeed, a node that sends
texts fails for lack of one exactly when nothing is left for it. -/
theorem run_supplies_senders {bridge : Option Bridge} {draft : Draft} {f : Flow}
    (accepted : draft.Accepted ⟨.builtin, bridge⟩) (reads : draft.flow? = .ok f) (kind : String)
    (items : Option (List Item)) (env : Env) {w : World} (empty : w.handoff.pending = []) :
    Prod.snd <$> Exec.traceRun ⟨.builtin, bridge⟩ f kind items =
        Exec.run ⟨.builtin, bridge⟩ f kind items ∧
    ∃ chapters result w',
      Exec.outcome (Exec.traceRun ⟨.builtin, bridge⟩ f kind items) env w =
        (.ok (chapters.map Chapter.visit, result), w') ∧
      match (Graph.ofFlow f).trigger? (Text.upper kind) with
      | none => chapters = []
      | some trigger =>
        Story ⟨⟨.builtin, bridge⟩, Graph.ofFlow f, trigger.id⟩ [trigger.id] w.handoff chapters
          w'.handoff ∧
        result.nodes = (chapters.map Chapter.visit).filterMap Visit.run? ∧
        (result.Generated → ∀ before c after r, chapters = before ++ c :: after →
          f.Consumes ⟨.builtin, bridge⟩ c.id → c.visit.run? = some r →
          (r.LacksText ↔ Unsupplied f ⟨⟨.builtin, bridge⟩, Graph.ofFlow f, trigger.id⟩ env before c
            result)) := by
  refine ⟨Exec.snd_traceRun _ f kind items, ?_⟩
  obtain ⟨chapters, result, w', traces, performs⟩ :=
    accepted.exists_performance reads kind items env empty
  refine ⟨chapters, result, w', traces, ?_⟩
  generalize (Graph.ofFlow f).trigger? (Text.upper kind) = chosen at performs ⊢
  cases chosen with
  | none => exact performs
  | some trigger =>
    refine ⟨performs.chronicle.story, performs.chronicle.trace.nodes, ?_⟩
    rintro generated before c after r rfl consumes ran
    exact performs.lacksText_iff generated consumes ran

theorem echoing_supplies_senders :
    (Draft.ofFlow echoing).Accepted ⟨.builtin, none⟩ ∧
    (Draft.ofFlow echoing).flow? = .ok echoing ∧
    (World.generating "Hello").handoff.pending = [] ∧
    ∃ (chapters : List Chapter) (result : RunResult) (w' : World),
      Exec.outcome (Exec.traceRun ⟨.builtin, none⟩ echoing "DM" none) (.standard "run")
        (.generating "Hello") = (.ok (chapters.map Chapter.visit, result), w') ∧
      result.Generated ∧
      ∃ before c after r, chapters = before ++ c :: after ∧ c.id = "again" ∧
        echoing.Consumes ⟨.builtin, none⟩ c.id ∧ c.visit.run? = some r ∧
        Unsupplied echoing ⟨⟨.builtin, none⟩, Graph.ofFlow echoing, "start"⟩ (.standard "run")
          before c result := by
  obtain ⟨visits, result, w', traces, generated, v, mem, named, r, -, ran, -, lacks⟩ :=
    exists_outcome_echoing
  have runs := run_supplies_senders accepted_echoing flow_echoing "DM" none (.standard "run")
    (rfl : (World.generating "Hello").handoff.pending = [])
  rw [trigger_echoing] at runs
  obtain ⟨-, chapters, result', w'', traces', -, -, supplies⟩ := runs
  cases traces.symm.trans traces'
  obtain ⟨c, chapter, rfl⟩ := List.mem_map.mp mem
  obtain ⟨before, after, rfl⟩ := List.append_of_mem chapter
  have consumes : echoing.Consumes ⟨.builtin, none⟩ c.visit.node.id :=
    named.symm ▸ consumes_echoing
  exact ⟨accepted_echoing, flow_echoing, rfl, _, result, w', traces, generated, before, c, after, r,
    rfl, named, consumes, ran,
    (supplies generated before c after r rfl consumes ran).mp lacks⟩

/-- The check lets a flow pass in which all generators succeed and a node has no text to send. -/
theorem echoing_sender_lacks :
    (Draft.ofFlow echoing).Accepted ⟨.builtin, none⟩ ∧
    (Draft.ofFlow echoing).flow? = .ok echoing ∧
    (World.generating "Hello").handoff.pending = [] ∧
    ∃ (result : RunResult) (w' : World),
      Exec.outcome (Exec.run ⟨.builtin, none⟩ echoing "DM" none) (.standard "run")
        (.generating "Hello") = (.ok result, w') ∧
      result.Generated ∧ ∃ r ∈ result.nodes, r.subType = "MESSAGE" ∧ r.LacksText := by
  obtain ⟨visits, result, w', traces, generated, v, -, -, r, listed, -, sends, lacks⟩ :=
    exists_outcome_echoing
  exact ⟨accepted_echoing, flow_echoing, rfl, result, w', Exec.outcome_run_of_traceRun traces,
    generated, r, listed, sends, lacks⟩

end Chatflow
