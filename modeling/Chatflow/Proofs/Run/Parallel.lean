import Chatflow.Proofs.Run.Conduct

/-!
# Texts of parallel branches

In a run of a well-formed flow no path leads from the generator of one pending text to that of
another. A node that sends texts thus sees several of them only behind generators on parallel
branches. It takes the newest, and each of the others is taken by a later node or dropped with a
warning.
-/

namespace Chatflow

/-- What a node that sends texts takes: the newest text that it sees, unless there is none or the
event has nothing to reply to. -/
inductive Chapter.Takes (course : Course) (env : Env) (c : Chapter) : Prop
  | nothing (unseen : (c.visit.entry course).visible = []) (idle : c.uses = [])
  | lacks (lacks : env.context.LacksTarget c.visit.node.subType) (idle : c.uses = [])
  | newest {older : List String} {producer text : String}
      (last : (c.visit.entry course).visible = older ++ [producer])
      (took : c.uses = [.taken c.id producer text])

/-- What a node that sends texts finds, what it takes of it, and what becomes of the rest. -/
structure Serves (f : Flow) (course : Course) (env : Env) (before : List Chapter) (c : Chapter)
    (after : List Chapter) (result : RunResult) : Prop where
  generators : ∀ p ∈ (c.visit.entry course).visible,
    f.Produces course.dispatch p ∧ p ≠ c.id ∧ f.Reaches p c.id ∧
      ∃ b ∈ before, b.id = p ∧ ∃ text, .put p text ∈ b.uses
  parallel : (c.visit.entry course).visible.Pairwise fun p q => ¬f.Reaches p q ∧ ¬f.Reaches q p
  takes : c.Takes course env
  others : result.fatal = none → ∀ p ∈ (c.visit.entry course).visible,
    (∀ text, .taken c.id p text ∉ c.uses) →
      (∃ d ∈ after, ∃ text, .taken d.id p text ∈ d.uses) ∨
      ∃ d ∈ c :: after, p ∈ d.dropped.names ∧
        RunEntry.dropped d.visit.after.clock.milliseconds p ∈ result.logs

namespace Performance

variable {bridge : Option Bridge} {f : Flow} {trigger : FlowNode} {env : Env} {opening : Parcel}
  {chapters before after : List Chapter} {c : Chapter} {result : RunResult} {h h' : Handoff}
  {e : String × String}

theorem pending_before
    (run : Performance bridge f trigger env opening (before ++ c :: after) result h h') :
    c.visit.before.handoff.pending = pendingAfter (historyOf before) :=
  run.chronicle.story.pending_before run.empty

theorem mem_visible
    (run : Performance bridge f trigger env opening (before ++ c :: after) result h h')
    {p : String} :
    p ∈ (c.visit.entry ⟨⟨.builtin, bridge⟩, Graph.ofFlow f, trigger.id⟩).visible ↔
      p ∈ (pendingAfter (historyOf before)).names ∧ p ≠ c.id ∧ f.Reaches p c.id := by
  rw [Visit.mem_visible_entry, run.pending_before, run.reaches_eq]
  rfl

theorem exists_generator
    (run : Performance bridge f trigger env opening (before ++ after) result h h')
    (mem : e ∈ pendingAfter (historyOf before)) :
    ∃ b ∈ before, b.id = e.1 ∧ .put e.1 e.2 ∈ b.uses := by
  obtain ⟨m, first, -⟩ := run.chronicle.story.split
  exact first.exists_put (put_mem_of_mem_pendingAfter mem)

theorem exists_generator_of_seen {p : String}
    (run : Performance bridge f trigger env opening (before ++ c :: after) result h h')
    (seen : p ∈ (c.visit.entry ⟨⟨.builtin, bridge⟩, Graph.ofFlow f, trigger.id⟩).visible) :
    ∃ text, (p, text) ∈ pendingAfter (historyOf before) ∧ f.Produces ⟨.builtin, bridge⟩ p ∧
      ∃ b ∈ before, b.id = p ∧ .put p text ∈ b.uses := by
  obtain ⟨⟨_, text⟩, mem, rfl⟩ := List.mem_map.mp (run.mem_visible.mp seen).1
  obtain ⟨b, earlier, own, put⟩ := run.exists_generator mem
  exact ⟨text, mem, (run.produces_of_put (List.mem_append_left _ earlier) put).2.1, b, earlier, own,
    put⟩

/-! ### Pending texts -/

/-- A text that is pending after a node was so before it, or the node put it and saw no other. -/
theorem pending_cases
    (run : Performance bridge f trigger env opening (before ++ c :: after) result h h')
    (mem : e ∈ pendingAfter (historyOf (before ++ [c]))) :
    e ∈ pendingAfter (historyOf before) ∨ e.1 = c.id ∧
      ∀ p ∈ (pendingAfter (historyOf before)).names, p ≠ c.id → ¬f.Reaches p c.id := by
  rw [historyOf_concat, pendingAfter_append] at mem
  rcases mem_of_mem_foldl mem with old | put
  · exact .inl old
  · obtain ⟨own, -, unseen⟩ := run.produces_of_put (by simp) (c.put_mem_uses put)
    refine .inr ⟨own, fun p pending other path => ?_⟩
    have seen := run.mem_visible.mpr ⟨pending, other, path⟩
    rw [unseen] at seen
    cases seen

/-- No path leads from the generator of a pending text to that of another. -/
theorem parallel (run : Performance bridge f trigger env opening (before ++ after) result h h')
    {d : String × String} (first : d ∈ pendingAfter (historyOf before))
    (second : e ∈ pendingAfter (historyOf before)) (path : f.Reaches d.1 e.1) : d.1 = e.1 := by
  induction before using List.reverseRecOn generalizing after d e with
  | nil => cases first
  | append_singleton before c ih =>
    rw [List.append_assoc, List.singleton_append] at run
    rcases run.pending_cases first with oldFirst | ⟨newFirst, -⟩ <;>
      rcases run.pending_cases second with oldSecond | ⟨newSecond, alone⟩
    · exact ih run oldFirst oldSecond path
    · by_contra other
      exact alone d.1 (List.mem_map_of_mem oldFirst) (newSecond ▸ other) (newSecond ▸ path)
    · obtain ⟨b, mem, own, -⟩ := run.exists_generator oldSecond
      rw [newFirst, ← own] at path
      exact absurd path (run.not_reaches_before mem)
    · rw [newFirst, newSecond]

theorem pairwise_visible
    (run : Performance bridge f trigger env opening (before ++ c :: after) result h h') :
    (c.visit.entry ⟨⟨.builtin, bridge⟩, Graph.ofFlow f, trigger.id⟩).visible.Pairwise
      fun p q => ¬f.Reaches p q ∧ ¬f.Reaches q p := by
  have coherent := run.coherent
  rw [historyOf_append] at coherent
  have distinct : (c.visit.entry
      ⟨⟨.builtin, bridge⟩, Graph.ofFlow f, trigger.id⟩).visible.Nodup := by
    refine List.Nodup.filter _ ?_
    change (c.visit.before.handoff.pending.names).Nodup
    rw [run.pending_before]
    exact coherent.of_append.nodup_pendingAfter
  refine distinct.pairwise_of_forall_ne fun p seenP q seenQ ne => ?_
  obtain ⟨_, first, -⟩ := run.exists_generator_of_seen seenP
  obtain ⟨_, second, -⟩ := run.exists_generator_of_seen seenQ
  exact ⟨fun path => ne (run.parallel first second path),
    fun path => ne (run.parallel second first path).symm⟩

/-- In a run that no error ends, each pending text is later taken, or dropped with a warning. -/
theorem exists_end (run : Performance bridge f trigger env opening (before ++ after) result h h')
    (none : result.fatal = none) (mem : e ∈ pendingAfter (historyOf before)) :
    (∃ d ∈ after, .taken d.id e.1 e.2 ∈ d.uses) ∨
      ∃ d ∈ after, e ∈ d.dropped ∧
        RunEntry.dropped d.visit.after.clock.milliseconds e.1 ∈ result.logs := by
  have coherent := run.coherent
  have cleared := run.chronicle.pending_eq_nil run.has run.acyclic run.empty none
  rw [run.chronicle.story.pending run.empty] at cleared
  rw [historyOf_append] at coherent cleared
  obtain ⟨event, there, removed⟩ := coherent.exists_removed mem (by simp [cleared])
  obtain ⟨d, chapter, own⟩ := List.mem_flatMap.mp there
  rcases List.mem_append.mp own with used | drop
  · left
    rcases (run.chronicle.story.uses (List.mem_append_right _ chapter)).own used with
      ⟨_, rfl⟩ | ⟨_, _, rfl⟩ | ⟨_, _, rfl, ⟨⟩⟩
    · cases removed
    · obtain rfl := Option.some.inj removed
      exact ⟨d, chapter, used⟩
  · right
    obtain ⟨text, dropped, rfl⟩ := List.mem_map.mp drop
    obtain rfl := Option.some.inj removed
    refine ⟨d, chapter, dropped, ?_⟩
    obtain ⟨ending, logs, -⟩ := run.chronicle.logs
    have entry : RunEntry.dropped d.visit.after.clock.milliseconds text.1 ∈ d.log :=
      List.mem_append_right _ (List.mem_map_of_mem (List.mem_map_of_mem dropped))
    have told := List.mem_flatMap_of_mem (List.mem_append_right before chapter) entry
    rw [logs]
    exact List.mem_append_left _ (List.mem_cons_of_mem _ told)

/-! ### Nodes that send texts -/

theorem takes (run : Performance bridge f trigger env opening chapters result h h')
    (mem : c ∈ chapters) (consumes : f.Consumes ⟨.builtin, bridge⟩ c.id)
    (executed : c.visit.fate ≠ .skipped) :
    c.Takes ⟨⟨.builtin, bridge⟩, Graph.ofFlow f, trigger.id⟩ env := by
  obtain ⟨n, node, same, e, found, sends⟩ := consumes
  obtain rfl : n = c.visit.node :=
    List.inj_on_of_nodup_map run.wellFormed.distinct node (run.node_mem mem) same
  have uses := (run.acts c mem).sends e found sends executed
  split at uses
  · rename_i lacks
    exact .lacks lacks uses
  · unfold Handoff.taking at uses
    split at uses
    · rename_i unseen
      exact .nothing (List.getLast?_eq_none_iff.mp unseen) uses
    · rename_i producer last
      obtain ⟨older, seen⟩ := List.getLast?_eq_some_iff.mp last
      obtain ⟨text, held⟩ := Handoff.exists_held (List.mem_of_getLast? last)
      rw [held] at uses
      exact .newest seen uses

theorem serves
    (run : Performance bridge f trigger env opening (before ++ c :: after) result h h')
    (consumes : f.Consumes ⟨.builtin, bridge⟩ c.id) (executed : c.visit.fate ≠ .skipped) :
    Serves f ⟨⟨.builtin, bridge⟩, Graph.ofFlow f, trigger.id⟩ env before c after result where
  generators := by
    intro p seen
    obtain ⟨-, other, path⟩ := run.mem_visible.mp seen
    obtain ⟨text, -, generates, b, earlier, own, put⟩ := run.exists_generator_of_seen seen
    exact ⟨generates, other, path, b, earlier, own, text, put⟩
  parallel := run.pairwise_visible
  takes := run.takes (by simp) consumes executed
  others := by
    intro none p seen left
    obtain ⟨text, mem, -⟩ := run.exists_generator_of_seen seen
    rcases run.exists_end none mem with ⟨d, later, took⟩ | ⟨d, later, dropped, warned⟩
    · rcases List.mem_cons.mp later with rfl | later
      · exact absurd took (left text)
      · exact .inl ⟨d, later, text, took⟩
    · exact .inr ⟨d, later, List.mem_map_of_mem dropped, warned⟩

end Performance

/-- A flow in which the texts of two branches come together at a node, and a third text is generated
after it. -/
def crossing : Flow where
  nodes :=
    [⟨"start", .trigger, "DM", "", []⟩,
      ⟨"first", .action, "SMARTAI", "", [("message", .str "Say hello")]⟩,
      ⟨"second", .action, "SMARTAI", "", [("message", .str "Say goodbye")]⟩,
      ⟨"send", .action, "MESSAGE", "", []⟩,
      ⟨"third", .action, "SMARTAI", "", [("message", .str "Say it again")]⟩]
  edges :=
    [⟨none, "start", "first", none⟩, ⟨none, "start", "second", none⟩,
      ⟨none, "first", "send", none⟩, ⟨none, "second", "send", none⟩,
      ⟨none, "send", "third", none⟩]

theorem accepted_crossing : (Draft.ofFlow crossing).Accepted ⟨.builtin, none⟩ := by
  let free : PlanTable := ⟨[("FREE", ⟨10, 10, ["*"]⟩)]⟩
  have none : (Validation.report ⟨.builtin, none⟩ (.ok free) (Settings.planName "FREE")
      (.ofFlow crossing)).violations = [] := by
    decide +kernel
  exact Draft.accepted_of_violations (by decide) none

theorem flow_crossing : (Draft.ofFlow crossing).flow? = .ok crossing := rfl

theorem trigger_crossing : (Graph.ofFlow crossing).trigger? (Text.upper "DM") =
    some ⟨"start", .trigger, "DM", "", []⟩ := by
  simp [Text.upper_dm, Graph.trigger?, Graph.triggers, Graph.ofFlow, Graph.firstDeclared, crossing,
    FlowNode.isTrigger]

theorem consumes_crossing : crossing.Consumes ⟨.builtin, none⟩ "send" :=
  ⟨⟨"send", .action, "MESSAGE", "", []⟩, by simp [crossing], rfl, message, rfl, rfl⟩

/-- Two texts wait for the node that sends one, and the older one is in the way of the third. -/
theorem exists_outcome_crossing :
    ∃ (visits : List Visit) (result : RunResult) (w' : World),
      Exec.outcome (Exec.traceRun ⟨.builtin, none⟩ crossing "DM" none) (.standard "run")
        (.generating "Hello") = (.ok (visits, result), w') ∧
      (∃ v ∈ visits, v.node.id = "send" ∧ v.fate ≠ .skipped ∧
        (v.entry ⟨⟨.builtin, none⟩, Graph.ofFlow crossing, "start"⟩).visible =
          ["first", "second"]) ∧
      ∃ v ∈ visits, v.node.id = "third" ∧
        (v.entry ⟨⟨.builtin, none⟩, Graph.ofFlow crossing, "start"⟩).visible = ["first"] ∧
        v.run?.bind NodeRun.text = some (Fault.occupied (some "first")).message := by
  have passes : (Exec.outcome (Exec.traceRun ⟨.builtin, none⟩ crossing "DM" none)
      (.standard "run") (.generating "Hello")).1.toOption.any (fun r =>
        r.1.any (fun v => v.node.id == "send" && v.run?.isSome &&
          (v.entry ⟨⟨.builtin, none⟩, Graph.ofFlow crossing, "start"⟩).visible ==
            ["first", "second"]) &&
        r.1.any (fun v => v.node.id == "third" &&
          (v.entry ⟨⟨.builtin, none⟩, Graph.ofFlow crossing, "start"⟩).visible == ["first"] &&
          v.run?.bind NodeRun.text == some (Fault.occupied (some "first")).message)) = true := by
    rw [Exec.traceRun, trigger_crossing]
    decide +kernel
  obtain ⟨⟨visits, result⟩, w', traces, both⟩ := Exec.exists_outcome_of_any passes
  simp only [Bool.and_eq_true, List.any_eq_true, beq_iff_eq, and_assoc] at both
  obtain ⟨⟨v, mem, named, ran, sees⟩, third⟩ := both
  have executed : v.fate ≠ .skipped := fun skipped => by simp [Visit.run?, skipped] at ran
  exact ⟨visits, result, w', traces, ⟨v, mem, named, executed, sees⟩, third⟩

/-- In a run of a flow that passed the check, a node that sends texts sees several of them only
behind generators of which none comes before another. It takes the newest. In a run that no error
ends, each of the others is taken by a later node or dropped with a warning. -/
theorem run_serves_senders {bridge : Option Bridge} {draft : Draft} {f : Flow}
    (accepted : draft.Accepted ⟨.builtin, bridge⟩) (reads : draft.flow? = .ok f) (kind : String)
    (items : Option (List Item)) (env : Env) {w : World} (empty : w.handoff.pending = []) :
    Prod.snd <$> Exec.traceRun ⟨.builtin, bridge⟩ f kind items =
        Exec.run ⟨.builtin, bridge⟩ f kind items ∧
    ∃ chapters result w',
      Exec.outcome (Exec.traceRun ⟨.builtin, bridge⟩ f kind items) env w =
        (.ok (chapters.map Chapter.visit, result), w') ∧
      match (Graph.ofFlow f).trigger? (Text.upper kind) with
      | none => chapters = []
      | some trigger =>
        Story ⟨⟨.builtin, bridge⟩, Graph.ofFlow f, trigger.id⟩ [trigger.id] w.handoff chapters
          w'.handoff ∧
        ∀ before c after, chapters = before ++ c :: after →
          f.Consumes ⟨.builtin, bridge⟩ c.id → c.visit.fate ≠ .skipped →
          Serves f ⟨⟨.builtin, bridge⟩, Graph.ofFlow f, trigger.id⟩ env before c after result := by
  refine ⟨Exec.snd_traceRun _ f kind items, ?_⟩
  obtain ⟨chapters, result, w', traces, performs⟩ :=
    accepted.exists_performance reads kind items env empty
  refine ⟨chapters, result, w', traces, ?_⟩
  generalize (Graph.ofFlow f).trigger? (Text.upper kind) = chosen at performs ⊢
  cases chosen with
  | none => exact performs
  | some trigger =>
    refine ⟨performs.chronicle.story, ?_⟩
    rintro before c after rfl consumes executed
    exact performs.serves consumes executed

theorem crossing_serves_senders :
    (Draft.ofFlow crossing).Accepted ⟨.builtin, none⟩ ∧
    (Draft.ofFlow crossing).flow? = .ok crossing ∧
    (World.generating "Hello").handoff.pending = [] ∧
    ∃ (chapters : List Chapter) (result : RunResult) (w' : World),
      Exec.outcome (Exec.traceRun ⟨.builtin, none⟩ crossing "DM" none) (.standard "run")
        (.generating "Hello") = (.ok (chapters.map Chapter.visit, result), w') ∧
      ∃ before c after, chapters = before ++ c :: after ∧ c.id = "send" ∧
        crossing.Consumes ⟨.builtin, none⟩ c.id ∧ c.visit.fate ≠ .skipped ∧
        Serves crossing ⟨⟨.builtin, none⟩, Graph.ofFlow crossing, "start"⟩ (.standard "run") before
          c after result := by
  obtain ⟨visits, result, w', traces, ⟨v, mem, named, executed, -⟩, -⟩ := exists_outcome_crossing
  have runs := run_serves_senders accepted_crossing flow_crossing "DM" none (.standard "run")
    (rfl : (World.generating "Hello").handoff.pending = [])
  rw [trigger_crossing] at runs
  obtain ⟨-, chapters, result', w'', traces', -, serves⟩ := runs
  cases traces.symm.trans traces'
  obtain ⟨c, chapter, rfl⟩ := List.mem_map.mp mem
  obtain ⟨before, after, rfl⟩ := List.append_of_mem chapter
  have consumes : crossing.Consumes ⟨.builtin, none⟩ c.visit.node.id :=
    named.symm ▸ consumes_crossing
  exact ⟨accepted_crossing, flow_crossing, rfl, _, result, w', traces, before, c, after, rfl, named,
    consumes, executed, serves before c after rfl consumes executed⟩

/-- The check lets a flow pass in which a node finds two texts. -/
theorem crossing_sender_sees_two :
    (Draft.ofFlow crossing).Accepted ⟨.builtin, none⟩ ∧
    (Draft.ofFlow crossing).flow? = .ok crossing ∧
    (World.generating "Hello").handoff.pending = [] ∧
    ∃ (visits : List Visit) (result : RunResult) (w' : World),
      Exec.outcome (Exec.traceRun ⟨.builtin, none⟩ crossing "DM" none) (.standard "run")
        (.generating "Hello") = (.ok (visits, result), w') ∧
      ∃ v ∈ visits, crossing.Consumes ⟨.builtin, none⟩ v.node.id ∧ v.fate ≠ .skipped ∧
        (v.entry ⟨⟨.builtin, none⟩, Graph.ofFlow crossing, "start"⟩).visible =
          ["first", "second"] := by
  obtain ⟨visits, result, w', traces, ⟨v, mem, named, executed, sees⟩, -⟩ := exists_outcome_crossing
  exact ⟨accepted_crossing, flow_crossing, rfl, visits, result, w', traces, v, mem,
    named.symm ▸ consumes_crossing, executed, sees⟩

end Chatflow
