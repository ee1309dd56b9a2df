import Chatflow.Proofs.Handoff.Builtin
import Chatflow.Proofs.Run.Story

/-!
# Conservation of texts

No text is lost in a run, and none is sent twice: what nodes put is what nodes took or discarded,
what the run dropped and what is still pending. A node takes the newest text of the nodes before it,
unless it sets its scope itself.
-/

namespace Chatflow

/-- A node took a text of another node before it, which had put it earlier in the run and was
executed. Among the pending texts of the nodes before the taker it was the newest. -/
structure TakesNewest (g : Graph) (executed : List String) (before : List Chapter)
    (past : List TextEvent) (taker producer text : String) : Prop where
  other : producer ≠ taker
  path : g.Reaches producer taker
  put : ∃ b ∈ before, b.id = producer ∧ .put producer text ∈ b.uses
  executed : producer ∈ executed
  newest : ∃ older newer,
    pendingAfter (historyOf before ++ past) = older ++ (producer, text) :: newer ∧
    ∀ e ∈ newer, ¬(e.1 ≠ taker ∧ g.Reaches e.1 taker)

namespace Visit

variable {course : Course} {v : Visit}

theorem sees_entry {producer : String} :
    (v.entry course).sees producer = true ↔
      producer ≠ v.node.id ∧ course.graph.Reaches producer v.node.id := by
  rw [← Graph.mem_ancestors]
  exact List.contains_iff_mem

theorem mem_visible_entry {producer : String} :
    producer ∈ (v.entry course).visible ↔ producer ∈ v.before.handoff.pending.names ∧
      producer ≠ v.node.id ∧ course.graph.Reaches producer v.node.id := by
  rw [← sees_entry]
  exact List.mem_filter

end Visit

namespace Chronicle

variable {l : Handoff.Liberty} {course : Course} {env : Env} {opening : Parcel}
  {chapters before after : List Chapter} {c : Chapter} {result : RunResult} {h h' : Handoff}

/-- The takings of a node one after the other: each is of the newest text that there is then. -/
theorem takesNewest
    (chronicle : Chronicle l course env opening (before ++ c :: after) result h h')
    (bound : l.enters = false) (empty : h.pending = []) {past later : List TextEvent}
    {taker producer text : String} (took : c.uses = past ++ .taken taker producer text :: later) :
    taker = c.id ∧
      TakesNewest course.graph result.executed before past taker producer text := by
  have used := chronicle.story.uses (c := c) (by simp)
  obtain ⟨_, moves, -⟩ := used.moves
  rw [took] at moves
  obtain ⟨h₁, h₂, earlier, move, -⟩ := moves.split
  cases move with
  | take newest held =>
    have pending : h₁.pending = pendingAfter (historyOf before ++ past) := by
      rw [earlier.pending, pendingAfter_append, ← chronicle.story.pending_before empty]
      rfl
    have coherent := chronicle.coherent empty
    rw [historyOf_append, historyOf_cons, Chapter.events, took, ← List.append_assoc,
      ← List.append_assoc, ← List.append_assoc] at coherent
    have now := coherent.of_append.of_append.of_append
    have nodup : h₁.pending.names.Nodup := pending ▸ now.nodup_pendingAfter
    obtain ⟨older, newer, parts, seen, hidden⟩ := Handoff.exists_newest nodup newest held
    have sees : ∀ name, h₁.sees name = true ↔
        name ≠ c.id ∧ course.graph.Reaches name c.id := by
      intro name
      rw [Handoff.sees, earlier.scope bound]
      exact Visit.sees_entry
    obtain ⟨other, path⟩ := (sees producer).mp seen
    have mem : (producer, text) ∈ pendingAfter (historyOf before ++ past) := by
      rw [← pending, parts]
      simp
    obtain ⟨_, first, -⟩ := chronicle.story.split
    obtain ⟨b, chapter, own, puts⟩ := first.exists_put (earlier.put_mem_of_pending mem other)
    refine ⟨rfl, other, path, ⟨b, chapter, own, puts⟩, ?_, older, newer, pending ▸ parts, ?_⟩
    · have goesOn := chronicle.story.goesOn chapter
      have busy : b.uses ≠ [] := fun none => by simp [none] at puts
      exact own ▸ chronicle.mem_executed (List.mem_append_left _ chapter) goesOn busy
    · intro e he seen
      have := hidden e he
      rw [(sees e.1).mpr seen] at this
      cases this

end Chronicle

/-- Where no executor sets its scope, a run that begins without texts takes each text at most once,
and only behind the node that put it. At its end the texts that were put are those that were taken,
those that executors discarded, those that the run dropped and those that are pending. -/
theorem run_conserves_texts {l : Handoff.Liberty} {d : Dispatch} (conducts : d.Conducts l)
    (bound : l.enters = false) (f : Flow) (kind : String) (items : Option (List Item)) (env : Env)
    {w : World} (empty : w.handoff.pending = []) :
    Prod.snd <$> Exec.traceRun d f kind items = Exec.run d f kind items ∧
    ∃ chapters result w',
      Exec.outcome (Exec.traceRun d f kind items) env w =
        (.ok (chapters.map Chapter.visit, result), w') ∧
      (match (Graph.ofFlow f).trigger? (Text.upper kind) with
        | none => chapters = []
        | some trigger => Told l ⟨d, Graph.ofFlow f, trigger.id⟩ [trigger.id] w.handoff chapters
            w'.handoff) ∧
      w'.handoff.pending = pendingAfter (historyOf chapters) ∧
      ((putTexts (historyOf chapters)).map Prod.fst).Nodup ∧
      (putTexts (historyOf chapters)).Perm (takenTexts (historyOf chapters) ++
        discardedTexts (historyOf chapters) ++ droppedTexts (historyOf chapters) ++
        w'.handoff.pending) ∧
      (l.discards = false → discardedTexts (historyOf chapters) = []) ∧
      ∀ before c after past taker producer text later, chapters = before ++ c :: after →
        c.uses = past ++ .taken taker producer text :: later →
        taker = c.id ∧
          TakesNewest (Graph.ofFlow f) result.executed before past taker producer text := by
  refine ⟨Exec.snd_traceRun d f kind items, ?_⟩
  cases found : (Graph.ofFlow f).trigger? (Text.upper kind) with
  | none =>
    obtain ⟨result, w', traces, same⟩ :=
      Exec.exists_outcome_traceRun_of_none env w d found items
    refine ⟨[], result, w', traces, rfl, same ▸ empty, List.nodup_nil, ?_, fun _ => rfl, ?_⟩
    · rw [same, empty]
      exact .nil
    · intro before c after _ _ _ _ _ split
      simp at split
  | some trigger =>
    obtain ⟨chapters, result, w', traces, chronicle⟩ :=
      Exec.exists_chronicle_of_conducts env w conducts found items
    have coherent := chronicle.coherent empty
    have pending := chronicle.story.pending empty
    refine ⟨chapters, result, w', traces, chronicle.story, pending, coherent.once, ?_,
      chronicle.story.discardedTexts_eq_nil, ?_⟩
    · rw [pending]
      exact coherent.perm_put.trans ((perm_removedTexts _).append_right _)
    · rintro before c after past taker producer text later rfl took
      exact chronicle.takesNewest bound empty took

def answering : Flow where
  nodes :=
    [⟨"start", .trigger, "DM", "", []⟩,
      ⟨"generate", .action, "SMARTAI", "", [("message", .str "Answer politely")]⟩,
      ⟨"send", .action, "MESSAGE", "", []⟩]
  edges := [⟨none, "start", "generate", none⟩, ⟨none, "generate", "send", none⟩]

theorem trigger_answering : (Graph.ofFlow answering).trigger? (Text.upper "DM") =
    some ⟨"start", .trigger, "DM", "", []⟩ := by
  simp [Text.upper_dm, Graph.trigger?, Graph.triggers, Graph.ofFlow, Graph.firstDeclared, answering,
    FlowNode.isTrigger]

/-- A world in which nothing has happened, with a messenger and with a generator that always gives
the same text. -/
def World.generating (text : String) : World :=
  { World.bare with
    services := { Service.Bundle.none with
      messaging := some .recording
      ai := some (.scripted [] (.str text)) } }

theorem answering_conserves_texts :
    (⟨.builtin, none⟩ : Dispatch).Conducts .none ∧ Handoff.Liberty.none.enters = false ∧
    (World.generating "Hello").handoff.pending = [] ∧
    ∃ chapters result w',
      Exec.outcome (Exec.traceRun ⟨.builtin, none⟩ answering "DM" none) (.standard "run")
        (.generating "Hello") = (.ok (chapters.map Chapter.visit, result), w') ∧
      (putTexts (historyOf chapters)).Perm (takenTexts (historyOf chapters) ++
        droppedTexts (historyOf chapters) ++ w'.handoff.pending) := by
  have conducts := Dispatch.conducts_builtin .none none
  refine ⟨conducts, rfl, rfl, ?_⟩
  obtain ⟨-, chapters, result, w', traces, -, -, -, conserves, undiscarded, -⟩ :=
    run_conserves_texts conducts rfl answering "DM" none (.standard "run")
      (rfl : (World.generating "Hello").handoff.pending = [])
  rw [undiscarded rfl, List.append_nil] at conserves
  exact ⟨chapters, result, w', traces, conserves⟩

/-! ### Executors that take other liberties -/

def bystanding (subType : String) : Flow where
  nodes :=
    [⟨"start", .trigger, "DM", "", []⟩, ⟨"put", .action, "PUT", "", []⟩,
      ⟨"beside", .action, subType, "", []⟩, ⟨"behind", .action, "REST", "", []⟩]
  edges :=
    [⟨none, "start", "put", none⟩, ⟨none, "start", "beside", none⟩, ⟨none, "put", "behind", none⟩]

theorem trigger_bystanding (subType : String) :
    (Graph.ofFlow (bystanding subType)).trigger? (Text.upper "DM") =
      some ⟨"start", .trigger, "DM", "", []⟩ := by
  simp [Text.upper_dm, Graph.trigger?, Graph.triggers, Graph.ofFlow, Graph.firstDeclared,
    bystanding, FlowNode.isTrigger]

open Executor in
def Dispatch.discarding : Dispatch :=
  ⟨⟨[directMessage, putting, resting, .discarding "put"], true, by decide⟩, none⟩

open Executor in
def Dispatch.grabbing : Dispatch :=
  ⟨⟨[directMessage, putting, resting, .grabbing], true, by decide⟩, none⟩

theorem Executor.conducts_directMessage {l : Handoff.Liberty} : directMessage.Conducts l :=
  Dispatch.conducts_builtin l none "DM" directMessage rfl

theorem Dispatch.conducts_discarding : Dispatch.discarding.Conducts .discarding :=
  conducts_of_forall (by
    simp only [List.forall_mem_cons, List.not_mem_nil, false_imp_iff, implies_true, and_true]
    exact ⟨Executor.conducts_directMessage, Executor.conducts_putting, Executor.conducts_resting,
      Executor.conducts_discarding "put" rfl⟩)

theorem Dispatch.conducts_grabbing : Dispatch.grabbing.Conducts .full :=
  conducts_of_forall (by
    simp only [List.forall_mem_cons, List.not_mem_nil, false_imp_iff, implies_true, and_true]
    exact ⟨Executor.conducts_directMessage, Executor.conducts_putting, Executor.conducts_resting,
      Executor.conducts_grabbing rfl⟩)

/-- A text that a node has put is gone after another node discarded it. No node saw it, and the run
has dropped none. -/
theorem exists_outcome_discarding :
    ∃ (visits : List Visit) (result : RunResult) (w' : World),
      Exec.outcome (Exec.traceRun .discarding (bystanding "DISCARD") "DM" none) (.standard "run")
        .bare = (.ok (visits, result), w') ∧
      result.fatal = none ∧
      (∃ v ∈ visits, v.node.id = "put" ∧ v.after.handoff.pending = [("put", "Hello")]) ∧
      (∀ v ∈ visits,
        (v.entry ⟨.discarding, Graph.ofFlow (bystanding "DISCARD"), "start"⟩).visible = []) ∧
      (∀ e ∈ result.logs, e.entry.level ≠ .warn) ∧ w'.handoff.pending = [] := by
  let course : Course := ⟨.discarding, Graph.ofFlow (bystanding "DISCARD"), "start"⟩
  have passes : (Exec.outcome (Exec.traceRun .discarding (bystanding "DISCARD") "DM" none)
      (.standard "run") .bare).1.toOption.any (fun r => r.2.fatal.isNone &&
      r.1.any (fun v => v.node.id == "put" && v.after.handoff.pending == [("put", "Hello")]) &&
      r.1.all (fun v => (v.entry course).visible.isEmpty) &&
      r.2.logs.all (fun e => e.entry.level != .warn)) = true := by
    rw [Exec.traceRun, trigger_bystanding]
    decide
  have clears : (Exec.outcome (Exec.traceRun .discarding (bystanding "DISCARD") "DM" none)
      (.standard "run") .bare).2.handoff.pending = [] := by
    rw [Exec.traceRun, trigger_bystanding]
    decide
  obtain ⟨⟨visits, result⟩, w', traces, passes⟩ := Exec.exists_outcome_of_any passes
  rw [traces] at clears
  simp only [Bool.and_eq_true, List.any_eq_true, List.all_eq_true, Option.isNone_iff_eq_none,
    beq_iff_eq, bne_iff_ne, List.isEmpty_iff] at passes
  obtain ⟨⟨⟨unbroken, puts⟩, unseen⟩, quiet⟩ := passes
  exact ⟨visits, result, w', traces, unbroken, puts, unseen, quiet, clears⟩

/-- An executor that lifts its scope takes a text of a node from which no path leads to its own. -/
theorem exists_outcome_grabbing :
    ∃ (visits : List Visit) (result : RunResult) (w' : World),
      Exec.outcome (Exec.traceRun .grabbing (bystanding "GRAB") "DM" none) (.standard "run") .bare =
        (.ok (visits, result), w') ∧
      ∃ v ∈ visits, v.node.id = "beside" ∧ v.run?.bind NodeRun.text = some "Hello" := by
  have passes : (Exec.outcome (Exec.traceRun .grabbing (bystanding "GRAB") "DM" none)
      (.standard "run") .bare).1.toOption.any (fun r => r.1.any fun v =>
        v.node.id == "beside" && v.run?.bind NodeRun.text == some "Hello") = true := by
    rw [Exec.traceRun, trigger_bystanding]
    decide
  obtain ⟨⟨visits, result⟩, w', traces, passes⟩ := Exec.exists_outcome_of_any passes
  simp only [List.any_eq_true, Bool.and_eq_true, beq_iff_eq] at passes
  exact ⟨visits, result, w', traces, passes⟩

/-- Neither part of the conservation of texts holds for executors that take other liberties. A text
that is discarded is not taken, not dropped and not pending, and in another scope a node takes a
text of a node that is not before it. -/
theorem liberties_break_conservation :
    Dispatch.discarding.Conducts .discarding ∧ Dispatch.grabbing.Conducts .full ∧
    World.bare.handoff.pending = [] ∧
    (∃ (visits : List Visit) (result : RunResult) (w' : World),
      Exec.outcome (Exec.traceRun .discarding (bystanding "DISCARD") "DM" none) (.standard "run")
        .bare = (.ok (visits, result), w') ∧
      result.fatal = none ∧
      (∃ v ∈ visits, v.node.id = "put" ∧ v.after.handoff.pending = [("put", "Hello")]) ∧
      (∀ v ∈ visits,
        (v.entry ⟨.discarding, Graph.ofFlow (bystanding "DISCARD"), "start"⟩).visible = []) ∧
      (∀ e ∈ result.logs, e.entry.level ≠ .warn) ∧ w'.handoff.pending = []) ∧
    ∃ (visits : List Visit) (result : RunResult) (w' : World),
      Exec.outcome (Exec.traceRun .grabbing (bystanding "GRAB") "DM" none) (.standard "run") .bare =
        (.ok (visits, result), w') ∧
      ∃ v ∈ visits, v.run?.bind NodeRun.text = some "Hello" ∧
        ¬(Graph.ofFlow (bystanding "GRAB")).Reaches "put" v.node.id := by
  refine ⟨Dispatch.conducts_discarding, Dispatch.conducts_grabbing, rfl,
    exists_outcome_discarding, ?_⟩
  obtain ⟨visits, result, w', traces, v, mem, named, takes⟩ := exists_outcome_grabbing
  refine ⟨visits, result, w', traces, v, mem, takes, fun path => ?_⟩
  rw [named, ← Graph.mem_reachable_singleton (by decide)] at path
  revert path
  decide

end Chatflow
