import Chatflow.Proofs.Handoff.Discipline
import Chatflow.Proofs.Run.Scheduling

/-!
# The texts of a run

The story of a run: its visits, with what each node did with generated texts and with the texts that
were dropped after it. Where each executor puts at most one text, under the id of its node, every
run has one (`Passage.exists_told`). The history of the texts then accounts for the hand-off
(`Told.pending`), and each text that was put is accounted for once (`Told.coherent`).
-/

namespace Chatflow

namespace Handoff

theorem pending_discardAll (h : Handoff) (texts : Entries String) :
    (h.discardAll texts.names).pending = (droppings texts).foldl TextEvent.apply h.pending := by
  induction texts generalizing h with
  | nil => rfl
  | cons e rest ih => exact ih (h.discard e.1).2

theorem mem_pending_discardAll {h : Handoff} {producers : List String} {e : String × String} :
    e ∈ (h.discardAll producers).pending ↔ e ∈ h.pending ∧ e.1 ∉ producers := by
  induction producers generalizing h with
  | nil => simp [discardAll]
  | cons producer rest ih =>
    have step : (h.discardAll (producer :: rest)) = (h.discard producer).2.discardAll rest := rfl
    rw [step, ih, discard, Table.mem_erase, List.mem_cons, not_or, and_assoc]

theorem current_discardAll (h : Handoff) (producers : List String) :
    (h.discardAll producers).current = h.current := by
  induction producers generalizing h with
  | nil => rfl
  | cons producer rest ih => exact ih (h.discard producer).2

end Handoff

namespace Visit

def entry (course : Course) (v : Visit) : Handoff := (course.entered v.node v.before).handoff

/-- What a node did with texts. It put at most one, and a skipped node did nothing. -/
structure Uses (l : Handoff.Liberty) (course : Course) (v : Visit) (uses : List TextEvent) :
    Prop where
  moves : ∃ h, Handoff.Moves l v.node.id (v.entry course) uses h ∧
    v.after.handoff.pending = h.pending
  few : (putTexts uses).length ≤ 1
  idle : v.fate = .skipped → uses = []

variable {l : Handoff.Liberty} {course : Course} {env : Env} {v : Visit} {uses : List TextEvent}

theorem Uses.pending (used : v.Uses l course uses) :
    v.after.handoff.pending = uses.foldl TextEvent.apply v.before.handoff.pending := by
  obtain ⟨h, moves, same⟩ := used.moves
  rw [same, moves.pending]
  rfl

theorem Uses.own (used : v.Uses l course uses) {e : TextEvent} (mem : e ∈ uses) :
    (∃ text, e = .put v.node.id text) ∨ (∃ producer text, e = .taken v.node.id producer text) ∨
      ∃ producer text, e = .discarded v.node.id producer text ∧ l.discards = true := by
  obtain ⟨h, moves, -⟩ := used.moves
  exact moves.own mem

theorem Uses.producer (used : v.Uses l course uses) {text : String × String}
    (mem : text ∈ putTexts uses) : text.1 = v.node.id := by
  rcases used.own (mem_putTexts_iff.mp mem) with ⟨_, put⟩ | ⟨_, _, taken⟩ | ⟨_, _, discarded, -⟩
  · exact (TextEvent.put.inj put).1
  · cases taken
  · cases discarded

/-- A node leaves the texts as its executor does. Without a turn or an executor it leaves them as
they were. -/
theorem Faithful.handoff_cases (faithful : v.Faithful course env) :
    v.after.handoff.pending = v.before.handoff.pending ∧
      (v.fate = .skipped ∨ course.dispatch.resolve? v.node.subType = none) ∨
    ∃ e, course.dispatch.resolve? v.node.subType = some e ∧ v.fate ≠ .skipped ∧
      v.after.handoff.pending = (Exec.outcome (e.execute (.obj v.node.config) v.input) env
        (course.entered v.node v.before)).2.handoff.pending := by
  by_cases received : v.input = []
  · exact .inl ⟨by rw [faithful.idle received], .inl (faithful.skips received)⟩
  · obtain ⟨ended, fate, -⟩ := faithful.executes received
    rcases faithful.ended_cases fate with ⟨unresolved, -, same⟩ | ⟨e, _, _, found, -, after⟩
    · exact .inl ⟨by rw [same], .inr (Dispatch.resolve?_eq_none_iff.mpr unresolved)⟩
    · exact .inr ⟨e, found, by simp [fate], by rw [after]; rfl⟩

theorem uses_nothing (same : v.after.handoff.pending = v.before.handoff.pending) :
    v.Uses l course [] := ⟨⟨_, .done _, same⟩, Nat.zero_le 1, fun _ => rfl⟩

theorem Faithful.exists_uses (faithful : v.Faithful course env)
    (conducts : course.dispatch.Conducts l) : ∃ uses, v.Uses l course uses := by
  rcases faithful.handoff_cases with ⟨same, -⟩ | ⟨e, found, executed, after⟩
  · exact ⟨[], uses_nothing same⟩
  · obtain ⟨uses, moves, few⟩ := conducts _ e found (.obj v.node.config) v.input env
      (course.entered v.node v.before) v.node.id rfl
    exact ⟨uses, ⟨_, moves, after⟩, few, fun skipped => absurd skipped executed⟩

end Visit

/-- A visit, with what its node did with texts and with the texts that were dropped after it. -/
structure Chapter where
  visit : Visit
  uses : List TextEvent
  dropped : Entries String

namespace Chapter

def id (c : Chapter) : String := c.visit.node.id

def events (c : Chapter) : List TextEvent := c.uses ++ droppings c.dropped

/-- The entries of a visit in the log of the run: those of the node, and then one for each text that
was dropped. -/
def log (c : Chapter) : List RunEntry :=
  c.visit.entries ++ c.dropped.names.map (RunEntry.dropped c.visit.after.clock.milliseconds)

end Chapter

theorem Chapter.put_mem_uses {c : Chapter} {producer text : String}
    (mem : .put producer text ∈ c.events) : .put producer text ∈ c.uses := by
  rcases List.mem_append.mp mem with own | drop
  · exact own
  · obtain ⟨_, _, other⟩ := List.mem_map.mp drop
    cases other

def historyOf (chapters : List Chapter) : List TextEvent := chapters.flatMap Chapter.events

theorem historyOf_cons (c : Chapter) (chapters : List Chapter) :
    historyOf (c :: chapters) = c.events ++ historyOf chapters := List.flatMap_cons

theorem historyOf_append (before after : List Chapter) :
    historyOf (before ++ after) = historyOf before ++ historyOf after := List.flatMap_append

theorem historyOf_concat (before : List Chapter) (c : Chapter) :
    historyOf (before ++ [c]) = historyOf before ++ c.events := by
  rw [historyOf_append, historyOf, historyOf, List.flatMap_singleton]

/-- The chapters lead from one hand-off to another. After each visit the texts are dropped that no
node can send any more, unless it ended the run. -/
inductive Told (l : Handoff.Liberty) (course : Course) :
    List String → Handoff → List Chapter → Handoff → Prop
  | done (settled : List String) (h : Handoff) : Told l course settled h [] h
  | ended (settled : List String) (c : Chapter) (fatal : c.visit.fatal? ≠ none)
      (used : c.visit.Uses l course c.uses) (kept : c.dropped = []) :
      Told l course settled c.visit.before.handoff [c] c.visit.after.handoff
  | next {settled : List String} (c : Chapter) {chapters : List Chapter} {h : Handoff}
      (goesOn : c.visit.fatal? = none) (used : c.visit.Uses l course c.uses)
      (drops : c.dropped = c.visit.stranded course settled)
      (rest : Told l course (c.id :: settled) (c.visit.cleared course settled) chapters h) :
      Told l course settled c.visit.before.handoff (c :: chapters) h

abbrev Story (course : Course) : List String → Handoff → List Chapter → Handoff → Prop :=
  Told .none course

variable {l : Handoff.Liberty} {course : Course} {settled : List String} {h h' : Handoff}
    {visits : List Visit}
  {log : List RunEntry} {chapters before after : List Chapter} {c : Chapter}

/-- Visits of nodes that each did something with texts make up a story. -/
theorem Passage.exists_told {P : Visit → List TextEvent → Prop}
    (passage : Passage course settled h visits log h')
    (used : ∀ v ∈ visits, ∃ uses, v.Uses l course uses ∧ P v uses) :
    ∃ chapters, chapters.map Chapter.visit = visits ∧ Told l course settled h chapters h' ∧
      log = chapters.flatMap Chapter.log ∧ ∀ c ∈ chapters, P c.visit c.uses := by
  induction passage with
  | done settled h => exact ⟨[], rfl, .done settled h, rfl, by simp⟩
  | @ended settled v fatal =>
    obtain ⟨uses, own, holds⟩ := used v List.mem_cons_self
    have silent : v.entries = [] := by
      unfold Visit.entries Visit.fatal? at *
      split <;> simp_all
    refine ⟨[⟨v, uses, []⟩], rfl, .ended settled ⟨v, uses, []⟩ fatal own rfl, ?_, ?_⟩
    · simp [Chapter.log, silent, Table.names]
    · exact List.forall_mem_singleton.mpr holds
  | @next settled v visits log h goesOn rest ih =>
    obtain ⟨uses, own, holds⟩ := used v List.mem_cons_self
    obtain ⟨chapters, rfl, story, rfl, later⟩ := ih fun u hu => used u (List.mem_cons_of_mem v hu)
    let c : Chapter := ⟨v, uses, v.stranded course settled⟩
    exact ⟨c :: chapters, rfl, .next c goesOn own rfl story, rfl,
      List.forall_mem_cons.mpr ⟨holds, later⟩⟩

namespace Told

theorem uses (story : Told l course settled h chapters h') (mem : c ∈ chapters) :
    c.visit.Uses l course c.uses := by
  induction story with
  | done => cases mem
  | ended _ _ _ used => exact List.mem_singleton.mp mem ▸ used
  | next _ _ used _ _ ih =>
    rcases List.mem_cons.mp mem with rfl | later
    · exact used
    · exact ih later

theorem split (story : Told l course settled h (before ++ after) h') :
    ∃ m, Told l course settled h before m ∧
      Told l course ((before.map Chapter.id).reverse ++ settled) m after h' := by
  induction before generalizing settled h with
  | nil => exact ⟨h, .done settled h, story⟩
  | cons c before ih =>
    rw [List.map_cons, List.reverse_cons, List.append_assoc, List.singleton_append]
    generalize parts : c :: before ++ after = whole at story
    cases story with
    | done => cases parts
    | ended _ _ fatal used kept =>
      obtain ⟨rfl, none⟩ := List.cons.inj parts
      obtain ⟨rfl, rfl⟩ := List.append_eq_nil_iff.mp none
      exact ⟨_, .ended settled c fatal used kept, .done _ _⟩
    | next _ goesOn used drops rest =>
      obtain ⟨rfl, rfl⟩ := List.cons.inj parts
      obtain ⟨m, first, second⟩ := ih rest
      exact ⟨m, .next c goesOn used drops first, second⟩

theorem foldl_pending (story : Told l course settled h chapters h') :
    h'.pending = (historyOf chapters).foldl TextEvent.apply h.pending := by
  induction story with
  | done => rfl
  | ended _ c _ used kept =>
    rw [historyOf, List.flatMap_singleton, Chapter.events, kept, used.pending]
    exact congrArg (List.foldl _ _) (List.append_nil c.uses).symm
  | @next settled c chapters _ _ used drops _ ih =>
    rw [ih, historyOf_cons, List.foldl_append, Chapter.events, List.foldl_append,
      ← used.pending, drops, ← Handoff.pending_discardAll]
    rfl

theorem pending (story : Told l course settled h chapters h') (empty : h.pending = []) :
    h'.pending = pendingAfter (historyOf chapters) := by
  rw [story.foldl_pending, empty, pendingAfter]

theorem before_eq (story : Told l course settled h (c :: after) h') :
    h = c.visit.before.handoff := by
  cases story <;> rfl

theorem pending_before (story : Told l course settled h (before ++ c :: after) h')
    (empty : h.pending = []) :
    c.visit.before.handoff.pending = pendingAfter (historyOf before) := by
  obtain ⟨m, first, second⟩ := story.split
  rw [← second.before_eq, first.pending empty]

/-- The story of nodes that have put no text before continues a coherent history. -/
theorem coherent_append {past : List TextEvent} (story : Told l course settled h chapters h')
    (coherent : Coherent past) (pending : pendingAfter past = h.pending)
    (nodup : (chapters.map Chapter.id).Nodup)
    (fresh : ∀ c ∈ chapters, c.id ∉ (putTexts past).map Prod.fst) :
    Coherent (past ++ historyOf chapters) := by
  induction story generalizing past with
  | done =>
    rw [historyOf, List.flatMap_nil, List.append_nil]
    exact coherent
  | ended _ c _ used kept =>
    obtain ⟨_, moves, -⟩ := used.moves
    have first := moves.coherent coherent pending (fun _ => fresh c List.mem_cons_self) used.few
    rw [historyOf, List.flatMap_singleton, Chapter.events, kept]
    exact (List.append_nil c.uses).symm ▸ first
  | @next settled c chapters _ _ used drops _ ih =>
    obtain ⟨_, moves, -⟩ := used.moves
    have first := moves.coherent coherent pending (fun _ => fresh c List.mem_cons_self) used.few
    have waits : pendingAfter (past ++ c.uses) = c.visit.after.handoff.pending := by
      rw [pendingAfter_append, pending, used.pending]
    have some : c.dropped.Sublist (pendingAfter (past ++ c.uses)) := by
      rw [waits, drops]
      exact List.filter_sublist
    have second := first.drop (first.nodup_pendingAfter.sublist (some.map _))
      fun text mem => some.subset mem
    obtain ⟨new, nodup⟩ := List.nodup_cons.mp nodup
    rw [historyOf_cons, ← List.append_assoc]
    rw [List.append_assoc] at second
    refine ih second ?_ nodup fun other mem old => ?_
    · rw [Chapter.events, ← List.append_assoc, pendingAfter_append, waits, drops,
        ← Handoff.pending_discardAll]
      rfl
    · obtain ⟨text, put, same⟩ := List.mem_map.mp old
      rw [Chapter.events, putTexts_append, putTexts_append, putTexts_droppings,
        List.append_nil] at put
      rcases List.mem_append.mp put with earlier | own
      · exact fresh other (List.mem_cons_of_mem c mem) (List.mem_map.mpr ⟨text, earlier, same⟩)
      · have node : other.id = c.id := same.symm.trans (used.producer own)
        exact new (List.mem_map.mpr ⟨other, mem, node⟩)

/-- In a story of different nodes that begins without texts each text is accounted for once. -/
theorem coherent (story : Told l course settled h chapters h') (empty : h.pending = [])
    (nodup : (chapters.map Chapter.id).Nodup) : Coherent (historyOf chapters) :=
  story.coherent_append .nil empty.symm nodup fun _ _ => List.not_mem_nil

/-- Only the run itself drops texts. -/
theorem droppedTexts_eq (story : Told l course settled h chapters h') :
    droppedTexts (historyOf chapters) = chapters.flatMap Chapter.dropped := by
  have own : ∀ c ∈ chapters, droppedTexts c.events = c.dropped := by
    intro c mem
    have used := story.uses mem
    have none : c.uses.filterMap TextEvent.dropped? = [] := by
      refine List.filterMap_eq_nil_iff.mpr fun e he => ?_
      rcases used.own he with ⟨_, rfl⟩ | ⟨_, _, rfl⟩ | ⟨_, _, rfl, -⟩ <;> rfl
    rw [droppedTexts, Chapter.events, List.filterMap_append, none, List.nil_append, droppings,
      List.filterMap_map]
    exact List.filterMap_some
  rw [droppedTexts, historyOf, List.filterMap_flatMap]
  exact List.flatMap_congr own

/-- Only nodes at liberty to do so discard texts. -/
theorem discardedTexts_eq_nil (story : Told l course settled h chapters h')
    (bound : l.discards = false) : discardedTexts (historyOf chapters) = [] := by
  refine List.filterMap_eq_nil_iff.mpr fun e mem => ?_
  obtain ⟨c, chapter, event⟩ := List.mem_flatMap.mp mem
  rcases List.mem_append.mp event with own | drop
  · rcases (story.uses chapter).own own with ⟨_, rfl⟩ | ⟨_, _, rfl⟩ | ⟨_, _, rfl, may⟩
    · rfl
    · rfl
    · cases may.symm.trans bound
  · obtain ⟨_, -, rfl⟩ := List.mem_map.mp drop
    rfl

theorem goesOn (story : Told l course settled h (before ++ c :: after) h') {b : Chapter}
    (mem : b ∈ before) : b.visit.fatal? = none := by
  induction before generalizing settled h with
  | nil => cases mem
  | cons first before ih =>
    generalize parts : first :: before ++ c :: after = whole at story
    cases story with
    | done => cases parts
    | ended => simp at parts
    | next _ goesOn _ _ rest =>
      obtain ⟨rfl, rfl⟩ := List.cons.inj parts
      rcases List.mem_cons.mp mem with rfl | later
      · exact goesOn
      · exact ih rest later

theorem exists_put (story : Told l course settled h chapters h') {producer text : String}
    (mem : .put producer text ∈ historyOf chapters) :
    ∃ c ∈ chapters, c.id = producer ∧ .put producer text ∈ c.uses := by
  obtain ⟨c, chapter, event⟩ := List.mem_flatMap.mp mem
  have own := c.put_mem_uses event
  exact ⟨c, chapter, ((story.uses chapter).producer (mem_putTexts_iff.mpr own)).symm, own⟩

end Told

/-- The chapters of a run account for its result, for its log and for the hand-off. -/
structure Chronicle (l : Handoff.Liberty) (course : Course) (env : Env) (opening : Parcel)
    (chapters : List Chapter) (result : RunResult) (h h' : Handoff) : Prop where
  trace : Trace course env opening (chapters.map Chapter.visit) result
  story : Told l course [course.start] h chapters h'
  logs : ∃ ending, result.logs = RunEntry.opening opening.time course.start ::
    chapters.flatMap Chapter.log ++ ending ∧ (result.fatal = none → ending = [])

/-- A run has a chronicle when each node that it visits does something with texts. -/
theorem Exec.exists_chronicle_traceRun (env : Env) (w : World) {d : Dispatch} {f : Flow}
    {kind : String} {trigger : FlowNode} {P : Visit → List TextEvent → Prop}
    (found : (Graph.ofFlow f).trigger? (Text.upper kind) = some trigger)
    (items : Option (List Item))
    (used : ∀ v : Visit, v.node ∈ (Graph.ofFlow f).nodes →
      v.Faithful ⟨d, Graph.ofFlow f, trigger.id⟩ env →
      ∃ uses, v.Uses l ⟨d, Graph.ofFlow f, trigger.id⟩ uses ∧ P v uses) :
    ∃ chapters result w',
      outcome (traceRun d f kind items) env w =
        (.ok (chapters.map Chapter.visit, result), w') ∧
      Chronicle l ⟨d, Graph.ofFlow f, trigger.id⟩ env
        ⟨trigger.id, startItems env w items, w.clock.milliseconds⟩ chapters result w.handoff
        w'.handoff ∧
      ∀ c ∈ chapters, P c.visit c.uses := by
  obtain ⟨visits, result, w', traces, trace, -, -, log, passage, logs⟩ :=
    exists_recorded_traceRun env w d found items
  obtain ⟨chapters, rfl, story, rfl, holds⟩ := passage.exists_told fun v hv =>
    used v (Graph.mem_of_get? (trace.declared v hv)) (trace.faithful hv)
  exact ⟨chapters, result, w', traces, ⟨trace, story, _, logs, fun none => none ▸ rfl⟩, holds⟩

/-- A run has a chronicle when its executors do no more than they are at liberty to do. -/
theorem Exec.exists_chronicle_of_conducts (env : Env) (w : World) {d : Dispatch}
    (conducts : d.Conducts l) {f : Flow} {kind : String} {trigger : FlowNode}
    (found : (Graph.ofFlow f).trigger? (Text.upper kind) = some trigger)
    (items : Option (List Item)) :
    ∃ chapters result w',
      outcome (traceRun d f kind items) env w =
        (.ok (chapters.map Chapter.visit, result), w') ∧
      Chronicle l ⟨d, Graph.ofFlow f, trigger.id⟩ env
        ⟨trigger.id, startItems env w items, w.clock.milliseconds⟩ chapters result w.handoff
        w'.handoff := by
  obtain ⟨chapters, result, w', traces, chronicle, -⟩ := exists_chronicle_traceRun env w
    (P := fun _ _ => True) found items fun v _ faithful => by
      obtain ⟨uses, own⟩ := faithful.exists_uses conducts
      exact ⟨uses, own, trivial⟩
  exact ⟨chapters, result, w', traces, chronicle⟩

/-- A run without a trigger has an empty trace, and leaves the hand-off as it was. -/
theorem Exec.exists_outcome_traceRun_of_none (env : Env) (w : World) (d : Dispatch) {f : Flow}
    {kind : String} (none : (Graph.ofFlow f).trigger? (Text.upper kind) = none)
    (items : Option (List Item)) :
    ∃ result w', outcome (traceRun d f kind items) env w = (.ok ([], result), w') ∧
      w'.handoff = w.handoff := by
  obtain ⟨result, records, ends, -⟩ := exists_records_run_of_none env w d none items
  exact ⟨result, { w with records }, outcome_traceRun_of_none none ends, rfl⟩

namespace Chronicle

variable {env : Env} {opening : Parcel} {result : RunResult}

theorem ids (chronicle : Chronicle l course env opening chapters result h h') :
    chapters.map Chapter.id <+: course.graph.runOrder course.start := by
  have order := chronicle.trace.order
  rwa [List.map_map] at order

theorem nodup_ids (chronicle : Chronicle l course env opening chapters result h h') :
    (course.start :: chapters.map Chapter.id).Nodup :=
  (Graph.nodup_runOrder course.graph course.start).sublist
    (chronicle.ids.sublist.cons_cons course.start)

theorem coherent (chronicle : Chronicle l course env opening chapters result h h')
    (empty : h.pending = []) : Coherent (historyOf chapters) :=
  chronicle.story.coherent empty (List.nodup_cons.mp chronicle.nodup_ids).2

/-- A node that did something with texts was executed, unless its error ended the run. -/
theorem mem_executed (chronicle : Chronicle l course env opening chapters result h h')
    (mem : c ∈ chapters) (goesOn : c.visit.fatal? = none) (busy : c.uses ≠ []) :
    c.id ∈ result.executed := by
  have visited : c.visit ∈ chapters.map Chapter.visit := List.mem_map_of_mem mem
  rw [chronicle.trace.executed_eq]
  refine List.mem_filterMap.mpr ⟨c.visit, visited, ?_⟩
  rcases (chronicle.trace.faithful visited).ids with ⟨executed, -⟩ | ⟨-, skipped, -⟩ | ⟨-, -, ended⟩
  · exact executed
  · refine absurd ((chronicle.story.uses mem).idle ?_) busy
    unfold Visit.skippedId? at skipped
    split at skipped <;> simp_all
  · rw [Visit.abortedId?, goesOn] at ended
    cases ended

end Chronicle

end Chatflow
