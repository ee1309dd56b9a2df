import Chatflow.Proofs.Flow.Order
import Chatflow.Proofs.Run.Trace

/-!
# The loop of a run

A run as a loop that counts, for each node, the arcs that are still to be settled before it, and
marks the nodes to which something was delivered. The loop visits the nodes in the order in which
they settle and ends as the run does, whatever the executors do (`outcome_run_eq_loop`).
-/

namespace Chatflow

namespace Graph

/-- The arcs that are settled with a node in a run. -/
def settledWith (g : Graph) (start id : String) : List Arc := (g.outgoing id).filter (carries start)

theorem settledWith_eq {g : Graph} {start id : String} (reached : id ∈ g.reachable [start]) :
    g.settledWith start id = (g.runArcs start).filter (·.source == id) := by
  rw [runArcs, List.filter_filter, settledWith, outgoing, List.filter_filter]
  refine List.filter_congr fun a _ => ?_
  by_cases own : a.source = id
  · subst own
    simp [reached, carries]
  · simp [beq_eq_false_iff_ne.mpr own]

theorem runArcs_subset {g : Graph} {start : String} : g.runArcs start ⊆ g.arcs :=
  List.filter_subset_self _

theorem deliver_eq_foldl (g : Graph) (start id : String) (now : Int) (items : List Item)
    (inbox : Inbox) :
    g.deliver start id now items inbox =
      (g.settledWith start id).foldl
        (fun inbox a =>
          if !items.isEmpty && g.follows a.edge (items.head?.bind Item.branch) then
            inbox.add a.target (items.map (·.sendOn now (some id) none))
          else inbox)
        inbox := by
  rw [settledWith, List.foldl_filter]
  cases items with
  | nil => simp [deliver]
  | cons first items =>
    simp only [deliver, List.isEmpty_cons, Bool.not_false, Bool.true_and, List.head?_cons,
      Option.bind_some, Bool.and_eq_true]
    congr 1
    funext inbox a
    split_ifs <;> simp_all

end Graph

open Chatflow.Graph (Sorting)

/-- A run between two rounds of its loop: how far it has come, whether anything was delivered to a
node, how many arcs are still to be settled before it, and which nodes wait. -/
structure Traversal where
  progress : Progress
  satisfied : String → Bool
  sorting : Sorting

namespace Traversal

def noting (t : Traversal) (p : Progress) : Traversal := { t with progress := p }

/-- A run that starts from a node. All arcs are counted that will be settled. -/
def initial (g : Graph) (start : String) (p : Progress) : Traversal where
  progress := p
  satisfied := fun _ => false
  sorting :=
    { counts := ((g.reachable [start]).flatMap (g.settledWith start)).foldl Sorting.count fun _ => 0
      queue := []
      order := [start] }

/-- Settles an arc. If it is followed for the outcome of its source, its target receives the
items. -/
def settleArc (g : Graph) (sent : List Item) (outcome : Option String) (t : Traversal) (a : Arc) :
    Traversal :=
  let followed := !sent.isEmpty && g.follows a.edge outcome
  { progress :=
      if followed then { t.progress with inbox := t.progress.inbox.add a.target sent }
      else t.progress
    satisfied := if followed then Function.update t.satisfied a.target true else t.satisfied
    sorting := t.sorting.follow a }

def settle (course : Course) (now : Int) (id : String) (items : List Item) (t : Traversal) :
    Traversal :=
  (course.graph.settledWith course.start id).foldl
    (settleArc course.graph (items.map (·.sendOn now (some id) none))
      (items.head?.bind Item.branch))
    (t.noting { t.progress with settled := id :: t.progress.settled })

def Marked (t : Traversal) : Prop :=
  ∀ id, t.satisfied id = !(t.progress.inbox.itemsOf id).isEmpty

variable {g : Graph} {sent : List Item} {outcome : Option String} {t : Traversal}

theorem Marked.settleArc (marked : t.Marked) (a : Arc) : (t.settleArc g sent outcome a).Marked := by
  intro id
  unfold Traversal.settleArc
  by_cases followed : (!sent.isEmpty && g.follows a.edge outcome) = true
  · have something : sent.isEmpty = false := by simpa using (Bool.and_eq_true_iff.mp followed).1
    simp only [followed, if_true, Inbox.itemsOf_add]
    by_cases own : a.target = id
    · subst own
      have received : sent ≠ [] := List.isEmpty_eq_false_iff.mp something
      simp [received]
    · simp [own, Function.update_of_ne (Ne.symm own), marked id]
  · simp only [followed]
    exact marked id

theorem marked_foldl (marked : t.Marked) (arcs : List Arc) :
    (arcs.foldl (Traversal.settleArc g sent outcome) t).Marked := by
  induction arcs generalizing t with
  | nil => exact marked
  | cons a arcs ih => exact ih (marked.settleArc a)

theorem sorting_foldl (arcs : List Arc) :
    (arcs.foldl (Traversal.settleArc g sent outcome) t).sorting =
      arcs.foldl Sorting.follow t.sorting := by
  induction arcs generalizing t with
  | nil => rfl
  | cons a arcs ih => exact ih

theorem progress_foldl (arcs : List Arc) :
    (arcs.foldl (Traversal.settleArc g sent outcome) t).progress =
      { t.progress with
        inbox := arcs.foldl
          (fun inbox a =>
            if !sent.isEmpty && g.follows a.edge outcome then inbox.add a.target sent else inbox)
          t.progress.inbox } := by
  induction arcs generalizing t with
  | nil => rfl
  | cons a arcs ih =>
    rw [List.foldl_cons, ih, List.foldl_cons, Traversal.settleArc]
    dsimp only
    split_ifs <;> rfl

theorem Marked.settle (marked : t.Marked) (course : Course) (now : Int) (id : String)
    (items : List Item) : (t.settle course now id items).Marked := by
  have noted : (t.noting { t.progress with settled := id :: t.progress.settled }).Marked := marked
  exact marked_foldl noted _

theorem sorting_settle (course : Course) (now : Int) (id : String) (items : List Item)
    (t : Traversal) :
    (t.settle course now id items).sorting =
      (course.graph.settledWith course.start id).foldl Sorting.follow t.sorting := sorting_foldl _

/-- A node that is settled delivers what it hands on, as in a run that does not count. -/
theorem progress_settle (course : Course) (now : Int) (id : String) (items : List Item)
    (t : Traversal) :
    (t.settle course now id items).progress =
      { t.progress with
        inbox := course.graph.deliver course.start id now items t.progress.inbox
        settled := id :: t.progress.settled } := by
  rw [settle, progress_foldl, Graph.deliver_eq_foldl]
  simp only [List.isEmpty_map, noting]

end Traversal

namespace Exec

def settleArcs (course : Course) (t : Traversal) (id : String) (items : List Item) :
    Exec Traversal :=
  return t.settle course (← now) id items

def dropBehind (course : Course) (t : Traversal) : Exec Traversal :=
  return t.noting (← dropStranded course t.progress)

def visitMarked (course : Course) (t : Traversal) (n : FlowNode) :
    Exec (Except FatalError Traversal) := do
  if t.satisfied n.id then
    match ← executeNode course n (t.progress.inbox.itemsOf n.id) with
    | .error fatal => return .error fatal
    | .ok r =>
      let p ← noteRun t.progress r
      let t ← settleArcs course (t.noting p) r.nodeId r.handedOn
      return .ok (← dropBehind course t)
  else
    let p ← noteSkip t.progress n
    let t ← settleArcs course (t.noting p) n.id []
    return .ok (← dropBehind course t)

/-- Visits the nodes that wait, up to the first fatal error. The fuel bounds how many are
visited. -/
def visitQueue (course : Course) : Nat → Traversal → Exec (Traversal × Option FatalError)
  | 0, t => return (t, none)
  | fuel + 1, t => do
    match t.sorting.queue with
    | [] => return (t, none)
    | id :: queue =>
      let t := { t with sorting := { t.sorting with queue, order := t.sorting.order ++ [id] } }
      match course.graph.get? id with
      | none => visitQueue course fuel t
      | some n =>
        match ← visitMarked course t n with
        | .error fatal => return (t, some fatal)
        | .ok t => visitQueue course fuel t

/-- Runs a graph from a trigger with some items, as a loop. -/
def runLoop (fuel : Nat) (d : Dispatch) (g : Graph) (kind : String) (started : Float)
    (trigger : FlowNode) (items : List Item) : Exec RunResult := do
  let course : Course := ⟨d, g, trigger.id⟩
  let p ← noteStart course.start kind
  let t ← settleArcs course (.initial g course.start p) course.start items
  let (t, fatal) ← visitQueue course fuel t
  closeRun kind started trigger.id t.progress fatal

/-! ### One round -/

variable (course : Course) (env : Env) {w : World} {t : Traversal}

theorem outcome_settleArcs (t : Traversal) (id : String) (items : List Item) :
    outcome (settleArcs course t id items) env w =
      (.ok (t.settle course w.clock.milliseconds id items), w) := rfl

theorem outcome_settle_progress (t : Traversal) (id : String) (items : List Item) :
    outcome (settle course t.progress id items) env w =
      (.ok (t.settle course w.clock.milliseconds id items).progress, w) := by
  rw [outcome_settle, Traversal.progress_settle]

/-- Settling a node and dropping the texts behind it comes to the same with and without counting. -/
theorem exists_outcome_settleArcs {p : Progress} (marked : t.Marked)
    (inbox : p.inbox = t.progress.inbox) (id : String) (items : List Item) :
    ∃ t' v,
      outcome (settleArcs course (t.noting p) id items >>= dropBehind course) env w = (.ok t', v) ∧
      outcome (settle course p id items >>= dropStranded course) env w = (.ok t'.progress, v) ∧
      t'.Marked ∧
      t'.sorting = (course.graph.settledWith course.start id).foldl Sorting.follow t.sorting := by
  have noted : (t.noting p).Marked := fun v => by
    rw [Traversal.noting, inbox]
    exact marked v
  have kept := noted.settle course w.clock.milliseconds id items
  have sorted := Traversal.sorting_settle course w.clock.milliseconds id items (t.noting p)
  have settles := outcome_settle_progress course env (w := w) (t.noting p) id items
  have counts := outcome_settleArcs course env (w := w) (t.noting p) id items
  generalize (t.noting p).settle course w.clock.milliseconds id items = next at *
  obtain ⟨p', v, drops, same⟩ : ∃ p' v, outcome (dropStranded course next.progress) env w =
      (.ok p', v) ∧ p'.inbox = next.progress.inbox := by
    obtain ⟨records, drops⟩ := exists_outcome_dropStranded env w course next.progress
    exact ⟨_, _, drops, rfl⟩
  refine ⟨next.noting p', v, ?_, (outcome_bind_ok settles _).trans drops, fun u => ?_, sorted⟩
  · rw [outcome_bind_ok counts, dropBehind, outcome_bind_ok drops]
    rfl
  · rw [Traversal.noting, same]
    exact kept u

/-- A marked node is executed with what waits for it, and any other is skipped: a round of the loop
is a visit of the run. -/
theorem exists_outcome_visitMarked (marked : t.Marked) (n : FlowNode) :
    ∃ next v, outcome (visitMarked course t n) env w = (.ok next, v) ∧
      outcome (visitNode course t.progress n) env w = (.ok (next.map Traversal.progress), v) ∧
      ∀ t', next = .ok t' → t'.Marked ∧
        t'.sorting = (course.graph.settledWith course.start n.id).foldl Sorting.follow
          t.sorting := by
  have mark := marked n.id
  unfold visitMarked visitNode
  cases waiting : t.progress.inbox.itemsOf n.id with
  | nil =>
    obtain ⟨p, u, notes, inbox⟩ : ∃ p u, outcome (noteSkip t.progress n) env w = (.ok p, u) ∧
        p.inbox = t.progress.inbox := by
      obtain ⟨records, notes⟩ := exists_outcome_noteSkip env w t.progress n
      exact ⟨_, _, notes, rfl⟩
    obtain ⟨t', v, settles, settled, about⟩ :=
      exists_outcome_settleArcs course env (w := u) marked inbox n.id []
    refine ⟨.ok t', v, ?_, ?_, fun _ same => Except.ok.inj same ▸ about⟩
    · rw [if_neg (by simp [mark, waiting]), outcome_bind_ok notes, ← bind_assoc,
        outcome_bind_ok settles]
      rfl
    · dsimp only
      rw [skipNode, bind_assoc, outcome_bind_ok notes, ← bind_assoc, outcome_bind_ok settled]
      rfl
  | cons item items =>
    obtain ⟨ended, u, executes, about, -⟩ :=
      exists_outcome_executeNode env w course n (item :: items)
    rw [if_pos (by simp [mark, waiting]), outcome_bind_ok executes]
    dsimp only
    rw [outcome_bind_ok executes]
    cases ended with
    | error fatal =>
      refine ⟨.error fatal, u, rfl, rfl, fun _ same => ?_⟩
      cases same
    | ok r =>
      have names : r.nodeId = n.id := Option.some.inj about
      obtain ⟨p, x, notes, inbox⟩ : ∃ p x, outcome (noteRun t.progress r) env u = (.ok p, x) ∧
          p.inbox = t.progress.inbox := by
        obtain ⟨records, notes⟩ := exists_outcome_noteRun env u t.progress r
        exact ⟨_, _, notes, rfl⟩
      obtain ⟨t', v, settles, settled, about⟩ :=
        exists_outcome_settleArcs course env (w := x) marked inbox r.nodeId r.handedOn
      rw [names] at about
      refine ⟨.ok t', v, ?_, ?_, fun _ same => Except.ok.inj same ▸ about⟩
      · dsimp only
        rw [outcome_bind_ok notes, ← bind_assoc, outcome_bind_ok settles]
        rfl
      · dsimp only
        rw [acceptRun, bind_assoc, outcome_bind_ok notes, ← bind_assoc, outcome_bind_ok settled]
        rfl

/-! ### The whole loop -/

variable {opened : List Arc} {queue order : List String}

/-- The loop visits the nodes in the order in which they settle. By induction on the fuel, of which
each visit costs one. -/
theorem exists_outcome_visitQueue {fuel : Nat}
    (sound : Sorting.Sound course.graph [course.start] (course.graph.runArcs course.start) opened
      queue order)
    (marked : t.Marked) (sorting : t.sorting = ⟨Sorting.countOf opened, queue, order⟩)
    (enough : queue.length + opened.length ≤ fuel) :
    ∃ t' fatal v, outcome (visitQueue course fuel t) env w = (.ok (t', fatal), v) ∧
      outcome (visitNodes course t.progress
        ((Graph.settlingOrder fuel opened queue).filterMap course.graph.get?)) env w =
          (.ok (t'.progress, fatal), v) ∧
      (fatal = none → t'.sorting.queue = []) := by
  induction fuel generalizing t w opened queue order with
  | zero =>
    obtain rfl : queue = [] := List.length_eq_zero_iff.mp (by omega)
    exact ⟨t, none, w, rfl, rfl, fun _ => congrArg Sorting.queue sorting⟩
  | succ fuel ih =>
    cases queue with
    | nil =>
      refine ⟨t, none, w, ?_, rfl, fun _ => congrArg Sorting.queue sorting⟩
      rw [visitQueue, sorting]
      rfl
    | cons id queue =>
      have reached := sound.reached id List.mem_cons_self
      obtain ⟨n, declared⟩ := Graph.exists_get? (Graph.has_of_mem_reachable reached)
      obtain rfl := Graph.get?_id declared
      have popped : ({ t with sorting := ⟨Sorting.countOf opened, queue, order ++ [n.id]⟩ } :
          Traversal).Marked := marked
      obtain ⟨next, u, visits, visited, about⟩ :=
        exists_outcome_visitMarked course env (w := w) popped n
      have cost := Graph.length_after_le opened n.id
      rw [List.length_cons] at enough
      rw [Graph.settlingOrder_cons, List.filterMap_cons_some declared, visitNodes,
        outcome_bind_ok visited, visitQueue]
      simp only [sorting, declared]
      rw [outcome_bind_ok visits]
      cases next with
      | error fatal =>
        refine ⟨_, some fatal, u, rfl, rfl, fun same => ?_⟩
        cases same
      | ok t' =>
        obtain ⟨marked', counted⟩ := about t' rfl
        rw [Graph.settledWith_eq reached, sound.foldl_follow_own] at counted
        exact ih (sound.settle Graph.runArcs_subset) marked' counted
          (by rw [List.length_append]; omega)

theorem sound_start {g : Graph} {start : String} (has : g.has start = true) :
    Sorting.Sound g [start] (g.runArcs start) (g.runArcs start) [start] [] where
  queued := Graph.queued_start
  left := by simp
  reached := fun _ mem =>
    List.mem_singleton.mp mem ▸ (Graph.mem_reachable_singleton has).mpr .refl

theorem sound_opened {g : Graph} {start : String} (has : g.has start = true) :
    Sorting.Sound g [start] (g.runArcs start) (Graph.openAfter (g.runArcs start) start)
      (Graph.readyAfter (g.runArcs start) start) [start] := by
  have settled := (sound_start has).settle Graph.runArcs_subset
  rwa [List.nil_append, List.nil_append] at settled

theorem sorting_opened {g : Graph} {start : String} (has : g.has start = true) (p : Progress) :
    (g.settledWith start start).foldl Sorting.follow (Traversal.initial g start p).sorting =
      ⟨Sorting.countOf (Graph.openAfter (g.runArcs start) start),
        Graph.readyAfter (g.runArcs start) start, [start]⟩ := by
  have sound := sound_start has
  have counts : ((g.reachable [start]).flatMap (g.settledWith start)).foldl Sorting.count
      (fun _ => 0) = Sorting.countOf (g.runArcs start) :=
    (Sorting.foldl_count_reachable g [start] (Graph.carries start)).trans
      (congrArg Sorting.countOf (List.filter_congr fun _ _ => (Bool.and_assoc ..).symm))
  rw [Traversal.initial, counts, Graph.settledWith_eq (sound.reached start (by simp))]
  exact sound.foldl_follow_own

/-- A run is the loop: with fuel for as many visits as there are arcs the loop ends as the run does,
and more fuel changes nothing. -/
theorem outcome_runLoop {fuel : Nat} {g : Graph} {trigger : FlowNode}
    (has : g.has trigger.id = true) (enough : (g.runArcs trigger.id).length ≤ fuel) (d : Dispatch)
    (kind : String) (started : Float) (items : List Item) :
    outcome (runLoop fuel d g kind started trigger items) env w =
      outcome (runFrom d g kind started trigger items) env w := by
  obtain ⟨p, u, notes, empty⟩ : ∃ p u, outcome (noteStart trigger.id kind) env w = (.ok p, u) ∧
      p.inbox = [] := by
    obtain ⟨records, notes⟩ := exists_outcome_noteStart env w trigger.id kind
    exact ⟨_, _, notes, rfl⟩
  have unmarked : (Traversal.initial g trigger.id p).Marked := fun id => by
    rw [Traversal.initial, empty]
    rfl
  have opened := (Traversal.sorting_settle ⟨d, g, trigger.id⟩ u.clock.milliseconds trigger.id items
    (.initial g trigger.id p)).trans (sorting_opened has p)
  have cost := Graph.length_after_le (g.runArcs trigger.id) trigger.id
  obtain ⟨t, fatal, v, loops, visits, -⟩ :=
    exists_outcome_visitQueue ⟨d, g, trigger.id⟩ env (w := u)
    (sound_opened has) (unmarked.settle ⟨d, g, trigger.id⟩ u.clock.milliseconds trigger.id items)
    opened (cost.trans enough)
  have nodes : (Graph.settlingOrder fuel (Graph.openAfter (g.runArcs trigger.id) trigger.id)
      (Graph.readyAfter (g.runArcs trigger.id) trigger.id)).filterMap g.get? =
      g.runNodes trigger.id := by
    rw [Graph.runNodes, Graph.runOrder, Nat.add_comm, Graph.settlingOrder_cons, List.tail_cons,
      List.nil_append, Graph.settlingOrder_of_le cost enough]
  have opens : outcome (openRun ⟨d, g, trigger.id⟩ kind items) env w = _ :=
    (outcome_bind_ok notes fun p => settle ⟨d, g, trigger.id⟩ p trigger.id items).trans
      (outcome_settle_progress ⟨d, g, trigger.id⟩ env (.initial g trigger.id p) trigger.id items)
  rw [nodes] at visits
  unfold runLoop runFrom
  dsimp only
  rw [outcome_bind_ok notes, outcome_bind_ok (outcome_settleArcs ..), outcome_bind_ok loops,
    outcome_bind_ok opens, outcome_bind_ok visits]

theorem outcome_run_eq_loop {fuel : Nat} {f : Flow} {kind : String} {trigger : FlowNode}
    (found : (Graph.ofFlow f).trigger? (Text.upper kind) = some trigger)
    (enough : ((Graph.ofFlow f).runArcs trigger.id).length ≤ fuel) (d : Dispatch)
    (items : Option (List Item)) :
    outcome (run d f kind items) env w =
      outcome (runLoop fuel d (Graph.ofFlow f) (Text.upper kind) w.clock.elapsed trigger
        (startItems env w items)) env w := by
  rw [outcome_runLoop env (Graph.has_trigger found) enough]
  unfold run
  rw [outcome_bind_ok outcome_elapsed]
  dsimp only
  rw [found]
  dsimp only
  cases items with
  | some items => rfl
  | none =>
    dsimp only
    rw [outcome_bind_ok outcome_context, outcome_bind_ok outcome_now, pure_bind]
    rfl

end Exec

end Chatflow
