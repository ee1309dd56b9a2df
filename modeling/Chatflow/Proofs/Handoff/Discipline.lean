import Chatflow.Proofs.Exec
import Chatflow.Proofs.Handoff.History
import Chatflow.Registry

/-!
# What nodes do with the hand-off

A node at work puts a text under its own id, or takes the newest text that it sees. An executor may
also be at liberty to discard texts of any node, or to set the scope in which it sees them. All of
them put at most one text in an execution.
-/

namespace Chatflow

namespace Handoff

structure Liberty where
  discards : Bool
  enters : Bool

namespace Liberty

def none : Liberty := ⟨false, false⟩

def discarding : Liberty := ⟨true, false⟩

/-- A node may also set its scope. -/
def full : Liberty := ⟨true, true⟩

end Liberty

/-- What a node does in one go. -/
inductive Move (l : Liberty) (node : String) : Handoff → TextEvent → Handoff → Prop
  | put {h h' : Handoff} {text : String} {producer : Option String}
      (puts : h.put text producer = .ok h') (own : h.producerName producer = node) :
      Move l node h (.put node text) h'
  | take {h : Handoff} {producer text : String} (newest : h.visible.getLast? = some producer)
      (held : h.pending.get? producer = some text) :
      Move l node h (.taken node producer text) h.take.2
  | discard {h : Handoff} {producer text : String} (may : l.discards = true)
      (held : h.pending.get? producer = some text) :
      Move l node h (.discarded node producer text) (h.discard producer).2

inductive Moves (l : Liberty) (node : String) : Handoff → List TextEvent → Handoff → Prop
  | done (h : Handoff) : Moves l node h [] h
  | next {h h' h'' : Handoff} {e : TextEvent} {events : List TextEvent} (first : Move l node h e h')
      (rest : Moves l node h' events h'') : Moves l node h (e :: events) h''
  | enter {h h' : Handoff} {events : List TextEvent} (may : l.enters = true)
      (current : Option String) (scope : Option (List String))
      (rest : Moves l node (h.enter current scope) events h') : Moves l node h events h'

variable {l : Liberty} {node : String} {h h' : Handoff} {e : TextEvent} {events : List TextEvent}

theorem Move.single (move : Move l node h e h') : Moves l node h [e] h' := .next move (.done h')

theorem put_eq_ok_iff {text : String} {producer : Option String} :
    h.put text producer = .ok h' ↔ h.visible = [] ∧
      h' = { h with
        pending := h.pending.erase (h.producerName producer) ++
          [(h.producerName producer, text)] } := by
  unfold put
  cases last : h.visible.getLast? with
  | none => simp [List.getLast?_eq_none_iff.mp last, eq_comm]
  | some earlier =>
    have some : h.visible ≠ [] := fun none => by simp [none] at last
    simp [some]

theorem take_of_newest {producer : String} (newest : h.visible.getLast? = some producer) :
    h.take.2 = { h with pending := h.pending.erase producer } := by
  simp [take, newest]

theorem take_of_nothing (none : h.visible = []) : h.take.2 = h := by
  simp [take, none]

theorem Move.scope (move : Move l node h e h') : h'.scope = h.scope := by
  cases move with
  | put puts own => rw [(put_eq_ok_iff.mp puts).2]
  | take newest held => rw [take_of_newest newest]
  | discard may held => rfl

theorem Move.pending (move : Move l node h e h') : h'.pending = e.apply h.pending := by
  cases move with
  | put puts own =>
    rw [(put_eq_ok_iff.mp puts).2, own]
    rfl
  | take newest held =>
    rw [take_of_newest newest]
    rfl
  | discard may held => rfl

theorem Moves.scope (moves : Moves l node h events h') (bound : l.enters = false) :
    h'.scope = h.scope := by
  induction moves with
  | done => rfl
  | next first _ ih => exact ih.trans first.scope
  | enter may => cases may.symm.trans bound

theorem Moves.pending (moves : Moves l node h events h') :
    h'.pending = events.foldl TextEvent.apply h.pending := by
  induction moves with
  | done => rfl
  | next first _ ih => rw [ih, first.pending, List.foldl_cons]
  | enter _ _ _ _ ih => exact ih

/-- A node puts texts under its own id, and it takes and discards texts itself; it drops none. -/
theorem Moves.own (moves : Moves l node h events h') (mem : e ∈ events) :
    (∃ text, e = .put node text) ∨ (∃ producer text, e = .taken node producer text) ∨
      ∃ producer text, e = .discarded node producer text ∧ l.discards = true := by
  induction moves with
  | done => cases mem
  | next first _ ih =>
    rcases List.mem_cons.mp mem with rfl | later
    · cases first with
      | put => exact .inl ⟨_, rfl⟩
      | take => exact .inr (.inl ⟨_, _, rfl⟩)
      | discard may => exact .inr (.inr ⟨_, _, rfl, may⟩)
    · exact ih later
  | enter _ _ _ _ ih => exact ih mem

/-- A pending text of another node was put before. -/
theorem Moves.put_mem_of_pending {past : List TextEvent} {producer text : String}
    (moves : Moves l node h events h') (mem : (producer, text) ∈ pendingAfter (past ++ events))
    (other : producer ≠ node) : .put producer text ∈ past := by
  rcases List.mem_append.mp (put_mem_of_mem_pendingAfter mem) with old | own
  · exact old
  · rcases moves.own own with ⟨_, same⟩ | ⟨_, _, same⟩ | ⟨_, _, same, -⟩
    · exact absurd (TextEvent.put.inj same).1 other
    · cases same
    · cases same

/-- What a node does that has put no text before continues a coherent history. -/
theorem Moves.coherent {past : List TextEvent} (moves : Moves l node h events h')
    (coherent : Coherent past) (pending : pendingAfter past = h.pending)
    (fresh : putTexts events ≠ [] → node ∉ (putTexts past).map Prod.fst)
    (few : (putTexts events).length ≤ 1) : Coherent (past ++ events) := by
  induction moves generalizing past with
  | done =>
    rw [List.append_nil]
    exact coherent
  | @next h _ _ _ events first _ ih =>
    have waits := (pendingAfter_concat past _).trans (pending ▸ first.pending.symm)
    rw [List.append_cons]
    cases first with
    | put puts own =>
      have only : putTexts events = [] := List.length_eq_zero_iff.mp (Nat.le_zero.mp
        (Nat.le_of_succ_le_succ few))
      refine ih (coherent.concat ?_ nofun) waits (absurd only) (only ▸ Nat.zero_le 1)
      rintro _ ⟨⟩
      exact fresh (List.cons_ne_nil _ _)
    | take newest held =>
      refine ih (coherent.concat nofun ?_) waits ?_ few
      · rintro _ ⟨⟩
        rw [pending]
        exact Table.mem_of_get? held
      · rwa [putTexts_removal past (by rfl)]
    | discard may held =>
      refine ih (coherent.concat nofun ?_) waits ?_ few
      · rintro _ ⟨⟩
        rw [pending]
        exact Table.mem_of_get? held
      · rwa [putTexts_removal past (by rfl)]
  | enter _ _ _ _ ih => exact ih coherent pending fresh few

theorem Moves.split {past later : List TextEvent} (moves : Moves l node h (past ++ e :: later) h') :
    ∃ h₁ h₂, Moves l node h past h₁ ∧ Move l node h₁ e h₂ ∧ Moves l node h₂ later h' := by
  generalize parts : past ++ e :: later = events at moves
  induction moves generalizing past with
  | done => simp at parts
  | @next h _ _ e' _ first rest ih =>
    cases past with
    | nil =>
      obtain ⟨rfl, rfl⟩ := List.cons.inj parts
      exact ⟨h, _, .done h, first, rest⟩
    | cons e'' past =>
      obtain ⟨rfl, tail⟩ := List.cons.inj parts
      obtain ⟨h₁, h₂, before, move, after⟩ := ih tail
      exact ⟨h₁, h₂, .next first before, move, after⟩
  | enter may current scope _ ih =>
    obtain ⟨h₁, h₂, before, move, after⟩ := ih parts
    exact ⟨h₁, h₂, .enter may current scope before, move, after⟩

/-- Behind the newest text that is seen, all pending texts are hidden. -/
theorem exists_newest {producer text : String} (nodup : h.pending.names.Nodup)
    (newest : h.visible.getLast? = some producer) (held : h.pending.get? producer = some text) :
    ∃ older newer, h.pending = older ++ (producer, text) :: newer ∧ h.sees producer = true ∧
      ∀ e ∈ newer, h.sees e.1 = false := by
  rw [visible, producers, Table.names, List.filter_map, List.getLast?_map,
    Option.map_eq_some_iff] at newest
  obtain ⟨⟨name, other⟩, last, rfl⟩ := newest
  obtain ⟨front, seen⟩ := List.getLast?_eq_some_iff.mp last
  obtain ⟨older, rest, whole, -, tail⟩ := List.filter_eq_append_iff.mp seen
  obtain ⟨between, newer, parts, -, sees, hidden⟩ := List.filter_eq_cons_iff.mp tail
  subst parts
  have mem : (name, other) ∈ h.pending := by
    rw [whole]
    simp
  obtain rfl := Table.eq_of_mem_names nodup (Table.mem_of_get? held) mem
  refine ⟨older ++ between, newer, by rw [whole, List.append_assoc], sees, fun e he => ?_⟩
  simpa using List.filter_eq_nil_iff.mp hidden e he

theorem exists_held {producer : String} (seen : producer ∈ h.visible) :
    ∃ text, h.pending.get? producer = some text :=
  Table.exists_get?_of_mem_names (List.mem_filter.mp seen).1

end Handoff

/-- The executor puts at most one text in an execution, and under the id of its node. All else that
it does to the hand-off is to take texts and what it is at liberty to do. -/
def Executor.Conducts (l : Handoff.Liberty) (e : Executor) : Prop :=
  ∀ config items env w node, w.handoff.current = some node →
    ∃ uses, Handoff.Moves l node w.handoff uses
        (Exec.outcome (e.execute config items) env w).2.handoff ∧
      (putTexts uses).length ≤ 1

def Dispatch.Conducts (l : Handoff.Liberty) (d : Dispatch) : Prop :=
  ∀ subType e, d.resolve? subType = some e → e.Conducts l

theorem Dispatch.conducts_of_forall {l : Handoff.Liberty} {r : Registry}
    (own : ∀ e ∈ r.executors, e.Conducts l) : (⟨r, none⟩ : Dispatch).Conducts l := by
  intro subType e found
  unfold resolve? at found
  split at found
  · rename_i other registered
    obtain rfl : other = e := Option.some.inj found
    exact own other (List.mem_of_find?_eq_some registered)
  · cases found

/-! ### Executors for a single thing -/

/-- An executor without settings that does something and always hands on what it received. -/
def Executor.doing (subType : String) (body : Exec (Option String)) : Executor :=
  { subType, category := .action, description := "", name := "Node", home := "",
    consumesText := false, producesText := false, textKeys := [], readConfig := readNoSettings,
    execute := fun _ items => do
      let text ← body
      return .result (.ok items text []) }

namespace Executor

variable {l : Handoff.Liberty}

theorem conducts_doing {subType : String} {body : Exec (Option String)}
    (moves : ∀ env w node, w.handoff.current = some node →
      ∃ uses, Handoff.Moves l node w.handoff uses (Exec.outcome body env w).2.handoff ∧
        (putTexts uses).length ≤ 1) : (doing subType body).Conducts l := by
  intro config items env w node working
  obtain ⟨uses, moves, few⟩ := moves env w node working
  refine ⟨uses, ?_, few⟩
  simp only [doing, Exec.outcome_bind]
  generalize Exec.outcome body env w = ends at moves ⊢
  obtain ⟨ended, v⟩ := ends
  cases ended <;> exact moves

def resting : Executor := doing "REST" (return none)

/-- An executor that puts a text under the id of its node. -/
def putting : Executor := doing "PUT" (do Exec.putText "Hello" none; return none)

def discarding (producer : String) : Executor := doing "DISCARD" (Exec.discardText producer)

/-- An executor that lifts its scope and takes what there is. -/
def grabbing : Executor := doing "GRAB" (do Exec.enterNode none none; Exec.takeText)

theorem conducts_resting : resting.Conducts l :=
  conducts_doing fun _ w _ _ => ⟨[], .done w.handoff, Nat.zero_le 1⟩

theorem conducts_putting : putting.Conducts l := by
  refine conducts_doing fun env w node working => ?_
  simp only [Exec.putText, Exec.outcome_bind, Exec.outcome_handoff]
  cases puts : w.handoff.put "Hello" none with
  | error earlier => exact ⟨[], .done w.handoff, Nat.zero_le 1⟩
  | ok h =>
    have own : w.handoff.producerName none = node := by simp [Handoff.producerName, working]
    exact ⟨_, (Handoff.Move.put puts own).single, Nat.le_refl 1⟩

theorem conducts_discarding (producer : String) (may : l.discards = true) :
    (discarding producer).Conducts l := by
  refine conducts_doing fun env w node _ => ?_
  rw [Exec.outcome_discardText]
  cases held : w.handoff.pending.get? producer with
  | some text => exact ⟨_, (Handoff.Move.discard may held).single, Nat.zero_le 1⟩
  | none =>
    have absent : producer ∉ w.handoff.pending.names := fun mem => by
      obtain ⟨text, there⟩ := Table.exists_get?_of_mem_names mem
      cases there.symm.trans held
    rw [Handoff.discard, Table.erase_of_not_mem absent]
    exact ⟨[], .done w.handoff, Nat.zero_le 1⟩

theorem conducts_grabbing (may : l.enters = true) : grabbing.Conducts l := by
  refine conducts_doing fun env w node _ => ?_
  let lifted := w.handoff.enter none none
  change ∃ uses, Handoff.Moves l node w.handoff uses lifted.take.2 ∧ _
  cases newest : lifted.visible.getLast? with
  | none =>
    rw [Handoff.take_of_nothing (List.getLast?_eq_none_iff.mp newest)]
    exact ⟨[], .enter may none none (.done lifted), Nat.zero_le 1⟩
  | some producer =>
    obtain ⟨text, held⟩ := Handoff.exists_held (List.mem_of_getLast? newest)
    exact ⟨_, .enter may none none (Handoff.Move.take newest held).single, Nat.zero_le 1⟩

end Executor

end Chatflow
