import Chatflow.Proofs.Handoff.Builtin
import Chatflow.Proofs.Run.Visit

/-!
# Executors that do not notice strangers

A node sees the waiting texts of the nodes in its scope. A name in the scope under which no text
waits makes no difference to what it does with them. Some names are strange: executors that never
put a text under a strange name do the same whichever of the strange names the scope has. The
built-in ones are like that for all names that are not the node's own (`Dispatch.unaware_builtin`).
-/

namespace Chatflow

variable {strange : String → Prop}

namespace Handoff

def seenIn (h : Handoff) (scope : Option (List String)) : Handoff := { h with scope }

/-- No text waits under a strange name, and the node at work does not have one. -/
structure Avoids (h : Handoff) (strange : String → Prop) : Prop where
  pending : ∀ p ∈ h.producers, ¬strange p
  working : ∃ node, h.current = some node ∧ ¬strange node

/-- Another scope has the same names, but for strange ones. -/
def SameView (h : Handoff) (strange : String → Prop) (scope : Option (List String)) : Prop :=
  ∀ p, ¬strange p → (h.seenIn scope).sees p = h.sees p

variable {h h' : Handoff} {scope : Option (List String)}

theorem SameView.of_scope_eq (same : h.SameView strange scope) (kept : h'.scope = h.scope) :
    h'.SameView strange scope := by
  intro p known
  have view := same p known
  unfold sees at view ⊢
  rw [kept]
  exact view

theorem SameView.visible (same : h.SameView strange scope) (avoids : h.Avoids strange) :
    (h.seenIn scope).visible = h.visible :=
  List.filter_congr fun p pending => same p (avoids.pending p pending)

theorem take_seenIn (same : h.SameView strange scope) (avoids : h.Avoids strange) :
    (h.seenIn scope).take = (h.take.1, h.take.2.seenIn scope) := by
  unfold take
  rw [same.visible avoids]
  cases h.visible.getLast? <;> rfl

theorem put_seenIn (same : h.SameView strange scope) (avoids : h.Avoids strange) (text : String)
    (producer : Option String) :
    (h.seenIn scope).put text producer = (h.put text producer).map (·.seenIn scope) := by
  unfold put
  rw [same.visible avoids]
  cases h.visible.getLast? <;> rfl

theorem Avoids.of_sublist (avoids : h.Avoids strange) (fewer : h'.pending.Sublist h.pending)
    (working : h'.current = h.current) : h'.Avoids strange :=
  ⟨fun p pending => avoids.pending p ((fewer.map Prod.fst).subset pending),
    working ▸ avoids.working⟩

theorem Avoids.take (avoids : h.Avoids strange) :
    h.take.2.Avoids strange ∧ h.take.2.scope = h.scope := by
  unfold Handoff.take
  split
  · exact ⟨avoids.of_sublist List.filter_sublist rfl, rfl⟩
  · exact ⟨avoids, rfl⟩

/-- A text is put under the name of the node at work, or under a given one. -/
theorem Avoids.producerName (avoids : h.Avoids strange) {producer : Option String}
    (known : ∀ node, producer = some node → ¬strange node) :
    ¬strange (h.producerName producer) := by
  obtain ⟨node, working, own⟩ := avoids.working
  unfold Handoff.producerName
  rw [working]
  split
  · split
    · exact own
    · exact known _ rfl
  · exact own

theorem Avoids.put (avoids : h.Avoids strange) {text : String} {producer : Option String}
    (known : ∀ node, producer = some node → ¬strange node) (puts : h.put text producer = .ok h') :
    h'.Avoids strange ∧ h'.scope = h.scope := by
  obtain ⟨-, rfl⟩ := put_eq_ok_iff.mp puts
  refine ⟨⟨fun p pending => ?_, avoids.working⟩, rfl⟩
  obtain ⟨e, mem, rfl⟩ := List.mem_map.mp pending
  rcases List.mem_append.mp mem with old | new
  · exact avoids.pending _ (List.mem_map_of_mem (Table.mem_erase.mp old).1)
  · rw [List.mem_singleton.mp new]
    exact avoids.producerName known

end Handoff

def World.seenIn (w : World) (scope : Option (List String)) : World :=
  w.handing (w.handoff.seenIn scope)

namespace Exec

variable {α β : Type} {body : Exec α} {next : α → Exec β}

/-- The execution does not notice which strange names the scope has, and puts no text under one. -/
structure Blind (strange : String → Prop) (body : Exec α) : Prop where
  agrees : ∀ env w scope, w.handoff.Avoids strange → w.handoff.SameView strange scope →
    outcome body env (w.seenIn scope) =
      ((outcome body env w).1, (outcome body env w).2.seenIn scope)
  keeps : ∀ env w, w.handoff.Avoids strange →
    (outcome body env w).2.handoff.Avoids strange ∧
      (outcome body env w).2.handoff.scope = w.handoff.scope

theorem Blind.bind (first : Blind strange body) (rest : ∀ a, Blind strange (next a)) :
    Blind strange (body >>= next) := by
  constructor
  · intro env w scope avoids same
    have kept := first.keeps env w avoids
    rw [outcome_bind, outcome_bind, first.agrees env w scope avoids same]
    generalize outcome body env w = ends at kept ⊢
    obtain ⟨ended, v⟩ := ends
    cases ended with
    | error e => rfl
    | ok a => exact (rest a).agrees env v scope kept.1 (same.of_scope_eq kept.2)
  · intro env w avoids
    have kept := first.keeps env w avoids
    rw [outcome_bind]
    generalize outcome body env w = ends at kept ⊢
    obtain ⟨ended, v⟩ := ends
    cases ended with
    | error e => exact kept
    | ok a =>
      obtain ⟨avoids, scope⟩ := (rest a).keeps env v kept.1
      exact ⟨avoids, scope.trans kept.2⟩

theorem Blind.attempt (blind : Blind strange body) : Blind strange (attempt body) := by
  refine ⟨fun env w scope avoids same => ?_, blind.keeps⟩
  rw [outcome_attempt, outcome_attempt, blind.agrees env w scope avoids same]

theorem Detached.blind (detached : Detached body) : Blind strange body := by
  constructor
  · intro env w scope _ _
    have kept := detached.quiet.keeps env w
    have moved := detached.commutes env w (w.handoff.seenIn scope) rfl
    rw [World.seenIn, moved, World.seenIn, kept]
  · intro env w avoids
    rw [detached.quiet.keeps env w]
    exact ⟨avoids, rfl⟩

theorem Plain.blind (plain : Plain body) : Blind strange body := plain.toDetached.blind

/-- The rule for parts that have nothing to do with the hand-off. -/
theorem Detached.bind_blind (first : Detached body) (rest : ∀ a, Blind strange (next a)) :
    Blind strange (body >>= next) := first.blind.bind rest

theorem Plain.bind_blind (first : Plain body) (rest : ∀ a, Blind strange (next a)) :
    Blind strange (body >>= next) := first.blind.bind rest

theorem blind_takeText : Blind strange takeText := by
  constructor
  · intro env w scope avoids same
    have takes : ∀ v : World, outcome takeText env v =
        (.ok v.handoff.take.1, v.handing v.handoff.take.2) := fun _ => rfl
    have taken : (w.handing (w.handoff.seenIn scope)).handoff.take = _ :=
      Handoff.take_seenIn same avoids
    rw [takes, takes, World.seenIn, taken]
    rfl
  · intro env w avoids
    exact avoids.take

theorem blind_putText {text : String} {producer : Option String}
    (known : ∀ node, producer = some node → ¬strange node) :
    Blind strange (putText text producer) := by
  have puts : ∀ {v : World} {h : Handoff}, v.handoff.put text producer = .ok h → ∀ env,
      outcome (putText text producer) env v = (.ok (), v.handing h) := fun placed env => by
    rw [putText, outcome_bind_ok outcome_handoff, placed]
    rfl
  have refuses : ∀ {v : World} {earlier : Option String},
      v.handoff.put text producer = .error earlier → ∀ env,
      outcome (putText text producer) env v = (.error (.occupied earlier), v) :=
    fun placed env => by
      rw [putText, outcome_bind_ok outcome_handoff, placed]
      rfl
  constructor
  · intro env w scope avoids same
    have places := Handoff.put_seenIn same avoids text producer
    cases placed : w.handoff.put text producer with
    | ok h =>
      rw [placed] at places
      rw [puts placed, World.seenIn, puts (v := w.handing (w.handoff.seenIn scope)) places]
      rfl
    | error earlier =>
      rw [placed] at places
      rw [refuses placed, World.seenIn, refuses (v := w.handing (w.handoff.seenIn scope)) places]
  · intro env w avoids
    cases placed : w.handoff.put text producer with
    | ok h =>
      rw [puts placed]
      exact avoids.put known placed
    | error earlier =>
      rw [refuses placed]
      exact ⟨avoids, rfl⟩

theorem blind_putText_bind {text : String} {next : Except Fault Unit → Exec β}
    (rest : ∀ put, Blind strange (next put)) :
    Blind strange (handoff >>= fun h => attempt (putText text h.current) >>= next) := by
  have own : ∀ w : World, w.handoff.Avoids strange →
      Blind strange (attempt (putText text w.handoff.current) >>= next) := by
    intro w avoids
    refine (blind_putText fun node current => ?_).attempt.bind rest
    obtain ⟨_, working, known⟩ := avoids.working
    cases current.symm.trans working
    exact known
  constructor
  · intro env w scope avoids same
    rw [outcome_bind_ok outcome_handoff, outcome_bind_ok outcome_handoff]
    exact (own w avoids).agrees env w scope avoids same
  · intro env w avoids
    rw [outcome_bind_ok outcome_handoff]
    exact (own w avoids).keeps env w avoids

/-! ### Executors that deal with texts -/

theorem blind_openJournal_bind {next : Unit → Exec β} (rest : Blind strange (next ())) :
    Blind strange (openJournal >>= next) :=
  Detached.bind_blind ⟨fun _ _ _ _ => rfl⟩ fun _ => rest

theorem blind_withConfig {γ : Type} (subType : String) (read? : Value → Except Schema.Invalid γ)
    (config : Value) {body : γ → Exec Reply} (own : ∀ parsed, Blind strange (body parsed)) :
    Blind strange (withConfig subType read? config body) := by
  unfold withConfig
  split
  · exact own _
  · exact (show Plain _ by grind).blind

theorem blind_messageSender (subType name home : String) (config : Value) (items : List Item) :
    Blind strange ((messageSender subType name home).execute config items) := by
  refine blind_openJournal_bind (blind_withConfig _ _ _ fun parsed => ?_)
  exact blind_takeText.bind fun text => (show Plain _ by grind).blind

theorem blind_withReplyText (subType : String) (configured : Option String)
    {body : String → Exec Reply} (own : ∀ text, Plain (body text)) :
    Blind strange (withReplyText subType configured body) :=
  blind_takeText.bind fun text => (show Plain _ by grind).blind

theorem blind_replyComment (config : Value) (items : List Item) :
    Blind strange (replyComment.execute config items) := by
  refine blind_openJournal_bind (blind_withConfig _ _ _ fun parsed => ?_)
  refine plain_context.bind_blind fun c => ?_
  split
  · exact (show Plain _ by grind).blind
  · exact blind_withReplyText _ _ fun text => by grind

theorem blind_replyMention (config : Value) (items : List Item) :
    Blind strange (replyMention.execute config items) := by
  refine blind_openJournal_bind (blind_withConfig _ _ _ fun parsed => ?_)
  refine plain_context.bind_blind fun c => ?_
  dsimp only
  split
  · exact (show Plain _ by grind).blind
  · exact blind_withReplyText _ _ fun text => by grind

theorem blind_withinLimit (subType : String) {body : Exec Reply} (own : Blind strange body) :
    Blind strange (withinLimit subType body) := by
  refine plain_context.bind_blind fun c => ?_
  refine (plain_acquire _ _).attempt.bind_blind fun granted => ?_
  match granted with
  | .error fault => exact (show Plain _ by grind).blind
  | .ok false => exact (show Plain _ by grind).blind
  | .ok true => exact own

theorem blind_generate (config : Value) (items : List Item) :
    Blind strange (Chatflow.generate.execute config items) := by
  refine blind_openJournal_bind ?_
  split
  · exact (show Plain _ by grind).blind
  · refine blind_withinLimit _ (plain_context.bind_blind fun c => ?_)
    refine (plain_loadTurns _).bind_blind fun turns => (plain_note ..).bind_blind fun _ => ?_
    refine (plain_generateText _).attempt.bind_blind fun response => ?_
    split
    · exact (show Plain _ by grind).blind
    · split
      · exact (show Plain _ by grind).blind
      · rename_i text usable
        refine blind_putText_bind fun put => ?_
        split <;> exact (show Plain _ by grind).blind

end Exec

/-- The executor does as it does with any other scope that has the same names but for strange ones,
and leaves no text under a strange name. -/
def Executor.Unaware (strange : String → Prop) (e : Executor) : Prop :=
  ∀ config items env (w : World) scope, w.handoff.Avoids strange →
    w.handoff.SameView strange scope →
    (Exec.outcome (e.execute config items) env (w.seenIn scope)).1 =
        (Exec.outcome (e.execute config items) env w).1 ∧
      (Exec.outcome (e.execute config items) env (w.seenIn scope)).2.left =
        (Exec.outcome (e.execute config items) env w).2.left ∧
      ∀ p ∈ (Exec.outcome (e.execute config items) env w).2.handoff.producers, ¬strange p

def Dispatch.Unaware (strange : String → Prop) (d : Dispatch) : Prop :=
  ∀ subType e, d.resolve? subType = some e → e.Unaware strange

theorem Executor.unaware_of_blind {e : Executor}
    (blind : ∀ config items, Exec.Blind strange (e.execute config items)) : e.Unaware strange := by
  intro config items env w scope avoids same
  rw [(blind config items).agrees env w scope avoids same]
  exact ⟨rfl, rfl, ((blind config items).keeps env w avoids).1.pending⟩

theorem Dispatch.unaware_builtin (bridge : Option Bridge) :
    (⟨.builtin, bridge⟩ : Dispatch).Unaware strange := by
  intro subType e found
  refine Executor.unaware_of_blind fun config items => ?_
  rcases (builtin_resolves found).2 with rfl | rfl | rfl | rfl | silent
  · exact Exec.blind_messageSender ..
  · exact Exec.blind_replyComment ..
  · exact Exec.blind_replyMention ..
  · exact Exec.blind_generate ..
  · exact (silent.detached config items).blind

end Chatflow
