import Chatflow.Service.Bundle

/-!
# Interrupted collaborators

Passing faults that come before a call of a collaborator. Calls before them are answered as they
would be, each of the faults answers one call and has no other effect, and calls after them are
answered as if nothing had been in between.
-/

namespace Chatflow.Service

namespace Script

variable {β : Type} {s t : Script β} {gap : Nat} {event : β} {events : List β}

/-- The disturbance of a call that is still to come, after some others. -/
def upcoming (s : Script β) (later : Nat) : Option β := s.disturbance (s.calls + later)

/-- The script with further disturbances, each of a call of its own, after the next few calls. -/
def interrupted (s : Script β) (gap : Nat) (events : List β) : Script β where
  disturbance i :=
    if i < s.calls + gap then s.disturbance i
    else events[i - (s.calls + gap)]?.or (s.disturbance (i - events.length))
  calls := s.calls

/-- Another script has further disturbances after the next few calls. -/
def Delays (gap : Nat) (events : List β) (s t : Script β) : Prop :=
  ∀ i, t.upcoming i =
    if i < gap then s.upcoming i else events[i - gap]?.or (s.upcoming (i - events.length))

theorem getElem?_or_congr {i : Nat} {x y : Option β} (past : events.length ≤ i → x = y) :
    events[i]?.or x = events[i]?.or y := by
  by_cases inside : i < events.length
  · rw [List.getElem?_eq_getElem inside, Option.some_or, Option.some_or]
  · rw [past (Nat.le_of_not_lt inside)]

theorem fst_next (s : Script β) : s.next.1 = s.upcoming 0 := rfl

theorem upcoming_next (s : Script β) (i : Nat) : s.next.2.upcoming i = s.upcoming (i + 1) := by
  have same : s.calls + 1 + i = s.calls + (i + 1) := by omega
  exact congrArg s.disturbance same

theorem delays_interrupted (s : Script β) (gap : Nat) (events : List β) :
    Delays gap events s (s.interrupted gap events) := by
  intro i
  have after : s.calls + i - (s.calls + gap) = i - gap := by omega
  simp only [upcoming, interrupted, after, Nat.add_lt_add_iff_left]
  by_cases near : i < gap
  · rw [if_pos near, if_pos near]
  rw [if_neg near, if_neg near]
  refine getElem?_or_congr fun past => ?_
  have place : s.calls + i - events.length = s.calls + (i - events.length) := by omega
  rw [place]

theorem delays_nil (s : Script β) (gap : Nat) : Delays gap [] s s := fun i => by simp

/-- A call before the disturbances. -/
theorem Delays.step (delays : Delays (gap + 1) events s t) :
    t.next.1 = s.next.1 ∧ Delays gap events s.next.2 t.next.2 := by
  refine ⟨delays 0, fun i => ?_⟩
  have own := delays (i + 1)
  rw [Nat.add_sub_add_right] at own
  rw [upcoming_next, upcoming_next, upcoming_next, own]
  simp only [Nat.add_lt_add_iff_right]
  by_cases near : i < gap
  · rw [if_pos near, if_pos near]
  rw [if_neg near, if_neg near]
  refine getElem?_or_congr fun past => ?_
  have place : i + 1 - events.length = i - events.length + 1 := by omega
  rw [place]

theorem Delays.consume (delays : Delays 0 (event :: events) s t) :
    t.next.1 = some event ∧ Delays 0 events s t.next.2 := by
  refine ⟨delays 0, fun i => ?_⟩
  have own := delays (i + 1)
  rw [if_neg (Nat.not_lt_zero _), Nat.sub_zero, List.getElem?_cons_succ, List.length_cons,
    Nat.add_sub_add_right] at own
  rw [upcoming_next, own, if_neg (Nat.not_lt_zero _), Nat.sub_zero]

theorem Delays.rejoin (delays : Delays 0 [] s t) :
    t.next.1 = s.next.1 ∧ Delays 0 [] s.next.2 t.next.2 := by
  refine ⟨delays 0, fun i => ?_⟩
  rw [upcoming_next, delays (i + 1)]
  simp [upcoming_next]

end Script

variable {gap : Nat} {fault : Fault} {faults : List Fault}

namespace Messenger

variable {m m' : Messenger} {script : Script SendFault} (call : OutboundCall)

def interrupted (m : Messenger) (gap : Nat) (faults : List Fault) : Messenger :=
  { m with script := m.script.interrupted gap (faults.map .lost) }

/-- The messengers are the same but for what goes wrong with later calls. -/
abbrev Like (m m' : Messenger) : Prop := ∃ script, m' = { m with script }

/-- Another messenger is interrupted after the next few calls, and otherwise the same. -/
structure Delays (gap : Nat) (faults : List Fault) (m m' : Messenger) : Prop where
  same : m.Like m'
  script : Script.Delays gap (faults.map .lost) m.script m'.script

/-- The call after the next few is not lost to a passing fault. -/
def Steady (gap : Nat) (m : Messenger) : Prop :=
  ∀ fault, m.script.upcoming gap = some (.lost fault) → fault.isTransient = false

theorem delays_interrupted (m : Messenger) (gap : Nat) (faults : List Fault) :
    m.Delays gap faults (m.interrupted gap faults) :=
  ⟨⟨_, rfl⟩, m.script.delays_interrupted gap (faults.map .lost)⟩

theorem send_of_lost (event : m.script.next.1 = some (.lost fault)) :
    m.send call = (.error fault, { m with script := m.script.next.2 }) := by
  unfold send
  dsimp only
  rw [event]

theorem send_of_rejected {error : Option String}
    (event : m.script.next.1 = some (.rejected error)) :
    m.send call = (.ok (.rejected error),
      { m with script := m.script.next.2, calls := m.calls ++ [call] }) := by
  unfold send
  dsimp only
  rw [event]
  rfl

theorem send_of_none (event : m.script.next.1 = none) :
    m.send call = (.ok (if m.rejects.contains call.kind.name
        then .rejected (some (call.kind.name ++ " rejected"))
        else .accepted (some ("dry-" ++ toString (m.calls ++ [call]).length))),
      { m with script := m.script.next.2, calls := m.calls ++ [call] }) := by
  unfold send
  dsimp only
  rw [event]
  dsimp only
  change (if m.rejects.contains call.kind.name then _ else _) = _
  by_cases refused : m.rejects.contains call.kind.name = true
  · rw [if_pos refused, if_pos refused]
    rfl
  · rw [if_neg refused, if_neg refused]
    rfl

/-- What a call does depends on the script only through the disturbance that comes to it. -/
theorem send_congr (event : script.next.1 = m.script.next.1) :
    ({ m with script }.send call).1 = (m.send call).1 ∧
      ({ m with script }.send call).2 = { (m.send call).2 with script := script.next.2 } ∧
      (m.send call).2.script = m.script.next.2 := by
  match own : m.script.next.1 with
  | some (.lost fault) =>
    rw [send_of_lost call own, send_of_lost call (m := { m with script }) (event.trans own)]
    exact ⟨rfl, rfl, rfl⟩
  | some (.rejected error) =>
    rw [send_of_rejected call own,
      send_of_rejected call (m := { m with script }) (event.trans own)]
    exact ⟨rfl, rfl, rfl⟩
  | none =>
    rw [send_of_none call own, send_of_none call (m := { m with script }) (event.trans own)]
    exact ⟨rfl, rfl, rfl⟩

theorem Delays.step (delays : Delays (gap + 1) faults m m') :
    (m'.send call).1 = (m.send call).1 ∧
      Delays gap faults (m.send call).2 (m'.send call).2 := by
  obtain ⟨event, later⟩ := delays.script.step
  obtain ⟨script, rfl⟩ := delays.same
  obtain ⟨answer, alike, own⟩ := send_congr call event
  rw [alike]
  exact ⟨answer, ⟨_, rfl⟩, own ▸ later⟩

theorem Delays.lost (delays : Delays 0 (fault :: faults) m m') :
    (m'.send call).1 = .error fault ∧ Delays 0 faults m (m'.send call).2 := by
  obtain ⟨event, later⟩ := delays.script.consume
  obtain ⟨script, rfl⟩ := delays.same
  rw [send_of_lost call event]
  exact ⟨rfl, ⟨_, rfl⟩, later⟩

theorem Delays.rejoin (delays : Delays 0 [] m m') :
    (m'.send call).1 = (m.send call).1 ∧ Delays 0 [] (m.send call).2 (m'.send call).2 := by
  obtain ⟨event, later⟩ := delays.script.rejoin
  obtain ⟨script, rfl⟩ := delays.same
  obtain ⟨answer, alike, own⟩ := send_congr call event
  rw [alike]
  exact ⟨answer, ⟨_, rfl⟩, own ▸ later⟩

theorem Steady.step (steady : m.Steady (gap + 1)) : (m.send call).2.Steady gap := by
  obtain ⟨-, -, own⟩ := send_congr (m := m) call rfl
  intro fault event
  rw [own, Script.upcoming_next] at event
  exact steady fault event

theorem Steady.settled (steady : m.Steady 0) (lost : (m.send call).1 = .error fault) :
    fault.isTransient = false := by
  refine steady fault ?_
  rw [← Script.fst_next]
  match own : m.script.next.1 with
  | some (.lost other) =>
    rw [send_of_lost call own] at lost
    cases lost
    rfl
  | some (.rejected error) =>
    rw [send_of_rejected call own] at lost
    cases lost
  | none =>
    rw [send_of_none call own] at lost
    cases lost

end Messenger

namespace Sheets

variable {s s' : Sheets} (spreadsheet sheet : String) (headers : List String) (row : List Value)

def interrupted (s : Sheets) (faults : List Fault) : Sheets :=
  { s with script := s.script.interrupted 0 (faults.map .lost) }

abbrev Like (s s' : Sheets) : Prop := ∃ script, s' = { s with script }

/-- Other sheets are interrupted, and otherwise the same. -/
structure Delays (faults : List Fault) (s s' : Sheets) : Prop where
  same : s.Like s'
  script : Script.Delays 0 (faults.map .lost) s.script s'.script

def Steady (s : Sheets) : Prop :=
  ∀ fault, s.script.upcoming 0 = some (.lost fault) → fault.isTransient = false

theorem delays_interrupted (s : Sheets) (faults : List Fault) :
    s.Delays faults (s.interrupted faults) :=
  ⟨⟨_, rfl⟩, s.script.delays_interrupted 0 (faults.map .lost)⟩

theorem append_of_lost (event : s.script.next.1 = some (.lost fault)) :
    s.append spreadsheet sheet headers row =
      (.error fault, { s with script := s.script.next.2 }) := by
  unfold append
  dsimp only
  rw [event]

theorem append_of_rejected {error : Option String}
    (event : s.script.next.1 = some (.rejected error)) :
    s.append spreadsheet sheet headers row = (.ok (.rejected error),
      { s with script := s.script.next.2 }.store spreadsheet sheet headers row) := by
  unfold append
  dsimp only
  rw [event]

theorem append_of_none (event : s.script.next.1 = none) :
    s.append spreadsheet sheet headers row = (.ok (.accepted none),
      { s with script := s.script.next.2 }.store spreadsheet sheet headers row) := by
  unfold append
  dsimp only
  rw [event]

theorem Delays.lost (delays : Delays (fault :: faults) s s') :
    (s'.append spreadsheet sheet headers row).1 = .error fault ∧
      Delays faults s (s'.append spreadsheet sheet headers row).2 := by
  obtain ⟨event, later⟩ := delays.script.consume
  obtain ⟨script, rfl⟩ := delays.same
  rw [append_of_lost spreadsheet sheet headers row event]
  exact ⟨rfl, ⟨_, rfl⟩, later⟩

theorem Delays.rejoin (delays : Delays [] s s') :
    (s'.append spreadsheet sheet headers row).1 = (s.append spreadsheet sheet headers row).1 ∧
      Delays [] (s.append spreadsheet sheet headers row).2
        (s'.append spreadsheet sheet headers row).2 := by
  obtain ⟨event, later⟩ := delays.script.rejoin
  obtain ⟨script, rfl⟩ := delays.same
  match own : s.script.next.1 with
  | some (.lost fault) =>
    rw [append_of_lost spreadsheet sheet headers row own,
      append_of_lost (s := { s with script }) spreadsheet sheet headers row (event.trans own)]
    exact ⟨rfl, ⟨_, rfl⟩, later⟩
  | some (.rejected error) =>
    rw [append_of_rejected spreadsheet sheet headers row own,
      append_of_rejected (s := { s with script }) spreadsheet sheet headers row (event.trans own)]
    exact ⟨rfl, ⟨_, rfl⟩, later⟩
  | none =>
    rw [append_of_none spreadsheet sheet headers row own,
      append_of_none (s := { s with script }) spreadsheet sheet headers row (event.trans own)]
    exact ⟨rfl, ⟨_, rfl⟩, later⟩

theorem Steady.settled (steady : s.Steady)
    (lost : (s.append spreadsheet sheet headers row).1 = .error fault) :
    fault.isTransient = false := by
  refine steady fault ?_
  rw [← Script.fst_next]
  match own : s.script.next.1 with
  | some (.lost other) =>
    rw [append_of_lost spreadsheet sheet headers row own] at lost
    cases lost
    rfl
  | some (.rejected error) =>
    rw [append_of_rejected spreadsheet sheet headers row own] at lost
    cases lost
  | none =>
    rw [append_of_none spreadsheet sheet headers row own] at lost
    cases lost

end Sheets

namespace Content

variable {k k' : Content} {α : Type} (answer : α)

def interrupted (k : Content) (faults : List Fault) : Content :=
  { k with script := k.script.interrupted 0 faults }

abbrev Like (k k' : Content) : Prop := ∃ script lookups, k' = { k with script, lookups }

/-- Another source of content is interrupted, and otherwise the same but for the number of
lookups. -/
structure Delays (faults : List Fault) (k k' : Content) : Prop where
  same : k.Like k'
  script : Script.Delays 0 faults k.script k'.script

/-- The next lookup does not fail for a passing reason, nor because there is no answer at all. -/
structure Steady (k : Content) : Prop where
  up : k.outage = none
  next : ∀ fault, k.script.upcoming 0 = some fault → fault.isTransient = false

theorem delays_interrupted (k : Content) (faults : List Fault) :
    k.Delays faults (k.interrupted faults) :=
  ⟨⟨_, _, rfl⟩, k.script.delays_interrupted 0 faults⟩

/-- A lookup ends with the disturbance that comes to it, or with its answer. -/
theorem lookUp_of_up (up : k.outage = none) :
    k.lookUp answer = ((k.script.next.1.map Except.error).getD (.ok answer),
      { k with lookups := k.lookups + 1, script := k.script.next.2 }) := by
  unfold lookUp
  dsimp only
  rw [up]
  dsimp only
  cases k.script.next.1 <;> rfl

theorem lookUp_of_outage (down : k.outage = some fault) :
    k.lookUp answer = (.error fault, { k with lookups := k.lookups + 1 }) := by
  unfold lookUp
  dsimp only
  rw [down]

theorem Delays.lost (delays : Delays (fault :: faults) k k') (up : k.outage = none) :
    (k'.lookUp answer).1 = .error fault ∧ Delays faults k (k'.lookUp answer).2 := by
  obtain ⟨event, later⟩ := delays.script.consume
  obtain ⟨script, lookups, rfl⟩ := delays.same
  rw [lookUp_of_up answer (k := { k with script, lookups }) up, event]
  exact ⟨rfl, ⟨_, _, rfl⟩, later⟩

theorem Delays.rejoin (delays : Delays [] k k') :
    (k'.lookUp answer).1 = (k.lookUp answer).1 ∧
      Delays [] (k.lookUp answer).2 (k'.lookUp answer).2 := by
  obtain ⟨event, later⟩ := delays.script.rejoin
  obtain ⟨⟨script, lookups, rfl⟩, together⟩ := delays
  rcases Option.eq_none_or_eq_some k.outage with up | ⟨fault, down⟩
  · rw [lookUp_of_up answer up, lookUp_of_up answer (k := { k with script, lookups }) up, event]
    exact ⟨rfl, ⟨_, _, rfl⟩, later⟩
  · rw [lookUp_of_outage answer down,
      lookUp_of_outage answer (k := { k with script, lookups }) down]
    exact ⟨rfl, ⟨_, _, rfl⟩, together⟩

theorem Steady.settled (steady : k.Steady) (lost : (k.lookUp answer).1 = .error fault) :
    fault.isTransient = false := by
  refine steady.next fault ?_
  rw [← Script.fst_next]
  rw [lookUp_of_up answer steady.up] at lost
  cases event : k.script.next.1 with
  | none =>
    rw [event] at lost
    cases lost
  | some other =>
    rw [event] at lost
    cases lost
    rfl

end Content

namespace Generator

variable {g g' : Generator} (prompt : Prompt)

def interrupted (g : Generator) (faults : List Fault) : Generator :=
  { g with script := g.script.interrupted 0 faults }

abbrev Like (g g' : Generator) : Prop := ∃ script prompts, g' = { g with script, prompts }

/-- Another generator is interrupted, and otherwise the same but for the prompts that it got. -/
structure Delays (faults : List Fault) (g g' : Generator) : Prop where
  same : g.Like g'
  script : Script.Delays 0 faults g.script g'.script

structure Steady (g : Generator) : Prop where
  up : g.outage = none
  next : ∀ fault, g.script.upcoming 0 = some fault → fault.isTransient = false

theorem delays_interrupted (g : Generator) (faults : List Fault) :
    g.Delays faults (g.interrupted faults) :=
  ⟨⟨_, _, rfl⟩, g.script.delays_interrupted 0 faults⟩

theorem generate_of_lost (up : g.outage = none) (event : g.script.next.1 = some fault) :
    g.generate prompt =
      (.error fault, { g with prompts := g.prompts ++ [prompt], script := g.script.next.2 }) := by
  unfold generate
  dsimp only
  rw [up]
  dsimp only
  rw [event]

/-- A call that is not lost consumes a response, if one is left. -/
theorem generate_of_none (up : g.outage = none) (event : g.script.next.1 = none) :
    g.generate prompt =
      (.ok (g.responses.head?.getD g.fallback), { g with
        prompts := g.prompts ++ [prompt]
        script := g.script.next.2
        responses := g.responses.tail }) := by
  obtain ⟨responses, _, _, script, _⟩ := g
  subst up
  unfold generate
  dsimp only at event ⊢
  rw [event]
  cases responses <;> rfl

theorem generate_of_outage (down : g.outage = some fault) :
    g.generate prompt = (.error fault, { g with prompts := g.prompts ++ [prompt] }) := by
  unfold generate
  dsimp only
  rw [down]

theorem Delays.lost (delays : Delays (fault :: faults) g g') (up : g.outage = none) :
    (g'.generate prompt).1 = .error fault ∧ Delays faults g (g'.generate prompt).2 := by
  obtain ⟨event, later⟩ := delays.script.consume
  obtain ⟨script, prompts, rfl⟩ := delays.same
  rw [generate_of_lost (g := { g with script, prompts }) prompt up event]
  exact ⟨rfl, ⟨_, _, rfl⟩, later⟩

theorem Delays.rejoin (delays : Delays [] g g') :
    (g'.generate prompt).1 = (g.generate prompt).1 ∧
      Delays [] (g.generate prompt).2 (g'.generate prompt).2 := by
  obtain ⟨event, later⟩ := delays.script.rejoin
  obtain ⟨⟨script, prompts, rfl⟩, together⟩ := delays
  rcases Option.eq_none_or_eq_some g.outage with up | ⟨fault, down⟩
  · rcases Option.eq_none_or_eq_some g.script.next.1 with own | ⟨fault, own⟩
    · rw [generate_of_none prompt up own,
        generate_of_none (g := { g with script, prompts }) prompt up (event.trans own)]
      exact ⟨rfl, ⟨_, _, rfl⟩, later⟩
    · rw [generate_of_lost prompt up own,
        generate_of_lost (g := { g with script, prompts }) prompt up (event.trans own)]
      exact ⟨rfl, ⟨_, _, rfl⟩, later⟩
  · rw [generate_of_outage prompt down,
      generate_of_outage (g := { g with script, prompts }) prompt down]
    exact ⟨rfl, ⟨_, _, rfl⟩, together⟩

theorem Steady.settled (steady : g.Steady) (lost : (g.generate prompt).1 = .error fault) :
    fault.isTransient = false := by
  refine steady.next fault ?_
  rw [← Script.fst_next]
  cases own : g.script.next.1 with
  | some other =>
    rw [generate_of_lost prompt steady.up own] at lost
    cases lost
    rfl
  | none =>
    rw [generate_of_none prompt steady.up own] at lost
    cases lost

end Generator

end Chatflow.Service
