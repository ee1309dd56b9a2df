import Chatflow.Proofs.Node.Retries

/-!
# Interrupted calls of collaborators

A call of a collaborator with retries has the same effect when faults come before it. A line stands
for a collaborator whose calls are retried, and there is one lemma for each of these calls.
-/

namespace Chatflow

open Service

/-- The collaborators are left in the same way: the calls that reached the messenger are the same,
and the rows of the sheets, and the answers that are still to come. The times are not. -/
structure Outside.SameEffect (x y : Outside) : Prop where
  messaging : Option.Rel Messenger.Like x.messaging y.messaging
  content : Option.Rel Content.Like x.content y.content
  ai : Option.Rel Generator.Like x.ai y.ai
  sheets : Option.Rel Sheets.Like x.sheets y.sheets

/-- A collaborator whose calls are retried. Another one of its kind can be interrupted by faults
before the next call; and that call may be known not to fail for a passing reason. -/
structure Line (σ : Type) where
  place : Place σ
  outside : Outside → Option σ
  Delays : List Fault → σ → σ → Prop
  Steady : σ → Prop
  reads : ∀ w : World, outside w.outside = place.get w.services
  timeless : ∀ (x : Outside) (clock : Time.Clock), outside { x with clock } = outside x
  clear : ∀ a, Delays [] a a
  kept : ∀ {rest v w a b}, Alike Outside.SameEffect v w → Delays rest a b →
    Alike Outside.SameEffect (v.placing place a) (w.placing place b)

namespace Line

variable {σ β : Type} {l : Line σ} {ask : σ → Except Fault β × σ}

inductive Lags (Delays : List Fault → σ → σ → Prop) : List Fault → Option σ → Option σ → Prop
  | absent : Lags Delays [] none none
  | present {rest a b} (delays : Delays rest a b) : Lags Delays rest (some a) (some b)

structure Behind (l : Line σ) (rest : List Fault) (x y : Outside) : Prop where
  same : x.SameEffect y
  lags : Lags l.Delays rest (l.outside x) (l.outside y)

def call (l : Line σ) (capability : Capability) (ask : σ → Except Fault β × σ) : Exec β :=
  Exec.calling l.place (.error (.unavailable capability.name)) ask

/-- The call is lost to the faults that come before it, without an effect. -/
structure Retried (l : Line σ) (ask : σ → Except Fault β × σ) : Prop where
  lost : ∀ {fault rest a b}, l.Delays (fault :: rest) a b →
    (ask b).1 = .error fault ∧ l.Delays rest a (ask b).2
  rejoin : ∀ {a b}, l.Delays [] a b → (ask b).1 = (ask a).1 ∧ l.Delays [] (ask a).2 (ask b).2
  settled : ∀ {a fault}, l.Steady a → (ask a).1 = .error fault → fault.isTransient = false

/-- Both collaborators are missing and nothing is in their way, or both are there. -/
theorem Behind.absent_or_present {rest : List Fault} {v w : World}
    (behind : l.Behind rest v.outside w.outside) :
    (rest = [] ∧ l.place.get v.services = none ∧ l.place.get w.services = none) ∨
      ∃ a b, l.place.get v.services = some a ∧ l.place.get w.services = some b ∧
        l.Delays rest a b := by
  have lags := behind.lags
  rw [l.reads, l.reads] at lags
  generalize l.place.get v.services = own at lags ⊢
  generalize l.place.get w.services = other at lags ⊢
  cases lags with
  | absent => exact .inl ⟨rfl, rfl, rfl⟩
  | present delays => exact .inr ⟨_, _, rfl, rfl, delays⟩

theorem alike_placing {rest rest' : List Fault} {v w : World} {a b : σ}
    (alike : Alike (l.Behind rest) v w) (delays : l.Delays rest' a b) :
    Alike (l.Behind rest') (v.placing l.place a) (w.placing l.place b) := by
  have kept := l.kept (alike.imp Behind.same) delays
  refine { kept with outside := ⟨kept.outside, ?_⟩ }
  rw [l.reads, l.reads, World.placing, World.placing, l.place.get_set, l.place.get_set]
  exact .present delays

theorem Retried.interrupts {env : Env} (retried : l.Retried ask) (capability : Capability) :
    Exec.Interrupts env (l.call capability ask) l.Behind where
  lost alike := by
    obtain ⟨none, -, -⟩ | ⟨a, b, own, other, delays⟩ := alike.outside.absent_or_present
    · cases none
    obtain ⟨answer, left⟩ := retried.lost delays
    have kept := alike_placing alike left
    rw [World.placing_get own] at kept
    rw [call, Exec.outcome_calling_of_some other, answer]
    exact ⟨_, rfl, kept⟩
  rejoin := by
    refine ⟨fun {v w} alike => ?_⟩
    rw [call]
    obtain ⟨-, own, other⟩ | ⟨a, b, own, other, delays⟩ := alike.outside.absent_or_present
    · rw [Exec.outcome_calling_of_none own, Exec.outcome_calling_of_none other]
      exact ⟨rfl, alike⟩
    obtain ⟨answer, left⟩ := retried.rejoin delays
    rw [Exec.outcome_calling_of_some own, Exec.outcome_calling_of_some other, answer]
    exact ⟨rfl, alike_placing alike left⟩
  paused {rest x y} clock clock' behind := by
    refine ⟨⟨behind.same.messaging, behind.same.content, behind.same.ai, behind.same.sheets⟩, ?_⟩
    rw [l.timeless x, l.timeless y]
    exact behind.lags

/-- Everything is the same at first, and the collaborator is going to be interrupted, if at all,
before a call that does not fail for a passing reason. -/
structure Ahead (l : Line σ) (faults : List Fault) (x y : Outside) : Prop where
  clock : y.clock = x.clock
  same : x.SameEffect y
  held : Option.Rel (fun a b => l.Delays faults a b ∧ (faults ≠ [] → l.Steady a))
    (l.outside x) (l.outside y)

theorem Ahead.absent_or_present {faults : List Fault} {v w : World}
    (ahead : l.Ahead faults v.outside w.outside) :
    (l.place.get v.services = none ∧ l.place.get w.services = none) ∨
      ∃ a b, l.place.get v.services = some a ∧ l.place.get w.services = some b ∧
        l.Delays faults a b ∧ (faults ≠ [] → l.Steady a) := by
  have held := ahead.held
  rw [l.reads, l.reads] at held
  generalize l.place.get v.services = own at held ⊢
  generalize l.place.get w.services = other at held ⊢
  cases held with
  | none => exact .inl ⟨rfl, rfl⟩
  | some held => exact .inr ⟨_, _, rfl, rfl, held⟩

theorem Retried.carries_retrying {env : Env} {faults : List Fault} (retried : l.Retried ask)
    (capability : Capability) (passing : Passing env faults) :
    Exec.Carries env (l.Ahead faults) Outside.SameEffect id
      (Exec.retrying (l.call capability ask)) := by
  refine (retried.interrupts capability).carries_retrying passing (fun {v w} alike => ?_)
    Behind.same
  obtain ⟨-, same, held⟩ := alike.outside
  generalize own : l.outside v.outside = m at held
  generalize other : l.outside w.outside = m' at held
  cases held with
  | none =>
    have lags : Lags l.Delays [] (l.outside v.outside) (l.outside w.outside) := by
      rw [own, other]
      exact .absent
    exact .inl { alike with outside := ⟨same, lags⟩ }
  | @some a b held =>
    obtain ⟨delays, steady⟩ := held
    have lags : Lags l.Delays faults (l.outside v.outside) (l.outside w.outside) := by
      rw [own, other]
      exact .present delays
    by_cases clear : faults = []
    · subst clear
      exact .inl { alike with outside := ⟨same, lags⟩ }
    · refine .inr ⟨{ alike with outside := ⟨same, lags⟩ }, fun _ ends => ?_⟩
      rw [call, Exec.outcome_calling_of_some ((l.reads v).symm.trans own)] at ends
      exact retried.settled (steady clear) ends

/-! ### The collaborators -/

/-- Faults come after the next few calls. -/
def messaging (gap : Nat) : Line Messenger where
  place := .messaging
  outside := Outside.messaging
  Delays := Messenger.Delays gap
  Steady := Messenger.Steady gap
  reads _ := rfl
  timeless _ _ := rfl
  clear m := ⟨⟨_, rfl⟩, m.script.delays_nil gap⟩
  kept alike delays := { alike with
    outside := { alike.outside with messaging := .some delays.same } }

/-- Faults come only before lookups that are answered at all. -/
def content : Line Content where
  place := .content
  outside := Outside.content
  Delays rest k k' := k.Delays rest k' ∧ (rest ≠ [] → k.outage = none)
  Steady := Content.Steady
  reads _ := rfl
  timeless _ _ := rfl
  clear k := ⟨⟨⟨_, _, rfl⟩, k.script.delays_nil 0⟩, fun some => absurd rfl some⟩
  kept alike delays := { alike with
    outside := { alike.outside with content := .some delays.1.same } }

def ai : Line Generator where
  place := .ai
  outside := Outside.ai
  Delays rest g g' := g.Delays rest g' ∧ (rest ≠ [] → g.outage = none)
  Steady := Generator.Steady
  reads _ := rfl
  timeless _ _ := rfl
  clear g := ⟨⟨⟨_, _, rfl⟩, g.script.delays_nil 0⟩, fun some => absurd rfl some⟩
  kept alike delays := { alike with
    outside := { alike.outside with ai := .some delays.1.same } }

def sheets : Line Sheets where
  place := .sheets
  outside := Outside.sheets
  Delays := Sheets.Delays
  Steady := Sheets.Steady
  reads _ := rfl
  timeless _ _ := rfl
  clear s := ⟨⟨_, rfl⟩, s.script.delays_nil 0⟩
  kept alike delays := { alike with
    outside := { alike.outside with sheets := .some delays.same } }

theorem retried_send (outbound : OutboundCall) : (messaging 0).Retried (·.send outbound) where
  lost delays := delays.lost outbound
  rejoin delays := delays.rejoin outbound
  settled steady lost := steady.settled outbound lost

theorem retried_lookUp {answer : Content → β}
    (fixed : ∀ {k k'}, Content.Like k k' → answer k' = answer k) :
    content.Retried fun k => k.lookUp (answer k) where
  lost {_ _ _ k'} := fun ⟨delays, up⟩ => by
    obtain ⟨ends, left⟩ := delays.lost (answer k') (up (List.cons_ne_nil _ _))
    exact ⟨ends, left, fun _ => up (List.cons_ne_nil _ _)⟩
  rejoin {k k'} := fun ⟨delays, up⟩ => by
    obtain ⟨ends, left⟩ := delays.rejoin (answer k)
    rw [fixed delays.same]
    exact ⟨ends, left, fun clear => absurd rfl clear⟩
  settled {k _} steady lost := steady.settled (answer k) lost

theorem retried_isFollower (user : String) : content.Retried (·.isFollower user) :=
  retried_lookUp fun ⟨_, _, same⟩ => by rw [same]

theorem retried_mediaHashtags (media : String) : content.Retried (·.mediaHashtags media) :=
  retried_lookUp fun ⟨_, _, same⟩ => by rw [same]

theorem retried_generate (prompt : Prompt) : ai.Retried (·.generate prompt) where
  lost := fun ⟨delays, up⟩ => by
    obtain ⟨ends, left⟩ := delays.lost prompt (up (List.cons_ne_nil _ _))
    exact ⟨ends, left, fun _ => up (List.cons_ne_nil _ _)⟩
  rejoin := fun ⟨delays, up⟩ => by
    obtain ⟨ends, left⟩ := delays.rejoin prompt
    exact ⟨ends, left, fun clear => absurd rfl clear⟩
  settled steady lost := steady.settled prompt lost

theorem retried_append (spreadsheet sheet : String) (headers : List String) (row : List Value) :
    sheets.Retried (·.append spreadsheet sheet headers row) where
  lost delays := delays.lost spreadsheet sheet headers row
  rejoin delays := delays.rejoin spreadsheet sheet headers row
  settled steady lost := steady.settled spreadsheet sheet headers row lost

theorem Retried.map {γ : Type} (retried : l.Retried ask) (f : β → γ) :
    l.Retried fun a => ((ask a).1.map f, (ask a).2) where
  lost delays := by
    obtain ⟨ends, left⟩ := retried.lost delays
    exact ⟨congrArg (Except.map f) ends, left⟩
  rejoin delays := by
    obtain ⟨ends, left⟩ := retried.rejoin delays
    exact ⟨congrArg (Except.map f) ends, left⟩
  settled {a fault} steady lost := by
    refine retried.settled steady ?_
    cases ends : (ask a).1 with
    | error own =>
      rw [ends] at lost
      exact congrArg _ (Except.error.inj lost)
    | ok b =>
      rw [ends] at lost
      cases lost

end Line

end Chatflow
