import Chatflow.Service.Messenger
import Mathlib.Data.List.Basic

/-!
# Attempts of calls

What a messenger does with calls that reach it one after the other: those that it accepts or rejects
arrive and are recorded, the others are lost. A call that is made again as long as it is lost
arrives at most once (`Tries.length_arrivals_le`), and never after it was rejected
(`Tries.last_of_arrived`).
-/

namespace Chatflow.Service

structure Attempt where
  call : OutboundCall
  answer : Except Fault SendResult

namespace Attempt

def isAccepted (a : Attempt) : Bool :=
  match a.answer with
  | .ok result => result.success
  | .error _ => false

/-- The call if it arrived: the platform accepted it or rejected it. -/
def arrival? (a : Attempt) : Option OutboundCall :=
  match a.answer with
  | .ok _ => some a.call
  | .error _ => none

def isVisible (a : Attempt) : Bool := a.call.isVisible

end Attempt

def arrivals (attempts : List Attempt) : List OutboundCall := attempts.filterMap Attempt.arrival?

/-- The attempts that are not sender actions. -/
def visibleOnes (attempts : List Attempt) : List Attempt := attempts.filter Attempt.isVisible

inductive Attempts : Option Messenger → List Attempt → Option Messenger → Prop
  | done (m : Option Messenger) : Attempts m [] m
  | next {m : Messenger} {call : OutboundCall} {rest : List Attempt} {m' : Option Messenger}
      (later : Attempts (some (m.send call).2) rest m') :
      Attempts (some m) (⟨call, (m.send call).1⟩ :: rest) m'

/-- Attempts of one call, each but the last of which was lost. -/
inductive Tries (call : OutboundCall) : List Attempt → Prop
  | none : Tries call []
  | last (answer : Except Fault SendResult) : Tries call [⟨call, answer⟩]
  | again (fault : Fault) {rest : List Attempt} (more : Tries call rest) :
      Tries call (⟨call, .error fault⟩ :: rest)

/-- The calls that arrived at a messenger; without one there are none. -/
def callsOf (m : Option Messenger) : List OutboundCall := (m.map Messenger.calls).getD []

variable {m m' m'' : Option Messenger} {attempts later : List Attempt} {call : OutboundCall}

theorem Attempts.append (first : Attempts m attempts m') (second : Attempts m' later m'') :
    Attempts m (attempts ++ later) m'' := by
  induction first with
  | done => exact second
  | next _ ih => exact .next (ih second)

theorem arrivals_cons (a : Attempt) (rest : List Attempt) :
    arrivals (a :: rest) = a.arrival?.toList ++ arrivals rest := by
  unfold arrivals
  rw [List.filterMap_cons]
  cases a.arrival? <;> rfl

theorem calls_send (m : Messenger) (call : OutboundCall) :
    (m.send call).2.calls = m.calls ++ (Attempt.arrival? ⟨call, (m.send call).1⟩).toList := by
  unfold Messenger.send
  split
  rename_i event script _
  match event with
  | some (.lost fault) => simp [Attempt.arrival?]
  | some (.rejected error) => rfl
  | none =>
    dsimp only
    split <;> rfl

theorem Attempts.callsOf_eq (made : Attempts m attempts m') :
    callsOf m' = callsOf m ++ arrivals attempts := by
  induction made with
  | done => simp [arrivals]
  | @next m call rest m' _ ih =>
    have first : callsOf (some (m.send call).2) = _ := calls_send m call
    rw [ih, first, List.append_assoc, arrivals_cons]
    rfl

theorem visibleOnes_append (attempts later : List Attempt) :
    visibleOnes (attempts ++ later) = visibleOnes attempts ++ visibleOnes later :=
  List.filter_append ..

theorem visibleOnes_eq_nil (hidden : ∀ a ∈ attempts, a.isVisible = false) :
    visibleOnes attempts = [] :=
  List.filter_eq_nil_iff.mpr fun a mem => by simp [hidden a mem]

theorem filter_arrivals (attempts : List Attempt) :
    (arrivals attempts).filter OutboundCall.isVisible = arrivals (visibleOnes attempts) := by
  induction attempts with
  | nil => rfl
  | cons a rest ih =>
    obtain ⟨call, answer⟩ := a
    rw [arrivals_cons, List.filter_append, ih]
    cases visible : call.isVisible <;> cases answer <;>
      simp [Attempt.isVisible, Attempt.arrival?, arrivals_cons, visibleOnes, visible]

namespace Tries

theorem call_eq (tries : Tries call attempts) {a : Attempt} (mem : a ∈ attempts) :
    a.call = call := by
  induction tries with
  | none => cases mem
  | last answer => rw [List.mem_singleton.mp mem]
  | again fault _ ih =>
    rcases List.mem_cons.mp mem with rfl | later
    · rfl
    · exact ih later

theorem length_arrivals_le (tries : Tries call attempts) : (arrivals attempts).length ≤ 1 := by
  induction tries with
  | none => exact Nat.zero_le 1
  | last answer =>
    cases answer with
    | error fault => exact Nat.zero_le 1
    | ok result => exact Nat.le_refl 1
  | again fault _ ih => exact ih

theorem eq_of_mem_arrivals (tries : Tries call attempts) {c : OutboundCall}
    (mem : c ∈ arrivals attempts) : c = call := by
  obtain ⟨a, attempt, arrived⟩ := List.mem_filterMap.mp mem
  rw [← tries.call_eq attempt]
  unfold Attempt.arrival? at arrived
  split at arrived
  · exact (Option.some.inj arrived).symm
  · cases arrived

/-- No attempt comes after one that arrived: a rejected call is not made again. -/
theorem last_of_arrived (tries : Tries call attempts) {before after : List Attempt} {a : Attempt}
    (split : attempts = before ++ a :: after) (arrived : a.arrival? ≠ .none) : after = [] := by
  induction tries generalizing before with
  | none => simp at split
  | last answer =>
    cases before with
    | nil => exact (List.cons.inj split).2.symm
    | cons b before => simp at split
  | again fault _ ih =>
    cases before with
    | nil =>
      obtain ⟨rfl, -⟩ := List.cons.inj split
      exact absurd rfl arrived
    | cons b before => exact ih (List.cons.inj split).2

/-- A call that is accepted in the end is all that arrived. -/
theorem arrivals_of_accepted (tries : Tries call attempts) {a : Attempt} (mem : a ∈ attempts)
    (accepted : a.isAccepted = true) : arrivals attempts = [call] := by
  have arrived : a.arrival? = some a.call := by
    unfold Attempt.isAccepted at accepted
    unfold Attempt.arrival?
    split at accepted <;> simp_all
  have some : call ∈ arrivals attempts :=
    List.mem_filterMap.mpr ⟨a, mem, arrived.trans (congrArg _ (tries.call_eq mem))⟩
  have few := tries.length_arrivals_le
  match found : arrivals attempts with
  | [] => simp [found] at some
  | [only] => simpa [found, eq_comm] using some
  | first :: second :: rest => simp [found] at few

end Tries

end Chatflow.Service
