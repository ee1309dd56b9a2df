import Chatflow.Proofs.Node.Alike
import Chatflow.Proofs.Service.Interruption

/-!
# Retries

An execution of a call with retries does not notice passing faults that come before the call, as
long as there are fewer of them than attempts.
-/

namespace Chatflow

open Service

/-- Faults that retries get over: they pass, there are fewer of them than attempts, and after each
of them a delay can be computed. -/
structure Passing (env : Env) (faults : List Fault) : Prop where
  transient : ∀ fault ∈ faults, fault.isTransient = true
  within : ∀ s, env.settings = .ok s → (faults.length : Int) < s.retryAttempts
  delayed : faults.length ≤ Exec.delayedCalls

namespace Exec

variable {α : Type} {env : Env} {s : Settings} {call : Exec α} {fault : Fault} {v w w' : World}
  {count : Nat}

/-! ### Single calls -/

theorem exists_outcome_pause (s : Settings) (env : Env) (w : World) (few : count ≤ delayedCalls)
    (delay : Float) (fault : Fault) :
    ∃ clock records, outcome ((retryPolicy s).pause count delay fault) env w =
      (.ok (), { w with clock, records }) := by
  have checks : outcome (checkDelay count) env w = (.ok (), w) := by
    rw [checkDelay, if_pos few]
    rfl
  obtain ⟨records, emits⟩ := exists_outcome_emit env w [] (by decide) retryLogger .warning
    ("[retry] Transient error (" ++ fault.name ++ "). Retrying in "
      ++ Decimal.fixed 1 delay ++ "s (" ++ toString count ++ "/" ++ toString s.retryAttempts
        ++ ")...") [] rfl
  refine ⟨w.clock.sleep delay, records, ?_⟩
  change outcome (do checkDelay count; pauseBetween s.retryAttempts count delay fault) env w = _
  rw [outcome_bind_ok checks, pauseBetween, outcome_bind_ok emits]
  rfl

def undelayed : Fault := .misuse .size "int too large to convert to float"

/-- The delay after too many calls cannot be computed. -/
theorem outcome_pause_of_lt (many : delayedCalls < count) (delay : Float) (fault : Fault) :
    outcome ((retryPolicy s).pause count delay fault) env w =
      (.error undelayed, w) := by
  have fails : outcome (checkDelay count) env w =
      (.error undelayed, w) := by
    rw [checkDelay, if_neg (Nat.not_le_of_lt many)]
    rfl
  exact outcome_bind_error fails _

/-- A call that ends with a value or a lasting fault is not made again. -/
theorem outcome_retryFrom_settled
    (settled : ∀ fault, (outcome call env w).1 = .error fault → fault.isTransient = false)
    (more count : Nat) :
    outcome ((retryPolicy s).retryFrom (attempt call) more count) env w =
      (.ok (outcome call env w).1, (outcome call env w).2) := by
  rw [RetryPolicy.retryFrom.eq_def, outcome_bind_ok (outcome_attempt call)]
  cases ended : (outcome call env w).1 with
  | ok a => rfl
  | error fault =>
    dsimp only
    rw [if_pos (by simp [retryPolicy, settled fault ended])]
    rfl

/-- A call that ends with a passing fault is made again after a pause. -/
theorem exists_outcome_retryFrom_again (lost : outcome call env w = (.error fault, w'))
    (transient : fault.isTransient = true) (left : (count : Int) ≠ s.retryAttempts)
    (few : count ≤ delayedCalls) (more : Nat) :
    ∃ clock records, outcome ((retryPolicy s).retryFrom (attempt call) (more + 1) count) env w =
      outcome ((retryPolicy s).retryFrom (attempt call) more (count + 1)) env
        { w' with clock, records } := by
  obtain ⟨clock, records, pauses⟩ := exists_outcome_pause s env w' few
    ((retryPolicy s).delay count) fault
  refine ⟨clock, records, ?_⟩
  rw [RetryPolicy.retryFrom, outcome_bind_ok (outcome_attempt call), lost]
  dsimp only
  rw [if_neg (by simp [retryPolicy, transient, left]), outcome_bind_ok pauses]

/-! ### Calls one after the other -/

/-- A call is interrupted by faults in the second of two worlds that are otherwise alike. Each fault
ends one call there. When none is left the call ends in both worlds in the same way. Times make no
difference. -/
structure Interrupts (env : Env) (call : Exec α) (O : List Fault → Outside → Outside → Prop) :
    Prop where
  lost : ∀ {fault rest v w}, Alike (O (fault :: rest)) v w →
    ∃ w', outcome call env w = (.error fault, w') ∧ Alike (O rest) v w'
  rejoin : Carries env (O []) (O []) id call
  paused : ∀ {rest x y} (clock clock' : Time.Clock),
    O rest x y → O rest { x with clock } { y with clock := clock' }

variable {O : List Fault → Outside → Outside → Prop} {A U : Outside → Outside → Prop}
  {faults rest : List Fault}

theorem Interrupts.waited (interrupts : Interrupts env call O) (alike : Alike (O rest) v w)
    (clock clock' : Time.Clock) (records records' : List Log.Record) :
    Alike (O rest) { v with clock, records } { w with clock := clock', records := records' } :=
  { alike with outside := interrupts.paused clock clock' alike.outside }

theorem Interrupts.carries_pause (interrupts : Interrupts env call O) (count : Nat) (delay : Float)
    (fault : Fault) :
    Carries env (O []) (O []) id ((retryPolicy s).pause count delay fault) := by
  refine ⟨fun {v w} alike => ?_⟩
  by_cases few : count ≤ delayedCalls
  · obtain ⟨clock, records, pauses⟩ := exists_outcome_pause s env v few delay fault
    obtain ⟨clock', records', pauses'⟩ := exists_outcome_pause s env w few delay fault
    rw [pauses, pauses']
    exact ⟨rfl, interrupts.waited alike clock clock' records records'⟩
  · rw [outcome_pause_of_lt (Nat.lt_of_not_le few), outcome_pause_of_lt (Nat.lt_of_not_le few)]
    exact ⟨rfl, alike⟩

/-- Without faults in between the calls go on in both worlds in the same way. By induction on the
calls that are left. -/
theorem Interrupts.carries_retryFrom (interrupts : Interrupts env call O) (more count : Nat) :
    Carries env (O []) (O []) id ((retryPolicy s).retryFrom (attempt call) more count) := by
  induction more generalizing count with
  | zero =>
    rw [RetryPolicy.retryFrom]
    refine interrupts.rejoin.attempt.bind fun answer => ?_
    split
    · exact carries_pure _
    · split
      · exact carries_pure _
      · exact (interrupts.carries_pause ..).bind fun _ => carries_pure _
  | succ more ih =>
    rw [RetryPolicy.retryFrom]
    refine interrupts.rejoin.attempt.bind fun answer => ?_
    split
    · exact carries_pure _
    · split
      · exact carries_pure _
      · exact (interrupts.carries_pause ..).bind fun _ => ih (count + 1)

/-- As long as calls are left, the faults are got over one after the other. By induction on the
faults that are left. -/
theorem Interrupts.exists_outcome_retryFrom (interrupts : Interrupts env call O)
    (transient : ∀ fault ∈ rest, fault.isTransient = true)
    (settled : ∀ fault, (outcome call env v).1 = .error fault → fault.isTransient = false)
    (start : Alike (O rest) v w) (more count : Nat) (enough : rest.length ≤ more)
    (within : (rest.length + count : Int) ≤ s.retryAttempts)
    (delayed : rest.length + count ≤ delayedCalls + 1) :
    ∃ w', outcome ((retryPolicy s).retryFrom (attempt call) more count) env w =
      (.ok (outcome call env v).1, w') ∧ Alike (O []) (outcome call env v).2 w' := by
  induction rest generalizing w more count with
  | nil =>
    obtain ⟨same, joined⟩ := interrupts.rejoin.ends start
    rw [Except.map_id] at same
    obtain same : (outcome call env w).1 = (outcome call env v).1 := same
    rw [outcome_retryFrom_settled (same ▸ settled), same]
    exact ⟨_, rfl, joined⟩
  | cons fault rest ih =>
    obtain ⟨passes, later⟩ := List.forall_mem_cons.mp transient
    obtain ⟨w', lost, next⟩ := interrupts.lost start
    simp only [List.length_cons] at enough within delayed
    obtain ⟨more, rfl⟩ : ∃ n, more = n + 1 := ⟨more - 1, by omega⟩
    have left : (count : Int) ≠ s.retryAttempts := by omega
    obtain ⟨clock, records, again⟩ :=
      exists_outcome_retryFrom_again lost passes left (by omega) more
    rw [again]
    exact ih later (interrupts.waited next v.clock clock v.records records) more (count + 1)
      (by omega) (by push_cast; omega) (by omega)

/-- When there are more faults than delays, the delay after one of them cannot be computed, and no
further call is made. By induction on the faults that are left. -/
theorem Interrupts.exists_outcome_retryFrom_undelayed (interrupts : Interrupts env call O)
    (transient : ∀ fault ∈ rest, fault.isTransient = true) (start : Alike (O rest) v w)
    (more count : Nat) (enough : rest.length ≤ more)
    (within : (rest.length + count : Int) ≤ s.retryAttempts)
    (few : count ≤ delayedCalls + 1) (many : delayedCalls + 1 < rest.length + count) :
    ∃ w', outcome ((retryPolicy s).retryFrom (attempt call) more count) env w =
      (.error undelayed, w') := by
  induction rest generalizing w more count with
  | nil =>
    simp only [List.length_nil] at many
    omega
  | cons fault rest ih =>
    obtain ⟨passes, later⟩ := List.forall_mem_cons.mp transient
    obtain ⟨w', lost, next⟩ := interrupts.lost start
    simp only [List.length_cons] at enough within many
    obtain ⟨more, rfl⟩ : ∃ n, more = n + 1 := ⟨more - 1, by omega⟩
    have left : (count : Int) ≠ s.retryAttempts := by omega
    by_cases delayed : count ≤ delayedCalls
    · obtain ⟨clock, records, again⟩ :=
        exists_outcome_retryFrom_again lost passes left delayed more
      rw [again]
      exact ih later (interrupts.waited next v.clock clock v.records records) more (count + 1)
        (by omega) (by push_cast; omega) (by omega) (by omega)
    · refine ⟨w', ?_⟩
      rw [RetryPolicy.retryFrom, outcome_bind_ok (outcome_attempt call), lost]
      dsimp only
      rw [if_neg (by simp [retryPolicy, passes, left])]
      exact outcome_bind_error (outcome_pause_of_lt (Nat.lt_of_not_le delayed) _ _) _

/-- A call with retries does not get over more faults than delays, even if attempts are left. -/
theorem Interrupts.exists_outcome_retrying_undelayed (interrupts : Interrupts env call O)
    (given : env.settings = .ok s) (transient : ∀ fault ∈ faults, fault.isTransient = true)
    (within : (faults.length : Int) < s.retryAttempts) (many : delayedCalls < faults.length)
    (start : Alike (O faults) v w) :
    ∃ w', outcome (retrying call) env w =
      (.error undelayed, w') := by
  have reads : outcome settings env w = (.ok s, w) := by
    rw [outcome_settings, given]
    rfl
  obtain ⟨w', ends⟩ := interrupts.exists_outcome_retryFrom_undelayed (s := s) transient start
    (s.retryAttempts.toNat - 1) 1 (by omega) (by omega) (by omega) (by omega)
  refine ⟨w', ?_⟩
  unfold retrying
  rw [outcome_bind_ok reads]
  exact outcome_bind_error ends _

/-- A call with retries gets over the faults that are in its way, if there are any and the call does
not fail for a passing reason without them. -/
theorem Interrupts.carries_retrying (interrupts : Interrupts env call O)
    (passing : Passing env faults)
    (start : ∀ {v w}, Alike A v w → Alike (O []) v w ∨
      Alike (O faults) v w ∧
        ∀ fault, (outcome call env v).1 = .error fault → fault.isTransient = false)
    (fades : ∀ {rest x y}, O rest x y → U x y) : Carries env A U id (retrying call) := by
  refine ⟨fun {v w} alike => ?_⟩
  unfold retrying
  rcases start alike with clear | ⟨away, settled⟩
  · have together : Carries env (O []) (O []) id
        (do ofExcept (← (retryPolicy (← settings)).retry (attempt call))) :=
      carries_settings.bind fun s =>
        (interrupts.carries_retryFrom _ 1).bind fun answer => carries_ofExcept answer
    exact (together.fade fades).ends clear
  cases given : env.settings with
  | error defect =>
    have fails : ∀ u, outcome settings env u = (.error (.invalid defect), u) := fun u => by
      rw [outcome_settings, given]
      rfl
    rw [outcome_bind_error (fails v), outcome_bind_error (fails w)]
    exact ⟨rfl, away.imp fades⟩
  | ok s =>
    have reads : ∀ u, outcome settings env u = (.ok s, u) := fun u => by
      rw [outcome_settings, given]
      rfl
    have within := passing.within s given
    have delayed := passing.delayed
    obtain ⟨w', gets, joined⟩ := interrupts.exists_outcome_retryFrom (s := s) passing.transient
      settled away (s.retryAttempts.toNat - 1) 1 (by omega) (by omega) (by omega)
    have runs : (retryPolicy s).retry (attempt call) =
        (retryPolicy s).retryFrom (attempt call) (s.retryAttempts.toNat - 1) 1 := rfl
    rw [outcome_bind_ok (reads v), outcome_bind_ok (reads w), runs,
      outcome_bind_ok (outcome_retryFrom_settled settled _ 1), outcome_bind_ok gets,
      outcome_ofExcept, outcome_ofExcept]
    exact ⟨rfl, joined.imp fades⟩

end Exec

end Chatflow
