import Chatflow.Fault
import Chatflow.Retry
import Mathlib.Algebra.Ring.Rat
import Mathlib.Data.Nat.Cast.Basic

/-!
# Calls and pauses of a retry

A retry is observed while it is at work: each call with what came of it, and each pause. It calls
again as long as the calls fail in passing and attempts are left, pauses between two calls, and ends
with what came of the last one (`retry_steps`). There is one pause too many: without attempts a
retry still makes its one call, and pauses after it although no other call follows
(`retry_pauses_after_last_call`).
-/

namespace Chatflow

variable {ε α δ : Type}

inductive RetryStep (ε α δ : Type) where
  | called (ended : Except ε α)
  | paused (delay : δ)

structure RetryLog (ε α δ : Type) where
  calls : Nat
  steps : List (RetryStep ε α δ)

def FailsInPassing (isTransient : ε → Bool) : Except ε α → Prop
  | .ok _ => False
  | .error e => isTransient e = true

instance (isTransient : ε → Bool) (ended : Except ε α) :
    Decidable (FailsInPassing isTransient ended) :=
  match ended with
  | .ok _ => inferInstanceAs (Decidable False)
  | .error e => inferInstanceAs (Decidable (isTransient e = true))

namespace RetryLog

def empty : RetryLog ε α δ := ⟨0, []⟩

def afterCall (log : RetryLog ε α δ) (ended : Except ε α) : RetryLog ε α δ :=
  ⟨log.calls + 1, log.steps ++ [.called ended]⟩

def afterPause (log : RetryLog ε α δ) (delay : δ) : RetryLog ε α δ :=
  { log with steps := log.steps ++ [.paused delay] }

/-- A call under observation. The calls end in a sequence of ways; a finite sequence goes on in any
way. -/
def call (outcomes : Nat → Except ε α) : StateM (RetryLog ε α δ) (Except ε α) := fun log =>
  (outcomes log.calls, log.afterCall (outcomes log.calls))

def pause (delay : δ) : StateM (RetryLog ε α δ) Unit := fun log => ((), log.afterPause delay)

end RetryLog

namespace RetryPolicy

/-! ### One call -/

section

variable {σ β : Type} {policy : RetryPolicy (StateM σ) ε δ} {action : StateM σ (Except ε α)}
  {s t u : σ} {a : α} {e : ε} {count : Nat}

theorem run_bind_of_run {body : StateM σ β} {b : β} (ends : body.run s = (b, t))
    (next : β → StateM σ α) : (body >>= next).run s = (next b).run t := by
  rw [StateT.run_bind, ends]
  rfl

theorem run_retryFrom_ok (ends : action.run s = (.ok a, t)) (more : Nat) :
    (policy.retryFrom action more count).run s = (.ok a, t) := by
  rw [retryFrom.eq_def, run_bind_of_run ends]
  rfl

/-- A fault that does not pass, or that of the last attempt. -/
theorem run_retryFrom_settled (ends : action.run s = (.error e, t))
    (settled : policy.isTransient e = false ∨ (count : Int) = policy.attempts) (more : Nat) :
    (policy.retryFrom action more count).run s = (.error e, t) := by
  have stops : (!policy.isTransient e || (count : Int) == policy.attempts) = true := by
    simpa using settled
  rw [retryFrom.eq_def, run_bind_of_run ends]
  dsimp only
  rw [if_pos stops]
  rfl

/-- A fault that may pass is followed by a pause, and then by another call if there is one more. -/
theorem run_retryFrom_paused (ends : action.run s = (.error e, t))
    (passes : policy.isTransient e = true) (left : (count : Int) ≠ policy.attempts)
    (pauses : (policy.pause count (policy.delay count) e).run t = ((), u)) (more : Nat) :
    (policy.retryFrom action more count).run s =
      match more with
      | 0 => (.error e, u)
      | more + 1 => (policy.retryFrom action more (count + 1)).run u := by
  have goesOn : ¬(!policy.isTransient e || (count : Int) == policy.attempts) = true := by
    simp [passes, left]
  rw [retryFrom.eq_def, run_bind_of_run ends]
  dsimp only
  rw [if_neg goesOn, run_bind_of_run pauses]
  cases more <;> rfl

end

/-! ### All calls -/

variable [Semiring δ]

/-- A retry under observation, with exact delays. -/
def observed (attempts : Int) (base : δ) (isTransient : ε → Bool) :
    RetryPolicy (StateM (RetryLog ε α δ)) ε δ where
  attempts
  delay := doubling (fun base factor => base * factor) base
  isTransient
  pause := fun _ delay _ => RetryLog.pause delay

variable {attempts : Int} {base : δ} {isTransient : ε → Bool} {outcomes : Nat → Except ε α}

theorem delay_observed (calls : Nat) :
    (observed (α := α) attempts base isTransient).delay (calls + 1) = base * 2 ^ calls := by
  simp [observed, doubling]

def failedLog (base : δ) (outcomes : Nat → Except ε α) (calls : Nat) : RetryLog ε α δ :=
  ⟨calls, (List.range calls).flatMap fun i => [.called (outcomes i), .paused (base * 2 ^ i)]⟩

theorem failedLog_succ (base : δ) (outcomes : Nat → Except ε α) (calls : Nat) :
    failedLog base outcomes (calls + 1) =
      ((failedLog base outcomes calls).afterCall (outcomes calls)).afterPause
        (base * 2 ^ calls) := by
  simp [failedLog, RetryLog.afterCall, RetryLog.afterPause, List.range_succ]

def finalLog (attempts : Int) (base : δ) (isTransient : ε → Bool) (outcomes : Nat → Except ε α)
    (last : Nat) : RetryLog ε α δ :=
  let log := (failedLog base outcomes last).afterCall (outcomes last)
  if attempts ≤ 0 ∧ FailsInPassing isTransient (outcomes last) then log.afterPause base else log

theorem run_call (base : δ) (outcomes : Nat → Except ε α) (calls : Nat) :
    (RetryLog.call outcomes).run (failedLog base outcomes calls) =
      (outcomes calls, (failedLog base outcomes calls).afterCall (outcomes calls)) := rfl

theorem run_observed_settled (calls more : Nat)
    (settled : ¬FailsInPassing isTransient (outcomes calls) ∨ (calls : Int) + 1 = attempts) :
    ((observed attempts base isTransient).retryFrom (RetryLog.call outcomes) more
        (calls + 1)).run (failedLog base outcomes calls) =
      (outcomes calls, (failedLog base outcomes calls).afterCall (outcomes calls)) := by
  have call := run_call base outcomes calls
  cases ended : outcomes calls with
  | ok a =>
    rw [ended] at call
    exact run_retryFrom_ok call more
  | error e =>
    rw [ended] at call settled
    have stops : isTransient e = false ∨ ((calls + 1 : Nat) : Int) = attempts := by
      simpa [FailsInPassing] using settled
    exact run_retryFrom_settled call stops more

theorem run_observed_paused {calls : Nat} (more : Nat)
    (passes : FailsInPassing isTransient (outcomes calls)) (left : (calls : Int) + 1 ≠ attempts) :
    ((observed attempts base isTransient).retryFrom (RetryLog.call outcomes) more
        (calls + 1)).run (failedLog base outcomes calls) =
      match more with
      | 0 => (outcomes calls, failedLog base outcomes (calls + 1))
      | more + 1 =>
        ((observed attempts base isTransient).retryFrom (RetryLog.call outcomes) more
          (calls + 2)).run (failedLog base outcomes (calls + 1)) := by
  have call := run_call base outcomes calls
  cases ended : outcomes calls with
  | ok a =>
    rw [ended] at passes
    cases passes
  | error e =>
    rw [ended] at call
    have transient : isTransient e = true := by simpa [ended, FailsInPassing] using passes
    have pauses : ((observed attempts base isTransient).pause (calls + 1)
        ((observed (α := α) attempts base isTransient).delay (calls + 1)) e).run
          ((failedLog base outcomes calls).afterCall (.error e)) =
        ((), failedLog base outcomes (calls + 1)) := by
      rw [failedLog_succ, ended, delay_observed]
      rfl
    exact run_retryFrom_paused call transient left pauses more

/-- A retry that has made some calls goes on up to a last one. It is the first one that does not
fail in passing, or that of the last attempt. -/
theorem exists_run_retryFrom (attempts : Int) (base : δ) (isTransient : ε → Bool)
    (outcomes : Nat → Except ε α) (more calls : Nat)
    (bound : (calls : Int) + 1 + more = max 1 attempts)
    (failed : ∀ i < calls, FailsInPassing isTransient (outcomes i)) :
    ∃ last : Nat, (last : Int) < max 1 attempts ∧
      (∀ i < last, FailsInPassing isTransient (outcomes i)) ∧
      ((last : Int) + 1 = max 1 attempts ∨ ¬FailsInPassing isTransient (outcomes last)) ∧
      ((observed attempts base isTransient).retryFrom (RetryLog.call outcomes) more
          (calls + 1)).run (failedLog base outcomes calls) =
        (outcomes last, finalLog attempts base isTransient outcomes last) := by
  induction more generalizing calls with
  | zero =>
    refine ⟨calls, by omega, failed, .inl (by omega), ?_⟩
    by_cases passes : FailsInPassing isTransient (outcomes calls)
    · by_cases none : attempts ≤ 0
      · obtain rfl : calls = 0 := by omega
        rw [run_observed_paused 0 passes (by omega)]
        simp [finalLog, none, passes, failedLog_succ]
      · rw [run_observed_settled calls 0 (.inr (by omega))]
        simp [finalLog, none]
    · rw [run_observed_settled calls 0 (.inl passes)]
      simp [finalLog, passes]
  | succ more ih =>
    by_cases passes : FailsInPassing isTransient (outcomes calls)
    · rw [run_observed_paused (more + 1) passes (by omega)]
      exact ih (calls + 1) (by omega) (Nat.forall_lt_succ_right.mpr ⟨failed, passes⟩)
    · refine ⟨calls, by omega, failed, .inr passes, ?_⟩
      rw [run_observed_settled calls (more + 1) (.inl passes)]
      simp [finalLog, passes]

end RetryPolicy

/-- A retry makes a call, counted from zero, exactly when there are attempts for it and all earlier
calls failed in passing; the first call needs no attempt. It pauses between two calls, the base
delay at first and then twice as long from call to call, and ends with what came of the last call.
It does nothing else, but for one pause after the only call of a retry without attempts, if that
fails in passing. -/
theorem retry_steps [Semiring δ] (attempts : Int) (base : δ) (isTransient : ε → Bool)
    (outcomes : Nat → Except ε α) :
    ∃ last : Nat,
      (∀ i : Nat, i ≤ last ↔
        (i : Int) < max 1 attempts ∧ ∀ j < i, FailsInPassing isTransient (outcomes j)) ∧
      ((RetryPolicy.observed attempts base isTransient).retry (RetryLog.call outcomes)).run .empty =
        (outcomes last, ⟨last + 1,
          ((List.range last).flatMap fun i => [.called (outcomes i), .paused (base * 2 ^ i)]) ++
            .called (outcomes last) ::
              if attempts ≤ 0 ∧ FailsInPassing isTransient (outcomes last) then [.paused base]
              else []⟩) := by
  obtain ⟨last, within, failed, ends, runs⟩ := RetryPolicy.exists_run_retryFrom attempts base
    isTransient outcomes (attempts.toNat - 1) 0 (by omega) nofun
  refine ⟨last, fun i => ⟨fun le => ⟨by omega, fun j lt => failed j (by omega)⟩, ?_⟩, ?_⟩
  · rintro ⟨allowed, earlier⟩
    by_contra late
    rcases ends with spent | lasting
    · omega
    · exact lasting (earlier last (by omega))
  · refine Eq.trans runs ?_
    by_cases overdue : attempts ≤ 0 ∧ FailsInPassing isTransient (outcomes last)
    · simp [RetryPolicy.finalLog, RetryPolicy.failedLog, RetryLog.afterCall, RetryLog.afterPause,
        overdue]
    · simp [RetryPolicy.finalLog, RetryPolicy.failedLog, RetryLog.afterCall, overdue]

def lostCall : Except Fault Unit := .error (.outage .connection "lost")

/-- Without attempts the one call is followed by a pause, but by no other call. -/
theorem retry_pauses_after_last_call :
    FailsInPassing Fault.isTransient lostCall ∧
    ((RetryPolicy.observed 0 (1 : ℚ) Fault.isTransient).retry
        (RetryLog.call fun _ => lostCall)).run .empty =
      (lostCall, ⟨1, [.called lostCall, .paused 1]⟩) := by
  have passes : FailsInPassing Fault.isTransient lostCall := rfl
  let outcomes : Nat → Except Fault Unit := fun _ => lostCall
  have lost : FailsInPassing Fault.isTransient (outcomes 0) := passes
  refine ⟨passes, Eq.trans (RetryPolicy.run_observed_paused 0 lost (by decide)) ?_⟩
  simp [RetryPolicy.failedLog]

end Chatflow
