/-!
# Retrying calls

A call that fails with a passing fault is made again after a pause, up to a number of attempts. The
pauses grow; no other fault is retried.
-/

namespace Chatflow

variable {m : Type → Type} [Monad m] {ε α δ : Type}

/-- What a caller says about faults: which of them pass, how long to wait after each call, and what
is done while waiting. Calls are counted from one. -/
structure RetryPolicy (m : Type → Type) (ε δ : Type) where
  attempts : Int
  delay : Nat → δ
  isTransient : ε → Bool
  pause : Nat → δ → ε → m Unit

/-- Makes the call number `count` and at most `more` further ones. -/
def RetryPolicy.retryFrom (policy : RetryPolicy m ε δ) (call : m (Except ε α)) :
    Nat → Nat → m (Except ε α)
  | more, count => do
    match ← call with
    | .ok a => return .ok a
    | .error e =>
      if !policy.isTransient e || (count : Int) == policy.attempts then return .error e
      else
        policy.pause count (policy.delay count) e
        match more with
        | 0 => return .error e
        | more + 1 => retryFrom policy call more (count + 1)

/-- Calls until there is a value, a lasting fault, or no attempt left. There is always a first
call. -/
def RetryPolicy.retry (policy : RetryPolicy m ε δ) (call : m (Except ε α)) : m (Except ε α) :=
  policy.retryFrom call (policy.attempts.toNat - 1) 1

/-- Delays that start with a base and double from call to call. -/
def doubling (scale : δ → Nat → δ) (base : δ) (count : Nat) : δ :=
  scale base (Nat.pow 2 (count - 1))

end Chatflow
