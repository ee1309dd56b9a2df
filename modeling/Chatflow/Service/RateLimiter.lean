import Chatflow.Fault
import Chatflow.Service.Script

/-!
# Rate limits

A limit on the calls of each subject within windows of fixed length. A window opens with the first
call that finds none open, and calls refused in it are not counted.
-/

namespace Chatflow.Service

variable {τ : Type}

/-- When a window opened and how many calls it let pass. -/
structure Window (τ : Type) where
  opened : τ
  passed : Nat
deriving Repr, DecidableEq

/-- How many calls pass within a window of a length. -/
structure RateLimit (τ : Type) where
  limit : Int
  length : τ

namespace RateLimit

variable [Sub τ] [LE τ] [DecidableLE τ]

/-- The window that is open at a time. -/
def openWindow (r : RateLimit τ) (window : Option (Window τ)) (now : τ) : Window τ :=
  match window with
  | some w => if r.length ≤ now - w.opened then ⟨now, 0⟩ else w
  | none => ⟨now, 0⟩

/-- Whether a call passes, and the window after it. -/
def acquire (r : RateLimit τ) (window : Option (Window τ)) (now : τ) : Bool × Window τ :=
  let w := r.openWindow window now
  if r.limit ≤ (w.passed : Int) then (false, w) else (true, { w with passed := w.passed + 1 })

end RateLimit

/-- The windows of subjects for each capability. -/
structure RateLimiter (τ : Type) where
  rate : RateLimit τ
  windows : Table (String × String) (Window τ)
  script : Script Fault

namespace RateLimiter

variable [Sub τ] [LE τ] [DecidableLE τ]

def ofRate (rate : RateLimit τ) : RateLimiter τ := ⟨rate, [], .silent⟩

/-- Whether a call of a subject passes at a time. -/
def acquire (l : RateLimiter τ) (subject capability : String) (now : τ) :
    Except Fault Bool × RateLimiter τ :=
  let (event, script) := l.script.next
  let l := { l with script }
  match event with
  | some fault => (.error fault, l)
  | none =>
    let (passes, window) := l.rate.acquire (l.windows.get? (subject, capability)) now
    (.ok passes, { l with windows := l.windows.put (subject, capability) window })

end RateLimiter

end Chatflow.Service
