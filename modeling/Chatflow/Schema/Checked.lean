import Chatflow.Schema.Issue

/-!
# Checked readings

A reading gives what a value stands for, or everything that is wrong with it. Readings of the parts
of a value are joined so that the issues of all parts are kept, in order.
-/

namespace Chatflow.Schema

inductive Checked (α : Type) where
  | ok (value : α)
  | bad (issues : List Issue)
deriving Repr

abbrev Reading (α : Type) := Value → Checked α

namespace Checked

variable {α β : Type}

def map (f : α → β) : Checked α → Checked β
  | ok a => ok (f a)
  | bad issues => bad issues

/-- Applies a function to a part, or joins the issues of both. -/
def apply : Checked (α → β) → Checked α → Checked β
  | ok f, ok a => ok (f a)
  | ok _, bad issues => bad issues
  | bad issues, ok _ => bad issues
  | bad issues, bad more => bad (issues ++ more)

/-- A further reading of what was read. -/
def andThen (checked : Checked α) (next : α → Checked β) : Checked β :=
  match checked with
  | ok a => next a
  | bad issues => bad issues

instance : Applicative Checked where
  map := map
  pure := ok
  seq f a := apply f (a ())

/-- A single defect of a value itself. -/
def defect (v : Value) (d : Defect) : Checked α := bad [⟨d, [], .ofValue v⟩]

/-- The issues of a part, seen from the whole. -/
def under (step : Step) : Checked α → Checked α
  | ok a => ok a
  | bad issues => bad (issues.map (Issue.under step))

def value? : Checked α → Option α
  | ok a => some a
  | bad _ => none

/-- The outcome of reading a record of a named kind. -/
def named (record : String) : Checked α → Except Invalid α
  | ok a => .ok a
  | bad issues => .error ⟨record, issues⟩

/-- Keeps what was read from a value if a condition holds. -/
def require (v : Value) (holds : α → Bool) (d : Defect) (a : α) : Checked α :=
  if holds a then ok a else defect v d

end Checked

end Chatflow.Schema
