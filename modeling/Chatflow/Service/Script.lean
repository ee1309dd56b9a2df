/-!
# Scripted disturbances

What goes wrong at the calls of a collaborator. The calls are counted, and for each of them a
disturbance may be set.
-/

namespace Chatflow.Service

variable {β : Type}

/-- The disturbance of each call, and the number of calls so far. -/
structure Script (β : Type) where
  disturbance : Nat → Option β
  calls : Nat

namespace Script

/-- Nothing goes wrong. -/
def silent : Script β := ⟨fun _ => none, 0⟩

/-- One disturbance or none for each of the first calls. -/
def ofList (events : List (Option β)) : Script β := ⟨fun i => events[i]?.join, 0⟩

/-- The same disturbance at every call. -/
def always (event : β) : Script β := ⟨fun _ => some event, 0⟩

def ofOption : Option β → Script β
  | some event => always event
  | none => silent

/-- The disturbance of the next call. -/
def next (s : Script β) : Option β × Script β :=
  (s.disturbance s.calls, { s with calls := s.calls + 1 })

end Script

end Chatflow.Service
