import Chatflow.Table

/-!
# The hand-off of generated texts

Generated texts wait here for the node that sends them. A node sees the texts of the producers in
its scope, of which it takes the newest.
-/

namespace Chatflow

/-- The waiting texts by producer, oldest first, with the node at work and its scope. Without a
scope all texts are seen. -/
structure Handoff where
  pending : Entries String
  current : Option String
  scope : Option (List String)
deriving Repr, DecidableEq

namespace Handoff

def empty : Handoff := ⟨[], none, none⟩

def producers (h : Handoff) : List String := h.pending.names

def sees (h : Handoff) (producer : String) : Bool :=
  match h.scope with
  | none => true
  | some scope => scope.contains producer

/-- The producers whose texts are seen, oldest first. -/
def visible (h : Handoff) : List String := h.producers.filter h.sees

/-- Sets the node at work and the producers whose texts it sees. -/
def enter (h : Handoff) (node : Option String) (scope : Option (List String)) : Handoff :=
  { h with current := node, scope }

/-- The name under which a text is put: the given one, or the node at work. -/
def producerName (h : Handoff) (producer : Option String) : String :=
  match producer with
  | some name => if name.isEmpty then h.current.getD "" else name
  | none => h.current.getD ""

/-- Adds a text as the newest one. While another text is seen the slot is occupied, and the
producer of the newest text seen is reported. -/
def put (h : Handoff) (text : String) (producer : Option String) :
    Except (Option String) Handoff :=
  match h.visible.getLast? with
  | some earlier => .error (if earlier.isEmpty then none else some earlier)
  | none =>
    let name := h.producerName producer
    .ok { h with pending := h.pending.erase name ++ [(name, text)] }

/-- The newest text that is seen. -/
def peek (h : Handoff) : Option String := h.visible.getLast?.bind h.pending.get?

/-- Removes the newest text that is seen. -/
def take (h : Handoff) : Option String × Handoff :=
  match h.visible.getLast? with
  | some producer => (h.pending.get? producer, { h with pending := h.pending.erase producer })
  | none => (none, h)

/-- Removes the text of a producer. -/
def discard (h : Handoff) (producer : String) : Option String × Handoff :=
  (h.pending.get? producer, { h with pending := h.pending.erase producer })

def isPending (h : Handoff) : Bool := !h.pending.isEmpty

end Handoff

end Chatflow
