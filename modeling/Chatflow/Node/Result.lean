import Chatflow.Item
import Chatflow.Log.Entry

/-!
# Results of nodes

What the execution of a node gives: the items for its children, or a failure that stops its branch.
-/

namespace Chatflow

structure NodeResult where
  success : Bool
  items : List Item
  text : Option String
  logs : List Log.Entry

namespace NodeResult

def ok (items : List Item) (text : Option String) (logs : List Log.Entry) : NodeResult :=
  ⟨true, items, text, logs⟩

def fail (text : String) (logs : List Log.Entry) : NodeResult := ⟨false, [], some text, logs⟩

/-- The outcome that the first item reports. -/
def outcome (r : NodeResult) : Option String := r.items.head?.bind Item.branch

def value (r : NodeResult) : Value :=
  .obj [("success", .bool r.success), ("items", .list (r.items.map Item.value)),
    ("message", .ofText? r.text), ("logs", .list (r.logs.map Log.Entry.value))]

end NodeResult

/-- What an executor returns: a result, or something else of a kind with a name. -/
inductive Reply where
  | result (r : NodeResult)
  | stray (kindName : String)

end Chatflow
