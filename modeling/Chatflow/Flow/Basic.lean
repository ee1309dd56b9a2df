import Chatflow.Fault
import Chatflow.Node.Executor
import Chatflow.Text.Case

/-!
# Flows

Nodes and the edges between them, as editors store them. Names and categories are read in any case,
and an edge with a blank branch has none.
-/

namespace Chatflow

open Schema (Field)

structure FlowNode where
  id : String
  category : Category
  subType : String
  label : String
  config : Entries Value

namespace FlowNode

/-- The category that a text names, in its normal form. Filters and branches are conditions. -/
def categoryName (s : String) : String :=
  let name := Text.lower (Text.strip s)
  if name = "filter" || name = "branch" then Category.condition.name else name

def readCategory (v : Value) : Schema.Checked Category :=
  let names := Category.all.map Category.name
  match v with
  | .str s =>
    match Category.ofName? (categoryName s) with
    | some category => .ok category
    | none => .defect v (.notMember names)
  | _ => .defect v (.notMember names)

/-- The normal form of a subtype. -/
def normalSubType (s : String) : String := Text.upper (Text.strip s)

def readConfig : Schema.Reading (Entries Value)
  | .null => .ok []
  | v => Schema.dictionary v

def read (v : Value) : Schema.Checked FlowNode :=
  (Schema.plainRecord "FlowNode" v).andThen fun es =>
    FlowNode.mk
      <$> (Field.aliased "id" "nodeId").required Schema.text es
      <*> (Field.aliased "category" "type").required readCategory es
      <*> (Field.aliased "sub_type" "subType").required
        (fun v => (Schema.text v).map normalSubType) es
      <*> (Field.named "label").orDefault "" Schema.text es
      <*> (Field.named "config").orDefault [] readConfig es

def value (n : FlowNode) : Value :=
  .obj [("id", .str n.id), ("category", .str n.category.name), ("sub_type", .str n.subType),
    ("label", .str n.label), ("config", .obj n.config)]

def isTrigger (n : FlowNode) : Bool := n.category = .trigger

end FlowNode

/-- An edge between two nodes, followed for any outcome or for the one that its branch names. -/
structure FlowEdge where
  id : Option String
  source : String
  target : String
  branch : Option String
deriving Repr, DecidableEq

namespace FlowEdge

def readBranch (v : Value) : Schema.Checked (Option String) :=
  (Schema.optional Schema.text v).map presentText?

def read (v : Value) : Schema.Checked FlowEdge :=
  (Schema.plainRecord "FlowEdge" v).andThen fun es =>
    FlowEdge.mk
      <$> (Field.aliased "id" "edgeId").orDefault none (Schema.optional Schema.text) es
      <*> (Field.aliased "source" "sourceNodeId").required Schema.text es
      <*> (Field.aliased "target" "targetNodeId").required Schema.text es
      <*> (Field.aliased "branch" "sourceHandle").orDefault none readBranch es

def value (e : FlowEdge) : Value :=
  .obj [("id", .ofText? e.id), ("source", .str e.source), ("target", .str e.target),
    ("branch", .ofText? e.branch)]

/-- The name of an edge, or its ends when it has none. -/
def label (e : FlowEdge) : String :=
  match e.id with
  | some id => if id.isEmpty then e.source ++ "->" ++ e.target else id
  | none => e.source ++ "->" ++ e.target

end FlowEdge

/-- A complete flow. -/
structure Flow where
  nodes : List FlowNode
  edges : List FlowEdge

namespace Flow

def read (v : Value) : Schema.Checked Flow :=
  (Schema.plainRecord "FlowDefinition" v).andThen fun es =>
    Flow.mk
      <$> (Field.named "nodes").orDefault [] (Schema.listOf FlowNode.read) es
      <*> (Field.named "edges").orDefault [] (Schema.listOf FlowEdge.read) es

def read? (v : Value) : Except Schema.Invalid Flow := (read v).named "FlowDefinition"

def value (f : Flow) : Value :=
  .obj [("nodes", .list (f.nodes.map FlowNode.value)),
    ("edges", .list (f.edges.map FlowEdge.value))]

end Flow

/-! ### Flows as callers give them -/

/-- A part of a flow that was read already, or that is still to be read. -/
inductive Record (α : Type) where
  | known (part : α)
  | raw (v : Value)

namespace Record

/-- Reads a part of a flow as a record of a named kind. -/
def read {α : Type} (record : String) (reading : Schema.Reading α) :
    Record α → Except Schema.Invalid α
  | known part => .ok part
  | raw v => (reading v).named record

def node? (r : Record FlowNode) : Except Schema.Invalid FlowNode := r.read "FlowNode" FlowNode.read

def edge? (r : Record FlowEdge) : Except Schema.Invalid FlowEdge := r.read "FlowEdge" FlowEdge.read

end Record

/-- A flow whose nodes and edges may still have to be read. -/
structure Draft where
  nodes : List (Record FlowNode)
  edges : List (Record FlowEdge)

namespace Draft

/-- The members of a value that has some. -/
def members (v : Value) : Except Fault (List Value) :=
  match v.members? with
  | some items => .ok items
  | none => .error (.misuse .kind ("'" ++ v.kindName ++ "' object is not iterable"))

/-- The members of a value; a value that says nothing has none. -/
def membersOrNone (v : Value) : Except Fault (List Value) :=
  if v.truthy then members v else .ok []

def ofValues (nodes edges : List Value) : Draft := ⟨nodes.map .raw, edges.map .raw⟩

def ofFlow (f : Flow) : Draft := ⟨f.nodes.map .known, f.edges.map .known⟩

/-- Reads all nodes, then all edges; the first part that cannot be read ends it. -/
def flow? (d : Draft) : Except Schema.Invalid Flow :=
  return ⟨← d.nodes.mapM Record.node?, ← d.edges.mapM Record.edge?⟩

end Draft

end Chatflow
