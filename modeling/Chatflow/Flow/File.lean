import Chatflow.Flow.Basic
import Chatflow.Yaml.Document

/-!
# Flow files

A file holds the nodes and the edges of a flow, as they are or in an entry named `flow`. A part that
is missing or says nothing is empty.
-/

namespace Chatflow

/-- The nodes and the edges of a flow, neither of them read yet. -/
structure FlowFile where
  nodes : Value
  edges : Value

namespace FlowFile

/-- An entry of a mapping under a text. -/
def partOf? (v : Value) (name : String) : Option Value :=
  match v with
  | .obj entries => Table.get? entries name
  | .keyed entries => (entries.find? fun e => e.1.text? == some name).map (·.2)
  | _ => none

def isMapping : Value → Bool
  | .obj _ => true
  | .keyed _ => true
  | _ => false

/-- A part of a flow; nothing in its place is an empty list. -/
def part (v : Value) (name : String) : Value := ((partOf? v name).getD .null).orElse (.list [])

/-- The flow in a document, if the document is a mapping. -/
def ofDocument? (document : Value) : Option FlowFile :=
  let document := document.orElse (.obj [])
  if isMapping document then
    let flow := match partOf? document "flow" with
      | some inner => if isMapping inner then inner else document
      | none => document
    some ⟨part flow "nodes", part flow "edges"⟩
  else none

/-- Reads the text of a flow file. -/
def ofText? (path text : String) : Except Fault FlowFile :=
  match Yaml.read text with
  | .error cause => .error (.document cause)
  | .ok document =>
    match ofDocument? document with
    | some file => .ok file
    | none => .error (.usage (path ++ ": expected a mapping with nodes and edges"))

/-- Reads a flow file. -/
def load? (files : String → Option String) (path : String) : Except Fault FlowFile :=
  match files path with
  | some text => ofText? path text
  | none => .error (.misuse .file path)

/-- The flow as a draft. The parts must have members. -/
def draft? (f : FlowFile) : Except Fault Draft :=
  return .ofValues (← Draft.members f.nodes) (← Draft.members f.edges)

end FlowFile

end Chatflow
