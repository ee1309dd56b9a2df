import Chatflow.Exec
import Chatflow.Node.Result

/-!
# Executors

An executor runs the nodes of one subtype. It checks their settings, says whether it sends or
generates texts, and turns items into items.
-/

namespace Chatflow

/-- A text unless it is missing or blank. -/
def presentText? (text : Option String) : Option String := text.filter (!Text.allBlank ·)

/-- What a node is in a flow. -/
inductive Category where
  | trigger
  | condition
  | action
deriving Repr, DecidableEq

namespace Category

def all : List Category := [trigger, condition, action]

def name : Category → String
  | trigger => "trigger"
  | condition => "condition"
  | action => "action"

def ofName? (name : String) : Option Category := all.find? (·.name == name)

end Category

structure Executor where
  subType : String
  category : Category
  description : String
  /-- The name under which listings show the executor, and where it is found. -/
  name : String
  home : String
  consumesText : Bool
  producesText : Bool
  /-- Settings that can hold a text to send. -/
  textKeys : List String
  /-- Checks the settings of a node and gives them in full. -/
  readConfig : Value → Except Schema.Invalid Value
  /-- What goes wrong when the kind of the settings is described, if that cannot be done. -/
  schemaFault? : Option Fault := none
  execute : Value → List Item → Exec Reply

namespace Executor

/-- Settings that say nothing count as none at all. -/
def settingsOf (config : Value) : Value := config.orElse (.obj [])

/-- What is wrong with settings, one line for each issue. -/
def problems (e : Executor) (config : Value) : List String :=
  match e.readConfig (settingsOf config) with
  | .ok _ => []
  | .error invalid => invalid.issues.map Schema.Issue.line

/-- Whether a setting holds a text that is not blank. -/
def holdsText (config : Entries Value) (key : String) : Bool :=
  match config.get? key with
  | some (.str s) => !Text.allBlank s
  | _ => false

/-- Whether the settings hold a text to send. -/
def hasStaticText (e : Executor) (config : Entries Value) : Bool :=
  e.textKeys.any (holdsText config)

end Executor

/-- How listings describe an executor. -/
structure NodeDefinition where
  subType : String
  category : String
  description : String
  nodeClass : String
  source : String
  consumesText : Bool
  producesText : Bool
deriving Repr, DecidableEq

namespace NodeDefinition

def value (d : NodeDefinition) : Value :=
  .obj [("sub_type", .str d.subType), ("category", .str d.category),
    ("description", .str d.description), ("node_class", .str d.nodeClass),
    ("source", .str d.source), ("consumes_generated_text", .bool d.consumesText),
    ("produces_generated_text", .bool d.producesText)]

end NodeDefinition

/-- What listings say about an executor that is registered. -/
def Executor.definition (e : Executor) : NodeDefinition :=
  ⟨e.subType, e.category.name, e.description, e.home ++ "." ++ e.name, "registry", e.consumesText,
    e.producesText⟩

/-- Describes an executor, as far as its settings can be described. -/
def Executor.describe (e : Executor) : Except Fault NodeDefinition :=
  match e.schemaFault? with
  | some fault => .error fault
  | none => .ok e.definition

namespace Exec

/-! ### Parts of executors -/

/-- The items of a node, or one empty item so that its children still run. -/
def passThrough (items : List Item) : List Item :=
  if items.isEmpty then [Item.empty] else items

/-- Succeeds with items; the journal becomes the log. -/
def succeed (items : List Item) (text : String) : Exec Reply :=
  return .result (.ok items (some text) (← journal))

def failWith (text : String) : Exec Reply := return .result (.fail text (← journal))

/-- All items with more data. -/
def extendAll (items : List Item) (data : Entries Value) : List Item :=
  (passThrough items).map (·.extend data)

/-- All items with more data and an outcome. -/
def branchAll (items : List Item) (now : Int) (data : Entries Value) (branch : String) :
    List Item :=
  (passThrough items).map (·.evolve now data none (some branch))

/-- The first characters of a text for a log entry. -/
def preview (text : String) : Value := .str (Text.preview text 50)

end Exec

end Chatflow
