import Chatflow.Schema.Record

/-!
# Log entries of nodes

What a node tells the author of a flow while it works.
-/

namespace Chatflow.Log

inductive Level where
  | debug
  | info
  | warn
  | error
deriving Repr, DecidableEq

namespace Level

def all : List Level := [debug, info, warn, error]

def name : Level → String
  | debug => "debug"
  | info => "info"
  | warn => "warn"
  | error => "error"

def read (v : Value) : Schema.Checked Level :=
  (Schema.literal (all.map name) v).andThen fun s =>
    match all.find? (·.name == s) with
    | some level => .ok level
    | none => .defect v (.notLiteral (all.map name))

end Level

structure Entry where
  timestamp : Int
  level : Level
  text : String
  data : Option (Entries Value)

namespace Entry

/-- An entry without details has no data. -/
def make (timestamp : Int) (level : Level) (text : String) (data : Entries Value) : Entry :=
  ⟨timestamp, level, text, if data.isEmpty then none else some data⟩

def fields (e : Entry) : List (String × Value) :=
  [("timestamp", .int e.timestamp), ("level", .str e.level.name), ("message", .str e.text),
    ("data", (e.data.map Value.obj).getD .null)]

def value (e : Entry) : Value := .obj e.fields

/-- Checks the level and the text of an entry before it is made. -/
def read (timestamp : Int) (level text : Value) (data : Entries Value) :
    Except Schema.Invalid Entry :=
  let checked : Schema.Checked Entry :=
    (fun level text => make timestamp level text data)
      <$> (Level.read level).under (.entry "level") <*> (Schema.text text).under (.entry "message")
  checked.named "ExecutionLogEntry"

end Entry

end Chatflow.Log
