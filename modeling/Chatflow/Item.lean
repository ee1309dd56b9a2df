import Chatflow.Schema.Record

/-!
# Items

The data that nodes hand to each other. An item has a payload and, once a node has sent it on, an
origin: where it comes from, when, and with which outcome.
-/

namespace Chatflow

/-- Where an item comes from. -/
structure Origin where
  source : Option String
  timestamp : Option Int
  branch : Option String

structure Item where
  data : Entries Value
  origin : Option Origin

namespace Origin

def sourceField : Schema.Field := .named "source_node_id"
def timestampField : Schema.Field := .named "timestamp"
def branchField : Schema.Field := .named "branch"

def fields : List Schema.Field := [sourceField, timestampField, branchField]

def read (v : Value) : Schema.Checked Origin :=
  (Schema.openRecord "ItemMeta" v).andThen fun es =>
    (fun source timestamp branch _ => Origin.mk source timestamp branch)
      <$> sourceField.orDefault none (Schema.optional Schema.text) es
      <*> timestampField.orDefault none (Schema.optional Schema.integer) es
      <*> branchField.orDefault none (Schema.optional Schema.text) es
      <*> Schema.forbidExtras fields es

def value (o : Origin) : Value :=
  .obj [("source_node_id", .ofText? o.source), ("timestamp", .ofInt? o.timestamp),
    ("branch", .ofText? o.branch)]

end Origin

namespace Item

/-- An item without payload and origin. -/
def empty : Item := ⟨[], none⟩

def ofData (data : Entries Value) : Item := ⟨data, none⟩

def dataField : Schema.Field := .named "json_data"
def originField : Schema.Field := .named "meta"

def fields : List Schema.Field := [dataField, originField]

def read (v : Value) : Schema.Checked Item :=
  (Schema.openRecord "Item" v).andThen fun es =>
    (fun data origin _ => Item.mk data origin)
      <$> dataField.orDefault [] Schema.dictionary es
      <*> originField.orDefault none (Schema.optional Origin.read) es
      <*> Schema.forbidExtras fields es

def value (item : Item) : Value :=
  .obj [("json_data", .obj item.data), ("meta", (item.origin.map Origin.value).getD .null)]

/-- The outcome with which an item was sent on. -/
def branch (item : Item) : Option String := item.origin.bind (·.branch)

def get? (item : Item) (name : String) : Option Value := item.data.get? name

/-- The item with more data. -/
def extend (item : Item) (data : Entries Value) : Item := { item with data := item.data.merge data }

/-- The item as it leaves a node at a time: an outcome and a source are new, a source that is not
given stays. -/
def sendOn (item : Item) (now : Int) (source branch : Option String) : Item :=
  { item with
    origin := some ⟨source <|> item.origin.bind (·.source), some now, branch⟩ }

/-- More data, and a new origin if a source or an outcome is given. -/
def evolve (item : Item) (now : Int) (data : Entries Value) (source branch : Option String) :
    Item :=
  let extended := item.extend data
  if source.isSome || branch.isSome then extended.sendOn now source branch else extended

@[simp] theorem data_sendOn (item : Item) (now : Int) (source branch : Option String) :
    (item.sendOn now source branch).data = item.data := rfl

@[simp] theorem branch_sendOn (item : Item) (now : Int) (source branch : Option String) :
    (item.sendOn now source branch).branch = branch := rfl

theorem data_evolve (item : Item) (now : Int) (data : Entries Value)
    (source branch : Option String) :
    (item.evolve now data source branch).data = item.data.merge data := by
  unfold evolve
  split <;> rfl

end Item

end Chatflow
