import Chatflow.Schema.Scalar

/-!
# Records

Readings of lists and of records with named fields. A field may have an alias, which wins over its
name; an entry under neither is an extra.
-/

namespace Chatflow.Schema

variable {α : Type}

/-- Readings of the items, with the issues of all of them. -/
def readItems (reading : Reading α) : Nat → List Value → Checked (List α)
  | _, [] => .ok []
  | index, v :: rest =>
    List.cons <$> (reading v).under (.item index) <*> readItems reading (index + 1) rest

/-- A list with bounds on its length. Too many items are the only issue of a list. -/
def listWithin (least : Nat) (most : Option Nat) (reading : Reading α) : Reading (List α)
  | .list items =>
    if most.any (· < items.length) then
      .defect (.list items) (.longList (most.getD 0) items.length)
    else
      (readItems reading 0 items).andThen fun read =>
        if read.length < least then .defect (.list items) (.shortList least read.length)
        else .ok read
  | v => .defect v .notList

def listOf (reading : Reading α) : Reading (List α) := listWithin 0 none reading

/-- The names of the keys that are texts; any other key is an issue. -/
def textKeys (issue : Value → Issue) : List (Value × Value) → Checked (Entries Value)
  | [] => .ok []
  | (key, v) :: rest =>
    let entry : Checked (String × Value) := match key with
      | .str name => .ok (name, v)
      | other => .bad [issue other]
    List.cons <$> entry <*> textKeys issue rest

/-- A dictionary with texts as keys and any values. -/
def dictionary : Reading (Entries Value)
  | .obj entries => .ok entries
  | .keyed pairs =>
    textKeys (fun key => ⟨.notText, [.entry key.display, .entry "[key]"], .ofValue key⟩) pairs
  | v => .defect v .notDictionary

/-- A field of a record. -/
structure Field where
  name : String
  alias? : Option String
deriving Repr, DecidableEq

namespace Field

def named (name : String) : Field := ⟨name, none⟩

def aliased (name second : String) : Field := ⟨name, some second⟩

/-- The name under which a missing field is reported. -/
def label (f : Field) : String := f.alias?.getD f.name

/-- The key under which the field stands in a list of entries, with its value. -/
def find? (f : Field) (es : Entries Value) : Option (String × Value) :=
  match f.alias? with
  | some second =>
    match es.get? second with
    | some v => some (second, v)
    | none => (es.get? f.name).map (f.name, ·)
  | none => (es.get? f.name).map (f.name, ·)

/-- The value of a field that must be there. -/
def required (f : Field) (reading : Reading α) (es : Entries Value) : Checked α :=
  match f.find? es with
  | some (key, v) => (reading v).under (.entry key)
  | none => .bad [⟨.missing, [.entry f.label], .ofValue (.obj es)⟩]

/-- The value of a field, or what it is when it is not there. -/
def orDefault (f : Field) (value : α) (reading : Reading α) (es : Entries Value) : Checked α :=
  match f.find? es with
  | some (key, v) => (reading v).under (.entry key)
  | none => .ok value

end Field

/-- The entries that belong to none of the fields. -/
def extras (fields : List Field) (es : Entries Value) : Entries Value :=
  let used := fields.filterMap fun f => (f.find? es).map (·.1)
  es.filter fun e => !used.contains e.1

/-- The entries of a record that keeps its extras, whose keys are texts. -/
def openRecord (record : String) : Reading (Entries Value)
  | .obj entries => .ok entries
  | .keyed pairs => textKeys (fun key => ⟨.notKey, [.entry key.display], .ofValue key⟩) pairs
  | v => .defect v (.notRecord record)

/-- The entries of a record that ignores its extras. -/
def plainRecord (record : String) : Reading (Entries Value)
  | .obj entries => .ok entries
  | .keyed pairs => .ok (pairs.filterMap fun p => p.1.text?.map (·, p.2))
  | v => .defect v (.notRecord record)

/-- The issues of entries that a closed record does not have. -/
def forbidExtras (fields : List Field) (es : Entries Value) : Checked Unit :=
  match extras fields es with
  | [] => .ok ()
  | more => .bad (more.map fun e => ⟨.forbidden, [.entry e.1], .ofValue e.2⟩)

/-- The value of a record: its fields, and its extras, which replace fields of the same name. -/
def dump (fields : List (String × Value)) (more : Entries Value) : Value :=
  .obj (Table.merge fields more)

end Chatflow.Schema
