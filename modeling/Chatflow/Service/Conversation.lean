import Chatflow.Fault
import Chatflow.Json.Writer
import Chatflow.Schema.Record
import Chatflow.Service.Script

/-!
# Conversations

The turns of chats, one list for each page and sender.
-/

namespace Chatflow.Service

/-- Who speaks in a turn. -/
inductive Role where
  | user
  | model
deriving Repr, DecidableEq

namespace Role

def name : Role → String
  | user => "user"
  | model => "model"

def all : List Role := [user, model]

def read (v : Value) : Schema.Checked Role :=
  (Schema.literal (all.map name) v).andThen fun s =>
    match all.find? (·.name == s) with
    | some role => .ok role
    | none => .defect v (.notLiteral (all.map name))

end Role

structure Turn where
  role : Role
  text : String
deriving Repr, DecidableEq

namespace Turn

def read (v : Value) : Schema.Checked Turn :=
  (Schema.plainRecord "ChatTurn" v).andThen fun es =>
    Turn.mk <$> (Schema.Field.named "role").required Role.read es
      <*> (Schema.Field.named "text").required Schema.text es

def read? (v : Value) : Except Schema.Invalid Turn := (read v).named "ChatTurn"

def value (t : Turn) : Value := .obj [("role", .str t.role.name), ("text", .str t.text)]

/-- The text under which a turn is stored. -/
def document (t : Turn) : String := Json.write .compact t.value

/-- Reads a stored turn. -/
def ofDocument? (text : String) : Except Schema.Invalid Turn :=
  match Json.read? false text with
  | none => .error ⟨"ChatTurn", [⟨.notJson, [], .ofValue (.str text)⟩]⟩
  | some (.obj es) => read? (.obj es)
  | some v => .error ⟨"ChatTurn", [⟨.notObject, [], .ofValue v⟩]⟩

end Turn

/-- The newest items of a list, all of them oldest first. -/
def newest {α : Type} (limit : Int) (items : List α) : List α :=
  if 0 < limit then items.drop (items.length - limit.toNat) else []

/-- The turns of each conversation, with what goes wrong when they are read or extended. -/
structure ChatHistory where
  turns : Table (String × String) (List Turn)
  onRead : Script Fault
  onAppend : Script Fault

namespace ChatHistory

def empty : ChatHistory := ⟨[], .silent, .silent⟩

def conversation (h : ChatHistory) (page sender : String) : List Turn :=
  (h.turns.get? (page, sender)).getD []

/-- The newest turns of a conversation, which exists from then on. -/
def recent (h : ChatHistory) (page sender : String) (limit : Int) :
    Except Fault (List Turn) × ChatHistory :=
  let (event, onRead) := h.onRead.next
  let h := { h with onRead }
  match event with
  | some fault => (.error fault, h)
  | none =>
    let turns := h.conversation page sender
    (.ok (newest limit turns), { h with turns := h.turns.put (page, sender) turns })

def append (h : ChatHistory) (page sender : String) (turn : Turn) :
    Except Fault Unit × ChatHistory :=
  let (event, onAppend) := h.onAppend.next
  let h := { h with onAppend }
  match event with
  | some fault => (.error fault, h)
  | none =>
    (.ok (), { h with
      turns := h.turns.put (page, sender) (h.conversation page sender ++ [turn]) })

end ChatHistory

end Chatflow.Service
