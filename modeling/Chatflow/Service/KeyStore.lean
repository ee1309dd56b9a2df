import Chatflow.Service.AuditStore
import Chatflow.Service.Conversation

/-!
# Stores shared by workers

Rate limits, flags, conversations and records of runs in a key-value database. A store sends
commands and understands their replies; what executes the commands is open.
-/

namespace Chatflow.Service

inductive Command where
  | increment (key : String)
  /-- Lets a key expire, unless it expires already. -/
  | expire (key : String) (seconds : Int)
  | get (key : String)
  | set (key value : String)
  | setFor (key : String) (seconds : Int) (value : String)
  /-- Items of a list, both ends included; negative places count from its end. -/
  | range (key : String) (first last : Int)
  | push (key value : String)
  | trim (key : String) (first last : Int)
deriving Repr, DecidableEq

/-- What is sent at once: one command, or several that are executed together. -/
inductive Request where
  | single (command : Command)
  | together (commands : List Command)
deriving Repr, DecidableEq

namespace Command

/-- The words of a command. -/
def words : Command → List Value
  | increment key => [.str "incr", .str key]
  | expire key seconds => [.str "expire", .str key, .int seconds, .obj [("nx", .bool true)]]
  | get key => [.str "get", .str key]
  | set key value => [.str "set", .str key, .str value]
  | setFor key seconds value => [.str "setex", .str key, .int seconds, .str value]
  | range key first last => [.str "lrange", .str key, .int first, .int last]
  | push key value => [.str "rpush", .str key, .str value]
  | trim key first last => [.str "ltrim", .str key, .int first, .int last]

end Command

/-- The lines of a request. -/
def Request.lines : Request → List Value
  | single command => [.list command.words]
  | together commands =>
    [.list [.str "pipeline"]] ++ (commands.map fun c => .list c.words)
      ++ [.list [.str "execute"]]

/-- A database in a monad of its own, and a log for operators. -/
structure KeyStore (m : Type → Type) where
  ask : Request → m Value
  tell : String → Entries Value → m Unit

namespace KeyStore

variable {m : Type → Type} [Monad m] [MonadExceptOf Fault m] (store : KeyStore m)

def refuse {α : Type} (cause : Misuse) : m α := throw (.misuse cause "")

/-! ### Rate limits -/

/-- The integer that a reply gives. -/
def integerOf? : Value → Except Misuse Int
  | .int n => .ok n
  | .bool b => .ok (if b then 1 else 0)
  | .float x =>
    match (Decimal.Binary.ofFloat x).truncate? with
    | some n => .ok n
    | none => .error .content
  | .str s =>
    let (negative, digits) := Schema.splitSign (Text.trimList Text.isBlank s.toList)
    match Schema.digitGroups? digits with
    | some ds => .ok (if negative then -(Json.digitsValue ds : Int) else Json.digitsValue ds)
    | none => .error .content
  | _ => .error .kind

/-- The first of the two replies to a pair of commands. -/
def firstOfTwo? (reply : Value) : Except Misuse Value :=
  match reply.members? with
  | some [first, _] => .ok first
  | some _ => .error .content
  | none => .error .kind

/-- The key under which the calls of a subject are counted. -/
def rateKey (subject capability : String) : String := "ratelimit:" ++ capability ++ ":" ++ subject

/-- Counts a call; whether it is within the limit of its window. The window of a key begins with its
first call and ends when the key expires. -/
def acquire (limit window : Int) (subject capability : String) : m Bool := do
  let key := rateKey subject capability
  let reply ← store.ask (.together [.increment key, .expire key window])
  match firstOfTwo? reply >>= integerOf? with
  | .error cause => refuse cause
  | .ok count =>
    if count ≤ limit then return true
    else
      store.tell "Rate limit reached"
        [("subject", .str subject), ("capability", .str capability), ("count", .int count)]
      return false

/-! ### Flags -/

def flagKey (key : String) : String := "flag:" ++ key

/-- The flag under a key, if there is one. -/
def readFlag (key : String) : m (Option Bool) := do
  match ← store.ask (.single (.get (flagKey key))) with
  | .null => return none
  | .str "1" => return some true
  | _ => return some false

/-- Sets a flag, for a number of seconds if one is given that is not zero. -/
def writeFlag (lifetime : Option Int) (key : String) (flag : Bool) : m Unit := do
  let value := if flag then "1" else "0"
  let _ ← match lifetime with
    | some seconds =>
      if seconds = 0 then store.ask (.single (.set (flagKey key) value))
      else store.ask (.single (.setFor (flagKey key) seconds value))
    | none => store.ask (.single (.set (flagKey key) value))

/-! ### Conversations -/

def chatKey (page sender : String) : String := "chat:" ++ page ++ ":" ++ sender

/-- The turn in one item of a reply. -/
def turnOf (v : Value) : Except Fault Turn :=
  match v with
  | .str text => (Turn.ofDocument? text).mapError .invalid
  | _ => .error (.invalid ⟨"ChatTurn", [⟨.notDocument, [], .ofValue v⟩]⟩)

/-- The newest turns of a conversation. -/
def recentTurns (page sender : String) (limit : Int) : m (List Turn) := do
  if limit ≤ 0 then return []
  else
    let reply ← store.ask (.single (.range (chatKey page sender) (-limit) (-1)))
    match reply.members? with
    | none => refuse .kind
    | some items =>
      match items.mapM turnOf with
      | .ok turns => return turns
      | .error fault => throw fault

/-- Appends a turn to a conversation, of which only the newest turns are kept. -/
def appendTurn (maxTurns : Int) (page sender : String) (turn : Turn) : m Unit := do
  let key := chatKey page sender
  let _ ← store.ask (.together [.push key turn.document, .trim key (-maxTurns) (-1)])

/-! ### Records of runs -/

def auditKey (run : String) : String := "run:" ++ run

/-- Keeps the record of a run for a number of seconds. -/
def recordRun (lifetime : Int) (record : Entries Value) : m Unit := do
  match record.get? "run_id" with
  | none => throw (.misuse .entry "'run_id'")
  | some run =>
    let text := Json.write .spaced (.obj record)
    let _ ← store.ask (.single (.setFor (auditKey run.display) lifetime text))
    store.tell "Run recorded"
      [("run_id", run), ("status", (record.get? "status").getD .null)]

/-- The record of a run. -/
def findRun (run : String) : m Value := do
  match ← store.ask (.single (.get (auditKey run))) with
  | .null => return .null
  | .str text =>
    match Json.read? true text with
    | some v => return v
    | none => refuse .document
  | _ => refuse .kind

end KeyStore

/-! ### Replaying -/

/-- A database that gives prepared replies, and then nothing, and keeps what it is asked. -/
structure Replay where
  replies : List (Except Fault Value)
  requests : List Request

namespace Replay

def ofReplies (replies : List (Except Fault Value)) : Replay := ⟨replies, []⟩

/-- The next reply. -/
def answer (r : Replay) (request : Request) : Except Fault Value × Replay :=
  let r := { r with requests := r.requests ++ [request] }
  match r.replies with
  | [] => (.ok .null, r)
  | reply :: rest => (reply, { r with replies := rest })

end Replay

end Chatflow.Service
