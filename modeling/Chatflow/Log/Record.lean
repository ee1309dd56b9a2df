import Chatflow.Log.Entry

/-!
# Operational log records

What operators see: one line for each record that is severe enough, as an object of the record's
own fields and the fields given with it.
-/

namespace Chatflow.Log

inductive Severity where
  | debug
  | info
  | warning
  | error
  | critical
deriving Repr, DecidableEq

namespace Severity

def all : List Severity := [debug, info, warning, error, critical]

def name : Severity → String
  | debug => "DEBUG"
  | info => "INFO"
  | warning => "WARNING"
  | error => "ERROR"
  | critical => "CRITICAL"

def rank : Severity → Nat
  | debug => 10
  | info => 20
  | warning => 30
  | error => 40
  | critical => 50

def ofName? (name : String) : Option Severity := all.find? (·.name == name)

end Severity

/-- The severity with which an entry of a node is shown to operators. -/
def Level.severity : Level → Severity
  | debug => .debug
  | info => .info
  | warn => .warning
  | error => .error

/-- The least rank that is logged, by the name of a level. -/
def rankOfName? (name : String) : Option Nat :=
  match name with
  | "FATAL" => some 50
  | "WARN" => some 30
  | "NOTSET" => some 0
  | _ => (Severity.ofName? name).map Severity.rank

/-- Where records go: nowhere, or to the log from a rank on. -/
inductive Sink where
  | discard
  | keep (rank : Nat)
deriving Repr, DecidableEq

/-- Loggers with a least rank of their own, which also holds for the loggers below them. -/
def quietLoggers : List (String × Nat) := [("httpx", 30), ("httpcore", 30), ("celery", 20)]

/-- The least rank that a logger passes on. -/
def Sink.rankFor (logger : String) : Sink → Nat
  | .discard => Severity.critical.rank
  | .keep rank =>
    match quietLoggers.find? fun q =>
      q.1 == logger || (q.1 ++ ".").toList.isPrefixOf logger.toList with
    | some (_, own) => own
    | none => rank

/-- The same place for records, from another rank on. -/
def Sink.withRank (rank : Nat) : Sink → Sink
  | .discard => .discard
  | .keep _ => .keep rank

/-- Names that the record itself has. A field must have another name. -/
def reservedNames : List String :=
  ["name", "msg", "args", "levelname", "levelno", "pathname", "filename", "module", "exc_info",
    "exc_text", "stack_info", "lineno", "funcName", "created", "msecs", "relativeCreated", "thread",
    "threadName", "processName", "process", "taskName", "message", "asctime"]

/-- Fields that place a record in a run. They are left out when they say nothing. -/
def traceNames : List String := ["run_id", "automation_id", "node_id", "sub_type"]

structure Record where
  stamp : String
  severity : Severity
  logger : String
  text : String
  fields : Entries Value

namespace Record

/-- Whether a field is shown: private fields and empty trace fields are not. -/
def shows (entry : String × Value) : Bool :=
  entry.1.toList.head? != some '_' && (entry.2.truthy || !traceNames.contains entry.1)

/-- The line of a record. A given time replaces its own, a given level or logger does not. -/
def line (r : Record) : Value :=
  let own : Entries Value := [("name", .str r.logger), ("message", .str r.text)]
  let shown := own.merge (r.fields.filter shows)
  let stamp := ((r.fields.get? "timestamp").getD .null).orElse (.str r.stamp)
  .obj (shown.merge
    [("timestamp", stamp), ("level", .str r.severity.name), ("logger", .str r.logger)])

/-- The first field whose name the record has itself. -/
def clash? (fields : Entries Value) : Option String :=
  fields.names.find? reservedNames.contains

end Record

/-- Trace fields that say something, added to other fields. -/
def traceFields (runId automationId nodeId subType : Value) (others : Entries Value) :
    Entries Value :=
  others.merge (Table.ofPairs
    ([("run_id", runId), ("automation_id", automationId), ("node_id", nodeId),
      ("sub_type", subType)].filter fun e => e.2.truthy))

end Chatflow.Log
