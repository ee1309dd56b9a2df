import Chatflow.Schema.Checked
import Chatflow.Text.Search
import Chatflow.Yaml.Scalar

/-!
# Faults

Every way in which an operation can end without a value, with the name and the message under which
it is reported. A fault of the outside world is transient when a later call may succeed.
-/

namespace Chatflow

/-- Kinds of faults that collaborators raise on their own. -/
inductive Outage where
  | runtime
  | value
  | key
  | connection
  | reset
  | timeout
  | readTimeout
  | disconnected
  | encryption
deriving Repr, DecidableEq

namespace Outage

def all : List Outage :=
  [runtime, value, key, connection, reset, timeout, readTimeout, disconnected, encryption]

def name : Outage → String
  | runtime => "RuntimeError"
  | value => "ValueError"
  | key => "KeyError"
  | connection => "ConnectionError"
  | reset => "ConnectionResetError"
  | timeout => "TimeoutError"
  | readTimeout => "ReadTimeout"
  | disconnected => "RemoteDisconnected"
  | encryption => "SSLError"

def ofName? (name : String) : Option Outage := all.find? (·.name == name)

/-- Faults of the connection itself, which may pass. -/
def isConnectionFault : Outage → Bool
  | connection => true
  | reset => true
  | timeout => true
  | encryption => true
  | _ => false

end Outage

/-- Uses of a value that its kind, content or size does not allow, or of a file that is not
there. -/
inductive Misuse where
  | kind
  | content
  | size
  | entry
  | operation
  | document
  | encoding
  | file
deriving Repr, DecidableEq

namespace Misuse

def name : Misuse → String
  | kind => "TypeError"
  | content => "ValueError"
  | size => "OverflowError"
  | entry => "KeyError"
  | operation => "AttributeError"
  | document => "JSONDecodeError"
  | encoding => "UnicodeEncodeError"
  | file => "FileNotFoundError"

end Misuse

/-- Why a table of plans cannot be used. -/
inductive PlanTableFault where
  | absent (path : String)
  | unreadable (path : String)
  | withoutPlans (path : String)
  | invalid (path : String) (detail : Schema.Invalid)
deriving Repr, DecidableEq

namespace PlanTableFault

/-- What is said about a table that cannot be used. What the reader of a document has to say about
one that it cannot read is left out. -/
def message : PlanTableFault → String
  | absent path => "Plan limits file not found: " ++ path
  | unreadable path => "Invalid YAML in " ++ path
  | withoutPlans path => path ++ ": expected a top-level 'plans' mapping"
  | invalid path detail => "Invalid plan limits in " ++ path ++ ": " ++ detail.report

end PlanTableFault

inductive Fault where
  | outage (kind : Outage) (text : String)
  | api (text : String) (status : Option Int)
  | operation (text : String)
  | unavailable (capability : String)
  | occupied (producer : Option String)
  | invalid (detail : Schema.Invalid)
  | duplicate (subType : String)
  | frozen (subType : String)
  | planTable (cause : PlanTableFault)
  | usage (text : String)
  | document (cause : Yaml.Malformed)
  | misuse (cause : Misuse) (text : String)
deriving Repr, DecidableEq

namespace Fault

/-- The name of the kind of a fault. -/
def name : Fault → String
  | outage kind _ => kind.name
  | api _ _ => "NodeApiError"
  | operation _ => "NodeOperationError"
  | unavailable _ => "CapabilityUnavailableError"
  | occupied _ => "HandoffSlotOccupiedError"
  | invalid _ => "ValidationError"
  | duplicate _ => "DuplicateNodeError"
  | frozen _ => "RegistryFrozenError"
  | planTable _ => "PlanLimitsLoadError"
  | usage _ => "ClickException"
  | document .syntactic => "YAMLError"
  | document .impossibleValue => "ValueError"
  | misuse cause _ => cause.name

/-- The message of a fault. -/
def message : Fault → String
  | outage .key text => Text.quoted text
  | outage _ text => text
  | api text _ => text
  | operation text => text
  | unavailable capability => "Capability not configured: " ++ capability
  | occupied producer =>
    "Generated text from node '" ++ producer.getD "None" ++ "' was never consumed"
  | invalid detail => detail.report
  | duplicate subType => "Node subtype already registered: " ++ subType
  | frozen subType => "Cannot register '" ++ subType ++ "': registry is frozen"
  | planTable cause => cause.message
  | usage text => text
  | document _ => ""
  | misuse _ text => text

/-- What is known about a fault besides its message. -/
def facts : Fault → Entries Value
  | api _ status => (status.map fun n => ("status_code", Value.int n)).toList
  | unavailable capability => [("capability", .str capability)]
  | occupied producer => (producer.map fun p => ("producer_node_id", Value.str p)).toList
  | duplicate subType => [("sub_type", .str subType)]
  | invalid detail => [("errors", .list (detail.issues.map Schema.Issue.value))]
  | planTable (.invalid _ detail) => [("errors", .list (detail.issues.map Schema.Issue.value))]
  | _ => []

/-- Names of passing faults. A fault that mentions one of them counts as passing. -/
def passingNames : List String :=
  ["SSLEOFError", "UNEXPECTED_EOF_WHILE_READING", "ConnectionResetError", "RemoteDisconnected",
    "ReadTimeout", "TimeoutError", "ConnectionError"]

def mentions (text name : String) : Bool := Text.occursIn name.toList text.toList

def mentionsPassing (text : String) : Bool := passingNames.any (mentions text)

/-- Whether a later call may succeed. An answer of a platform says so by its status: too many
requests, or a fault of the server. -/
def isTransient : Fault → Bool
  | api _ (some status) => status == 429 || decide (500 ≤ status)
  | api _ none => false
  | outage kind text => kind.isConnectionFault || mentionsPassing kind.name || mentionsPassing text
  | fault => mentionsPassing fault.name || mentionsPassing fault.message

end Fault

end Chatflow
