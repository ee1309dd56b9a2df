import Chatflow.Fault
import Chatflow.Schema.Record
import Chatflow.Text.Case
import Chatflow.Yaml.Document

/-!
# Plans

What a flow may have on each plan: subtypes, a number of nodes and a depth. The table of plans is
read from a file, and a standard one is built in.
-/

namespace Chatflow

open Schema (Field)

structure PlanLimit where
  maxNodes : Int
  maxDepth : Int
  allowed : List String
deriving Repr, DecidableEq

namespace PlanLimit

/-- The normal form of the name of a plan or a subtype. -/
def normalName (v : Value) : String := Text.upper (Text.strip v.display)

/-- The names in a list, in their normal form. -/
def readNames : Schema.Reading (List String)
  | .list items => .ok (items.map normalName)
  | v => .defect v .notList

def read (v : Value) : Schema.Checked PlanLimit :=
  (Schema.plainRecord "PlanLimit" v).andThen fun es =>
    PlanLimit.mk
      <$> (Field.named "max_nodes").required Schema.positive es
      <*> (Field.named "max_depth").required Schema.positive es
      <*> (Field.named "allowed_subtypes").orDefault [] readNames es

def value (l : PlanLimit) : Value :=
  .obj [("max_nodes", .int l.maxNodes), ("max_depth", .int l.maxDepth),
    ("allowed_subtypes", .texts l.allowed)]

/-- The name that stands for all subtypes. -/
def everySubType : String := "*"

def allows (l : PlanLimit) (subType : String) : Bool :=
  l.allowed.contains everySubType || l.allowed.contains (Text.upper subType)

end PlanLimit

/-- The limits of each plan, in the order of their declaration. -/
structure PlanTable where
  plans : Entries PlanLimit
deriving Repr, DecidableEq

namespace PlanTable

/-- Limits by the normal form of the plans' names. Of two plans of one name the later counts. -/
def normalEntries : Value → Option (Entries Value)
  | .obj entries =>
    some (Table.ofPairs (entries.map fun e => (PlanLimit.normalName (.str e.1), e.2)))
  | .keyed entries => some (Table.ofPairs (entries.map fun e => (PlanLimit.normalName e.1, e.2)))
  | _ => none

/-- The limits of each plan, with the issues of all of them. -/
def readLimits : Entries Value → Schema.Checked (Entries PlanLimit)
  | [] => .ok []
  | (name, v) :: rest =>
    (fun limit more => (name, limit) :: more)
      <$> (PlanLimit.read v).under (.entry name) <*> readLimits rest

def readPlans (v : Value) : Schema.Checked (Entries PlanLimit) :=
  match normalEntries v with
  | some entries => readLimits entries
  | none => .defect v .notDictionary

def read (v : Value) : Schema.Checked PlanTable :=
  (Schema.plainRecord "PlanLimits" v).andThen fun es =>
    PlanTable.mk <$> (Field.named "plans").orDefault [] readPlans es

def read? (v : Value) : Except Schema.Invalid PlanTable := (read v).named "PlanLimits"

def names (t : PlanTable) : List String := t.plans.names

/-- The limits of a plan, by its name in any case. -/
def get? (t : PlanTable) (plan : String) : Option PlanLimit :=
  if plan.isEmpty then none else t.plans.get? (PlanLimit.normalName (.str plan))

/-! ### The file of plans -/

/-- Whether a document has plans. -/
def hasPlans : Value → Bool
  | .obj entries => Table.contains entries "plans"
  | .keyed entries => entries.any fun e => e.1.text? == some "plans"
  | _ => false

/-- Reads the text of a file of plans. -/
def ofText? (path text : String) : Except Fault PlanTable :=
  match Yaml.read text with
  | .error .syntactic => .error (.planTable (.unreadable path))
  | .error cause => .error (.document cause)
  | .ok document =>
    if hasPlans document then
      (read? document).mapError fun detail => .planTable (.invalid path detail)
    else .error (.planTable (.withoutPlans path))

/-! ### The standard table -/

def eventSubTypes : List String := ["DM", "COMMENT", "STORY_REPLY", "MENTION"]

/-- What every plan allows. -/
def basicSubTypes : List String :=
  ["MESSAGE", "REPLY_COMMENT", "REPLY_MENTION", "DELAY", "TYPING_ON", "TYPING_OFF", "MARK_SEEN"]

/-- How the standard table writes the two outcomes of a condition. The nodes that branch on an
outcome have other subtypes, which are only on the plan that allows all. -/
def outcomeNames : List String := ["TRUE", "FALSE"]

def freeSubTypes : List String :=
  eventSubTypes ++ ["KEYWORDS"] ++ outcomeNames ++ ["IS_FOLLOWER"] ++ basicSubTypes

def proSubTypes : List String :=
  eventSubTypes ++ ["KEYWORDS"] ++ outcomeNames ++ ["IS_FOLLOWER", "HAS_TAG"] ++ basicSubTypes
    ++ ["SMARTAI", "CAROUSEL", "BUTTON_TEMPLATE", "QUICK_REPLIES", "PRODUCT_TEMPLATE",
      "ICE_BREAKERS", "PERSISTENT_MENU", "LOG_TO_SHEETS"]

def standard : PlanTable :=
  ⟨[("FREE", ⟨7, 7, freeSubTypes⟩), ("PRO", ⟨17, 17, proSubTypes⟩),
    ("ENTERPRISE", ⟨30, 30, [PlanLimit.everySubType]⟩)]⟩

/-- The normal form of a path: no empty step and none that stays in place. -/
def normalPath (path : String) : String :=
  let steps := (path.splitOn "/").filter fun step => !step.isEmpty && step != "."
  let root := if path.startsWith "///" then "/"
    else if path.startsWith "//" then "//"
    else if path.startsWith "/" then "/" else ""
  let text := root ++ "/".intercalate steps
  if text.isEmpty then "." else text

/-- The table in a file. -/
def ofFile? (files : String → Option String) (path : String) : Except Fault PlanTable :=
  let path := normalPath path
  match files path with
  | some text => ofText? path text
  | none => .error (.planTable (.absent path))

/-- The table in the configured file; without one, the standard table. -/
def configured? (files : String → Option String) (path : Option String) :
    Except Fault PlanTable :=
  match path with
  | some path => ofFile? files path
  | none => .ok standard

end PlanTable

end Chatflow
