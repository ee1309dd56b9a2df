import Chatflow.Value

/-!
# Issues

What is wrong with a value that was read as a record: one issue for each defect, with the way to
the place where it was found and with what was found there. The report on a value has all of them.
-/

namespace Chatflow.Schema

/-- One step from a value to one of its parts. -/
inductive Step where
  | entry (name : String)
  | item (index : Nat)
deriving Repr, DecidableEq

namespace Step

def text : Step → String
  | entry name => name
  | item index => toString index

def value : Step → Value
  | entry name => .str name
  | item index => .int index

end Step

inductive Defect where
  | missing
  | notText
  | shortText (least : Nat)
  | longText (most : Nat)
  | notFlag
  | unclearFlag
  | notInteger
  | unclearInteger
  | hugeInteger
  | fraction
  | notFinite
  | notNumber
  | unclearNumber
  | below (bound : Int)
  | notAbove (bound : Int)
  | notList
  | shortList (least actual : Nat)
  | longList (most actual : Nat)
  | notDictionary
  | notRecord (name : String)
  | notObject
  | notKey
  | notMember (choices : List String)
  | notLiteral (choices : List String)
  | rule (text : String)
  | forbidden
  | notJson
  | notDocument
deriving Repr, DecidableEq

namespace Defect

def kind : Defect → String
  | missing => "missing"
  | notText => "string_type"
  | shortText _ => "string_too_short"
  | longText _ => "string_too_long"
  | notFlag => "bool_type"
  | unclearFlag => "bool_parsing"
  | notInteger => "int_type"
  | unclearInteger => "int_parsing"
  | hugeInteger => "int_parsing_size"
  | fraction => "int_from_float"
  | notFinite => "finite_number"
  | notNumber => "float_type"
  | unclearNumber => "float_parsing"
  | below _ => "greater_than_equal"
  | notAbove _ => "greater_than"
  | notList => "list_type"
  | shortList _ _ => "too_short"
  | longList _ _ => "too_long"
  | notDictionary => "dict_type"
  | notRecord _ => "model_type"
  | notObject => "model_type"
  | notKey => "invalid_key"
  | notMember _ => "enum"
  | notLiteral _ => "literal_error"
  | rule _ => "value_error"
  | forbidden => "extra_forbidden"
  | notJson => "json_invalid"
  | notDocument => "json_type"

def counted (n : Nat) (noun : String) : String :=
  toString n ++ " " ++ noun ++ (if n = 1 then "" else "s")

/-- Texts between marks, the last two joined by a word. -/
def alternatives (choices : List String) : String :=
  let marked := choices.map fun c => "'" ++ c ++ "'"
  match marked.reverse with
  | last :: before :: rest =>
    ", ".intercalate (rest.reverse ++ [before ++ " or " ++ last])
  | _ => ", ".intercalate marked

def text : Defect → String
  | missing => "Field required"
  | notText => "Input should be a valid string"
  | shortText least => "String should have at least " ++ counted least "character"
  | longText most => "String should have at most " ++ counted most "character"
  | notFlag => "Input should be a valid boolean"
  | unclearFlag => "Input should be a valid boolean, unable to interpret input"
  | notInteger => "Input should be a valid integer"
  | unclearInteger => "Input should be a valid integer, unable to parse string as an integer"
  | hugeInteger => "Unable to parse input string as an integer, exceeded maximum size"
  | fraction => "Input should be a valid integer, got a number with a fractional part"
  | notFinite => "Input should be a finite number"
  | notNumber => "Input should be a valid number"
  | unclearNumber => "Input should be a valid number, unable to parse string as a number"
  | below bound => "Input should be greater than or equal to " ++ toString bound
  | notAbove bound => "Input should be greater than " ++ toString bound
  | notList => "Input should be a valid list"
  | shortList least actual =>
    "List should have at least " ++ counted least "item" ++ " after validation, not "
      ++ toString actual
  | longList most actual =>
    "List should have at most " ++ counted most "item" ++ " after validation, not "
      ++ toString actual
  | notDictionary => "Input should be a valid dictionary"
  | notRecord name => "Input should be a valid dictionary or instance of " ++ name
  | notObject => "Input should be an object"
  | notKey => "Keys should be strings"
  | notMember choices => "Input should be " ++ alternatives choices
  | notLiteral choices => "Input should be " ++ alternatives choices
  | rule text => "Value error, " ++ text
  | forbidden => "Extra inputs are not permitted"
  | notJson => "Invalid JSON"
  | notDocument => "JSON input should be string, bytes or bytearray"

end Defect

/-- A value as a report shows it. -/
structure Shown where
  text : String
  kind : String
deriving Repr, DecidableEq

namespace Shown

def ofValue (v : Value) : Shown := ⟨v.inner, v.kindName⟩

/-- The longest front of a text that fits into a number of bytes. -/
def front (bytes : Nat) : List Char → List Char
  | [] => []
  | c :: rest => if c.utf8Size ≤ bytes then c :: front (bytes - c.utf8Size) rest else []

/-- A text of more than fifty bytes is shown by its two ends. -/
def shortened (text : String) : String :=
  if text.utf8ByteSize ≤ 50 then text
  else
    String.ofList (front 25 text.toList) ++ "..."
      ++ String.ofList (front 24 text.toList.reverse).reverse

end Shown

/-- A defect, the way to its place, and the value at that place. For a missing entry this is the
record that lacks it. -/
structure Issue where
  defect : Defect
  path : List Step
  input : Shown
deriving Repr, DecidableEq

namespace Issue

/-- An issue of a part, seen from the whole. -/
def under (step : Step) (issue : Issue) : Issue := { issue with path := step :: issue.path }

/-- The place and the defect in one line. -/
def line (issue : Issue) : String :=
  let place := ".".intercalate (issue.path.map Step.text)
  (if place.isEmpty then "config" else place) ++ ": " ++ issue.defect.text

def value (issue : Issue) : Value :=
  .obj [("type", .str issue.defect.kind), ("loc", .list (issue.path.map Step.value)),
    ("msg", .str issue.defect.text)]

/-- Where more is said about each kind of defect. -/
def manual : String := "https://errors.pydantic.dev/2.14/v/"

/-- A step in a report, where a name with a point stands in marks of its own. -/
def stepText (step : Step) : String :=
  if step.text.toList.contains '.' then "`" ++ step.text ++ "`" else step.text

/-- The issue in a report. A defect of the whole value has no line for its place. -/
def report (issue : Issue) : String :=
  let place := ".".intercalate (issue.path.map stepText)
  (if issue.path.isEmpty then "" else place ++ "\n") ++ "  " ++ issue.defect.text
    ++ " [type=" ++ issue.defect.kind ++ ", input_value=" ++ Shown.shortened issue.input.text
    ++ ", input_type=" ++ issue.input.kind ++ "]\n    For further information visit " ++ manual
    ++ issue.defect.kind

end Issue

/-- All issues of a value that is no record of the named kind. -/
structure Invalid where
  record : String
  issues : List Issue
deriving Repr, DecidableEq

namespace Invalid

/-- How many issues there are. -/
def summary (e : Invalid) : String :=
  Defect.counted e.issues.length "validation error" ++ " for " ++ e.record

/-- The number of the issues, and then each of them. -/
def report (e : Invalid) : String :=
  "\n".intercalate (e.summary :: e.issues.map Issue.report)

/-- The first issue in one line. -/
def firstLine (e : Invalid) : String :=
  match e.issues with
  | issue :: _ => issue.line
  | [] => ""

/-- The text of the first defect. -/
def firstText (e : Invalid) : String :=
  match e.issues with
  | issue :: _ => issue.defect.text
  | [] => ""

end Invalid

end Chatflow.Schema
