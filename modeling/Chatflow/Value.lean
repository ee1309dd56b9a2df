import Chatflow.Decimal.Layout
import Chatflow.Table
import Chatflow.Text.Quoted

/-!
# Dynamic values

The data that flows carry: settings of nodes, payloads of items, details of log entries. Besides
the values of JSON there are two that only a YAML document can hold, dates and mappings whose keys
are not all texts.
-/

namespace Chatflow

inductive Value where
  | null
  | bool (b : Bool)
  | int (n : Int)
  | float (x : Float)
  | str (s : String)
  | list (items : List Value)
  | obj (entries : List (String × Value))
  | stamp (text : String)
  | keyed (entries : List (Value × Value))
deriving Inhabited

namespace Value

/-- The most digits of an integer that is read from its decimal digits or written in them. -/
def mostDigits : Nat := 4300

def hasFewDigits (n : Int) : Bool := decide ((Nat.toDigits 10 n.natAbs).length ≤ mostDigits)

/-- A text or nothing. -/
def ofText? : Option String → Value
  | some s => str s
  | none => null

def ofInt? : Option Int → Value
  | some n => int n
  | none => null

def texts (ss : List String) : Value := list (ss.map str)

def text? : Value → Option String
  | str s => some s
  | _ => none

def entries? : Value → Option (Entries Value)
  | obj es => some es
  | _ => none

/-- A field of an object; nothing for any other value. -/
def field? (v : Value) (name : String) : Option Value := v.entries?.bind (·.get? name)

/-- The members of a value: the items of a list, the keys of an object, the characters of a text.
No other value has members. -/
def members? : Value → Option (List Value)
  | list items => some items
  | obj entries => some (entries.map fun e => str e.1)
  | keyed entries => some (entries.map (·.1))
  | str s => some (s.toList.map fun c => str c.toString)
  | _ => none

/-- Zero, empty and absent values count as false. -/
def truthy : Value → Bool
  | null => false
  | bool b => b
  | int n => n != 0
  | float x => x != 0.0
  | str s => !s.isEmpty
  | list items => !items.isEmpty
  | obj entries => !entries.isEmpty
  | stamp _ => true
  | keyed entries => !entries.isEmpty

/-- The value itself if it counts as true, else another one. -/
def orElse (v other : Value) : Value := if v.truthy then v else other

/-- The name of the kind of a value, as messages give it. -/
def kindName : Value → String
  | null => "NoneType"
  | bool _ => "bool"
  | int _ => "int"
  | float _ => "float"
  | str _ => "str"
  | list _ => "list"
  | obj _ => "dict"
  | stamp _ => "date"
  | keyed _ => "dict"

mutual

/-- The text of a value inside another one: texts are quoted. -/
def inner : Value → String
  | null => "None"
  | bool b => if b then "True" else "False"
  | int n => toString n
  | float x => Decimal.text x
  | str s => Text.quoted s
  | list items => "[" ++ ", ".intercalate (innerItems items) ++ "]"
  | obj entries => "\x7b" ++ ", ".intercalate (innerEntries entries) ++ "\x7d"
  | stamp text => text
  | keyed entries => "\x7b" ++ ", ".intercalate (innerPairs entries) ++ "\x7d"

def innerItems : List Value → List String
  | [] => []
  | v :: rest => v.inner :: innerItems rest

def innerEntries : List (String × Value) → List String
  | [] => []
  | (k, v) :: rest => (Text.quoted k ++ ": " ++ v.inner) :: innerEntries rest

def innerPairs : List (Value × Value) → List String
  | [] => []
  | (k, v) :: rest => (k.inner ++ ": " ++ v.inner) :: innerPairs rest

end

/-- The text of a value: a text stands for itself. -/
def display : Value → String
  | str s => s
  | v => v.inner

end Value

end Chatflow
