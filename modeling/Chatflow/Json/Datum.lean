import Chatflow.Json.Writer

/-!
# Data in JSON

The data that can be written as JSON, with their texts by code points, so that lone surrogates and
all characters have their place. They are written on one line with blanks, like any value.
-/

namespace Chatflow

namespace Json

/-- A datum; its integers have few enough digits to be written. -/
inductive Datum where
  | null
  | bool (b : Bool)
  | int (n : Int) (few : Value.hasFewDigits n = true)
  | float (x : Float)
  | str (text : List Text.Point)
  | list (items : List Datum)
  | obj (entries : List (List Text.Point × Datum))

/-- Data by name. -/
abbrev Members := Table (List Text.Point) Datum

namespace Datum

mutual

/-- The text of a datum on one line. -/
def write : Datum → String
  | .null => "null"
  | .bool b => if b then "true" else "false"
  | .int n _ => toString n
  | .float x => floatText x
  | .str text => quotePoints .spaced text
  | .list items => enclose .spaced 0 "[" "]" (writeItems items)
  | .obj entries => enclose .spaced 0 "\x7b" "\x7d" (writeEntries entries)

def writeItems : List Datum → List String
  | [] => []
  | d :: rest => write d :: writeItems rest

def writeEntries : List (List Text.Point × Datum) → List String
  | [] => []
  | (name, d) :: rest =>
    (quotePoints .spaced name ++ Style.spaced.keySeparator ++ write d) :: writeEntries rest

end

end Datum

end Json

namespace Value

open Json (Datum)

mutual

/-- The datum that a value is, if it can be written as JSON. -/
def datum? : Value → Option Datum
  | .null => some .null
  | .bool b => some (.bool b)
  | .int n => if few : hasFewDigits n = true then some (.int n few) else none
  | .float x => some (.float x)
  | .str s => some (.str (Text.points s))
  | .list items => (dataOf? items).map .list
  | .obj entries => (membersOf? entries).map .obj
  | .stamp _ => none
  | .keyed _ => none

def dataOf? : List Value → Option (List Datum)
  | [] => some []
  | v :: rest => do return (← datum? v) :: (← dataOf? rest)

def membersOf? : List (String × Value) → Option (List (List Text.Point × Datum))
  | [] => some []
  | (name, v) :: rest => do return (Text.points name, ← datum? v) :: (← membersOf? rest)

end

end Value

end Chatflow
