import Chatflow.Table
import Chatflow.Text.Blank

/-!
# Environment files

Lines of names and values. A value may stand in quotation marks; after an unquoted one a comment may
follow. Lines without a name or without a value say nothing.
-/

namespace Chatflow.Settings

/-- The text up to an unescaped mark; a backslash takes the next character as it is. -/
def untilMark (mark : Char) : List Char → Option (List Char)
  | [] => none
  | '\\' :: c :: rest =>
    (untilMark mark rest).map fun more =>
      if c = mark ∨ c = '\\' then c :: more else '\\' :: c :: more
  | c :: rest => if c = mark then some [] else (untilMark mark rest).map (c :: ·)

/-- A value without its comment, which a blank and `#` begin. -/
def dropComment : List Char → List Char
  | [] => []
  | c :: '#' :: rest => if Text.isBlank c then [] else c :: dropComment ('#' :: rest)
  | c :: rest => c :: dropComment rest

/-- The value after the equals sign. -/
def valueText (cs : List Char) : String :=
  let plain := String.ofList (Text.trimList Text.isBlank (dropComment cs))
  match Text.trimList Text.isBlank cs with
  | '\'' :: rest => ((untilMark '\'' rest).map String.ofList).getD plain
  | '"' :: rest => ((untilMark '"' rest).map String.ofList).getD plain
  | '#' :: _ => ""
  | _ => plain

/-- The name and the value on a line. -/
def assignment? (line : String) : Option (String × String) :=
  let cs := Text.trimList Text.isBlank line.toList
  let cs := if "export ".toList.isPrefixOf cs then cs.drop 7 else cs
  match cs.span (· ≠ '=') with
  | (name, '=' :: rest) =>
    let name := Text.trimList Text.isBlank name
    if name = [] ∨ name.head? = some '#' then none
    else some (String.ofList name, valueText rest)
  | _ => none

def entriesOfFile (text : String) : List (String × String) :=
  (text.splitOn "\n").filterMap assignment?

end Chatflow.Settings
