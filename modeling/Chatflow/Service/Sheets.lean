import Chatflow.Service.Messenger

/-!
# Spreadsheets

Rows appended to sheets. The first row of a sheet fixes its headers.
-/

namespace Chatflow.Service

structure Sheets where
  headers : Table (String × String) (List String)
  rows : Table (String × String) (List (List Value))
  script : Script SendFault

namespace Sheets

def empty : Sheets := ⟨[], [], .silent⟩

/-- The rows of a sheet. -/
def rowsOf (s : Sheets) (spreadsheet sheet : String) : List (List Value) :=
  (s.rows.get? (spreadsheet, sheet)).getD []

def store (s : Sheets) (spreadsheet sheet : String) (headers : List String) (row : List Value) :
    Sheets :=
  { s with
    headers := if s.headers.contains (spreadsheet, sheet) then s.headers
      else s.headers.put (spreadsheet, sheet) headers
    rows := s.rows.put (spreadsheet, sheet) (s.rowsOf spreadsheet sheet ++ [row]) }

/-- Appends a row. A rejected row is stored all the same. -/
def append (s : Sheets) (spreadsheet sheet : String) (headers : List String) (row : List Value) :
    Except Fault SendResult × Sheets :=
  let (event, script) := s.script.next
  let s := { s with script }
  match event with
  | some (.lost fault) => (.error fault, s)
  | some (.rejected error) => (.ok (.rejected error), s.store spreadsheet sheet headers row)
  | none => (.ok (.accepted none), s.store spreadsheet sheet headers row)

end Sheets

end Chatflow.Service
