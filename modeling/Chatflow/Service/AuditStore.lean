import Chatflow.Fault
import Chatflow.Service.Script

/-!
# Audit records

The records of runs by run.
-/

namespace Chatflow.Service

structure AuditStore where
  records : Entries Value
  script : Script Fault

namespace AuditStore

def empty : AuditStore := ⟨[], .silent⟩

/-- Stores a record under the run that it names. -/
def record (s : AuditStore) (entry : Entries Value) : Except Fault Unit × AuditStore :=
  let (event, script) := s.script.next
  let s := { s with script }
  match event with
  | some fault => (.error fault, s)
  | none =>
    match entry.get? "run_id" with
    | some run => (.ok (), { s with records := s.records.put run.display (.obj entry) })
    | none => (.error (.misuse .entry "'run_id'"), s)

def find? (s : AuditStore) (run : String) : Option Value := s.records.get? run

end AuditStore

end Chatflow.Service
