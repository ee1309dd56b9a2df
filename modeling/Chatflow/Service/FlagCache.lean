import Chatflow.Fault
import Chatflow.Service.Script

/-!
# Last known values

The flags that conditions fall back to when a live lookup fails.
-/

namespace Chatflow.Service

structure FlagCache where
  flags : Entries Bool
  onRead : Script Fault
  onWrite : Script Fault

namespace FlagCache

def ofEntries (flags : Entries Bool) : FlagCache := ⟨flags, .silent, .silent⟩

def read (c : FlagCache) (key : String) : Except Fault (Option Bool) × FlagCache :=
  let (event, onRead) := c.onRead.next
  let c := { c with onRead }
  match event with
  | some fault => (.error fault, c)
  | none => (.ok (c.flags.get? key), c)

def write (c : FlagCache) (key : String) (flag : Bool) : Except Fault Unit × FlagCache :=
  let (event, onWrite) := c.onWrite.next
  let c := { c with onWrite }
  match event with
  | some fault => (.error fault, c)
  | none => (.ok (), { c with flags := c.flags.put key flag })

end FlagCache

end Chatflow.Service
