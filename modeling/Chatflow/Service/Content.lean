import Chatflow.Fault
import Chatflow.Service.Script

/-!
# Content queries

Answers of the platform about followers, hashtags and profiles, from fixed data. Every lookup is
counted, also one that fails.
-/

namespace Chatflow.Service

structure Content where
  followers : List String
  hashtags : Entries (List String)
  profiles : Entries Value
  outage : Option Fault
  script : Script Fault
  lookups : Nat

namespace Content

def ofFollowers (followers : List String) : Content :=
  ⟨followers, [], [], none, .silent, 0⟩

/-- Counts a lookup. A standing outage comes before the script. -/
def lookUp {α : Type} (c : Content) (answer : α) : Except Fault α × Content :=
  let c := { c with lookups := c.lookups + 1 }
  match c.outage with
  | some fault => (.error fault, c)
  | none =>
    let (event, script) := c.script.next
    let c := { c with script }
    match event with
    | some fault => (.error fault, c)
    | none => (.ok answer, c)

def isFollower (c : Content) (user : String) : Except Fault Bool × Content :=
  c.lookUp (c.followers.contains user)

def mediaHashtags (c : Content) (media : String) : Except Fault (List String) × Content :=
  c.lookUp ((c.hashtags.get? media).getD [])

def profile (c : Content) (user : String) : Except Fault Value × Content :=
  c.lookUp ((c.profiles.get? user).getD (.obj []))

end Content

end Chatflow.Service
