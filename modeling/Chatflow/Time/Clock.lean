import Chatflow.Decimal.Layout
import Chatflow.Time.Calendar

/-!
# The clock of a session

Time stands still while the program computes and passes only when it sleeps.
-/

namespace Chatflow.Time

/-- Seconds since 1970 at the start, the seconds slept since then, and each of the sleeps. -/
structure Clock where
  epoch : Float
  elapsed : Float
  sleeps : List Float

namespace Clock

def start (epoch : Float) : Clock := ⟨epoch, 0.0, []⟩

def sleep (c : Clock) (seconds : Float) : Clock :=
  { c with elapsed := c.elapsed + seconds, sleeps := c.sleeps ++ [seconds] }

/-- Seconds since 1970. -/
def wall (c : Clock) : Float := c.epoch + c.elapsed

/-- Whole milliseconds since 1970. -/
def milliseconds (c : Clock) : Int :=
  ((Decimal.Binary.ofFloat (c.wall * 1000.0)).truncate?).getD 0

/-- The time since an earlier reading of the elapsed seconds, in milliseconds. -/
def since (c : Clock) (started : Float) : Float := (c.elapsed - started) * 1000.0

/-- Whole seconds since 1970, and the microseconds after them. -/
def secondsAndMicros (c : Clock) : Int × Nat :=
  let whole := c.wall.floor
  let seconds := ((Decimal.Binary.ofFloat whole).truncate?).getD 0
  let micros := match Decimal.Binary.ofFloat ((c.wall - whole) * 1000000.0) with
    | .finite _ m p => Decimal.roundScaled m p 0
    | _ => 0
  if micros < 1000000 then (seconds, micros) else (seconds + 1, micros - 1000000)

/-- Date and time to the second. -/
def stamp (c : Clock) : String :=
  textOfSeconds "T" (((Decimal.Binary.ofFloat c.wall.floor).truncate?).getD 0)

/-- Date, time and zone, with microseconds if there are any. -/
def zonedStamp (c : Clock) : String :=
  let (seconds, micros) := c.secondsAndMicros
  textOfSeconds "T" seconds ++ (if micros = 0 then "" else "." ++ padded 6 micros) ++ "+00:00"

end Clock

end Chatflow.Time
