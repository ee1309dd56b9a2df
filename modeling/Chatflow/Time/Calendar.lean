/-!
# The civil calendar

Days are counted from 1970-01-01 in the proleptic Gregorian calendar.
-/

namespace Chatflow.Time

structure Date where
  year : Int
  month : Nat
  day : Nat
deriving Repr, DecidableEq

def isLeapYear (year : Int) : Bool := year % 4 = 0 && (year % 100 ≠ 0 || year % 400 = 0)

def daysInMonth (year : Int) (month : Nat) : Nat :=
  if month = 2 then if isLeapYear year then 29 else 28
  else if month = 4 ∨ month = 6 ∨ month = 9 ∨ month = 11 then 30
  else 31

def Date.isValid (d : Date) : Bool :=
  1 ≤ d.year && d.year ≤ 9999 && 1 ≤ d.month && d.month ≤ 12
    && 1 ≤ d.day && d.day ≤ daysInMonth d.year d.month

/-- The date a number of days after 1970-01-01. Eras of 400 years begin on the first of March. -/
def Date.ofDays (days : Int) : Date :=
  let z := days + 719468
  let era := z.fdiv 146097
  let doe := (z - era * 146097).toNat
  let yoe := (doe - doe / 1460 + doe / 36524 - doe / 146096) / 365
  let doy := doe - (365 * yoe + yoe / 4 - yoe / 100)
  let mp := (5 * doy + 2) / 153
  let day := doy - (153 * mp + 2) / 5 + 1
  let month := if mp < 10 then mp + 3 else mp - 9
  let year : Int := yoe + era * 400
  ⟨if month ≤ 2 then year + 1 else year, month, day⟩

/-- A number filled with zeros up to a width. -/
def padded (width : Nat) (n : Nat) : String :=
  let ds := Nat.toDigits 10 n
  String.ofList (List.replicate (width - ds.length) '0' ++ ds)

def Date.text (d : Date) : String :=
  padded 4 d.year.toNat ++ "-" ++ padded 2 d.month ++ "-" ++ padded 2 d.day

/-- A time of day as hours, minutes and seconds. -/
def clockText (seconds : Nat) : String :=
  padded 2 (seconds / 3600) ++ ":" ++ padded 2 (seconds / 60 % 60) ++ ":" ++ padded 2 (seconds % 60)

/-- Seconds since 1970-01-01 as a date and a time with a mark between them. -/
def textOfSeconds (separator : String) (seconds : Int) : String :=
  (Date.ofDays (seconds.fdiv 86400)).text ++ separator ++ clockText (seconds.fmod 86400).toNat

end Chatflow.Time
