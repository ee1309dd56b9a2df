import Chatflow.Json.Reader
import Chatflow.Time.Calendar

/-!
# Untyped scalars

An unquoted scalar is a boolean, a number, a date or nothing when it is written as one in YAML 1.1,
and a text otherwise. `yes`, `no`, `on` and `off` are booleans; a number that begins with `0` is
octal; digits between colons are sexagesimal; a float has a point, and its exponent a sign.
-/

namespace Chatflow.Yaml

/-- Why a document cannot be read: it is no well-formed document, or a scalar has the form of a
value that does not exist or is too long to be read. -/
inductive Malformed where
  | syntactic
  | impossibleValue
deriving Repr, DecidableEq

abbrev Result := Except Malformed

def nullWords : List String := ["", "~", "null", "Null", "NULL"]

def trueWords : List String :=
  ["yes", "Yes", "YES", "true", "True", "TRUE", "on", "On", "ON"]

def falseWords : List String :=
  ["no", "No", "NO", "false", "False", "FALSE", "off", "Off", "OFF"]

def splitSign : List Char → Bool × List Char
  | '-' :: rest => (true, rest)
  | '+' :: rest => (false, rest)
  | cs => (false, cs)

def withoutUnderscores (cs : List Char) : List Char := cs.filter (· ≠ '_')

def signed (negative : Bool) (n : Nat) : Int := if negative then -(n : Int) else n

/-- The number that digits stand for in a base up to ten. -/
def digitsIn (base : Nat) (cs : List Char) : Nat :=
  cs.foldl (fun acc c => acc * base + (c.toNat - 48)) 0

/-- A text cut at each occurrence of a character. -/
def splitAt (sep : Char) : List Char → List (List Char)
  | [] => [[]]
  | c :: rest =>
    if c = sep then [] :: splitAt sep rest
    else match splitAt sep rest with
      | [] => [[c]]
      | part :: parts => (c :: part) :: parts

/-- One or two digits below sixty. -/
def isSexagesimalDigit : List Char → Bool
  | [a] => Json.isDigit a
  | [a, b] => '0' ≤ a && a ≤ '5' && Json.isDigit b
  | _ => false

def isDecimal (cs : List Char) : Bool := cs.all fun c => Json.isDigit c || c = '_'

/-- Digits and underscores that begin with a digit from one to nine. -/
def isPlainDecimal : List Char → Bool
  | c :: rest => '1' ≤ c && c ≤ '9' && isDecimal rest
  | [] => false

def sexagesimal (parts : List (List Char)) : Nat :=
  parts.foldl (fun acc part => acc * 60 + digitsIn 10 part) 0

/-- An integer in one of its five forms. What is written in decimal digits has a value up to a
number of digits; in the other bases there is no such bound. -/
def integer? (cs : List Char) : Option (Result Value) :=
  let (negative, body) := splitSign cs
  let value (n : Nat) : Option (Result Value) := some (.ok (.int (signed negative n)))
  let bounded (digits : List Char) (n : Nat) : Option (Result Value) :=
    if Value.mostDigits < digits.length then some (.error .impossibleValue) else value n
  match body with
  | ['0'] => value 0
  | '0' :: 'b' :: digits =>
    if digits ≠ [] ∧ digits.all (fun c => c = '0' || c = '1' || c = '_') then
      let digits := withoutUnderscores digits
      if digits = [] then some (.error .impossibleValue) else value (digitsIn 2 digits)
    else none
  | '0' :: 'x' :: digits =>
    if digits ≠ [] ∧ digits.all (fun c => (Json.hexValue? c).isSome || c = '_') then
      match withoutUnderscores digits with
      | [] => some (.error .impossibleValue)
      | digits => (Json.hexNumber? digits).bind value
    else none
  | '0' :: digits =>
    if digits.all (fun c => ('0' ≤ c && c ≤ '7') || c = '_') then
      value (digitsIn 8 (withoutUnderscores digits))
    else none
  | _ =>
    if isPlainDecimal body then
      bounded (withoutUnderscores body) (digitsIn 10 (withoutUnderscores body))
    else
      match splitAt ':' body with
      | first :: rest =>
        if rest ≠ [] ∧ isPlainDecimal first ∧ rest.all isSexagesimalDigit then
          bounded (withoutUnderscores first) (sexagesimal (withoutUnderscores first :: rest))
        else none
      | [] => none

/-- A signed exponent or nothing. -/
def floatExponent? : List Char → Option Int
  | [] => some 0
  | e :: sign :: digits =>
    if (e = 'e' ∨ e = 'E') ∧ (sign = '+' ∨ sign = '-') ∧ digits ≠ [] ∧ digits.all Json.isDigit then
      some (signed (sign = '-') (digitsIn 10 digits))
    else none
  | _ => none

def floatOf (negative : Bool) (digits : List Char) (exponent : Int) : Value :=
  let x := Decimal.toFloat (digitsIn 10 digits) exponent
  .float (if negative then -x else x)

/-- A float with digits before its point, or sexagesimal digits. -/
def pointFloat? (negative : Bool) (whole after : List Char) : Option Value :=
  let fraction := after.takeWhile fun c => Json.isDigit c || c = '_'
  let rest := after.drop fraction.length
  let digits := withoutUnderscores fraction
  match splitAt ':' whole with
  | [first] =>
    if first.head?.any Json.isDigit ∧ isDecimal first then
      (floatExponent? rest).map fun e =>
        floatOf negative (withoutUnderscores first ++ digits) (e - digits.length)
    else none
  | first :: parts =>
    if first.head?.any Json.isDigit ∧ isDecimal first ∧ parts.all isSexagesimalDigit ∧
      rest = [] then
      let n := sexagesimal (withoutUnderscores first :: parts)
      some (floatOf negative (Nat.toDigits 10 n ++ digits) (-(digits.length : Int)))
    else none
  | [] => none

/-- A float in one of its forms. A number without digits before its point takes no sign. -/
def float? (cs : List Char) : Option Value :=
  let (negative, body) := splitSign cs
  let word := String.ofList body
  if word = ".inf" ∨ word = ".Inf" ∨ word = ".INF" then
    some (.float (if negative then -1.0 / 0.0 else 1.0 / 0.0))
  else if cs = body ∧ (word = ".nan" ∨ word = ".NaN" ∨ word = ".NAN") then
    some (.float (0.0 / 0.0))
  else
    match body.span (· ≠ '.') with
    | ([], '.' :: after) =>
      if cs = body ∧ after.head?.any Json.isDigit then
        let fraction := after.takeWhile fun c => Json.isDigit c || c = '_'
        let digits := withoutUnderscores fraction
        (floatExponent? (after.drop fraction.length)).map fun e =>
          floatOf false digits (e - digits.length)
      else none
    | (whole, '.' :: after) => pointFloat? negative whole after
    | _ => none

/-- A number of one digit or two. -/
def shortNumber? (cs : List Char) : Option Nat :=
  if (cs.length = 1 ∨ cs.length = 2) ∧ cs.all Json.isDigit then some (digitsIn 10 cs) else none

def exactNumber? (width : Nat) (cs : List Char) : Option Nat :=
  if cs.length = width ∧ cs.all Json.isDigit then some (digitsIn 10 cs) else none

/-- Hours with optional minutes after a colon. -/
def hoursAndMinutes? (cs : List Char) : Option (Nat × Nat) :=
  match splitAt ':' cs with
  | [h] => (shortNumber? h).map (·, 0)
  | [h, m] => do
    let hours ← shortNumber? h
    let minutes ← exactNumber? 2 m
    return (hours, minutes)
  | _ => none

/-- The offset of a time zone as it is shown after a time. There is no offset of a whole day, and
none below zero of no minutes. -/
def offsetText (sign : Char) (minutes : Nat) : Result String :=
  if 24 * 60 ≤ minutes then .error .impossibleValue
  else
    .ok (String.ofList [if minutes = 0 then '+' else sign] ++ Time.padded 2 (minutes / 60) ++ ":"
      ++ Time.padded 2 (minutes % 60))

/-- The offset at the end of a timestamp, which may be left out. -/
def zoneText? : List Char → Option (Result String)
  | [] => some (.ok "")
  | ['Z'] => some (.ok "+00:00")
  | sign :: rest =>
    if sign = '+' ∨ sign = '-' then
      (hoursAndMinutes? rest).map fun (hours, minutes) => offsetText sign (hours * 60 + minutes)
    else none

/-- A date, or a date and a time with an optional fraction and zone. -/
def timestamp? (cs : List Char) : Option (Result Value) := do
  match splitAt '-' (cs.take 10) with
  | [y, m, d] =>
    if cs.length = 10 then
      match exactNumber? 4 y, exactNumber? 2 m, exactNumber? 2 d with
      | some year, some month, some day =>
        let date : Time.Date := ⟨year, month, day⟩
        return if date.isValid then .ok (.stamp date.text) else .error .impossibleValue
      | _, _, _ => pure ()
  | _ => pure ()
  let year ← exactNumber? 4 (cs.take 4)
  let '-' :: rest := cs.drop 4 | none
  let (m, rest) := rest.span Json.isDigit
  let month ← shortNumber? m
  let '-' :: rest := rest | none
  let (d, rest) := rest.span Json.isDigit
  let day ← shortNumber? d
  let rest ← match rest with
    | 'T' :: more => some more
    | 't' :: more => some more
    | ' ' :: more => some (more.dropWhile fun c => c = ' ' || c = '\t')
    | '\t' :: more => some (more.dropWhile fun c => c = ' ' || c = '\t')
    | _ => none
  let (h, rest) := rest.span Json.isDigit
  let hour ← shortNumber? h
  let ':' :: rest := rest | none
  let minute ← exactNumber? 2 (rest.take 2)
  let ':' :: rest := rest.drop 2 | none
  let second ← exactNumber? 2 (rest.take 2)
  let (fraction, rest) := match rest.drop 2 with
    | '.' :: more => more.span Json.isDigit
    | more => ([], more)
  let zone ← zoneText? (rest.dropWhile fun c => c = ' ' || c = '\t')
  let date : Time.Date := ⟨year, month, day⟩
  if !date.isValid || 24 ≤ hour || 60 ≤ minute || 60 ≤ second then
    return .error .impossibleValue
  let micros := digitsIn 10 ((fraction ++ List.replicate 6 '0').take 6)
  let time := Time.clockText (hour * 3600 + minute * 60 + second)
  return zone.map fun offset => .stamp (date.text ++ " " ++ time
    ++ (if micros = 0 then "" else "." ++ Time.padded 6 micros) ++ offset)

/-- The value of an unquoted scalar. -/
def resolve (text : String) : Result Value :=
  if text ∈ nullWords then .ok .null
  else if text ∈ trueWords then .ok (.bool true)
  else if text ∈ falseWords then .ok (.bool false)
  else if text = "=" ∨ text = "<<" then .error .syntactic
  else
    match float? text.toList with
    | some v => .ok v
    | none =>
      match integer? text.toList with
      | some v => v
      | none =>
        match timestamp? text.toList with
        | some v => v
        | none => .ok (.str text)

end Chatflow.Yaml
