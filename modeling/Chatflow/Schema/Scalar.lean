import Chatflow.Json.Reader
import Chatflow.Schema.Checked
import Chatflow.Text.Blank

/-!
# Scalars

Readings of texts, flags and numbers. Texts are only read from texts; flags and numbers are also
read from each other and from texts that are written like them.
-/

namespace Chatflow.Schema

def text : Reading String
  | .str s => .ok s
  | v => .defect v .notText

/-- A text with bounds on its length. -/
def textWithin (least : Nat) (most : Option Nat) (v : Value) : Checked String :=
  (text v).andThen fun s =>
    if s.length < least then .defect v (.shortText least)
    else match most with
      | some n => if n < s.length then .defect v (.longText n) else .ok s
      | none => .ok s

def optional {α : Type} (reading : Reading α) : Reading (Option α)
  | .null => .ok none
  | v => (reading v).map some

def trueTexts : List String := ["1", "on", "t", "true", "y", "yes"]

def falseTexts : List String := ["0", "off", "f", "false", "n", "no"]

/-- The flag for which a value stands that is an integer. -/
def flagOfInt (v : Value) (n : Int) : Checked Bool :=
  if n = 0 then .ok false else if n = 1 then .ok true else .defect v .unclearFlag

def flag : Reading Bool
  | .bool b => .ok b
  | .int n => flagOfInt (.int n) n
  | .float x =>
    match (Decimal.Binary.ofFloat x).toInt? with
    | some n => flagOfInt (.float x) n
    | none => .defect (.float x) .notFlag
  | .str s =>
    let word := String.ofList (s.toList.map Char.toLower)
    if word ∈ trueTexts then .ok true
    else if word ∈ falseTexts then .ok false
    else .defect (.str s) .unclearFlag
  | v => .defect v .notFlag

/-- Digits with single underscores between them. -/
def digitGroups? : List Char → Option (List Char)
  | [] => none
  | [c] => if Json.isDigit c then some [c] else none
  | c :: '_' :: rest => if Json.isDigit c then (digitGroups? rest).map (c :: ·) else none
  | c :: rest => if Json.isDigit c then (digitGroups? rest).map (c :: ·) else none

def splitSign : List Char → Bool × List Char
  | '-' :: rest => (true, rest)
  | '+' :: rest => (false, rest)
  | cs => (false, cs)

/-- The integer that a text writes: blanks around it, a sign, digits, and a fraction of zeros. -/
def integerOfText? (s : String) : Option Int :=
  let (negative, body) := splitSign (Text.trimList Text.isWhiteSpace s.toList)
  let whole := body.takeWhile (· ≠ '.')
  if (body.drop (whole.length + 1)).all (· = '0') then
    (digitGroups? whole).map fun ds =>
      let n : Int := Json.digitsValue ds
      if negative then -n else n
  else none

/-- Texts longer than this are not read as integers. -/
def longestInteger : Nat := 4300

def integer : Reading Int
  | .int n => .ok n
  | .bool b => .ok (if b then 1 else 0)
  | .float x =>
    match (Decimal.Binary.ofFloat x).toInt? with
    | some n => .ok n
    | none => .defect (.float x) (if x.isNaN || x.isInf then .notFinite else .fraction)
  | .str s =>
    if longestInteger < s.length then .defect (.str s) .hugeInteger
    else match integerOfText? s with
      | some n => .ok n
      | none => .defect (.str s) .unclearInteger
  | v => .defect v .notInteger

/-- An unsigned decimal with at least one digit and an optional exponent. -/
def decimalOfText? (cs : List Char) : Option Float :=
  let whole := cs.takeWhile Json.isDigit
  let afterWhole := cs.drop whole.length
  let (fraction, rest) := match afterWhole with
    | '.' :: more => (more.takeWhile Json.isDigit, more.dropWhile Json.isDigit)
    | _ => ([], afterWhole)
  if whole = [] ∧ fraction = [] then none
  else
    match Json.exponent? rest with
    | (none, []) =>
      some (Decimal.toFloat (Json.digitsValue (whole ++ fraction)) (-(fraction.length : Int)))
    | (some e, []) =>
      some (Decimal.toFloat (Json.digitsValue (whole ++ fraction)) (e - fraction.length))
    | _ => none

def plainNumberOfText? (cs : List Char) : Option Float :=
  let (negative, body) := splitSign cs
  let word := String.ofList (body.map Char.toLower)
  let magnitude? :=
    if word = "inf" ∨ word = "infinity" then some (1.0 / 0.0)
    else if word = "nan" then some (0.0 / 0.0)
    else decimalOfText? body
  magnitude?.map fun x => if negative then -x else x

/-- Whether underscores stand alone and not at an end. -/
def underscoresInside : List Char → Bool
  | [] => true
  | '_' :: _ => false
  | [_] => true
  | _ :: '_' :: rest => !rest.isEmpty && underscoresInside rest
  | _ :: rest => underscoresInside rest

/-- The number that a text writes, with blanks around it and underscores inside. -/
def numberOfText? (s : String) : Option Float :=
  let cs := Text.trimList Text.isWhiteSpace s.toList
  match plainNumberOfText? cs with
  | some x => some x
  | none =>
    if cs.contains '_' && underscoresInside cs then plainNumberOfText? (cs.filter (· ≠ '_'))
    else none

def number : Reading Float
  | .float x => .ok x
  | .bool b => .ok (if b then 1.0 else 0.0)
  | .int n =>
    let x := Float.ofInt n
    if x.isInf then .defect (.int n) .notNumber else .ok x
  | .str s =>
    match numberOfText? s with
    | some x => .ok x
    | none => .defect (.str s) .unclearNumber
  | v => .defect v .notNumber

/-- A number that is not below zero. -/
def nonNegative (v : Value) : Checked Float :=
  (number v).andThen fun x => if x < 0.0 then .defect v (.below 0) else .ok x

/-- An integer above zero. -/
def positive (v : Value) : Checked Int :=
  (integer v).andThen fun n => if n ≤ 0 then .defect v (.notAbove 0) else .ok n

/-- One of a few texts. -/
def literal (choices : List String) : Reading String
  | .str s => if s ∈ choices then .ok s else .defect (.str s) (.notLiteral choices)
  | v => .defect v (.notLiteral choices)

/-- One of the texts of an enumeration. -/
def member (choices : List String) : Reading String
  | .str s => if s ∈ choices then .ok s else .defect (.str s) (.notMember choices)
  | v => .defect v (.notMember choices)

end Chatflow.Schema
