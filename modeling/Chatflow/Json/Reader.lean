import Chatflow.Value

/-!
# Reading JSON

A reader for one document. A number with a fraction or an exponent is a float, any other an integer
of any size. Of entries with the same name the last one counts, at the place of the first.
-/

namespace Chatflow.Json

def isSpace (c : Char) : Bool := c = ' ' || c = '\t' || c = '\n' || c = '\r'

def skipSpace (cs : List Char) : List Char := cs.dropWhile isSpace

def hexValue? (c : Char) : Option Nat :=
  if '0' ≤ c ∧ c ≤ '9' then some (c.toNat - 48)
  else if 'a' ≤ c ∧ c ≤ 'f' then some (c.toNat - 87)
  else if 'A' ≤ c ∧ c ≤ 'F' then some (c.toNat - 55)
  else none

/-- The number written by hexadecimal digits only. -/
def hexNumber? (cs : List Char) : Option Nat :=
  cs.foldlM (fun acc c => (hexValue? c).map (acc * 16 + ·)) 0

/-- Four hexadecimal digits and the rest. -/
def unit? : List Char → Option (Nat × List Char)
  | a :: b :: c :: d :: rest => (hexNumber? [a, b, c, d]).map (·, rest)
  | _ => none

/-- The character after a backslash and `u`. A high surrogate joins with a low one that follows;
a unit left alone is carried when `lone` allows it. -/
def unitEscape? (lone : Bool) (cs : List Char) : Option (Char × List Char) := do
  let (first, rest) ← unit? cs
  if Text.isHighSurrogate first then
    match rest with
    | '\\' :: 'u' :: more =>
      let (second, after) ← unit? more
      if Text.isLowSurrogate second then return (Text.ofPair first second, after)
      else if lone then return (Text.carryUnit first, rest)
      else none
    | _ => if lone then return (Text.carryUnit first, rest) else none
  else if Text.isSurrogate first then
    if lone then return (Text.carryUnit first, rest) else none
  else return (Char.ofNat first, rest)

def shortEscape? (c : Char) : Option Char :=
  match c with
  | '"' => some '"'
  | '\\' => some '\\'
  | '/' => some '/'
  | 'b' => some '\x08'
  | 'f' => some '\x0c'
  | 'n' => some '\n'
  | 'r' => some '\r'
  | 't' => some '\t'
  | _ => none

/-- The rest of a text after its opening mark. The fuel bounds the characters read. -/
def readText (lone : Bool) : Nat → List Char → List Char → Option (List Char × List Char)
  | 0, _, _ => none
  | fuel + 1, acc, cs =>
    match cs with
    | [] => none
    | '"' :: rest => some (acc.reverse, rest)
    | '\\' :: 'u' :: rest => do
      let (c, rest) ← unitEscape? lone rest
      readText lone fuel (c :: acc) rest
    | '\\' :: c :: rest => do
      let c ← shortEscape? c
      readText lone fuel (c :: acc) rest
    | c :: rest => if c.toNat < 0x20 then none else readText lone fuel (c :: acc) rest

def isDigit (c : Char) : Bool := '0' ≤ c && c ≤ '9'

def digitsValue (ds : List Char) : Nat := ds.foldl (fun acc c => acc * 10 + (c.toNat - 48)) 0

/-- An optional exponent after the digits of a number. -/
def exponent? (cs : List Char) : Option Int × List Char :=
  match cs with
  | e :: rest =>
    if e = 'e' ∨ e = 'E' then
      let (negative, body) := match rest with
        | '+' :: more => (false, more)
        | '-' :: more => (true, more)
        | more => (false, more)
      let ds := body.takeWhile isDigit
      if ds = [] then (none, cs)
      else
        let n : Int := digitsValue ds
        (some (if negative then -n else n), body.dropWhile isDigit)
    else (none, cs)
  | [] => (none, cs)

/-- An optional fraction: a point and at least one digit. -/
def fraction? (cs : List Char) : Option (List Char) × List Char :=
  match cs with
  | '.' :: rest =>
    let ds := rest.takeWhile isDigit
    if ds = [] then (none, cs) else (some ds, rest.dropWhile isDigit)
  | _ => (none, cs)

/-- A number without its sign. -/
def readMagnitude (negative : Bool) (cs : List Char) : Option (Value × List Char) :=
  let whole := match cs with
    | '0' :: _ => ['0']
    | _ => cs.takeWhile isDigit
  if whole = [] then none
  else
    let (frac, rest) := fraction? (cs.drop whole.length)
    let (exponent, rest) := exponent? rest
    match frac, exponent with
    | none, none =>
      let n : Int := digitsValue whole
      some (.int (if negative then -n else n), rest)
    | _, _ =>
      let ds := whole ++ frac.getD []
      let x := Decimal.toFloat (digitsValue ds)
        (exponent.getD 0 - ((frac.getD []).length : Int))
      some (.float (if negative then -x else x), rest)

/-- Drops an expected word. -/
def word? (word : String) (cs : List Char) : Option (List Char) :=
  if word.toList.isPrefixOf cs then some (cs.drop word.length) else none

/-- Scalars that are words or numbers. -/
def readScalar (cs : List Char) : Option (Value × List Char) :=
  ((word? "null" cs).map (Value.null, ·))
  <|> ((word? "true" cs).map (Value.bool true, ·))
  <|> ((word? "false" cs).map (Value.bool false, ·))
  <|> ((word? "NaN" cs).map (Value.float (0.0 / 0.0), ·))
  <|> ((word? "Infinity" cs).map (Value.float (1.0 / 0.0), ·))
  <|> ((word? "-Infinity" cs).map (Value.float (-1.0 / 0.0), ·))
  <|> (match cs with
    | '-' :: rest => readMagnitude true rest
    | _ => readMagnitude false cs)

mutual

/-- One value and the rest. The fuel bounds the nesting and the number of parts. -/
def readValue (lone : Bool) : Nat → List Char → Option (Value × List Char)
  | 0, _ => none
  | fuel + 1, cs =>
    match cs with
    | '"' :: rest => (readText lone (rest.length + 1) [] rest).map fun r =>
      (.str (String.ofList r.1), r.2)
    | '[' :: rest =>
      match skipSpace rest with
      | ']' :: after => some (.list [], after)
      | body => readItems lone fuel [] body
    | '\x7b' :: rest =>
      match skipSpace rest with
      | '\x7d' :: after => some (.obj [], after)
      | body => readEntries lone fuel [] body
    | _ => readScalar cs

/-- The items of a list from the first one on. -/
def readItems (lone : Bool) : Nat → List Value → List Char → Option (Value × List Char)
  | 0, _, _ => none
  | fuel + 1, acc, cs =>
    match readValue lone fuel cs with
    | none => none
    | some (v, rest) =>
      match skipSpace rest with
      | ',' :: more => readItems lone fuel (v :: acc) (skipSpace more)
      | ']' :: after => some (.list (v :: acc).reverse, after)
      | _ => none

/-- The entries of an object from the first one on. -/
def readEntries (lone : Bool) : Nat → Entries Value → List Char → Option (Value × List Char)
  | 0, _, _ => none
  | fuel + 1, acc, cs =>
    match cs with
    | '"' :: body =>
      match readText lone (body.length + 1) [] body with
      | none => none
      | some (key, rest) =>
        match skipSpace rest with
        | ':' :: more =>
          match readValue lone fuel (skipSpace more) with
          | none => none
          | some (v, rest) =>
            let acc := acc.put (String.ofList key) v
            match skipSpace rest with
            | ',' :: more => readEntries lone fuel acc (skipSpace more)
            | '\x7d' :: after => some (.obj acc, after)
            | _ => none
        | _ => none
    | _ => none

end

/-- Reads a document that holds one value. `lone` allows surrogates without a partner. -/
def read? (lone : Bool) (text : String) : Option Value :=
  let cs := skipSpace text.toList
  match readValue lone (2 * cs.length + 2) cs with
  | some (v, rest) => if skipSpace rest = [] then some v else none
  | none => none

end Chatflow.Json
