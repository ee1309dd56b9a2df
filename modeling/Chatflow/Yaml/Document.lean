import Chatflow.Text.Case
import Chatflow.Yaml.Block

/-!
# Documents

The value of a document. An unquoted scalar has the value of its form, the key `<<` merges the
entries of other mappings, and of entries with equal keys the last one counts, at the place of the
first.
-/

namespace Chatflow.Yaml

/-- The number that a key counts as: an integer if it is one. -/
def keyNumber? : Value → Option (Int ⊕ Float)
  | .bool b => some (.inl (if b then 1 else 0))
  | .int n => some (.inl n)
  | .float x =>
    match (Decimal.Binary.ofFloat x).toInt? with
    | some n => some (.inl n)
    | none => some (.inr x)
  | _ => none

/-- Whether two keys are the same. Numbers and booleans compare by the number they count as. -/
def sameKey (a b : Value) : Bool :=
  match a, b with
  | .null, .null => true
  | .str s, .str t => s == t
  | .stamp s, .stamp t => s == t
  | a, b =>
    match keyNumber? a, keyNumber? b with
    | some (.inl m), some (.inl n) => m == n
    | some (.inr x), some (.inr y) => x == y
    | _, _ => false

/-- Puts a value under a key, in place if the key is there. -/
def putKey {α : Type} : List (Value × α) → Value → α → List (Value × α)
  | [], key, value => [(key, value)]
  | (k, v) :: rest, key, value =>
    if sameKey k key then (k, value) :: rest else (k, v) :: putKey rest key value

/-- Lists and mappings are no keys. -/
def isKeyValue : Value → Bool
  | .list _ => false
  | .obj _ => false
  | .keyed _ => false
  | _ => true

def textPair? : Value × Value → Option (String × Value)
  | (.str key, value) => some (key, value)
  | _ => none

/-- The mapping of pairs in order: an object if all keys are texts. -/
def mappingOf (pairs : List (Value × Value)) : Result Value :=
  if pairs.all fun p => isKeyValue p.1 then
    let merged := pairs.foldl (fun acc p => putKey acc p.1 p.2) []
    match merged.mapM textPair? with
    | some entries => .ok (.obj entries)
    | none => .ok (.keyed merged)
  else .error .syntactic

/-- The value of a scalar that is tagged with one of the core kinds. -/
def taggedScalar (kind text : String) : Result Value :=
  let present : Option (Result Value) → Result Value := (·.getD (.error .impossibleValue))
  match kind with
  | "str" => .ok (.str text)
  | "null" => .ok .null
  | "bool" =>
    let word := Text.lower text
    if word ∈ trueWords then .ok (.bool true)
    else if word ∈ falseWords then .ok (.bool false)
    else .error .impossibleValue
  | "int" => present (integer? text.toList)
  | "float" => present (((float? text.toList) <|> (float? (text.toList ++ ['.']))).map .ok)
  | "timestamp" => present (timestamp? text.toList)
  | _ => .error .syntactic

def scalarValue (tag : Tag) (quoted : Bool) (text : String) : Result Value :=
  match tag with
  | .unspecific => if quoted then .ok (.str text) else resolve text
  | .core kind => taggedScalar kind text
  | .foreign => .error .syntactic

/-- Whether a collection may have a tag. -/
def Tag.fits (kind : String) : Tag → Bool
  | .unspecific => true
  | .core name => name == kind
  | .foreign => false

def isMergeKey : Node → Bool
  | .scalar .unspecific false "<<" => true
  | _ => false

/-- The value of a key, where `=` is a text. -/
def keyScalar? : Node → Option Value
  | .scalar .unspecific false "=" => some (.str "=")
  | _ => none

mutual

def valueOf : Node → Result Value
  | .scalar tag quoted text => scalarValue tag quoted text
  | .sequence tag items =>
    if tag.fits "seq" then do
      let values ← valuesOf items
      return .list values
    else .error .syntactic
  | .mapping tag pairs =>
    if tag.fits "map" then do
      let (merged, own) ← pairsOf pairs
      mappingOf (merged ++ own)
    else .error .syntactic

def valuesOf : List Node → Result (List Value)
  | [] => .ok []
  | node :: rest => do
    let v ← valueOf node
    let vs ← valuesOf rest
    return v :: vs

/-- The pairs that merge keys bring in, and the pairs of the mapping itself. -/
def pairsOf : List (Node × Node) → Result (List (Value × Value) × List (Value × Value))
  | [] => .ok ([], [])
  | (key, value) :: rest => do
    if isMergeKey key then
      let here ← mergedOf value
      let (merged, own) ← pairsOf rest
      return (here ++ merged, own)
    else
      let k ← match keyScalar? key with
        | some k => pure k
        | none => valueOf key
      let v ← valueOf value
      let (merged, own) ← pairsOf rest
      return (merged, (k, v) :: own)

/-- The pairs of a mapping to be merged, or of a list of them. Of a list the first one counts
most, so it is merged last. -/
def mergedOf : Node → Result (List (Value × Value))
  | .mapping _ pairs => do
    let (merged, own) ← pairsOf pairs
    return merged ++ own
  | .sequence _ items => do
    let parts ← mergedItems items
    return parts.reverse.flatten
  | .scalar .. => .error .syntactic

def mergedItems : List Node → Result (List (List (Value × Value)))
  | [] => .ok []
  | .mapping _ pairs :: rest => do
    let (merged, own) ← pairsOf pairs
    let parts ← mergedItems rest
    return (merged ++ own) :: parts
  | _ :: _ => .error .syntactic

end

/-- Characters that a document may hold. -/
def allowedRanges : List (Nat × Nat) :=
  [(0x9, 0xA), (0xD, 0xD), (0x20, 0x7E), (0x85, 0x85), (0xA0, 0xD7FF), (0xE000, 0xFFFD),
    (0x10000, 0x10FFFF)]

/-- One line feed for each form of a line end. -/
def unifyBreaks : List Char → List Char
  | '\r' :: '\n' :: rest => '\n' :: unifyBreaks rest
  | '\r' :: rest => '\n' :: unifyBreaks rest
  | '\u0085' :: rest => '\n' :: unifyBreaks rest
  | c :: rest => c :: unifyBreaks rest
  | [] => []

/-- A directive after its mark. Only one about the version says something here: it must be the
first one and name version one. -/
def readDirective (versioned : Bool) (c : Cursor) : Result (Bool × Cursor) :=
  let line := c.rest.takeWhile (· ≠ '\n')
  let after := c.skip line.length
  let words := (Text.strip (String.ofList (line.takeWhile (· ≠ '#')))).splitOn " "
  match words.filter (· ≠ "") with
  | "YAML" :: version =>
    match version.map fun v => (splitAt '.' v.toList) with
    | [[['1'], minor]] =>
      if !versioned ∧ minor ≠ [] ∧ minor.all Json.isDigit then .ok (true, after)
      else .error .syntactic
    | _ => .error .syntactic
  | _ :: _ => .ok (versioned, after)
  | [] => .error .syntactic

/-- To the first node: past directives and the mark that begins the document, which directives
need. The result also says whether a key may stand there. -/
def openDocument : Nat → Bool → Bool → Cursor → Result (Bool × Cursor)
  | 0, _, _, _ => .error .syntactic
  | fuel + 1, directed, versioned, c =>
    let start := c.gap
    match start.rest with
    | '%' :: _ =>
      if start.column = 0 then do
        let (versioned, after) ← readDirective versioned start.next
        openDocument fuel true versioned after
      else .error .syntactic
    | _ =>
      if start.atMarker then
        if start.rest.head? = some '-' then
          let mark := start.skip 3
          .ok (mark.gap.line ≠ mark.line, mark.gap)
        else .error .syntactic
      else if directed then .error .syntactic
      else .ok (true, start)

/-- Whether nothing follows a document but marks that end it. -/
def closes : Nat → Cursor → Bool
  | 0, _ => false
  | fuel + 1, c =>
    let last := c.gap
    last.atEnd || (last.atMarker && last.rest.head? = some '.' && closes fuel (last.skip 3))

/-- The tree of a text that holds one document or none. -/
def compose (text : String) : Result Node := do
  let cs := match text.toList with
    | '\uFEFF' :: rest => unifyBreaks rest
    | cs => unifyBreaks cs
  if cs.all (Text.inRanges allowedRanges) then
    let fuel := 8 * cs.length + 16
    let (allowsKey, start) ← openDocument fuel false false (.start cs)
    let (root, after) ← readOptional (-1) allowsKey false fuel start
    if closes fuel after then .ok root else .error .syntactic
  else .error .syntactic

/-- The value of a text that holds one document or none. -/
def read (text : String) : Result Value := do
  valueOf (← compose text)

end Chatflow.Yaml
