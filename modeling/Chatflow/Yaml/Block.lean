import Chatflow.Yaml.Flow

/-!
# Block collections

Lists and mappings laid out by indentation. The entries of a block start in one column; what is
indented further belongs to the entry before it. A list under a key may start in the column of the
key itself.
-/

namespace Chatflow.Yaml

/-- A node that can be a key: an alias, or properties and content on one line. -/
def readKeyNode (fuel : Nat) (parent : Int) (c : Cursor) : Result (Node × Cursor) :=
  match c.rest with
  | '*' :: _ => readAlias c.next
  | _ => do
    let (properties, after) ← readProperties false 3 .none c
    let start := after.gap
    let content? ←
      if start.line = after.line then readContent? false parent fuel start else pure none
    match content? with
    | some (node, after) => attach properties node after
    | none => if properties.isNone then .error .syntactic else attach properties .empty after

/-- Whether the node from `start` to `after` is a key: a colon and a blank follow on its line. -/
def isKey (start after : Cursor) : Bool :=
  let colon := after.gap
  isIndicator ':' colon.rest && isKeySpan start colon

/-- Whether the properties at a cursor belong to a node that starts on a later line. -/
def opensBelow (properties : Properties) (after : Cursor) : Bool :=
  !properties.isNone && after.gap.line ≠ after.line

mutual

/-- A node inside a block at `parent`, where a line with less indentation leaves it empty. -/
def readOptional (parent : Int) (allowsKey allowsList : Bool) : Nat → Cursor →
    Result (Node × Cursor)
  | 0, _ => .error .syntactic
  | fuel + 1, c =>
    if c.atLimit ∨ (c.column : Int) < parent then .ok (.empty, c)
    else if (c.column : Int) = parent then
      if allowsList && isIndicator '-' c.rest then do
        let (items, after) ← readEntries c.column fuel [] c
        return (.sequence .unspecific items, after)
      else .ok (.empty, c)
    else readBlockNode parent allowsKey allowsList fuel c

/-- A node indented by more than `parent`. `allowsKey` says that nothing but indicators stands
before it on its line. -/
def readBlockNode (parent : Int) (allowsKey allowsList : Bool) : Nat → Cursor →
    Result (Node × Cursor)
  | 0, _ => .error .syntactic
  | fuel + 1, c =>
    if isIndicator '-' c.rest then
      if allowsKey then do
        let (items, after) ← readEntries c.column fuel [] c
        return (.sequence .unspecific items, after)
      else .error .syntactic
    else if isIndicator '?' c.rest then
      if allowsKey then do
        let (pairs, after) ← readBlockPairs c.column fuel [] c
        return (.mapping .unspecific pairs, after)
      else .error .syntactic
    else do
      let (properties, after) ← readProperties false 3 .none c
      if opensBelow properties after then
        let (node, last) ← readOptional parent true allowsList fuel after.gap
        attach properties node last
      else
        let start := after.gap
        match start.rest with
        | '|' :: _ => do
          let (text, last) ← readBlock false parent start.next
          attach properties (.scalar .unspecific true text) last
        | '>' :: _ => do
          let (text, last) ← readBlock true parent start.next
          attach properties (.scalar .unspecific true text) last
        | _ => do
          let (node, last) ← readKeyNode fuel parent c
          if allowsKey && isKey c last then
            let (pairs, last) ← readBlockPairs c.column fuel [] c
            return (.mapping .unspecific pairs, last)
          else return (node, last)

/-- The entries of a list whose dashes stand in a column. -/
def readEntries (column : Nat) : Nat → List Node → Cursor → Result (List Node × Cursor)
  | 0, _, _ => .error .syntactic
  | fuel + 1, acc, c =>
    if !c.atLimit ∧ c.column = column ∧ isIndicator '-' c.rest then do
      let (item, after) ← readOptional column true false fuel c.next.gap
      readEntries column fuel (item :: acc) after.gap
    else .ok (acc.reverse, c)

/-- The pairs of a mapping whose keys start in a column. -/
def readBlockPairs (column : Nat) : Nat → List (Node × Node) → Cursor →
    Result (List (Node × Node) × Cursor)
  | 0, _, _ => .error .syntactic
  | fuel + 1, acc, c =>
    if c.atLimit ∨ c.column ≠ column then .ok (acc.reverse, c)
    else if isIndicator '?' c.rest then do
      let (key, after) ← readOptional column true true fuel c.next.gap
      let colon := after.gap
      if !colon.atLimit ∧ colon.column = column ∧ isIndicator ':' colon.rest then
        let (value, last) ← readOptional column true true fuel colon.next.gap
        readBlockPairs column fuel ((key, value) :: acc) last.gap
      else readBlockPairs column fuel ((key, .empty) :: acc) colon
    else do
      let (key, after) ← readKeyNode fuel column c
      if isKey c after then
        let colon := after.gap
        let start := colon.next.gap
        let (value, last) ← readOptional column (start.line ≠ colon.line) true fuel start
        readBlockPairs column fuel ((key, value) :: acc) last.gap
      else .error .syntactic

end

end Chatflow.Yaml
