import Chatflow.Yaml.Text

/-!
# Flow collections

Nodes that need no indentation: scalars, aliases, and lists and mappings between brackets. In a
collection a key and the colon after it stand on one line, at most 1024 characters apart.
-/

namespace Chatflow.Yaml

/-- What stands before the content of a node. -/
structure Properties where
  anchor : Option String
  tag : Option Tag
  plain : Bool

namespace Properties

def none : Properties := ⟨Option.none, Option.none, false⟩

def isNone (p : Properties) : Bool := p.anchor.isNone && p.tag.isNone

end Properties

def isNameChar (c : Char) : Bool := c.isAlphanum || c = '-' || c = '_'

def isUriChar (c : Char) : Bool :=
  c.isAlphanum || "-;/?:@&=+$,_.!~*'()[]%".toList.contains c

/-- The name after the mark of an anchor or an alias. -/
def readName (c : Cursor) : Result (String × Cursor) :=
  let name := c.rest.takeWhile isNameChar
  let after := c.skip name.length
  if name ≠ [] ∧
    (startsBlank after.rest ∨ after.rest.head?.any ("?:,]\x7d%@`".toList.contains ·)) then
    .ok (String.ofList name, after)
  else .error .syntactic

def coreTagStem : String := "tag:yaml.org,2002:"

/-- The tag after its first mark. A lone mark asks for the value by form. -/
def readTag (c : Cursor) : Result (Tag × Bool × Cursor) := do
  let (tag, plain, after) ← match c.rest with
    | '<' :: _ =>
      let uri := (c.rest.drop 1).takeWhile isUriChar
      let after := c.skip (uri.length + 1)
      match after.rest with
      | '>' :: _ =>
        let stem := coreTagStem.toList
        let tag :=
          if stem.isPrefixOf uri then .core (String.ofList (uri.drop stem.length)) else .foreign
        .ok (tag, false, after.next)
      | _ => .error .syntactic
    | '!' :: rest =>
      let suffix := rest.takeWhile isUriChar
      if suffix = [] then .error .syntactic
      else .ok (Tag.core (String.ofList suffix), false, c.skip (suffix.length + 1))
    | rest =>
      let suffix := rest.takeWhile isUriChar
      .ok (if suffix = [] then Tag.unspecific else .foreign, suffix = [], c.skip suffix.length)
  if startsBlank after.rest ∧ after.rest.head? ≠ some '\t' then .ok (tag, plain, after)
  else .error .syntactic

/-- An anchor and a tag in either order. The second one may follow on another line only inside of
flow collections. -/
def readProperties (flow : Bool) : Nat → Properties → Cursor → Result (Properties × Cursor)
  | 0, p, c => .ok (p, c)
  | fuel + 1, p, c =>
    let start := c.gap
    if !p.isNone ∧ !flow ∧ start.line ≠ c.line then .ok (p, c)
    else
      match start.rest with
      | '&' :: _ =>
        if p.anchor.isSome then .error .syntactic
        else do
          let (name, after) ← readName start.next
          readProperties flow fuel { p with anchor := some name } after
      | '!' :: _ =>
        if p.tag.isSome then .error .syntactic
        else do
          let (tag, plain, after) ← readTag start.next
          readProperties flow fuel { p with tag := some tag, plain } after
      | _ => .ok (p, c)

/-- A node with its properties; an anchor names it for the rest of the document, once. -/
def attach (p : Properties) (node : Node) (c : Cursor) : Result (Node × Cursor) :=
  let node := match p.tag with
    | some tag => if p.plain then node.asPlain else node.withTag tag
    | none => node
  match p.anchor with
  | some name =>
    if c.anchors.contains name then .error .syntactic
    else .ok (node, { c with anchors := c.anchors.put name node })
  | none => .ok (node, c)

/-- Whether a node read from `start` on can be the key before the colon at `colon`. -/
def isKeySpan (start colon : Cursor) : Bool :=
  start.line = colon.line && colon.index - start.index ≤ 1024

/-- The node that an alias stands for. -/
def readAlias (c : Cursor) : Result (Node × Cursor) := do
  let (name, after) ← readName c
  match after.anchors.get? name with
  | some node => .ok (node, after)
  | none => .error .syntactic

/-- A scalar that is no block scalar; nothing when none comes next. -/
def readScalar? (flow : Bool) (parent : Int) (c : Cursor) : Result (Option (Node × Cursor)) :=
  match c.rest with
  | '"' :: _ => do
    let (text, after) ← readDouble (c.rest.length + 1) [] c.next
    return some (.scalar .unspecific true (String.ofList text), after)
  | '\'' :: _ => do
    let (text, after) ← readSingle (c.rest.length + 1) [] c.next
    return some (.scalar .unspecific true (String.ofList text), after)
  | _ =>
    if startsPlain flow c.rest then
      let (text, after) := readPlain flow parent c
      .ok (some (.scalar .unspecific false text, after))
    else .ok none

mutual

/-- Content without properties; nothing when none comes next. -/
def readContent? (flow : Bool) (parent : Int) : Nat → Cursor → Result (Option (Node × Cursor))
  | 0, _ => .error .syntactic
  | fuel + 1, c =>
    if c.atLimit then .ok none
    else
      match c.rest with
      | '[' :: _ => do
        let (items, after) ← readItems fuel [] c.next.gap
        return some (.sequence .unspecific items, after)
      | '\x7b' :: _ => do
        let (pairs, after) ← readPairs fuel [] c.next.gap
        return some (.mapping .unspecific pairs, after)
      | _ => readScalar? flow parent c

/-- A node inside of a flow collection. -/
def readFlowNode : Nat → Cursor → Result (Node × Cursor)
  | 0, _ => .error .syntactic
  | fuel + 1, c =>
    match c.rest with
    | '*' :: _ => readAlias c.next
    | _ => do
      let (properties, after) ← readProperties true 3 .none c
      match ← readContent? true 0 fuel after.gap with
      | some (node, after) => attach properties node after
      | none => if properties.isNone then .error .syntactic else attach properties .empty after

/-- A value after its colon, which may be missing before a mark that ends it. -/
def readFlowValue : Nat → Cursor → Result (Node × Cursor)
  | 0, _ => .error .syntactic
  | fuel + 1, c =>
    match c.rest with
    | ',' :: _ => .ok (.empty, c)
    | ']' :: _ => .ok (.empty, c)
    | '\x7d' :: _ => .ok (.empty, c)
    | _ => readFlowNode fuel c

/-- A key after a question mark, and its value. -/
def readMarkedPair : Nat → Cursor → Result ((Node × Node) × Cursor)
  | 0, _ => .error .syntactic
  | fuel + 1, c => do
    let (key, after) ← match c.rest with
      | ':' :: _ => .ok (.empty, c)
      | _ => readFlowValue fuel c
    match after.gap.rest with
    | ':' :: _ => do
      let (value, last) ← readFlowValue fuel after.gap.next.gap
      return ((key, value), last)
    | _ => return ((key, .empty), after)

/-- The items of a list up to its closing bracket. A pair among them is a mapping of its own. -/
def readItems : Nat → List Node → Cursor → Result (List Node × Cursor)
  | 0, _, _ => .error .syntactic
  | fuel + 1, acc, c =>
    match c.rest with
    | ']' :: _ => .ok (acc.reverse, c.next)
    | _ => do
      let (item, after) ← match c.rest with
        | '?' :: _ => do
          let (pair, after) ← readMarkedPair fuel c.next.gap
          pure (Node.mapping .unspecific [pair], after.gap)
        | _ => do
          let (node, after) ← readFlowNode fuel c
          let after := after.gap
          match after.rest with
          | ':' :: _ =>
            if isKeySpan c after then do
              let (value, last) ← readFlowValue fuel after.next.gap
              pure (Node.mapping .unspecific [(node, value)], last.gap)
            else .error .syntactic
          | _ => pure (node, after)
      match after.rest with
      | ',' :: _ => readItems fuel (item :: acc) after.next.gap
      | ']' :: _ => .ok ((item :: acc).reverse, after.next)
      | _ => .error .syntactic

/-- The pairs of a mapping up to its closing brace. A key without a colon has no value. -/
def readPairs : Nat → List (Node × Node) → Cursor → Result (List (Node × Node) × Cursor)
  | 0, _, _ => .error .syntactic
  | fuel + 1, acc, c =>
    match c.rest with
    | '\x7d' :: _ => .ok (acc.reverse, c.next)
    | _ => do
      let (pair, after) ← match c.rest with
        | '?' :: _ => do
          let (pair, after) ← readMarkedPair fuel c.next.gap
          pure (pair, after.gap)
        | _ => do
          let (key, after) ← readFlowNode fuel c
          let after := after.gap
          match after.rest with
          | ':' :: _ =>
            if isKeySpan c after then do
              let (value, last) ← readFlowValue fuel after.next.gap
              pure ((key, value), last.gap)
            else .error .syntactic
          | _ => pure ((key, .empty), after)
      match after.rest with
      | ',' :: _ => readPairs fuel (pair :: acc) after.next.gap
      | '\x7d' :: _ => .ok ((pair :: acc).reverse, after.next)
      | _ => .error .syntactic

end

end Chatflow.Yaml
