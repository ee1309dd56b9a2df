import Chatflow.Yaml.Cursor

/-!
# Texts in a document

Plain scalars, scalars in quotation marks and block scalars, with the folding of their lines.
-/

namespace Chatflow.Yaml

/-- Whether an unquoted scalar may begin here. -/
def startsPlain (flow : Bool) : List Char → Bool
  | [] => false
  | c :: rest =>
    if "-?:,[]\x7b\x7d#&*!|>'\"%@` \t\n".toList.contains c then
      !startsBlank rest && (c = '-' || (!flow && (c = '?' || c = ':')))
    else true

/-- Whether an unquoted scalar stops before the first character. -/
def stopsPlain (flow : Bool) : List Char → Bool
  | [] => true
  | c :: rest =>
    c = ' ' || c = '\t' || c = '\n'
      || (c = ':'
        && (startsBlank rest || (flow && rest.head?.any (",[]\x7b\x7d".toList.contains ·))))
      || (flow && ",?[]\x7b\x7d".toList.contains c)

def plainChunk (flow : Bool) : List Char → List Char
  | [] => []
  | c :: rest => if stopsPlain flow (c :: rest) then [] else c :: plainChunk flow rest

/-- The separation after a chunk: spaces of the same line, or folded line feeds. -/
def plainSeparation (c : Cursor) : List Char × Cursor :=
  let spaces := c.rest.takeWhile (· = ' ')
  let after := c.skipSpaces
  match after.rest with
  | '\n' :: _ =>
    match skipBreaks (· = ' ') (after.rest.length + 1) 0 after.next with
    | some (extra, c) => (foldedBreaks extra, c)
    | none => ([], c)
  | _ => (spaces, after)

/-- The chunks of an unquoted scalar from the cursor on. Outside of flow collections its further
lines are indented by more than `parent`. -/
def plainFrom (flow : Bool) (parent : Int) : Nat → List Char → List Char → Cursor →
    List Char × Cursor
  | 0, acc, _, c => (acc, c)
  | fuel + 1, acc, separation, c =>
    let chunk := plainChunk flow c.rest
    if chunk = [] ∨ c.rest.head? = some '#' then (acc, c)
    else
      let acc := acc ++ separation ++ chunk
      let stop := c.skip chunk.length
      let (separation, resume) := plainSeparation stop
      if separation = [] ∨ (!flow ∧ (resume.column : Int) ≤ parent) then (acc, stop)
      else
        let (text, last) := plainFrom flow parent fuel acc separation resume
        if text = acc then (acc, stop) else (text, last)

def readPlain (flow : Bool) (parent : Int) (c : Cursor) : String × Cursor :=
  let (text, c) := plainFrom flow parent (c.rest.length + 1) [] [] c
  (String.ofList text, c)

/-- The blanks inside a quoted scalar: kept on a line, folded between lines. -/
def quotedSeparation (c : Cursor) : Option (List Char × Cursor) :=
  let blank := fun ch => ch = ' ' || ch = '\t'
  let spaces := c.rest.takeWhile blank
  let after := c.skip spaces.length
  match after.rest with
  | '\n' :: _ =>
    (skipBreaks blank (after.rest.length + 1) 0 after.next).map fun (extra, c) =>
      (foldedBreaks extra, c)
  | _ => some (spaces, after)

/-- A text between single marks, after the opening one. A mark inside is written twice. -/
def readSingle : Nat → List Char → Cursor → Result (List Char × Cursor)
  | 0, _, _ => .error .syntactic
  | fuel + 1, acc, c =>
    match c.rest with
    | [] => .error .syntactic
    | '\'' :: '\'' :: _ => readSingle fuel (acc ++ ['\'']) (c.skip 2)
    | '\'' :: _ => .ok (acc, c.next)
    | ch :: _ =>
      if ch = ' ' ∨ ch = '\t' ∨ ch = '\n' then
        match quotedSeparation c with
        | some (blanks, c) => readSingle fuel (acc ++ blanks) c
        | none => .error .syntactic
      else readSingle fuel (acc ++ [ch]) c.next

def namedEscape? (c : Char) : Option Char :=
  match c with
  | '0' => some '\x00'
  | 'a' => some '\x07'
  | 'b' => some '\x08'
  | 't' => some '\t'
  | '\t' => some '\t'
  | 'n' => some '\n'
  | 'v' => some '\x0b'
  | 'f' => some '\x0c'
  | 'r' => some '\r'
  | 'e' => some '\x1b'
  | ' ' => some ' '
  | '"' => some '"'
  | '\\' => some '\\'
  | '/' => some '/'
  | 'N' => some '\u0085'
  | '_' => some '\u00a0'
  | 'L' => some '\u2028'
  | 'P' => some '\u2029'
  | _ => none

def escapeWidth? (c : Char) : Option Nat :=
  match c with
  | 'x' => some 2
  | 'u' => some 4
  | 'U' => some 8
  | _ => none

/-- The character with a code point. A surrogate stays the one unit that it is. -/
def codeChar (n : Nat) : Result Char :=
  if Text.isSurrogate n then .ok (Text.carryUnit n)
  else if n < 0x110000 then .ok (Char.ofNat n)
  else .error .impossibleValue

/-- A text between double marks, after the opening one. -/
def readDouble : Nat → List Char → Cursor → Result (List Char × Cursor)
  | 0, _, _ => .error .syntactic
  | fuel + 1, acc, c =>
    match c.rest with
    | [] => .error .syntactic
    | '"' :: _ => .ok (acc.reverse, c.next)
    | '\\' :: '\n' :: _ =>
      match skipBreaks (fun ch => ch = ' ' || ch = '\t') (c.rest.length + 1) 0 (c.skip 2) with
      | some (extra, c) => readDouble fuel (List.replicate extra '\n' ++ acc) c
      | none => .error .syntactic
    | '\\' :: e :: more =>
      match namedEscape? e, escapeWidth? e with
      | some ch, _ => readDouble fuel (ch :: acc) (c.skip 2)
      | none, some width =>
        if (more.take width).length = width then
          match Json.hexNumber? (more.take width) with
          | some n => do
            let ch ← codeChar n
            readDouble fuel (ch :: acc) (c.skip (2 + width))
          | none => .error .syntactic
        else .error .syntactic
      | none, none => .error .syntactic
    | ch :: _ =>
      if ch = ' ' ∨ ch = '\t' ∨ ch = '\n' then
        match quotedSeparation c with
        | some (blanks, c) => readDouble fuel (blanks.reverse ++ acc) c
        | none => .error .syntactic
      else readDouble fuel (ch :: acc) c.next

/-- What becomes of the line feeds at the end of a block scalar. -/
inductive Chomping where
  | clip
  | strip
  | keep
deriving DecidableEq

/-- The header of a block scalar after its mark: chomping and indentation in either order. -/
def blockHeader (c : Cursor) : Result (Chomping × Option Nat × Cursor) :=
  let sign? : Char → Option Chomping := fun ch =>
    if ch = '+' then some .keep else if ch = '-' then some .strip else none
  let width? : Char → Option Nat := fun ch =>
    if '1' ≤ ch ∧ ch ≤ '9' then some (ch.toNat - 48) else none
  let (chomping, width, c) : Chomping × Option Nat × Cursor :=
    match c.rest with
    | a :: rest =>
      match sign? a, width? a with
      | some s, _ =>
        match rest.head?.bind width? with
        | some w => (s, some w, c.skip 2)
        | none => (s, none, c.next)
      | none, some w =>
        match rest.head?.bind sign? with
        | some s => (s, some w, c.skip 2)
        | none => (.clip, some w, c.next)
      | none, none => (.clip, none, c)
    | [] => (.clip, none, c)
  let c := c.skipSpaces
  let c := if c.rest.head? = some '#' then c.skipLine else c
  match c.rest with
  | [] => .ok (chomping, width, c)
  | '\n' :: _ => .ok (chomping, width, c.next)
  | _ => .error .syntactic

/-- Blank lines before the first line of a block scalar, with the deepest column among them. -/
def measureIndent : Nat → Nat → Nat → Cursor → Nat × Nat × Cursor
  | 0, breaks, deepest, c => (breaks, deepest, c)
  | fuel + 1, breaks, deepest, c =>
    match c.rest with
    | ' ' :: _ => measureIndent fuel breaks (max deepest (c.column + 1)) c.next
    | '\n' :: _ => measureIndent fuel (breaks + 1) deepest c.next
    | _ => (breaks, deepest, c)

/-- Blank lines between lines of a block scalar, with the indentation of the next line. -/
def skipIndent (indent : Nat) : Nat → Nat → Cursor → Nat × Cursor
  | 0, breaks, c => (breaks, c)
  | fuel + 1, breaks, c =>
    match c.rest with
    | ' ' :: _ => if c.column < indent then skipIndent indent fuel breaks c.next else (breaks, c)
    | '\n' :: _ => skipIndent indent fuel (breaks + 1) c.next
    | _ => (breaks, c)

/-- The lines of a block scalar. The result is the text, whether the last line ended in a line
feed, and the number of blank lines after it. -/
def blockLines (folded : Bool) (indent : Nat) : Nat → List Char → Nat → Cursor →
    List Char × Bool × Nat × Cursor
  | 0, acc, breaks, c => (acc, false, breaks, c)
  | fuel + 1, acc, breaks, c =>
    if c.column ≠ indent ∨ c.atEnd then (acc, false, breaks, c)
    else
      let line := c.rest.takeWhile (· ≠ '\n')
      let acc := acc ++ List.replicate breaks '\n' ++ line
      let c := c.skipLine
      if c.atEnd then (acc, false, 0, c)
      else
        let (breaks, c) := skipIndent indent (c.rest.length + 1) 0 c.next
        if c.column = indent ∧ !c.atEnd then
          let startsText := fun (cs : List Char) => !cs.head?.any fun ch => ch = ' ' || ch = '\t'
          let joint :=
            if folded ∧ startsText line ∧ startsText c.rest then
              if breaks = 0 then [' '] else []
            else ['\n']
          blockLines folded indent fuel (acc ++ joint) breaks c
        else (acc, true, breaks, c)

/-- A literal or folded scalar after its mark, inside a block at `parent`. -/
def readBlock (folded : Bool) (parent : Int) (c : Cursor) : Result (String × Cursor) := do
  let (chomping, width, c) ← blockHeader c
  let least := max 1 (parent + 1).toNat
  let (indent, breaks, c) := match width with
    | some w =>
      let indent := least + w - 1
      let (breaks, c) := skipIndent indent (c.rest.length + 1) 0 c
      (indent, breaks, c)
    | none =>
      let (breaks, deepest, c) := measureIndent (c.rest.length + 1) 0 0 c
      (max least deepest, breaks, c)
  let (text, ended, breaks, c) := blockLines folded indent (c.rest.length + 1) [] breaks c
  let last := if ended ∧ chomping ≠ .strip then ['\n'] else []
  let tail := if chomping = .keep then List.replicate breaks '\n' else []
  return (String.ofList (text ++ last ++ tail), c)

end Chatflow.Yaml
