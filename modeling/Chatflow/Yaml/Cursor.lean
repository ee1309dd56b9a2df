import Chatflow.Yaml.Node
import Chatflow.Yaml.Scalar

/-!
# Positions in a document

A cursor is the unread rest of a document with its line and column. Blanks between tokens are
spaces, line feeds and comments; a tab is none of them and begins no token.
-/

namespace Chatflow.Yaml

/-- The unread rest of a document, where it stands and the nodes named so far. -/
structure Cursor where
  index : Nat
  line : Nat
  column : Nat
  rest : List Char
  anchors : Entries Node

namespace Cursor

def start (cs : List Char) : Cursor := ⟨0, 0, 0, cs, []⟩

/-- Past one character. -/
def next (c : Cursor) : Cursor :=
  match c.rest with
  | [] => c
  | '\n' :: rest => { c with index := c.index + 1, line := c.line + 1, column := 0, rest }
  | _ :: rest => { c with index := c.index + 1, column := c.column + 1, rest }

def skip : Nat → Cursor → Cursor
  | 0, c => c
  | n + 1, c => skip n c.next

def atEnd (c : Cursor) : Bool := c.rest.isEmpty

/-- Past the spaces on the same line. -/
def skipSpaces (c : Cursor) : Cursor := skip (c.rest.takeWhile (· = ' ')).length c

/-- To the end of the line. -/
def skipLine (c : Cursor) : Cursor := skip (c.rest.takeWhile (· ≠ '\n')).length c

/-- To the next token. The fuel bounds the steps. -/
def skipGap : Nat → Cursor → Cursor
  | 0, c => c
  | fuel + 1, c =>
    match c.rest with
    | ' ' :: _ => skipGap fuel c.next
    | '\n' :: _ => skipGap fuel c.next
    | '#' :: _ => skipGap fuel c.skipLine
    | _ => c

def gap (c : Cursor) : Cursor := skipGap (c.rest.length + 1) c

end Cursor

/-- Whether a blank or the end of the document comes first. -/
def startsBlank : List Char → Bool
  | [] => true
  | c :: _ => c = ' ' || c = '\t' || c = '\n'

/-- An indicator is a mark with a blank after it. -/
def isIndicator (mark : Char) : List Char → Bool
  | c :: rest => c = mark && startsBlank rest
  | [] => false

def isMarkerText (cs : List Char) : Bool :=
  ("---".toList.isPrefixOf cs || "...".toList.isPrefixOf cs) && startsBlank (cs.drop 3)

/-- Whether a line that begins or ends a document comes next. -/
def Cursor.atMarker (c : Cursor) : Bool := c.column = 0 && isMarkerText c.rest

/-- Whether nothing more belongs to the document. -/
def Cursor.atLimit (c : Cursor) : Bool := c.atEnd || c.atMarker

/-- Blank lines and indentation after a line feed, as the number of line feeds passed. Nothing
when a document marker comes next. -/
def skipBreaks (blank : Char → Bool) : Nat → Nat → Cursor → Option (Nat × Cursor)
  | 0, _, _ => none
  | fuel + 1, count, c =>
    if c.atMarker then none
    else
      let c := c.skip (c.rest.takeWhile blank).length
      match c.rest with
      | '\n' :: _ => skipBreaks blank fuel (count + 1) c.next
      | _ => some (count, c)

/-- A single line feed folds into a space, of several the first one is dropped. -/
def foldedBreaks (extra : Nat) : List Char :=
  if extra = 0 then [' '] else List.replicate extra '\n'

end Chatflow.Yaml
