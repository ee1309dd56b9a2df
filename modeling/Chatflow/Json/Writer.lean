import Chatflow.Value

/-!
# Writing JSON

One writer for the layouts in use: on one line with or without blanks, and indented. A float keeps
its fraction or exponent, so that it is read back as a float.
-/

namespace Chatflow.Json

/-- How a document is laid out. Without an indentation it stands on one line. -/
structure Style where
  asciiOnly : Bool
  itemSeparator : String
  keySeparator : String
  indent : Option Nat

namespace Style

def spaced : Style := ⟨true, ", ", ": ", none⟩

def indented : Style := ⟨true, ",", ": ", some 2⟩

/-- Without blanks, and with all characters but control characters as they are. -/
def compact : Style := ⟨false, ",", ":", none⟩

end Style

def unitEscape (unit : Text.Point) : List Char := '\\' :: 'u' :: Text.hexDigits unit 4

/-- The written form of a code point inside a text. -/
def escapePoint (style : Style) (p : Text.Point) : List Char :=
  let c := Text.ofPoint p
  if c = '"' ∨ c = '\\' then ['\\', c]
  else if c = '\n' then ['\\', 'n']
  else if c = '\r' then ['\\', 'r']
  else if c = '\t' then ['\\', 't']
  else if c = '\x08' then ['\\', 'b']
  else if c = '\x0c' then ['\\', 'f']
  else if p.val < 0x20 ∨ (style.asciiOnly ∧ 0x7e < p.val) then
    (Text.units p).flatMap unitEscape
  else [c]

def quotePoints (style : Style) (text : List Text.Point) : String :=
  String.ofList (['"'] ++ text.flatMap (escapePoint style) ++ ['"'])

def quote (style : Style) (s : String) : String := quotePoints style (Text.points s)

def floatText (x : Float) : String :=
  match Decimal.Binary.ofFloat x with
  | .nan => "NaN"
  | .infinite negative => if negative then "-Infinity" else "Infinity"
  | .finite .. => Decimal.text x

/-- A key that is no text is written as the text of its scalar. -/
def keyText : Value → String
  | .null => "null"
  | .bool b => if b then "true" else "false"
  | .int n => toString n
  | .float x => floatText x
  | v => v.display

/-- The parts of a list or an object between its brackets. -/
def enclose (style : Style) (level : Nat) (opening closing : String) : List String → String
  | [] => opening ++ closing
  | parts =>
    match style.indent with
    | none => opening ++ style.itemSeparator.intercalate parts ++ closing
    | some width =>
      let break_ (n : Nat) := "\n" ++ String.ofList (List.replicate (width * n) ' ')
      opening ++ break_ (level + 1)
        ++ (style.itemSeparator ++ break_ (level + 1)).intercalate parts
        ++ break_ level ++ closing

mutual

def writeAt (style : Style) (level : Nat) : Value → String
  | .null => "null"
  | .bool b => if b then "true" else "false"
  | .int n => toString n
  | .float x => floatText x
  | .str s => quote style s
  | .list items => enclose style level "[" "]" (writeItems style (level + 1) items)
  | .obj entries => enclose style level "\x7b" "\x7d" (writeEntries style (level + 1) entries)
  | .stamp text => quote style text
  | .keyed entries => enclose style level "\x7b" "\x7d" (writePairs style (level + 1) entries)

def writeItems (style : Style) (level : Nat) : List Value → List String
  | [] => []
  | v :: rest => writeAt style level v :: writeItems style level rest

def writeEntries (style : Style) (level : Nat) : List (String × Value) → List String
  | [] => []
  | (k, v) :: rest =>
    (quote style k ++ style.keySeparator ++ writeAt style level v)
      :: writeEntries style level rest

def writePairs (style : Style) (level : Nat) : List (Value × Value) → List String
  | [] => []
  | (k, v) :: rest =>
    (quote style (keyText k) ++ style.keySeparator ++ writeAt style level v)
      :: writePairs style level rest

end

def write (style : Style) (v : Value) : String := writeAt style 0 v

end Chatflow.Json
