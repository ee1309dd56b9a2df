/-!
# Blank characters

The characters that stripping removes from both ends of a text, and stripping itself.
-/

namespace Chatflow.Text

/-- Whether a code point lies in one of a list of inclusive ranges. -/
def inRanges (ranges : List (Nat × Nat)) (c : Char) : Bool :=
  ranges.any fun r => r.1 ≤ c.toNat && c.toNat ≤ r.2

/-- Code points with the white space property. -/
def whiteSpaceRanges : List (Nat × Nat) :=
  [(9, 13), (32, 32), (133, 133), (160, 160), (5760, 5760), (8192, 8202), (8232, 8233),
    (8239, 8239), (8287, 8287), (12288, 12288)]

def isWhiteSpace (c : Char) : Bool := inRanges whiteSpaceRanges c

/-- White space and the four information separators. -/
def isBlank (c : Char) : Bool := isWhiteSpace c || inRanges [(28, 31)] c

/-- Drops the longest prefix and the longest suffix of characters in a class. -/
def trimList (p : Char → Bool) (cs : List Char) : List Char :=
  ((cs.dropWhile p).reverse.dropWhile p).reverse

/-- A text without the blanks at its ends. -/
def strip (s : String) : String := String.ofList (trimList isBlank s.toList)

/-- A text of blanks only; the empty text is one. -/
def allBlank (s : String) : Bool := s.toList.all isBlank

end Chatflow.Text
