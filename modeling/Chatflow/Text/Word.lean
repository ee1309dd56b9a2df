import Chatflow.Text.Blank
import Chatflow.Text.Case
import Chatflow.Text.WordTable

/-!
# Words and hashtags

A hashtag is a `#` followed by the longest non-empty run of word characters.
-/

namespace Chatflow.Text

def isWordChar (c : Char) : Bool := inRanges wordRanges.toList c

/-- Hashtags from left to right, each with its `#`. No word character is a `#`, so a search that
goes on inside a hashtag finds nothing before its end. -/
def hashtags : List Char → List (List Char)
  | [] => []
  | c :: rest =>
    if c = '#' ∧ rest.takeWhile isWordChar ≠ [] then
      (c :: rest.takeWhile isWordChar) :: hashtags rest
    else hashtags rest

/-- The form in which two tags are compared: stripped, in lower case, without leading `#`. -/
def normalizeTag (tag : String) : String :=
  String.ofList ((lower (strip tag)).toList.dropWhile (· = '#'))

/-- The normalised hashtags of a text. -/
def tagsOf (text : String) : List String :=
  (hashtags text.toList).map fun tag => normalizeTag (String.ofList tag)

end Chatflow.Text
