/-!
# Search and cuts

Substring search, previews and the order of texts, all counted in characters.
-/

namespace Chatflow.Text

/-- Whether `needle` occurs in a text as a run of adjacent characters. -/
def occursIn (needle : List Char) : List Char → Bool
  | [] => needle.isEmpty
  | c :: rest => needle.isPrefixOf (c :: rest) || occursIn needle rest

theorem occursIn_iff {needle cs : List Char} : occursIn needle cs = true ↔ needle <:+: cs := by
  induction cs with
  | nil => simp [occursIn]
  | cons c rest ih => simp [occursIn, ih, List.infix_cons_iff]

/-- A text of at most `limit` characters as it is, a longer one cut there and marked with dots. -/
def preview (text : String) (limit : Nat) : String :=
  if text.length ≤ limit then text
  else String.ofList (text.toList.take limit) ++ "..."

/-- Increasing code point order without repetitions. -/
def sortedUnique (texts : List String) : List String :=
  texts.eraseDups.mergeSort (fun a b => decide (a ≤ b))

def sorted (texts : List String) : List String :=
  texts.mergeSort (fun a b => decide (a ≤ b))

/-- A text filled with blanks on the right up to a width. -/
def padRight (text : String) (width : Nat) : String :=
  text ++ String.ofList (List.replicate (width - text.length) ' ')

end Chatflow.Text
