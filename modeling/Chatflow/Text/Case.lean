import Chatflow.Text.Blank
import Chatflow.Text.CaseTable

/-!
# Lower and upper case

Full case mapping. A capital sigma is the one letter whose lower-case form depends on its
neighbours: at the end of a word it takes the final form.
-/

namespace Chatflow.Text

namespace CaseRun

def contains (run : CaseRun) (n : Nat) : Bool :=
  run.first ≤ n && n ≤ run.last && (n - run.first) % run.step == 0

end CaseRun

/-- The image of a character under the first run that holds it. -/
def mapRuns (runs : Array CaseRun) (c : Char) : Char :=
  match runs.find? (·.contains c.toNat) with
  | some run => Char.ofNat (c.toNat + run.shift).toNat
  | none => c

def isCased (c : Char) : Bool := inRanges casedRanges.toList c

def isCaseIgnorable (c : Char) : Bool := inRanges caseIgnorableRanges.toList c

/-- Whether a sigma ends its word: a cased letter stands before it and none after it, both read
past ignorable characters. The characters before it come nearest first. -/
def sigmaIsFinal (before after : List Char) : Bool :=
  (before.dropWhile isCaseIgnorable).head?.any isCased
    && !(after.dropWhile isCaseIgnorable).head?.any isCased

/-- The lower-case form of a character between its neighbours. -/
def lowerChar (before : List Char) (c : Char) (after : List Char) : List Char :=
  if c = 'Σ' then [if sigmaIsFinal before after then 'ς' else 'σ']
  else if c = 'İ' then ['i', '\u0307']
  else [mapRuns lowerRuns c]

def lowerFrom (before : List Char) : List Char → List Char
  | [] => []
  | c :: rest => lowerChar before c rest ++ lowerFrom (c :: before) rest

def lowerList (cs : List Char) : List Char := lowerFrom [] cs

def lower (s : String) : String := String.ofList (lowerList s.toList)

/-- The upper-case form of a character, which may be several characters. -/
def upperChar (c : Char) : List Char :=
  match upperExpansions.find? (·.1 == c.toNat) with
  | some entry => entry.2.map Char.ofNat
  | none => [mapRuns upperRuns c]

def upper (s : String) : String := String.ofList (s.toList.flatMap upperChar)

end Chatflow.Text
