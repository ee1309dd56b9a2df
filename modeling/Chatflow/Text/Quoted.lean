import Chatflow.Text.Blank
import Chatflow.Text.PrintableTable
import Chatflow.Text.Unit

/-!
# Quoted text

A text between quotation marks: single ones, unless it holds a single mark and no double one.
Backslashes, the chosen mark and unprintable characters are escaped.
-/

namespace Chatflow.Text

def isPrintable (c : Char) : Bool :=
  (carriedUnit? c).isNone && inRanges printableRanges.toList c

def quotationMark (cs : List Char) : Char :=
  if cs.contains '\'' && !cs.contains '"' then '"' else '\''

/-- The escape of an unprintable character, by the width of its code point. -/
def escapeCode (n : Nat) : List Char :=
  if n < 0x100 then '\\' :: 'x' :: hexDigits n 2
  else if n < 0x10000 then '\\' :: 'u' :: hexDigits n 4
  else '\\' :: 'U' :: hexDigits n 8

def quoteChar (mark c : Char) : List Char :=
  if c = mark ∨ c = '\\' then ['\\', c]
  else if c = '\n' then ['\\', 'n']
  else if c = '\r' then ['\\', 'r']
  else if c = '\t' then ['\\', 't']
  else if isPrintable c then [c]
  else escapeCode (code c)

def quoted (s : String) : String :=
  let mark := quotationMark s.toList
  String.ofList ([mark] ++ s.toList.flatMap (quoteChar mark) ++ [mark])

end Chatflow.Text
