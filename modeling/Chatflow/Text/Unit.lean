/-!
# Code points and units

A text of the program is a list of code points, and a UTF-16 surrogate without its partner is one of
them. It is no character, so it is carried by the private-use character `U+100000` above it: a list
of characters stands for the list of their points, a carrier for the surrogate it carries. In such a
text the 2048 carriers have no meaning of their own; a text that may hold them as well is given by
its points.
-/

namespace Chatflow.Text

/-- The distance between a lone unit and its carrier. -/
def carrierOffset : Nat := 0x100000

/-- The carrier of a surrogate. -/
def carryUnit (unit : Nat) : Char := Char.ofNat (unit + carrierOffset)

def isSurrogate (n : Nat) : Bool := 0xD800 ≤ n && n ≤ 0xDFFF

def isHighSurrogate (n : Nat) : Bool := 0xD800 ≤ n && n ≤ 0xDBFF

def isLowSurrogate (n : Nat) : Bool := 0xDC00 ≤ n && n ≤ 0xDFFF

/-- The surrogate that a character carries. -/
def carriedUnit? (c : Char) : Option Nat :=
  if carrierOffset ≤ c.toNat ∧ isSurrogate (c.toNat - carrierOffset) then
    some (c.toNat - carrierOffset)
  else none

/-- The character of a surrogate pair. -/
def ofPair (high low : Nat) : Char :=
  Char.ofNat (0x10000 + (high - 0xD800) * 0x400 + (low - 0xDC00))

/-- Lower-case hexadecimal digits of a number, filled with zeros up to a width. -/
def hexDigits (n width : Nat) : List Char :=
  let digits := Nat.toDigits 16 n
  List.replicate (width - digits.length) '0' ++ digits

/-- The number of the code point that a character stands for. -/
def code (c : Char) : Nat := (carriedUnit? c).getD c.toNat

abbrev Point := Fin 0x110000

theorem code_lt (c : Char) : code c < 0x110000 := by
  have valid : c.toNat < 0xD800 ∨ 0xDFFF < c.toNat ∧ c.toNat < 0x110000 := c.valid
  unfold code carriedUnit?
  split
  · rw [Option.getD_some]
    omega
  · rw [Option.getD_none]
    omega

def point (c : Char) : Point := ⟨code c, code_lt c⟩

/-- The character that stands for a code point. -/
def ofPoint (p : Point) : Char := if isSurrogate p then carryUnit p else Char.ofNat p

/-- The code points of a text. -/
def points (s : String) : List Point := s.toList.map point

/-- The UTF-16 units of a code point: itself, or its two halves. -/
def units (p : Point) : List Point :=
  if p.val < 0x10000 then [p]
  else
    [⟨0xD800 + (p.val - 0x10000) / 0x400, by omega⟩,
      ⟨0xDC00 + (p.val - 0x10000) % 0x400, by omega⟩]

end Chatflow.Text
