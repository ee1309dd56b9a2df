import Chatflow.Decimal.Binary

/-!
# Shortest decimal forms

The fewest decimal digits that are read back as the same double, and of those the nearest. All
comparisons are made on natural numbers.
-/

namespace Chatflow.Decimal

/-- The number `digits * 10 ^ exponent`. -/
structure Digits where
  digits : Nat
  exponent : Int
deriving Repr, DecidableEq

/-- Compares `a * 2 ^ p` with `b * 10 ^ t`. -/
def leScaled (a : Nat) (p : Int) (b : Nat) (t : Int) : Bool :=
  a * twoTo p.toNat * tenTo (-t).toNat ≤ b * tenTo t.toNat * twoTo (-p).toNat

def geScaled (a : Nat) (p : Int) (b : Nat) (t : Int) : Bool :=
  b * tenTo t.toNat * twoTo (-p).toNat ≤ a * twoTo p.toNat * tenTo (-t).toNat

/-- The greatest `k` with `10 ^ k ≤ m * 2 ^ p`, for positive `m`. -/
def decimalExponent (m : Nat) (p : Int) : Int :=
  let guess := ((m.log2 : Int) + p) * 30103 / 100000
  if geScaled m p 1 (guess + 1) then guess + 1
  else if geScaled m p 1 guess then guess
  else guess - 1

/-- The integer part of `m * 2 ^ p / 10 ^ t`. -/
def floorScaled (m : Nat) (p t : Int) : Nat :=
  m * twoTo p.toNat * tenTo (-t).toNat / (tenTo t.toNat * twoTo (-p).toNat)

/-- Whether `d * 10 ^ t` is read back as `m * 2 ^ p`: it lies between the midpoints to the
neighbouring doubles, a midpoint itself going to the even mantissa. -/
def readsBack (m : Nat) (p : Int) (d : Nat) (t : Int) : Bool :=
  let below := if m = Binary.leadingBit ∧ -1074 < p then 1 else 2
  let low := 4 * m - below
  let high := 4 * m + 2
  if m % 2 = 0 then leScaled low (p - 2) d t && geScaled high (p - 2) d t
  else !geScaled low (p - 2) d t && !leScaled high (p - 2) d t

/-- The point of the grid of step `10 ^ t` that is read back as `m * 2 ^ p`; of the two points
around it the nearer one, and of two equally near ones the even one. -/
def onGrid? (m : Nat) (p t : Int) : Option Digits :=
  let d := floorScaled m p t
  match readsBack m p d t, readsBack m p (d + 1) t with
  | true, false => some ⟨d, t⟩
  | false, true => some ⟨d + 1, t⟩
  | false, false => none
  | true, true =>
    let up := if d % 2 = 0 then !leScaled (2 * m) p (2 * d + 1) t
      else geScaled (2 * m) p (2 * d + 1) t
    some ⟨if up then d + 1 else d, t⟩

/-- The decimal form of `m * 2 ^ p` with the fewest digits, for positive `m`. Seventeen digits
always suffice. -/
def shortest (m : Nat) (p : Int) : Digits :=
  let k := decimalExponent m p
  let grids := (List.range 17).map fun (n : Nat) => k - (n : Int)
  (grids.findSome? (onGrid? m p)).getD ⟨floorScaled m p (k - 16), k - 16⟩

end Chatflow.Decimal
