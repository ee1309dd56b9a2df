/-!
# Doubles as exact numbers

A finite double is a sign and a product of a natural number with a power of two.
-/

namespace Chatflow.Decimal

def twoTo (n : Nat) : Nat := Nat.pow 2 n

def tenTo (n : Nat) : Nat := Nat.pow 10 n

/-- What a double stands for. The value of `finite` is `mantissa * 2 ^ exponent`. -/
inductive Binary where
  | nan
  | infinite (negative : Bool)
  | finite (negative : Bool) (mantissa : Nat) (exponent : Int)
deriving Repr, DecidableEq

namespace Binary

/-- The mantissa of the smallest number with a given binary exponent. -/
def leadingBit : Nat := twoTo 52

def ofBits (bits : Nat) : Binary :=
  let negative := bits / twoTo 63 % 2 == 1
  let biased := bits / leadingBit % 2048
  let fraction := bits % leadingBit
  if biased = 2047 then
    if fraction = 0 then infinite negative else nan
  else if biased = 0 then finite negative fraction (-1074)
  else finite negative (leadingBit + fraction) ((biased : Int) - 1075)

def ofFloat (x : Float) : Binary := ofBits x.toBits.toNat

/-- The integer that a double is, when it is one. -/
def toInt? : Binary → Option Int
  | finite negative mantissa exponent =>
    let magnitude? : Option Nat :=
      if 0 ≤ exponent then some (mantissa * twoTo exponent.toNat)
      else if mantissa % twoTo (-exponent).toNat = 0 then some (mantissa / twoTo (-exponent).toNat)
      else none
    magnitude?.map fun n => if negative then -(n : Int) else n
  | _ => none

/-- The integer part of a finite double, toward zero. -/
def truncate? : Binary → Option Int
  | finite negative mantissa exponent =>
    let magnitude : Nat :=
      if 0 ≤ exponent then mantissa * twoTo exponent.toNat
      else mantissa / twoTo (-exponent).toNat
    some (if negative then -(magnitude : Int) else magnitude)
  | _ => none

end Binary

end Chatflow.Decimal
