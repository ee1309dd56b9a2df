/-!
# Rounding quotients

A quotient of natural numbers rounded to the nearest integer, a half to the even neighbour.
-/

namespace Chatflow.Decimal

/-- The nearest integer to `num / den`; of two nearest ones the even one. -/
def roundDiv (num den : Nat) : Nat :=
  let low := num / den
  let rest := num % den
  if 2 * rest < den then low
  else if 2 * rest > den then low + 1
  else if low % 2 = 0 then low
  else low + 1

end Chatflow.Decimal
