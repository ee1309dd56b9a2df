import Chatflow.Decimal.Rounding
import Chatflow.Decimal.Shortest

/-!
# Texts of doubles

Three ways to write a double: the shortest text that is read back, a text of six significant
digits without trailing zeros, and a text with a fixed number of decimal places.
-/

namespace Chatflow.Decimal

/-- How a text of digits is laid out. Numbers `0.d₁d₂… * 10 ^ point` with `point` between the two
bounds are written positionally. -/
structure Layout where
  lowestPoint : Int
  highestPoint : Int
  keepsFraction : Bool

/-- The shortest form is positional from `1e-04` up to sixteen digits and always shows a
fraction or an exponent. -/
def Layout.shortest : Layout := ⟨-3, 16, true⟩

/-- The general form is positional from `1e-04` up to six digits. -/
def Layout.general : Layout := ⟨-3, 6, false⟩

def digitText (n : Nat) : List Char := Nat.toDigits 10 n

/-- An exponent has a sign and at least two digits. -/
def exponentText (e : Int) : List Char :=
  let digits := digitText e.natAbs
  let padded := if digits.length < 2 then '0' :: digits else digits
  'e' :: (if e < 0 then '-' else '+') :: padded

/-- Significant digits without their trailing zeros. -/
def dropTrailingZeros (ds : List Char) : List Char :=
  (ds.reverse.dropWhile (· = '0')).reverse

/-- Lays out the digits `ds` of the number `0.ds * 10 ^ point`. -/
def Layout.render (layout : Layout) (ds : List Char) (point : Int) : List Char :=
  let count : Int := ds.length
  if point < layout.lowestPoint ∨ layout.highestPoint < point then
    match ds with
    | [] => []
    | d :: rest => d :: ((if rest = [] then [] else '.' :: rest) ++ exponentText (point - 1))
  else if point ≤ 0 then
    ['0', '.'] ++ List.replicate (-point).toNat '0' ++ ds
  else if count ≤ point then
    ds ++ List.replicate (point - count).toNat '0'
      ++ (if layout.keepsFraction then ['.', '0'] else [])
  else ds.take point.toNat ++ '.' :: ds.drop point.toNat

def signText (negative : Bool) : List Char := if negative then ['-'] else []

/-- The shortest text that is read back as the same double. -/
def text (x : Float) : String :=
  match Binary.ofFloat x with
  | .nan => "nan"
  | .infinite negative => String.ofList (signText negative ++ "inf".toList)
  | .finite negative 0 _ => String.ofList (signText negative ++ "0.0".toList)
  | .finite negative m p =>
    let d := shortest m p
    let ds := digitText d.digits
    String.ofList (signText negative
      ++ Layout.shortest.render (dropTrailingZeros ds) (ds.length + d.exponent))

/-- `m * 2 ^ p / 10 ^ t` rounded to an integer. -/
def roundScaled (m : Nat) (p t : Int) : Nat :=
  roundDiv (m * twoTo p.toNat * tenTo (-t).toNat) (tenTo t.toNat * twoTo (-p).toNat)

/-- Six significant digits without trailing zeros. -/
def general (x : Float) : String :=
  match Binary.ofFloat x with
  | .nan => "nan"
  | .infinite negative => String.ofList (signText negative ++ "inf".toList)
  | .finite negative 0 _ => String.ofList (signText negative ++ ['0'])
  | .finite negative m p =>
    let t := decimalExponent m p - 5
    let ds := digitText (roundScaled m p t)
    String.ofList (signText negative
      ++ Layout.general.render (dropTrailingZeros ds) (ds.length + t))

/-- A fixed number of decimal places, at least one. -/
def fixed (places : Nat) (x : Float) : String :=
  match Binary.ofFloat x with
  | .nan => "nan"
  | .infinite negative => String.ofList (signText negative ++ "inf".toList)
  | .finite negative m p =>
    let ds := digitText (roundScaled m p (-(places : Int)))
    let padded := List.replicate (places + 1 - ds.length) '0' ++ ds
    String.ofList (signText negative ++ padded.take (padded.length - places)
      ++ '.' :: padded.drop (padded.length - places))

/-- The double nearest to `digits * 10 ^ exponent`. Exponents far outside the range of doubles
give zero or infinity at once. -/
def toFloat (digits : Nat) (exponent : Int) : Float :=
  if digits = 0 then 0.0
  else
    let magnitude := exponent + (digitText digits).length
    if magnitude < -400 then 0.0
    else if 400 < magnitude then 1.0 / 0.0
    else Float.ofScientific digits (decide (exponent < 0)) exponent.natAbs

/-- The double nearest to a double rounded to a number of decimal places. -/
def roundPlaces (places : Nat) (x : Float) : Float :=
  match Binary.ofFloat x with
  | .finite negative m p =>
    let y := toFloat (roundScaled m p (-(places : Int))) (-(places : Int))
    if negative then -y else y
  | _ => x

end Chatflow.Decimal
