import BundleBinding.Number.Binary

/-!
Decimal text of binary numbers: the fewest digits that read back to the number, and of those the
nearest to it.

The numbers that round to `m * 2 ^ q` form an interval from halfway to the number below to halfway
to the number above, ends included when `m` is even. The digits are found on the coarsest decimal
grid with a point in that interval; if any point of a grid lies in it, so does one of the two grid
neighbours of the number itself.
-/

namespace BundleBinding

/-- The decimal number `digits * 10 ^ exponent`. -/
structure Decimal where
  digits : Nat
  exponent : Int
  deriving Repr, DecidableEq

namespace Decimal

/-- Compares `n * 10 ^ i` with `m * 2 ^ j` exactly. -/
def compareScaled (n : Nat) (i : Int) (m : Nat) (j : Int) : Ordering :=
  compare (n * Nat.pow 10 i.toNat * Nat.pow 2 (-j).toNat)
    (m * Nat.pow 2 j.toNat * Nat.pow 10 (-i).toNat)

/-- Does the decimal round to the binary number of the given significand and exponent? Below a power
of two the gap to the next number is half as wide as above it. -/
def readsBack (significand : Nat) (exponent : Int) (narrowBelow : Bool) (decimal : Decimal) :
    Bool :=
  let low := if narrowBelow then 4 * significand - 1 else 4 * significand - 2
  let high := 4 * significand + 2
  let atLow := compareScaled decimal.digits decimal.exponent low (exponent - 2)
  let atHigh := compareScaled decimal.digits decimal.exponent high (exponent - 2)
  let endsIncluded := significand % 2 == 0
  (atLow == .gt || (endsIncluded && atLow == .eq)) &&
    (atHigh == .lt || (endsIncluded && atHigh == .eq))

/-- The least power of ten above the number, found from an estimate by exact comparison. -/
def scaleAbove (significand : Nat) (exponent : Int) : Int :=
  let estimate := ((significand.log2 : Int) + exponent) * 30103 / 100000 - 1
  let above (power : Int) : Bool := compareScaled 1 power significand exponent == .gt
  if above estimate then estimate
  else if above (estimate + 1) then estimate + 1
  else if above (estimate + 2) then estimate + 2
  else estimate + 3

/-- The nearer of the two grid neighbours that reads back, if one does. A tie goes to the even
neighbour. -/
def onGrid? (significand : Nat) (exponent : Int) (narrowBelow : Bool) (grid : Int) :
    Option Decimal :=
  let numerator := significand * Nat.pow 2 exponent.toNat * Nat.pow 10 (-grid).toNat
  let denominator := Nat.pow 2 (-exponent).toNat * Nat.pow 10 grid.toNat
  let below := numerator / denominator
  let twice := 2 * (numerator % denominator)
  let lower : Decimal := ⟨below, grid⟩
  let upper : Decimal := ⟨below + 1, grid⟩
  let fits := readsBack significand exponent narrowBelow
  match fits lower, fits upper with
  | true, true =>
      if twice < denominator || (twice == denominator && below % 2 == 0) then some lower
      else some upper
  | true, false => some lower
  | false, true => some upper
  | false, false => none

def stripZeros (fuel : Nat) (decimal : Decimal) : Decimal :=
  match fuel with
  | 0 => decimal
  | fuel + 1 =>
      if decimal.digits ≠ 0 ∧ decimal.digits % 10 = 0 then
        stripZeros fuel ⟨decimal.digits / 10, decimal.exponent + 1⟩
      else decimal

/-- The shortest decimal that reads back to `significand * 2 ^ exponent`, nearest to it. Seventeen
digits identify every number; beyond them the exact value would follow. -/
def shortest (significand : Nat) (exponent : Int) (narrowBelow : Bool) : Decimal :=
  let scale := scaleAbove significand exponent
  let found := (List.range 17).findSome? fun (digits : Nat) =>
    onGrid? significand exponent narrowBelow (scale - digits - 1)
  match found with
  | some decimal => stripZeros 20 decimal
  | none =>
      ⟨significand * Nat.pow 2 exponent.toNat * Nat.pow 5 (-exponent).toNat, min exponent 0⟩

/-- Written positionally with at least one decimal while the leading digit stands between the fifth
place behind the point and the sixteenth before it; otherwise one digit before the point, and a
signed exponent. -/
def render (decimal : Decimal) : String :=
  let digits := Nat.toDigits 10 decimal.digits
  let count : Int := digits.length
  let leading := decimal.exponent + count - 1
  let text (characters : List Char) : String := String.ofList characters
  if leading < -5 ∨ leading > 15 then
    let fraction := digits.drop 1
    let point := if fraction.isEmpty then "" else "." ++ text fraction
    let sign := if leading < 0 then "-" else "+"
    text (digits.take 1) ++ point ++ "e" ++ sign ++ toString leading.natAbs
  else if 0 ≤ decimal.exponent then
    text digits ++ text (List.replicate decimal.exponent.toNat '0') ++ ".0"
  else if 0 ≤ leading then
    let whole := (leading + 1).toNat
    text (digits.take whole) ++ "." ++ text (digits.drop whole)
  else
    "0." ++ text (List.replicate (-leading - 1).toNat '0') ++ text digits

end Decimal

namespace Double

def shortest (number : Double) : Decimal :=
  let (significand, exponent) := BinaryFormat.double.significand number.magnitude
  let narrowBelow := significand == Nat.pow 2 52 && exponent > BinaryFormat.double.leastExponent
  Decimal.shortest significand exponent narrowBelow

def render (number : Double) : String :=
  let sign := if number.isNegative then "-" else ""
  if number.isZero then sign ++ "0.0" else sign ++ number.shortest.render

end Double

end BundleBinding
