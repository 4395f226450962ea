/-!
Binary floating-point numbers by their bits, in the two interchange formats of 32 and 64 bits. All
arithmetic is exact on integers and rounds once, to nearest, ties to even.
-/

namespace BundleBinding

structure BinaryFormat where
  /-- Digits of the significand, the leading one included. -/
  precision : Nat
  /-- Width of the exponent field. -/
  exponentWidth : Nat
  deriving Repr, DecidableEq

namespace BinaryFormat

def single : BinaryFormat :=
  ⟨24, 8⟩

def double : BinaryFormat :=
  ⟨53, 11⟩

/-- The weight of the last digit of the smallest numbers is two to this power. -/
def leastExponent (format : BinaryFormat) : Int :=
  3 - Nat.pow 2 (format.exponentWidth - 1) - format.precision

def infinity (format : BinaryFormat) : Nat :=
  (Nat.pow 2 format.exponentWidth - 1) * Nat.pow 2 (format.precision - 1)

def signWeight (format : BinaryFormat) : Nat :=
  Nat.pow 2 (format.exponentWidth + format.precision - 1)

/-- Numerator over denominator, rounded to the nearest integer, a half to the even one. -/
def roundQuotient (numerator denominator : Nat) : Nat :=
  let quotient := numerator / denominator
  let remainder := numerator % denominator
  if 2 * remainder < denominator then quotient
  else if 2 * remainder > denominator then quotient + 1
  else if quotient % 2 = 0 then quotient
  else quotient + 1

/-- The exponent of the leading binary digit of `numerator / denominator * 2 ^ exponent`. -/
def leadingExponent (numerator denominator : Nat) (exponent : Int) : Int :=
  let estimate := (numerator.log2 : Int) - denominator.log2
  if numerator * Nat.pow 2 (-estimate).toNat < denominator * Nat.pow 2 estimate.toNat then
    estimate + exponent - 1
  else
    estimate + exponent

/-- The bits of the number nearest to `numerator / denominator * 2 ^ exponent`. -/
def round (format : BinaryFormat) (numerator denominator : Nat) (exponent : Int) : Nat :=
  if numerator = 0 then 0
  else
    let leading := leadingExponent numerator denominator exponent
    let unit := max (leading - format.precision + 1) format.leastExponent
    let rounded := roundQuotient (numerator * Nat.pow 2 (exponent - unit).toNat)
      (denominator * Nat.pow 2 (unit - exponent).toNat)
    min format.infinity
      ((unit - format.leastExponent).toNat * Nat.pow 2 (format.precision - 1) + rounded)

/-- The significand and the exponent of a finite magnitude: it is `significand * 2 ^ exponent`. -/
def significand (format : BinaryFormat) (magnitude : Nat) : Nat × Int :=
  let field := magnitude / Nat.pow 2 (format.precision - 1)
  let fraction := magnitude % Nat.pow 2 (format.precision - 1)
  if field = 0 then (fraction, format.leastExponent)
  else (fraction + Nat.pow 2 (format.precision - 1), format.leastExponent + field - 1)

end BinaryFormat

/-- A number in the format of 64 bits. -/
structure Double where
  bits : UInt64
  deriving Repr, DecidableEq

/-- The bits as sixteen hexadecimal digits. -/
def Double.hexadecimal (number : Double) : String :=
  let digits := Nat.toDigits 16 number.bits.toNat
  String.ofList (List.replicate (16 - digits.length) '0' ++ digits)

/-- A number in the format of 32 bits. -/
structure Single where
  bits : UInt32
  deriving Repr, DecidableEq

namespace Double

def ofMagnitude (negative : Bool) (magnitude : Nat) : Double :=
  ⟨UInt64.ofNat (magnitude + if negative then BinaryFormat.double.signWeight else 0)⟩

def isNegative (number : Double) : Bool :=
  BinaryFormat.double.signWeight ≤ number.bits.toNat

def magnitude (number : Double) : Nat :=
  number.bits.toNat % BinaryFormat.double.signWeight

def isFinite (number : Double) : Bool :=
  number.magnitude < BinaryFormat.double.infinity

def isZero (number : Double) : Bool :=
  number.magnitude = 0

def withSign (negative : Bool) (number : Double) : Double :=
  ofMagnitude negative number.magnitude

def ofInt (value : Int) : Double :=
  ofMagnitude (value < 0) (BinaryFormat.double.round value.natAbs 1 0)

/-- The product of two finite numbers of positive sign. -/
def mulPositive (left right : Double) : Double :=
  let (m, p) := BinaryFormat.double.significand left.magnitude
  let (n, q) := BinaryFormat.double.significand right.magnitude
  ofMagnitude false (BinaryFormat.double.round (m * n) 1 (p + q))

/-- The quotient of two finite numbers of positive sign, the second not zero. -/
def divPositive (left right : Double) : Double :=
  let (m, p) := BinaryFormat.double.significand left.magnitude
  let (n, q) := BinaryFormat.double.significand right.magnitude
  ofMagnitude false (BinaryFormat.double.round m n (p - q))

def powerOfTen (power : Nat) : Double :=
  ofMagnitude false (BinaryFormat.double.round (Nat.pow 10 power) 1 0)

end Double

namespace Single

def ofMagnitude (negative : Bool) (magnitude : Nat) : Single :=
  ⟨UInt32.ofNat (magnitude + if negative then BinaryFormat.single.signWeight else 0)⟩

def isNegative (number : Single) : Bool :=
  BinaryFormat.single.signWeight ≤ number.bits.toNat

def magnitude (number : Single) : Nat :=
  number.bits.toNat % BinaryFormat.single.signWeight

def isFinite (number : Single) : Bool :=
  number.magnitude < BinaryFormat.single.infinity

/-- The same number in the wider format. A number that is not finite becomes the infinity of its
sign. -/
def widen (number : Single) : Double :=
  if number.isFinite then
    let (m, q) := BinaryFormat.single.significand number.magnitude
    Double.ofMagnitude number.isNegative (BinaryFormat.double.round m 1 q)
  else
    Double.ofMagnitude number.isNegative BinaryFormat.double.infinity

end Single

/-- The nearest number in the narrower format; infinity beyond its range. -/
def Double.narrow (number : Double) : Single :=
  if number.isFinite then
    let (m, q) := BinaryFormat.double.significand number.magnitude
    Single.ofMagnitude number.isNegative (BinaryFormat.single.round m 1 q)
  else
    Single.ofMagnitude number.isNegative BinaryFormat.single.infinity

end BundleBinding
