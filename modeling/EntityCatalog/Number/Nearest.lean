import EntityCatalog.Number.Binary
import EntityCatalog.Number.Rounding

/-!
# The nearest floating-point number

A quotient of natural numbers is rounded to the nearest floating-point number, and one halfway
between two of them to the one with the even significand. The quotient is brought to a unit in
which its significand has 53 bits, or to the least unit there is, and rounded there by exact
arithmetic. Numbers from half a unit above the greatest one on become infinite.
-/

namespace EntityCatalog.Number

/-- The exponent of the least unit. -/
def leastExponent : Int := -1074

/-- A quotient divided by a power of two, as a numerator and a denominator. -/
def scaledByPowerOfTwo (numerator denominator : Nat) (exponent : Int) : Nat × Nat :=
  (numerator * Nat.pow 2 (-exponent).toNat, denominator * Nat.pow 2 exponent.toNat)

/--
The exponent of the unit in which a positive quotient has a significand of 53 bits, but not below
the least one. The lengths of the two numbers determine it up to one.
-/
def unitExponent (numerator denominator : Nat) : Int :=
  let low : Int := (Nat.log2 numerator : Int) - Nat.log2 denominator - 53
  let scaled := scaledByPowerOfTwo numerator denominator low
  let exponent := if Nat.pow 2 53 * scaled.2 ≤ scaled.1 then low + 1 else low
  max exponent leastExponent

/--
The pattern of bits of the number nearest to a quotient, without its sign. A significand that is
rounded up to 54 bits carries over into the exponent.
-/
def nearestBits (numerator denominator : Nat) : Nat :=
  if numerator = 0 then 0
  else
    let exponent := unitExponent numerator denominator
    let scaled := scaledByPowerOfTwo numerator denominator exponent
    let significand := roundHalfEven scaled.1 scaled.2
    min ((exponent - leastExponent).toNat * Nat.pow 2 52 + significand)
      ((Nat.pow 2 11 - 1) * Nat.pow 2 52)

/-- The floating-point number nearest to a quotient, with a sign. -/
def ofQuotient (negative : Bool) (numerator denominator : Nat) : Float :=
  let sign := if negative then Nat.pow 2 63 else 0
  Float.ofBits (UInt64.ofNat (sign + nearestBits numerator denominator))

/-- A power of ten above every floating-point number, and far from the reciprocals of the least. -/
def extremeExponent : Int := 400

/--
The floating-point number nearest to a decimal fraction `±coefficient · 10 ^ exponent`. One whose
first digit stands at an extreme place is infinite or zero without its power of ten being formed.
-/
def ofDecimal (negative : Bool) (coefficient : Nat) (exponent : Int) : Float :=
  let leading := exponent + (Nat.toDigits 10 coefficient).length
  if coefficient = 0 ∨ leading < -extremeExponent then ofQuotient negative 0 1
  else if extremeExponent < leading then (if negative then -infinity else infinity)
  else
    ofQuotient negative (coefficient * Nat.pow 10 exponent.toNat) (Nat.pow 10 (-exponent).toNat)

/-- The floating-point number nearest to an integer. -/
def ofInteger (integer : Int) : Float := ofQuotient (integer < 0) integer.natAbs 1

end EntityCatalog.Number
