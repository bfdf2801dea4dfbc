import EntityCatalog.Number.Decimal

/-!
# Reduced decimals

Every finite number, binary or decimal, has one reduced form: a sign and a coefficient without
trailing zeros times a power of ten, and one form for zero. Two numbers are equal exactly if their
reduced forms are, however large their exponents.
-/

namespace EntityCatalog.Number

/-- The number `±coefficient · 10 ^ exponent`, with a coefficient that ends in no zero. -/
structure Reduced where
  negative : Bool
  coefficient : Nat
  exponent : Int
deriving DecidableEq, Repr

namespace Reduced

/-- The reduced form of `±coefficient · 10 ^ exponent`. -/
def ofParts (negative : Bool) (coefficient : Nat) (exponent : Int) : Reduced :=
  if coefficient = 0 then ⟨false, 0, 0⟩
  else
    let digits := (Nat.toDigits 10 coefficient).reverse
    let significant := digits.dropWhile (· == '0')
    ⟨negative, digitsValue significant.reverse, exponent + (digits.length - significant.length)⟩

/-- The reduced form of an integer. -/
def ofInteger (integer : Int) : Reduced := ofParts (integer < 0) integer.natAbs 0

/-- The reduced form of `±significand · 2 ^ exponent`; a half is five tenths. -/
def ofBinary (negative : Bool) (significand : Nat) (exponent : Int) : Reduced :=
  if exponent < 0 then ofParts negative (significand * Nat.pow 5 (-exponent).toNat) exponent
  else ofParts negative (significand * Nat.pow 2 exponent.toNat) 0

/-- The integer that a reduced form is, if it has no fractional part. -/
def integer? (number : Reduced) : Option Int :=
  if number.exponent < 0 then none
  else some (withSign number.negative (number.coefficient * Nat.pow 10 number.exponent.toNat))

/-- The count of digits before the point; for numbers below one, zero or less. -/
def wholeDigits (number : Reduced) : Int :=
  number.exponent + (Nat.toDigits 10 number.coefficient).length

/-- The number without its fractional part. -/
def truncated (number : Reduced) : Int :=
  if number.wholeDigits ≤ 0 then 0
  else
    withSign number.negative
      (number.coefficient * Nat.pow 10 number.exponent.toNat /
        Nat.pow 10 (-number.exponent).toNat)

/-- How the magnitudes of two numbers with as many digits before the point compare. -/
def compareAligned (left right : Reduced) : Ordering :=
  let least := min left.exponent right.exponent
  let leftCoefficient := left.coefficient * Nat.pow 10 (left.exponent - least).toNat
  let rightCoefficient := right.coefficient * Nat.pow 10 (right.exponent - least).toNat
  if leftCoefficient < rightCoefficient then .lt
  else if leftCoefficient = rightCoefficient then .eq
  else .gt

/-- How the magnitudes of two numbers other than zero compare. -/
def compareMagnitudes (left right : Reduced) : Ordering :=
  if left.wholeDigits < right.wholeDigits then .lt
  else if right.wholeDigits < left.wholeDigits then .gt
  else left.compareAligned right

/-- The sign of a number: minus one, zero or one. -/
def sign (number : Reduced) : Int :=
  if number.coefficient = 0 then 0 else if number.negative then -1 else 1

/-- How two numbers compare, however large their exponents are. -/
def compare (left right : Reduced) : Ordering :=
  if left.sign < right.sign then .lt
  else if right.sign < left.sign then .gt
  else if left.sign = 0 then .eq
  else if left.sign = 1 then left.compareMagnitudes right
  else right.compareMagnitudes left

/-- Zero has one reduced form, whatever its sign and exponent. -/
theorem ofParts_zero (negative : Bool) (exponent : Int) :
    ofParts negative 0 exponent = ⟨false, 0, 0⟩ := rfl

end Reduced

/-- The reduced form of a finite floating-point number. -/
def reduced? (number : Float) : Option Reduced :=
  match parts number with
  | .finite negative significand exponent => some (.ofBinary negative significand exponent)
  | _ => none

/-- The reduced form of a finite decimal number. -/
def Decimal.reduced? : Decimal → Option Reduced
  | .finite negative coefficient exponent => some (.ofParts negative coefficient exponent)
  | _ => none

end EntityCatalog.Number
