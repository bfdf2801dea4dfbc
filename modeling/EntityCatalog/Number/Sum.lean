import EntityCatalog.Number.Decimal

/-!
# Sums of decimal numbers

The sum of two decimal numbers is rounded to a greatest number of digits, and one halfway between
two of them to the even one. Of two numbers whose exponents lie far apart, the lesser one counts as
one unit behind the last digit that matters, so no long coefficient is ever formed. A difference is
the sum with the negated number. A number that is rounded to a place must not need more digits.
-/

namespace EntityCatalog.Number

/-- Why decimal numbers have no sum, or a decimal number cannot be rounded. -/
inductive SumFault where
  /-- One of them signals, is infinite like the other one is not, or needs too many digits. -/
  | undefined
  /-- The sum lies above all numbers. -/
  | excessive
deriving DecidableEq, Repr

/-- The most digits of a sum. -/
def sumDigits : Nat := 28

/-- The greatest place of the first digit of a sum. -/
def greatestPlace : Int := 999999

/-- The number `coefficient · 10 ^ exponent`, with a signed coefficient. -/
structure Scaled where
  coefficient : Int
  exponent : Int
deriving DecidableEq, Repr

namespace Scaled

/-- The count of digits of the coefficient. -/
def digits (number : Scaled) : Nat := (Nat.toDigits 10 number.coefficient.natAbs).length

/-- The coefficient for a lower exponent. -/
def coefficientAt (number : Scaled) (exponent : Int) : Int :=
  number.coefficient * Nat.pow 10 (number.exponent - exponent).toNat

/--
The exponent for the sum of a number with another one of lower exponent: behind the digits that
matter of the first one.
-/
def sumExponent (number : Scaled) : Int :=
  number.exponent + min (-1) ((number.digits : Int) - sumDigits - 2)

/-- A number next to another one: one unit of an exponent if its first digit stands below it. -/
def least (number : Scaled) (exponent : Int) : Scaled :=
  if number.coefficient = 0 then ⟨0, max number.exponent exponent⟩
  else if number.digits + number.exponent - 1 < exponent then
    ⟨if number.coefficient < 0 then -1 else 1, exponent⟩
  else number

/-- The sum of two numbers, the first of which has the greater exponent. -/
def sumInOrder (high low : Scaled) : Scaled :=
  if high.coefficient = 0 then low
  else
    let near := low.least high.sumExponent
    let exponent := min near.exponent high.exponent
    ⟨high.coefficientAt exponent + near.coefficientAt exponent, exponent⟩

/-- The sum of two numbers. -/
def sum (left right : Scaled) : Scaled :=
  if right.exponent ≤ left.exponent then left.sumInOrder right else right.sumInOrder left

/-- A number with at most so many digits. -/
def rounded (number : Scaled) : Scaled :=
  let surplus := number.digits - sumDigits
  if surplus = 0 then number
  else
    let coefficient := roundHalfEven number.coefficient.natAbs (Nat.pow 10 surplus)
    ⟨withSign (number.coefficient < 0) coefficient, number.exponent + surplus⟩

/-- The decimal number of a sum, unless it lies above all numbers. -/
def toDecimal? (number : Scaled) : Except SumFault Decimal :=
  if number.coefficient ≠ 0 ∧ greatestPlace < number.exponent + number.digits - 1 then
    .error .excessive
  else .ok (.finite (number.coefficient < 0) number.coefficient.natAbs number.exponent)

/-- A number that has few enough digits is not rounded. -/
theorem rounded_of_digits_le {number : Scaled} (few : number.digits ≤ sumDigits) :
    number.rounded = number := by
  simp [rounded, Nat.sub_eq_zero_of_le few]

end Scaled

namespace Decimal

/-- The sum of two decimal numbers. -/
def plus? : Decimal → Decimal → Except SumFault Decimal
  | .notANumber _ true _, _ => .error .undefined
  | _, .notANumber _ true _ => .error .undefined
  | .notANumber negative false payload, _ => .ok (.notANumber negative false payload)
  | _, .notANumber negative false payload => .ok (.notANumber negative false payload)
  | .infinite left, .infinite right =>
      if left = right then .ok (.infinite left) else .error .undefined
  | .infinite negative, .finite .. => .ok (.infinite negative)
  | .finite .., .infinite negative => .ok (.infinite negative)
  | .finite left leftCoefficient leftExponent, .finite right rightCoefficient rightExponent =>
      let sum := Scaled.sum ⟨withSign left leftCoefficient, leftExponent⟩
        ⟨withSign right rightCoefficient, rightExponent⟩
      sum.rounded.toDecimal?

/-- The number with the other sign; what is no number has none. -/
def negated : Decimal → Decimal
  | .finite negative coefficient exponent => .finite (!negative) coefficient exponent
  | .infinite negative => .infinite !negative
  | number => number

/-- The difference of two decimal numbers. -/
def minus? (left right : Decimal) : Except SumFault Decimal := left.plus? right.negated

/-- A number with so many decimals, of two equally near ones the one with an even last digit. -/
def roundedTo? (decimals : Nat) : Decimal → Except SumFault Decimal
  | .finite negative coefficient exponent =>
      let shift := exponent + decimals
      let digits := (Nat.toDigits 10 coefficient).length
      if coefficient ≠ 0 ∧ (sumDigits : Int) < digits + shift then .error .undefined
      else
        let rounded :=
          if coefficient = 0 ∨ shift < -digits then 0
          else if 0 ≤ shift then coefficient * Nat.pow 10 shift.toNat
          else roundHalfEven coefficient (Nat.pow 10 (-shift).toNat)
        if sumDigits < (Nat.toDigits 10 rounded).length then .error .undefined
        else .ok (.finite negative rounded (-decimals))
  | .infinite _ | .notANumber _ true _ => .error .undefined
  | number => .ok number

/-- The decimal number of an integer. -/
def ofInteger (integer : Int) : Decimal := .finite (integer < 0) integer.natAbs 0

end Decimal

end EntityCatalog.Number
