import EntityCatalog.Number.Rounding
import EntityCatalog.Number.Shortest

/-!
# Decimal notations of quotients

A quotient of natural numbers is written with as many digits as are asked for, a half rounded to
the even neighbour: in fixed notation with a count of decimals, in scientific notation with one
digit before the point and an exponent, or in general notation, which is fixed for exponents from
`-4` up to the count of digits, scientific otherwise, and drops trailing zeros. The point is
written even if nothing follows it when a notation is asked to be explicit.
-/

namespace EntityCatalog.Number

/-- The three notations of a number. -/
inductive Layout where
  | fixed
  | scientific
  | general
deriving DecidableEq, Repr

/-- Digits before and after the point; an explicit point is written even if nothing follows it. -/
def pointed (explicit : Bool) (whole fraction : List Char) : List Char :=
  if fraction = [] ∧ !explicit then whole else whole ++ '.' :: fraction

/-- Digits without the zeros at their end. -/
def withoutTrailingZeros (digits : List Char) : List Char :=
  (digits.reverse.dropWhile (· == '0')).reverse

/-- A quotient in fixed notation. -/
def fixedText (explicit : Bool) (numerator denominator decimals : Nat) : List Char :=
  let scaled := Nat.toDigits 10 (roundHalfEven (numerator * Nat.pow 10 decimals) denominator)
  let digits := List.replicate (decimals + 1 - scaled.length) '0' ++ scaled
  let wholeCount := digits.length - decimals
  pointed explicit (digits.take wholeCount) (digits.drop wholeCount)

/-- The place of the first digit of a positive quotient: how many digits follow it to the point. -/
def leadingPlace (numerator denominator : Nat) : Int :=
  let place : Int :=
    (Nat.toDigits 10 numerator).length - (Nat.toDigits 10 denominator).length
  if denominator * Nat.pow 10 place.toNat ≤ numerator * Nat.pow 10 (-place).toNat then place
  else place - 1

/-- A count of digits of a quotient, and the place of the first one. -/
structure LeadingDigits where
  digits : List Char
  place : Int
deriving DecidableEq, Repr

/-- The first digits of a quotient; zero has its first digit at the place of the ones. -/
def leadingDigits (numerator denominator count : Nat) : LeadingDigits :=
  if numerator = 0 then ⟨List.replicate count '0', 0⟩
  else
    let place := leadingPlace numerator denominator
    let shift : Int := count - 1 - place
    let digits := Nat.toDigits 10
      (roundHalfEven (numerator * Nat.pow 10 shift.toNat) (denominator * Nat.pow 10 (-shift).toNat))
    ⟨digits.take count, place + (digits.length - count)⟩

/-- Digits in scientific notation, with the place of the first one as the exponent. -/
def scientificText (explicit : Bool) (leading : LeadingDigits) : List Char :=
  pointed explicit (leading.digits.take 1) (leading.digits.drop 1) ++ exponentText leading.place

/-- Digits with the point at its place. -/
def positionalText (explicit : Bool) (leading : LeadingDigits) : List Char :=
  if leading.place < 0 then
    pointed explicit ['0'] (List.replicate (-leading.place - 1).toNat '0' ++ leading.digits)
  else
    let wholeCount := leading.place.toNat + 1
    let zeros := List.replicate (wholeCount - leading.digits.length) '0'
    pointed explicit (leading.digits.take wholeCount ++ zeros) (leading.digits.drop wholeCount)

/-- A count of digits that every floating-point number can be written with. -/
def sufficientDigits : Nat := 800

/--
A quotient in general notation; the explicit one keeps all digits, and there is at least one.
Digits that would be zeros at the end are not formed where they are dropped.
-/
def generalText (explicit : Bool) (numerator denominator digits : Nat) : List Char :=
  let count := max digits 1
  let formed := if explicit then count else min count sufficientDigits
  let leading := leadingDigits numerator denominator formed
  let kept :=
    if explicit then leading
    else { leading with digits := withoutTrailingZeros leading.digits }
  if leading.place < -4 ∨ (count : Int) ≤ leading.place then scientificText explicit kept
  else positionalText explicit kept

/-- A quotient in one of the notations, with a precision that each of them counts in its own way. -/
def Layout.text (layout : Layout) (explicit : Bool) (numerator denominator precision : Nat) :
    List Char :=
  match layout with
  | .fixed => fixedText explicit numerator denominator precision
  | .scientific => scientificText explicit (leadingDigits numerator denominator (precision + 1))
  | .general => generalText explicit numerator denominator precision

end EntityCatalog.Number
