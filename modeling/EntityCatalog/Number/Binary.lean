/-!
# Binary floating-point numbers as exact values

A finite floating-point number is a signed integer times a power of two. This module takes a
number apart into those three pieces, without any rounding of its own.
-/

namespace EntityCatalog.Number

/-- A floating-point number taken apart. -/
inductive Parts where
  /-- The number `±significand · 2 ^ exponent`. -/
  | finite (negative : Bool) (significand : Nat) (exponent : Int)
  | infinite (negative : Bool)
  | notANumber
deriving DecidableEq, Repr

/-- The pieces of a floating-point number. -/
def parts (number : Float) : Parts :=
  let bits := number.toBits.toNat
  let negative := bits / Nat.pow 2 63 == 1
  let exponent : Nat := bits / Nat.pow 2 52 % Nat.pow 2 11
  let fraction : Nat := bits % Nat.pow 2 52
  if exponent = Nat.pow 2 11 - 1 then
    if fraction = 0 then .infinite negative else .notANumber
  else if exponent = 0 then .finite negative fraction (-1074)
  else .finite negative (Nat.pow 2 52 + fraction) ((exponent : Int) - 1075)

/-- The fraction `significand · 2 ^ exponent` as a numerator and a denominator. -/
def powerOfTwoRatio (significand : Nat) (exponent : Int) : Nat × Nat :=
  (significand * Nat.pow 2 exponent.toNat, Nat.pow 2 (-exponent).toNat)

/-- A natural number with a sign. -/
def withSign (negative : Bool) (magnitude : Nat) : Int :=
  if negative then -(magnitude : Int) else magnitude

/-- The positive infinity. -/
def infinity : Float := 1.0 / 0.0

/-- The value that is no number. -/
def undefinedNumber : Float := 0.0 / 0.0

end EntityCatalog.Number
