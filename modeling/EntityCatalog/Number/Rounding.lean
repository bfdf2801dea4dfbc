/-!
# Rounding quotients

A quotient of natural numbers is rounded to the nearest natural number, and a quotient halfway
between two of them to the even one.
-/

namespace EntityCatalog.Number

/-- The natural number nearest to a quotient; of two equally near ones, the even one. -/
def roundHalfEven (numerator denominator : Nat) : Nat :=
  let below := numerator / denominator
  let twice := 2 * (numerator % denominator)
  if twice < denominator then below
  else if denominator < twice then below + 1
  else if below % 2 = 0 then below
  else below + 1

/-- Rounding a multiple of the denominator is exact. -/
theorem roundHalfEven_mul (quotient denominator : Nat) (positive : 0 < denominator) :
    roundHalfEven (quotient * denominator) denominator = quotient := by
  simp [roundHalfEven, Nat.mul_div_cancel _ positive, positive]

/-- The rounded quotient is at most half a unit away. -/
theorem roundHalfEven_within_half (numerator denominator : Nat) (positive : 0 < denominator) :
    2 * numerator ≤ (2 * roundHalfEven numerator denominator + 1) * denominator ∧
      2 * roundHalfEven numerator denominator * denominator ≤ 2 * numerator + denominator := by
  have split := Nat.div_add_mod numerator denominator
  have below := Nat.mod_lt numerator positive
  generalize numerator / denominator = quotient at *
  generalize numerator % denominator = remainder at *
  subst split
  have unfolded : roundHalfEven (denominator * quotient + remainder) denominator =
      if 2 * remainder < denominator then quotient
      else if denominator < 2 * remainder then quotient + 1
      else if quotient % 2 = 0 then quotient
      else quotient + 1 := by
    simp [roundHalfEven, Nat.mul_add_div positive, Nat.div_eq_of_lt below,
      Nat.mod_eq_of_lt below]
  rw [unfolded]
  have product : denominator * quotient = quotient * denominator := Nat.mul_comm _ _
  split
  · constructor <;> simp only [Nat.add_mul, Nat.mul_add, Nat.mul_assoc, product] <;> omega
  · split
    · constructor <;> simp only [Nat.add_mul, Nat.mul_add, Nat.mul_assoc, product] <;> omega
    · split <;> constructor <;>
        simp only [Nat.add_mul, Nat.mul_add, Nat.mul_assoc, product] <;> omega

end EntityCatalog.Number
