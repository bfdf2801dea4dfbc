import Mathlib.Order.Basic
import EntityCatalog.Value.Quantity

/-!
# Comparison of integers

Integers are compared by their reduced forms, first by their signs, then by their counts of digits,
and only then by their aligned coefficients. This gives the usual order: the reduced form of an
integer stands for that integer, and of two numbers the one with fewer digits is the lesser one.
-/

namespace EntityCatalog

namespace Number

theorem digitsValue_toDigits (number : Nat) : digitsValue (Nat.toDigits 10 number) = number :=
  Nat.ofDigitChars_toDigits (by decide) (by decide)

theorem digitsValue_append_singleton (digits : List Char) (digit : Char) :
    digitsValue (digits ++ [digit]) = 10 * digitsValue digits + (digit.toNat - '0'.toNat) := by
  simp [digitsValue]

/-- Trailing zeros, which come first in the reversed digits, count as powers of ten. -/
theorem digitsValue_reverse_dropWhile (reversed : List Char) :
    digitsValue (reversed.dropWhile (· == '0')).reverse *
        Nat.pow 10 (reversed.length - (reversed.dropWhile (· == '0')).length) =
      digitsValue reversed.reverse := by
  induction reversed with
  | nil => rfl
  | cons digit rest ih =>
      by_cases zero : digit = '0'
      · have shorter : (rest.dropWhile (· == '0')).length ≤ rest.length :=
          (List.dropWhile_sublist _).length_le
        have power : Nat.pow 10 (rest.length + 1 - (rest.dropWhile (· == '0')).length) =
            Nat.pow 10 (rest.length - (rest.dropWhile (· == '0')).length) * 10 := by
          rw [Nat.succ_sub shorter]
          rfl
        simp only [zero, List.dropWhile_cons, beq_self_eq_true, if_true, List.length_cons,
          List.reverse_cons, digitsValue_append_singleton]
        rw [power, ← Nat.mul_assoc, ih]
        omega
      · simp [zero]

/-- Each power of ten adds a digit. -/
theorem length_toDigits_mul_pow {coefficient : Nat} (positive : 0 < coefficient) (zeros : Nat) :
    (Nat.toDigits 10 (coefficient * Nat.pow 10 zeros)).length =
      (Nat.toDigits 10 coefficient).length + zeros := by
  induction zeros with
  | zero => simp
  | succ zeros ih =>
      have product : 0 < coefficient * Nat.pow 10 zeros :=
        Nat.mul_pos positive (Nat.pow_pos (by decide))
      have shifted : coefficient * Nat.pow 10 (zeros + 1) =
          10 * (coefficient * Nat.pow 10 zeros) + 0 := by
        change coefficient * (Nat.pow 10 zeros * 10) = _
        rw [← Nat.mul_assoc, Nat.mul_comm _ 10, Nat.add_zero]
      have appended := Nat.toDigits_append_toDigits (b := 10) (d := 0) (by decide) product
        (by decide)
      rw [shifted, ← appended, List.length_append, ih]
      rfl

/-- A number with fewer digits is the lesser one. -/
theorem lt_of_length_toDigits_lt {lesser greater : Nat}
    (fewer : (Nat.toDigits 10 lesser).length < (Nat.toDigits 10 greater).length) :
    lesser < greater := by
  by_contra notLess
  have bounded : lesser < 10 ^ (Nat.toDigits 10 lesser).length :=
    (Nat.length_toDigits_le_iff (by decide) Nat.length_toDigits_pos).mp (Nat.le_refl _)
  have noMore : (Nat.toDigits 10 greater).length ≤ (Nat.toDigits 10 lesser).length :=
    (Nat.length_toDigits_le_iff (by decide) Nat.length_toDigits_pos).mpr (by omega)
  omega

namespace Reduced

/-- The magnitude of a number without a fractional part. -/
def magnitude (number : Reduced) : Nat := number.coefficient * Nat.pow 10 number.exponent.toNat

section Magnitudes

variable {left right : Reduced} (leftWhole : 0 ≤ left.exponent) (rightWhole : 0 ≤ right.exponent)

include leftWhole

theorem wholeDigits_eq (nonzero : left.coefficient ≠ 0) :
    left.wholeDigits = (Nat.toDigits 10 left.magnitude).length := by
  rw [magnitude, length_toDigits_mul_pow (Nat.pos_of_ne_zero nonzero), wholeDigits]
  omega

include rightWhole

theorem compareAligned_eq :
    left.compareAligned right = compareOfLessAndEq left.magnitude right.magnitude := by
  let least := (min left.exponent right.exponent).toNat
  have split (number : Reduced) (above : least ≤ number.exponent.toNat) :
      number.magnitude =
        number.coefficient * Nat.pow 10 (number.exponent.toNat - least) * Nat.pow 10 least := by
    have powers : Nat.pow 10 (number.exponent.toNat - least) * Nat.pow 10 least =
        Nat.pow 10 number.exponent.toNat := by
      have summed := Nat.pow_add 10 (number.exponent.toNat - least) least
      rw [Nat.sub_add_cancel above] at summed
      exact summed.symm
    rw [Nat.mul_assoc, powers, magnitude]
  have positive : 0 < Nat.pow 10 least := Nat.pow_pos (by decide)
  have leftShift : (left.exponent - min left.exponent right.exponent).toNat =
      left.exponent.toNat - least := by omega
  have rightShift : (right.exponent - min left.exponent right.exponent).toNat =
      right.exponent.toNat - least := by omega
  rw [compareAligned, leftShift, rightShift, compareOfLessAndEq, split left (by omega),
    split right (by omega)]
  simp only [Nat.mul_lt_mul_right positive, Nat.mul_left_inj (Nat.pos_iff_ne_zero.mp positive)]

/-- Two numbers compare by their counts of digits, and then by their aligned coefficients. -/
theorem compareMagnitudes_eq (leftNonzero : left.coefficient ≠ 0)
    (rightNonzero : right.coefficient ≠ 0) :
    left.compareMagnitudes right = compareOfLessAndEq left.magnitude right.magnitude := by
  rw [compareMagnitudes, wholeDigits_eq leftWhole leftNonzero,
    wholeDigits_eq rightWhole rightNonzero, compareAligned_eq leftWhole rightWhole]
  split
  · next fewer =>
    have less := lt_of_length_toDigits_lt (Int.ofNat_lt.mp fewer)
    rw [compareOfLessAndEq, if_pos less]
  · split
    · next more =>
      have greater := lt_of_length_toDigits_lt (Int.ofNat_lt.mp more)
      rw [compareOfLessAndEq, if_neg (by omega), if_neg (by omega)]
    · rfl

end Magnitudes

/-- What the reduced form of an integer has in its parts. -/
theorem parts_ofInteger (number : Int) :
    0 ≤ (ofInteger number).exponent ∧ (ofInteger number).magnitude = number.natAbs ∧
      (ofInteger number).negative = decide (number < 0) := by
  unfold ofInteger ofParts
  by_cases zero : number.natAbs = 0
  · have absent : number = 0 := Int.natAbs_eq_zero.mp zero
    simp [magnitude, absent]
  · rw [if_neg zero]
    have shorter : ((Nat.toDigits 10 number.natAbs).reverse.dropWhile (· == '0')).length ≤
        (Nat.toDigits 10 number.natAbs).reverse.length := (List.dropWhile_sublist _).length_le
    have value := digitsValue_reverse_dropWhile (Nat.toDigits 10 number.natAbs).reverse
    rw [List.reverse_reverse, digitsValue_toDigits] at value
    refine ⟨by dsimp only; omega, Eq.trans ?_ value, rfl⟩
    simp only [magnitude]
    congr 2
    omega

theorem coefficient_ofInteger_ne_zero {number : Int} (nonzero : number ≠ 0) :
    (ofInteger number).coefficient ≠ 0 := by
  intro absent
  have magnitudeEq := (parts_ofInteger number).2.1
  rw [magnitude, absent, Nat.zero_mul] at magnitudeEq
  exact nonzero (Int.natAbs_eq_zero.mp magnitudeEq.symm)

theorem sign_ofInteger (number : Int) : (ofInteger number).sign = number.sign := by
  by_cases zero : number = 0
  · simp [zero, ofInteger, ofParts_zero, sign]
  · rw [sign, if_neg (coefficient_ofInteger_ne_zero zero), (parts_ofInteger number).2.2]
    rcases Int.lt_or_gt_of_ne zero with negative | positive
    · simp [negative, Int.sign_eq_neg_one_of_neg negative]
    · simp [Int.sign_eq_one_of_pos positive]
      omega

theorem sign_cases (number : Int) :
    number < 0 ∧ number.sign = -1 ∨ number = 0 ∧ number.sign = 0 ∨
      0 < number ∧ number.sign = 1 := by
  rcases Int.lt_trichotomy number 0 with negative | rfl | positive
  · exact Or.inl ⟨negative, Int.sign_eq_neg_one_of_neg negative⟩
  · exact Or.inr (Or.inl ⟨rfl, rfl⟩)
  · exact Or.inr (Or.inr ⟨positive, Int.sign_eq_one_of_pos positive⟩)

theorem compareMagnitudes_ofInteger {left right : Int} (leftNonzero : left ≠ 0)
    (rightNonzero : right ≠ 0) :
    (ofInteger left).compareMagnitudes (ofInteger right) =
      compareOfLessAndEq left.natAbs right.natAbs := by
  rw [← (parts_ofInteger left).2.1, ← (parts_ofInteger right).2.1]
  exact compareMagnitudes_eq (parts_ofInteger left).1 (parts_ofInteger right).1
    (coefficient_ofInteger_ne_zero leftNonzero) (coefficient_ofInteger_ne_zero rightNonzero)

/-- Integers compare as integers; of two negative ones the greater one has the lesser magnitude. -/
theorem compare_ofInteger (left right : Int) :
    (ofInteger left).compare (ofInteger right) = compareOfLessAndEq left right := by
  have leftCases := sign_cases left
  have rightCases := sign_cases right
  simp only [compare, sign_ofInteger]
  rcases Int.lt_trichotomy left.sign right.sign with less | same | greater
  · have order : left < right := by omega
    rw [if_pos less, compareOfLessAndEq, if_pos order]
  · rw [same, if_neg (Int.lt_irrefl _), if_neg (Int.lt_irrefl _)]
    rcases rightCases with ⟨negative, sign⟩ | ⟨zero, sign⟩ | ⟨positive, sign⟩
    · have less : right.natAbs < left.natAbs ↔ left < right := by omega
      have equal : right.natAbs = left.natAbs ↔ left = right := by omega
      rw [sign, if_neg (by decide), if_neg (by decide),
        compareMagnitudes_ofInteger (by omega) (by omega)]
      simp only [compareOfLessAndEq, less, equal]
    · have equal : left = right := by omega
      rw [sign, if_pos rfl, compareOfLessAndEq, if_neg (by omega), if_pos equal]
    · have less : left.natAbs < right.natAbs ↔ left < right := by omega
      have equal : left.natAbs = right.natAbs ↔ left = right := by omega
      rw [sign, if_neg (by decide), if_pos rfl, compareMagnitudes_ofInteger (by omega) (by omega)]
      simp only [compareOfLessAndEq, less, equal]
  · have order : right < left := by omega
    rw [if_neg (by omega), if_pos greater, compareOfLessAndEq, if_neg (by omega),
      if_neg (by omega)]

end Reduced

end Number

/-- Of two integers, one exceeds the other if it is the greater one. -/
theorem Quantity.exceeds?_whole (left right : Int) :
    (whole left).exceeds? (whole right) = .ok (decide (right < left)) := by
  have compared : (whole left).compare? (whole right) (.unordered ">" (whole left).typeName
      (whole right).typeName) = .ok (some (compareOfLessAndEq left right)) := by
    rw [← Number.Reduced.compare_ofInteger]
    rfl
  rw [exceeds?, compared]
  simp only [Except.map, Except.ok.injEq, compareOfLessAndEq]
  split
  · simp; omega
  · split
    · simp; omega
    · simp; omega

end EntityCatalog
