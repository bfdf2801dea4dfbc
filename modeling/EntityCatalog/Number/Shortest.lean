import EntityCatalog.Number.Binary

/-!
# The shortest decimal text of a floating-point number

A finite number is written with the fewest digits that read back as the same number; of two such
decimals the nearer one is taken, and of two equally near ones the one whose last digit is even.
All comparisons are made on exact integers. Numbers whose first digit stands for `10 ^ -4` up to
`10 ^ 15` are written positionally, with at least one digit after the point, and all others with
one digit before the point and an exponent of at least two digits.
-/

namespace EntityCatalog.Number

/-- The digits of a decimal `coefficient · 10 ^ exponent`. -/
structure DecimalDigits where
  coefficient : Nat
  exponent : Int
deriving DecidableEq, Repr

/-- The interval of values that read back as one number, in units of `2 ^ exponent`. -/
structure RoundingInterval where
  lower : Nat
  value : Nat
  upper : Nat
  exponent : Int
  /-- Whether the two ends read back as the number, too. -/
  closed : Bool
deriving DecidableEq, Repr

/--
The values that read back as `significand · 2 ^ exponent`, in quarters of its last place. The
neighbour below a power of two is only half as far away, unless the exponent is the least one.
-/
def roundingInterval (significand : Nat) (exponent : Int) : RoundingInterval where
  lower := 4 * significand - (if significand = Nat.pow 2 52 ∧ -1074 < exponent then 1 else 2)
  value := 4 * significand
  upper := 4 * significand + 2
  exponent := exponent - 2
  closed := significand % 2 == 0

namespace RoundingInterval

/-- The factors that bring multiples of `10 ^ place` and values of the interval to one unit. -/
def unitFactors (interval : RoundingInterval) (place : Int) : Nat × Nat :=
  (Nat.pow 2 (-interval.exponent).toNat * Nat.pow 10 place.toNat,
    Nat.pow 2 interval.exponent.toNat * Nat.pow 10 (-place).toNat)

/-- Whether `multiple · 10 ^ place` lies in the interval. -/
def contains (interval : RoundingInterval) (multiple : Nat) (place : Int) : Bool :=
  let factors := interval.unitFactors place
  let point := multiple * factors.1
  let lower := interval.lower * factors.2
  let upper := interval.upper * factors.2
  if interval.closed then lower ≤ point && point ≤ upper else lower < point && point < upper

/-- The multiple of `10 ^ place` in the interval that is nearest to the value, if there is one. -/
def nearestMultiple? (interval : RoundingInterval) (place : Int) : Option Nat :=
  let factors := interval.unitFactors place
  let value := interval.value * factors.2
  let below := value / factors.1
  let above := below + 1
  match interval.contains below place, interval.contains above place with
  | false, false => none
  | true, false => some below
  | false, true => some above
  | true, true =>
      let distanceBelow := value - below * factors.1
      let distanceAbove := above * factors.1 - value
      if distanceBelow < distanceAbove then some below
      else if distanceAbove < distanceBelow then some above
      else if below % 2 = 0 then some below
      else some above

/-- The place of the first digit of the value: the greatest `place` with `10 ^ place ≤ value`. -/
def leadingPlace (interval : RoundingInterval) : Int :=
  let scaled := interval.value * Nat.pow 2 interval.exponent.toNat
  let unit := Nat.pow 2 (-interval.exponent).toNat
  let whole := scaled / unit
  if 0 < whole then ((Nat.toDigits 10 whole).length : Int) - 1
  else
    let reaches (place : Nat) : Bool := unit ≤ scaled * Nat.pow 10 place
    match (List.range 330).find? reaches with
    | some place => -(place : Int)
    | none => -330

/-- The shortest decimal in the interval, with at most seventeen digits. -/
def shortest (interval : RoundingInterval) : DecimalDigits :=
  let leading := interval.leadingPlace
  let candidates := (List.range 17).filterMap fun (count : Nat) =>
    let place := leading - count
    (interval.nearestMultiple? place).map fun multiple => DecimalDigits.mk multiple place
  candidates.headD ⟨interval.value, interval.exponent⟩

end RoundingInterval

/-- The digits of a coefficient without its trailing zeros. -/
def significantDigits (coefficient : Nat) : List Char :=
  match ((Nat.toDigits 10 coefficient).reverse.dropWhile (· == '0')).reverse with
  | [] => ['0']
  | digits => digits

/-- An exponent with its sign and at least two digits. -/
def exponentText (exponent : Int) : List Char :=
  let digits := Nat.toDigits 10 exponent.natAbs
  let sign := if exponent < 0 then '-' else '+'
  'e' :: sign :: List.replicate (2 - digits.length) '0' ++ digits

/-- The text of a decimal whose digits are `digits` and whose first digit stands at `leading`. -/
def placedDigits (digits : List Char) (leading : Int) : List Char :=
  if leading < -4 ∨ 16 ≤ leading then
    match digits with
    | [] => []
    | first :: [] => first :: exponentText leading
    | first :: rest => first :: '.' :: rest ++ exponentText leading
  else if leading < 0 then
    '0' :: '.' :: List.replicate (-leading - 1).toNat '0' ++ digits
  else
    let wholeCount := leading.toNat + 1
    let whole := digits.take wholeCount ++ List.replicate (wholeCount - digits.length) '0'
    match digits.drop wholeCount with
    | [] => whole ++ ['.', '0']
    | fraction => whole ++ '.' :: fraction

/-- The shortest text of a floating-point number. -/
def floatText (number : Float) : String :=
  match parts number with
  | .notANumber => "nan"
  | .infinite negative => if negative then "-inf" else "inf"
  | .finite negative significand exponent =>
      let magnitude :=
        if significand = 0 then ['0', '.', '0']
        else
          let decimal := (roundingInterval significand exponent).shortest
          let leading := decimal.exponent + (Nat.toDigits 10 decimal.coefficient).length - 1
          placedDigits (significantDigits decimal.coefficient) leading
      String.ofList (if negative then '-' :: magnitude else magnitude)

end EntityCatalog.Number
