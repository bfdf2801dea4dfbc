import EntityCatalog.Number.Nearest

/-!
# Decimal numbers

A decimal number keeps its coefficient and its exponent, so `1.50` and `1.5` are equal in value and
differ in text. The text is positional as long as the exponent is not positive and the first digit
stands for at least `10 ^ -6`; otherwise it has one digit before the point and a signed exponent.
-/

namespace EntityCatalog.Number

/-- A decimal number. -/
inductive Decimal where
  /-- The number `±coefficient · 10 ^ exponent`. -/
  | finite (negative : Bool) (coefficient : Nat) (exponent : Int)
  | infinite (negative : Bool)
  /-- A value that is no number, with the digits that tell it from others. -/
  | notANumber (negative signaling : Bool) (payload : String)
deriving DecidableEq, Repr

/-- The number that a run of digits stands for. -/
def digitsValue (digits : List Char) : Nat :=
  digits.foldl (fun value digit => 10 * value + (digit.toNat - '0'.toNat)) 0

/-- A sign in front of a text, and the rest. -/
def splitSign : List Char → Bool × List Char
  | '-' :: rest => (true, rest)
  | '+' :: rest => (false, rest)
  | characters => (false, characters)

/-- A non-empty run of digits and nothing else, as a number. -/
def digits? (characters : List Char) : Option Nat :=
  if characters ≠ [] ∧ characters.all Char.isDigit then some (digitsValue characters) else none

/-- An exponent: nothing, or the letter e followed by an optional sign and digits. -/
def exponent? : List Char → Option Int
  | [] => some 0
  | letter :: rest =>
      if letter = 'e' ∨ letter = 'E' then
        let (negative, digits) := splitSign rest
        (digits? digits).map (withSign negative)
      else none

/-- An unsigned decimal: digits with at most one point between them, and an optional exponent. -/
def unsignedDecimal? (characters : List Char) : Option (Nat × Int) :=
  let whole := characters.takeWhile Char.isDigit
  let afterWhole := characters.dropWhile Char.isDigit
  let (fraction, afterFraction) :=
    match afterWhole with
    | '.' :: rest => (rest.takeWhile Char.isDigit, rest.dropWhile Char.isDigit)
    | rest => ([], rest)
  if whole ++ fraction = [] then none
  else (exponent? afterFraction).map fun exponent =>
    (digitsValue (whole ++ fraction), exponent - fraction.length)

namespace Decimal

/-- Reads a decimal number. -/
def ofText? (text : String) : Option Decimal :=
  let (negative, characters) := splitSign text.toList
  let lower := characters.map Char.toLower
  if lower = "inf".toList ∨ lower = "infinity".toList then some (.infinite negative)
  else if lower.take 3 = "nan".toList ∧ (lower.drop 3).all Char.isDigit then
    some (.notANumber negative false (String.ofList (lower.drop 3)))
  else if lower.take 4 = "snan".toList ∧ (lower.drop 4).all Char.isDigit then
    some (.notANumber negative true (String.ofList (lower.drop 4)))
  else (unsignedDecimal? characters).map fun (coefficient, exponent) =>
    .finite negative coefficient exponent

/-- The digits of a finite decimal with the point, and the exponent if it needs one. -/
def finiteText (coefficient : Nat) (exponent : Int) : List Char :=
  let digits := Nat.toDigits 10 coefficient
  let leading : Int := exponent + digits.length
  let point : Int := if exponent ≤ 0 ∧ -6 < leading then leading else 1
  let positional :=
    if point ≤ 0 then '0' :: '.' :: List.replicate (-point).toNat '0' ++ digits
    else if (digits.length : Int) ≤ point then
      digits ++ List.replicate (point - digits.length).toNat '0'
    else digits.take point.toNat ++ '.' :: digits.drop point.toNat
  if leading = point then positional
  else
    let shift := leading - point
    positional ++ 'E' :: (if shift < 0 then '-' else '+') :: Nat.toDigits 10 shift.natAbs

/-- The text of a decimal number. -/
def text : Decimal → String
  | .finite negative coefficient exponent =>
      let magnitude := finiteText coefficient exponent
      String.ofList (if negative then '-' :: magnitude else magnitude)
  | .infinite negative => if negative then "-Infinity" else "Infinity"
  | .notANumber negative signaling payload =>
      (if negative then "-" else "") ++ (if signaling then "sNaN" else "NaN") ++ payload

/-- The nearest floating-point number. -/
def toFloat : Decimal → Float
  | .finite negative coefficient exponent => ofDecimal negative coefficient exponent
  | .infinite negative => if negative then -infinity else infinity
  | .notANumber .. => undefinedNumber

end Decimal

/-- Reads a floating-point number: a decimal, rounded to the nearest one, or a special value. -/
def float? (text : String) : Option Float := (Decimal.ofText? text).map Decimal.toFloat

end EntityCatalog.Number
