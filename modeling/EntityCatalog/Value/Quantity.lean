import EntityCatalog.Number.Sum
import EntityCatalog.Value.Document
import EntityCatalog.Value.Sameness

/-!
# Quantities

A quantity is an integer, or another value that is held in the place of one. A member of an
enumeration stores whatever it likes, and where an integer is asked for, what it stores is taken as
it is. Truth values, floating-point numbers and decimal numbers are ordered with integers and have
sums and differences; all other values have neither.
-/

namespace EntityCatalog

/-- The member of an enumeration that stores a value. -/
structure MemberName where
  enumeration : EnumerationName
  name : String
deriving DecidableEq, Repr

/-- An integer, or another value in its place. -/
inductive Quantity where
  | whole (number : Int)
  /-- Another value, and the member that stores it if there is one. -/
  | held (value : Value) (source : Option MemberName)
deriving DecidableEq

/-- Why quantities cannot be compared, added or subtracted. -/
inductive QuantityFault where
  /-- Values of two types have no order. -/
  | unordered (comparison leftType rightType : String)
  /-- Values of two types have no sum, or no difference. -/
  | inoperable (operation leftType rightType : String)
  /-- A decimal that is no number is compared, or a sum or rounding is undefined. -/
  | undefined
  /-- A sum of decimal numbers lies above all of them. -/
  | excessive
  /-- An integer lies above all floating-point numbers, to one of which it is added. -/
  | hugeInteger
deriving DecidableEq, Repr

namespace QuantityFault

/-- The wording of a fault. -/
def message : QuantityFault → String
  | .unordered comparison leftType rightType =>
      "'" ++ comparison ++ "' not supported between instances of " ++
        Text.clippedName 100 leftType ++ " and " ++ Text.clippedName 100 rightType
  | .inoperable operation leftType rightType =>
      "unsupported operand type(s) for " ++ operation ++ ": " ++ Text.clippedName 100 leftType ++
        " and " ++ Text.clippedName 100 rightType
  | .undefined => "[<class 'decimal.InvalidOperation'>]"
  | .excessive => "[<class 'decimal.Overflow'>]"
  | .hugeInteger => "int too large to convert to float"

/-- The class of a fault. -/
def errorClass : QuantityFault → ErrorClass
  | .unordered .. | .inoperable .. => .type
  | .undefined => .arithmetic
  | .excessive => .excess
  | .hugeInteger => .range

/-- The fault of decimal numbers without a sum. -/
def ofSum : Number.SumFault → QuantityFault
  | .undefined => .undefined
  | .excessive => .excessive

end QuantityFault

instance : ErrorCause QuantityFault := ⟨QuantityFault.errorClass, QuantityFault.message⟩

/-- A number that takes part in an operation. -/
inductive Operand where
  | integer (number : Int)
  | float (number : Float)
  | decimal (number : Number.Decimal)

/-- The number that a value is in an operation. -/
def Value.operand? : Value → Option Operand
  | .scalar (.integer number) => some (.integer number)
  | .scalar (.boolean truth) => some (.integer (if truth then 1 else 0))
  | .scalar (.float number) => some (.float number)
  | .scalar (.decimal number) => some (.decimal number)
  | _ => none

/-- An operation on two numbers of one type. -/
structure Operation where
  symbol : String
  integers : Int → Int → Int
  floats : Float → Float → Float
  decimals : Number.Decimal → Number.Decimal → Except Number.SumFault Number.Decimal

namespace Operation

/-- Addition. -/
def sum : Operation := ⟨"+", (· + ·), (· + ·), Number.Decimal.plus?⟩

/-- Subtraction. -/
def difference : Operation := ⟨"-", (· - ·), (· - ·), Number.Decimal.minus?⟩

end Operation

/-- The floating-point number nearest to an integer that does not lie above all of them. -/
def nearestOrFault (number : Int) : Except QuantityFault Float :=
  let nearest := Number.ofInteger number
  if (Number.reduced? nearest).isSome then .ok nearest else .error .hugeInteger

namespace Quantity

instance : Inhabited Quantity := ⟨.whole 0⟩

/-- The quantity that is held where a value stands. -/
def ofValue : Value → Quantity
  | .scalar (.integer number) => .whole number
  | value => .held value none

/-- The quantity that a member of an enumeration stores. -/
def ofStored (source : MemberName) : Value → Quantity
  | .scalar (.integer number) => .whole number
  | value => .held value (some source)

/-- A quantity as a value. -/
def toValue : Quantity → Value
  | .whole number => .integer number
  | .held value _ => value

/-- The plain text of a quantity. -/
def text (quantity : Quantity) : String := quantity.toValue.plainText

/-- The name of the type of a quantity. -/
def typeName (quantity : Quantity) : String := quantity.toValue.typeName

/-- The document of a quantity; what has none is shown by its plain text. -/
def document (quantity : Quantity) : Json :=
  quantity.toValue.document.toOption.getD (.text quantity.text)

/-- The member that stores a quantity, if it is held for one. -/
def source? : Quantity → Option MemberName
  | .whole _ => none
  | .held _ source => source

/-- Whether two quantities are the same; what one member stores is always the same as itself. -/
def same? (left right : Quantity) : Except LookupFault Bool :=
  if left.source?.isSome ∧ left.source? = right.source? then .ok true
  else left.toValue.same? right.toValue

/--
How two quantities compare: not at all if one is a floating-point value that is no number. The fault
is the one of values without an order.
-/
def compare? (left right : Quantity) (unordered : QuantityFault) :
    Except QuantityFault (Option Ordering) :=
  match left.toValue, right.toValue with
  | .scalar (.decimal (.notANumber ..)), _ | _, .scalar (.decimal (.notANumber ..)) =>
      .error .undefined
  | .scalar left, .scalar right =>
      match left.magnitude?, right.magnitude? with
      | some left, some right => .ok (left.compare? right)
      | _, _ => .error unordered
  | _, _ => .error unordered

/-- Whether a quantity is below an integer. -/
def isBelow? (quantity : Quantity) (number : Int) : Except QuantityFault Bool :=
  (quantity.compare? (.whole number) (.unordered "<" quantity.typeName "int")).map
    (· == some .lt)

/-- Whether a quantity is above another one. -/
def exceeds? (left right : Quantity) : Except QuantityFault Bool :=
  (left.compare? right (.unordered ">" left.typeName right.typeName)).map (· == some .gt)

/-- The result of an operation; integers count as numbers of the other one's type. -/
def operate? (operation : Operation) (left right : Quantity) : Except QuantityFault Quantity :=
  let floats (left right : Float) : Quantity := .ofValue (.float (operation.floats left right))
  let decimals (left right : Number.Decimal) : Except QuantityFault Quantity :=
    ((operation.decimals left right).map fun number => .ofValue (.decimal number)).mapError .ofSum
  match left.toValue.operand?, right.toValue.operand? with
  | some (.integer left), some (.integer right) => .ok (.whole (operation.integers left right))
  | some (.float left), some (.float right) => .ok (floats left right)
  | some (.float left), some (.integer right) => (nearestOrFault right).map (floats left)
  | some (.integer left), some (.float right) =>
      (nearestOrFault left).map fun left => floats left right
  | some (.decimal left), some (.decimal right) => decimals left right
  | some (.decimal left), some (.integer right) => decimals left (.ofInteger right)
  | some (.integer left), some (.decimal right) => decimals (.ofInteger left) right
  | _, _ => .error (.inoperable operation.symbol left.typeName right.typeName)

/-- The difference of two quantities. -/
def minus? (left right : Quantity) : Except QuantityFault Quantity :=
  operate? .difference left right

/-- The sum of several quantities, from left to right. -/
def sum? (quantities : List Quantity) : Except QuantityFault Quantity :=
  quantities.foldlM (operate? .sum) (.whole 0)

/-- The greater one of two quantities, the first of equal ones. -/
def greater? (left right : Quantity) : Except QuantityFault Quantity := do
  if ← right.exceeds? left then pure right else pure left

/-- The greatest of several quantities, the first of equal ones. -/
def greatest? : List Quantity → Except QuantityFault (Option Quantity)
  | [] => .ok none
  | first :: rest => (rest.foldlM greater? first).map some

/-- A number with so many decimals; integers stay as they are. -/
def roundedTo? (decimals : Nat) (quantity : Quantity) : Except QuantityFault Quantity :=
  match quantity.toValue with
  | .scalar (.float number) =>
      match Number.parts number with
      | .finite negative significand exponent =>
          let ratio := Number.powerOfTwoRatio significand exponent
          let units := Number.roundHalfEven (Nat.pow 10 decimals * ratio.1) ratio.2
          .ok (.ofValue (.float (Number.ofDecimal negative units (-decimals))))
      | _ => .ok quantity
  | .scalar (.decimal number) =>
      ((number.roundedTo? decimals).map fun number => .ofValue (.decimal number)).mapError .ofSum
  | _ => .ok quantity

/-- Integers are subtracted as integers. -/
theorem minus?_whole (left right : Int) :
    (whole left).minus? (whole right) = .ok (whole (left - right)) := rfl

/-- A quantity of a value is that value. -/
@[simp]
theorem toValue_ofValue (value : Value) : (ofValue value).toValue = value := by
  unfold ofValue
  split <;> rfl

/-- A quantity that a member stores is what it stores. -/
@[simp]
theorem toValue_ofStored (source : MemberName) (value : Value) :
    (ofStored source value).toValue = value := by
  unfold ofStored
  split <;> rfl

end Quantity

end EntityCatalog
