import EntityCatalog.ErrorClass
import EntityCatalog.Number.Reduced
import EntityCatalog.Text.Clipped
import EntityCatalog.Value.Literal

/-!
# Sameness of values

Two values are the same if they are equal up to the form in which they are held: truth values,
integers, floating-point and decimal numbers are compared by the number they stand for, octets by
their content, moments of known offset by the instant, and members of enumerations by their names.
A decimal that signals cannot be compared with numbers, and a value that can be looked up has to be
fixed and free of such decimals. Values that can be looked up can be compared with each other, and
their sameness decides which keys of a mapping coincide.
-/

namespace EntityCatalog

/-- Why a value cannot be looked up or compared. -/
inductive LookupFault where
  /-- A value of a type whose values can change is looked up. -/
  | changeable (typeName : String)
  /-- A decimal that signals is looked up. -/
  | signalingKey
  /-- A decimal that signals is compared with a number. -/
  | signalingComparison
deriving DecidableEq, Repr

/-- The wording of a fault. -/
def LookupFault.message : LookupFault → String
  | .changeable typeName => "unhashable type: " ++ Text.clippedName 200 typeName
  | .signalingKey => "Cannot hash a signaling NaN value"
  | .signalingComparison => "[<class 'decimal.InvalidOperation'>]"

/-- The class of a fault. -/
def LookupFault.errorClass : LookupFault → ErrorClass
  | .changeable _ | .signalingKey => .type
  | .signalingComparison => .arithmetic

instance : ErrorCause LookupFault := ⟨LookupFault.errorClass, LookupFault.message⟩

/-- The number that a scalar stands for. -/
inductive Magnitude where
  | finite (number : Number.Reduced)
  | infinite (negative : Bool)
  /-- A value that is no number and the same as nothing. -/
  | undefined
  /-- A value that is no number and must not be compared. -/
  | signaling
deriving DecidableEq

/-- Whether two numbers are the same. -/
def Magnitude.same? (left right : Magnitude) : Except LookupFault Bool :=
  if left = .signaling ∨ right = .signaling then .error .signalingComparison
  else .ok (left != .undefined && left == right)

/-- How two numbers compare, unless one of them is none. -/
def Magnitude.compare? (left right : Magnitude) : Option Ordering :=
  match left, right with
  | .finite left, .finite right => some (left.compare right)
  | .infinite left, .infinite right =>
      some (if left = right then .eq else if left then .lt else .gt)
  | .infinite negative, .finite _ => some (if negative then .lt else .gt)
  | .finite _, .infinite negative => some (if negative then .gt else .lt)
  | _, _ => none

namespace Scalar

/-- The number that a scalar stands for, if it is of a type of numbers. -/
def magnitude? : Scalar → Option Magnitude
  | .boolean truth => some (.finite (.ofInteger (if truth then 1 else 0)))
  | .integer number => some (.finite (.ofInteger number))
  | .float number =>
      match Number.parts number with
      | .finite negative significand exponent =>
          some (.finite (.ofBinary negative significand exponent))
      | .infinite negative => some (.infinite negative)
      | .notANumber => some .undefined
  | .decimal number =>
      match number with
      | .finite negative coefficient exponent =>
          some (.finite (.ofParts negative coefficient exponent))
      | .infinite negative => some (.infinite negative)
      | .notANumber _ signaling _ => some (if signaling then .signaling else .undefined)
  | _ => none

/-- Whether two scalars are the same. -/
def same? (left right : Scalar) : Except LookupFault Bool :=
  match left.magnitude?, right.magnitude? with
  | some leftNumber, some rightNumber => leftNumber.same? rightNumber
  | none, none =>
      match left, right with
      | .octets _ leftContent, .octets _ rightContent => .ok (leftContent == rightContent)
      | .time leftTime, .time rightTime => .ok (leftTime.sameMoment rightTime)
      | .dateTime leftMoment, .dateTime rightMoment => .ok (leftMoment.sameMoment rightMoment)
      | _, _ => .ok (left == right)
  | _, _ => .ok false

/-- What keeps a scalar from being looked up. -/
def lookupFault? : Scalar → Option LookupFault
  | .octets .growable content =>
      some (.changeable (Scalar.octets .growable content).typeName)
  | .decimal (.notANumber _ true _) => some .signalingKey
  | _ => none

end Scalar

namespace Value

mutual

/-- What keeps a value from being looked up; the first part at fault decides for a tuple. -/
def lookupFault? : Value → Option LookupFault
  | .scalar content => content.lookupFault?
  | .tuple items => itemsFault? items
  | .list items => some (.changeable (Value.list items).typeName)
  | .mapping entries => some (.changeable (Value.mapping entries).typeName)
  | .record typeName _ => some (.changeable typeName)
  | .member .. => none

/-- What keeps the first of some values that cannot be looked up from being so. -/
def itemsFault? : List Value → Option LookupFault
  | [] => none
  | item :: rest => item.lookupFault?.or (itemsFault? rest)

end

mutual

/--
Whether two values are the same. Lists of different lengths differ before their items are looked
at, tuples of different lengths after it; mappings are compared without regard to order.
-/
def same? : Value → Value → Except LookupFault Bool
  | .scalar left, .scalar right => left.same? right
  | .list left, .list right =>
      if left.length = right.length then sameItems? left right else .ok false
  | .tuple left, .tuple right => sameItems? left right
  | .mapping left, .mapping right =>
      if left.length = right.length then sameEntries? left right else .ok false
  | .member leftEnumeration leftName _, .member rightEnumeration rightName _ =>
      .ok (leftEnumeration.key == rightEnumeration.key && leftName == rightName)
  | .record leftType left, .record rightType right =>
      if leftType = rightType then sameFields? left right else .ok false
  | _, _ => .ok false
termination_by structural left => left

/-- Whether two lists are the same item by item; the first difference decides. -/
def sameItems? : List Value → List Value → Except LookupFault Bool
  | [], [] => .ok true
  | left :: lefts, right :: rights => do
      if ← left.same? right then sameItems? lefts rights else pure false
  | _, _ => .ok false
termination_by structural left => left

/-- Whether every entry of the first list is the same as the one of the second with its key. -/
def sameEntries? : List (Value × Value) → List (Value × Value) → Except LookupFault Bool
  | [], _ => .ok true
  | (key, value) :: rest, entries =>
      match entries.find? fun entry => (key.same? entry.1).toOption.getD false with
      | none => .ok false
      | some entry => do
          if ← value.same? entry.2 then sameEntries? rest entries else pure false
termination_by structural left => left

/-- Whether two lists of fields are the same field by field; the first difference decides. -/
def sameFields? : List (String × Value) → List (String × Value) → Except LookupFault Bool
  | [], [] => .ok true
  | (leftName, left) :: lefts, (rightName, right) :: rights => do
      if leftName ≠ rightName then pure false
      else if ← left.same? right then sameFields? lefts rights
      else pure false
  | _, _ => .ok false
termination_by structural left => left

end

/-- Whether two values can be compared and are the same. -/
def same (left right : Value) : Bool := (left.same? right).toOption.getD false

/-- Refuses a value that cannot be looked up. -/
def ensureKey (value : Value) : Except LookupFault Unit :=
  match value.lookupFault? with
  | some fault => .error fault
  | none => .ok ()

/-- Entries with one key given content, in the place of the entry with the same key if any. -/
def writeEntry {α : Type} (key : Value) (content : α) : List (Value × α) → List (Value × α)
  | [] => [(key, content)]
  | entry :: rest =>
      if key.same entry.1 then (entry.1, content) :: rest
      else entry :: writeEntry key content rest

/-- Entries of which the last content of several with the same key stays, in the first place. -/
def writtenEntries {α : Type} (entries : List (Value × α)) : List (Value × α) :=
  entries.foldl (fun written entry => writeEntry entry.1 entry.2 written) []

/-- The mapping of a list of entries, of which the last one of several with the same key stays. -/
def ofEntries (entries : List (Value × Value)) : Value := .mapping (writtenEntries entries)

end Value

end EntityCatalog
