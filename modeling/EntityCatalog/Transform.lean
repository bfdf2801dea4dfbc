import EntityCatalog.Value.Sameness

/-!
# Transforms

A transform converts between the value that an application works with and the value that is
stored. The library is generic in the type of transforms: it needs their names, their two
conversions and a decidable equality, by which two registrations of one transform agree.
-/

namespace EntityCatalog

/-- The wording of the refusal to call a value of a type. -/
def uncallableMessage (typeName : String) : String :=
  Text.clippedName 200 typeName ++ " object is not callable"

/-- Why a conversion gave no value. -/
inductive ConversionError where
  /-- The value cannot be converted. -/
  | refused (message : String)
  /-- The value is of a type that the conversion does not take. -/
  | wrongType (message : String)
  /-- The value is not among those that the conversion knows. -/
  | unknownKey (key : Value)
  /-- What the conversion should ask is a value of a type that cannot be asked. -/
  | uncallable (typeName : String)
  /-- The value cannot be compared with those that the conversion knows. -/
  | incomparable (fault : LookupFault)
  /-- The conversion itself failed, for a reason that says nothing about the value. -/
  | breakdown (kind message : String)
deriving DecidableEq

namespace ConversionError

/-- The wording of a conversion error. -/
def message : ConversionError → String
  | .refused message => message
  | .wrongType message => message
  | .unknownKey key => key.literal
  | .uncallable typeName => uncallableMessage typeName
  | .incomparable fault => fault.message
  | .breakdown _ message => message

/-- The class of a conversion error, unless the conversion itself failed. -/
def errorClass? : ConversionError → Option ErrorClass
  | .refused _ => some .value
  | .wrongType _ | .uncallable _ => some .type
  | .unknownKey _ => some .name
  | .incomparable fault => some fault.errorClass
  | .breakdown .. => none

end ConversionError

/-- A type whose members convert values to their stored form and back. -/
class Transform (τ : Type) where
  /-- The name by which descriptions refer to a transform. -/
  name : τ → String
  /-- The stored form of an application's value. -/
  toStorage : τ → Value → Except ConversionError Value
  /-- The application's value of a stored form. -/
  fromStorage : τ → Value → Except ConversionError Value

end EntityCatalog
