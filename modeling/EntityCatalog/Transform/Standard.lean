import EntityCatalog.Enumeration

/-!
# Transforms by enumeration and by functions

Two kinds of transforms cover most applications. The transform of an enumeration stores a member
as the value declared for it and accepts members only, so that a bare label cannot bypass the
enumeration. A transform by functions applies one conversion in each direction; the conversions
are members of a type of the application's own, so that equality of transforms can be decided.
-/

namespace EntityCatalog

/-- A type whose members have names and can be applied to values. -/
class Conversion (φ : Type) where
  name : φ → String
  apply : φ → Value → Except ConversionError Value

/-- A transform by an enumeration or by two conversions. -/
inductive StandardTransform (φ : Type) where
  | members (enumeration : Enumeration)
  | functions (label : String) (toStored fromStored : φ)
deriving DecidableEq

namespace StandardTransform

variable {φ : Type}

/-- The label, or the enumeration with its module. -/
def name : StandardTransform φ → String
  | .members enumeration =>
      "enum:" ++ enumeration.name.module ++ "." ++ enumeration.name.qualified
  | .functions label _ _ => label

/-- A transform as a value. -/
def toValue [Conversion φ] : StandardTransform φ → Value
  | transform@(.members enumeration) =>
      let shown := "<enum " ++ Text.quoted enumeration.name.short ++ ">"
      .scalar (.token ⟨"EnumMemberTransform", transform.name,
        callText "EnumMemberTransform" ["enum_cls=" ++ shown], [enumeration.name.key]⟩)
  | .functions label toStored fromStored =>
      .scalar (.token ⟨"FunctionTransform", label,
        callText "FunctionTransform" ["label=" ++ Text.quoted label],
        [label, Conversion.name toStored, Conversion.name fromStored]⟩)

instance [Conversion φ] : Transform (StandardTransform φ) where
  name := name
  toStorage
    | .members enumeration, value => enumeration.toStorage value
    | .functions _ toStored _, value => Conversion.apply toStored value
  fromStorage
    | .members enumeration, value => enumeration.fromStorage value
    | .functions _ _ fromStored, value => Conversion.apply fromStored value

end StandardTransform

end EntityCatalog
