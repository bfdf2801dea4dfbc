import EntityCatalog.Transform
import EntityCatalog.Value.Sameness

/-!
# Enumerations

An enumeration has members under their names, with a stored value for each. A name whose stored
value is the same as that of an earlier member is an alias of that member. Stored values that can be
looked up are told apart by look-up; all others are compared one by one, in the order of
declaration, which may fail.
-/

namespace EntityCatalog

/-- A member under its own name, with the value that is stored for it. -/
structure EnumerationMember where
  name : String
  stored : Value
deriving DecidableEq

/-- A closed set of members with the values that are stored for them. -/
structure Enumeration where
  name : EnumerationName
  /-- The declared names with the members that they stand for. -/
  declared : List (String × EnumerationMember)
  /-- What would have to be asked for the member of a value that no member is stored as. -/
  fallback : Option Value
deriving DecidableEq

/-- The first of some members whose stored value is the same as a value. -/
def EnumerationMember.firstSame? (value : Value) :
    List EnumerationMember → Except LookupFault (Option EnumerationMember)
  | [] => .ok none
  | member :: rest => do
      if ← member.stored.same? value then pure (some member) else firstSame? value rest

namespace Enumeration

/-- The members that declared names stand for, in order and as often as they are declared. -/
def members (enumeration : Enumeration) : List EnumerationMember :=
  enumeration.declared.map Prod.snd

/--
The member with a stored value. A value that can be looked up is found among the stored values that
can be looked up, too; any other value is compared with all of them.
-/
def memberStoredAs? (enumeration : Enumeration) (value : Value) :
    Except LookupFault (Option EnumerationMember) :=
  if value.lookupFault?.isNone then
    .ok (enumeration.members.find? fun member =>
      member.stored.lookupFault?.isNone && value.same member.stored)
  else EnumerationMember.firstSame? value enumeration.members

/-- A member as a value. -/
def valueOf (enumeration : Enumeration) (member : EnumerationMember) : Value :=
  .member enumeration.name member.name member.stored

/-- The member that a declared name stands for, as a value. -/
def member? (enumeration : Enumeration) (name : String) : Option Value :=
  (enumeration.declared.lookup name).map enumeration.valueOf

/-- The stored value of a member. -/
def toStorage (enumeration : Enumeration) (value : Value) : Except ConversionError Value :=
  let refusal : ConversionError :=
    .refused (value.literal ++ " is not a member of " ++ enumeration.name.short)
  match value with
  | .member name _ stored =>
      if name = enumeration.name then .ok stored else .error refusal
  | _ => .error refusal

/-- The refusal of a value that no member is stored as; a fallback is no function to ask. -/
def refusal (enumeration : Enumeration) (value : Value) : ConversionError :=
  match enumeration.fallback with
  | some fallback => .uncallable fallback.typeName
  | none => .refused (value.literal ++ " is not a valid " ++ enumeration.name.qualified)

/-- The member of a stored value; a member stands for itself. -/
def fromStorage (enumeration : Enumeration) (value : Value) : Except ConversionError Value :=
  let isMember : Bool := match value with
    | .member name _ _ => name == enumeration.name
    | _ => false
  if isMember then .ok value
  else match enumeration.memberStoredAs? value with
    | .ok (some member) => .ok (enumeration.valueOf member)
    | .ok none => .error (enumeration.refusal value)
    | .error fault => .error (.incomparable fault)

/-- A member of an enumeration is stored as the value it carries. -/
theorem toStorage_member (enumeration : Enumeration) (name : String) (stored : Value) :
    enumeration.toStorage (.member enumeration.name name stored) = .ok stored := by
  simp [toStorage]

/-- A member that is read from storage stands for itself. -/
theorem fromStorage_member (enumeration : Enumeration) (name : String) (stored : Value) :
    enumeration.fromStorage (.member enumeration.name name stored) =
      .ok (.member enumeration.name name stored) := by
  simp [fromStorage]

end Enumeration

end EntityCatalog
