import EntityCatalog.Calendar
import EntityCatalog.Identifier
import EntityCatalog.Number.Decimal

/-!
# Values

The values that an application keeps in rows and columns: scalars, ordered collections, mappings,
members of enumerations and records. A mapping keeps its entries in order, and its keys are values.
A member of an enumeration carries the value that is stored for it.
-/

namespace EntityCatalog

/-- The forms in which octets are held; they differ in their literal text only. -/
inductive OctetForm where
  /-- Octets that cannot change. -/
  | fixed
  /-- Octets that can grow and change in place. -/
  | growable
  /-- A window on octets that are held elsewhere. -/
  | window
deriving DecidableEq, Repr

/-- What tells one enumeration from every other one, and the names it goes by. -/
structure EnumerationName where
  /-- Two enumerations are the same exactly if their keys are. -/
  key : String
  /-- The module that declares the enumeration. -/
  module : String
  /-- The name with the names of the declarations around it, joined by dots. -/
  qualified : String
deriving DecidableEq, Repr

/-- The qualified name from its last dot on. -/
def EnumerationName.short (name : EnumerationName) : String :=
  String.ofList ((name.qualified.toList.reverse.takeWhile (· != '.')).reverse)

/-- A value of which nothing is known but its type, its texts and what tells it from others. -/
structure Token where
  typeName : String
  /-- The name that the value goes by. -/
  label : String
  /-- The text that shows the value. -/
  literal : String
  /-- Two values of one type are the same exactly if their keys are. -/
  key : List String
deriving DecidableEq, Repr

/-- A value without parts. -/
inductive Scalar where
  | null
  | boolean (truth : Bool)
  | integer (number : Int)
  | float (number : Float)
  | decimal (number : Number.Decimal)
  | text (content : String)
  | identifier (identifier : Identifier)
  /-- A universally unique identifier, by its lower-case text. -/
  | uuid (content : String)
  | octets (form : OctetForm) (content : List UInt8)
  | date (date : Date)
  | time (time : TimeOfDay)
  | dateTime (moment : DateTime)
  | duration (duration : Duration)
  | token (token : Token)
deriving DecidableEq

/-- A value of an application. -/
inductive Value where
  | scalar (content : Scalar)
  | list (items : List Value)
  | tuple (items : List Value)
  /-- Entries with different keys, in order. -/
  | mapping (entries : List (Value × Value))
  /-- A member of an enumeration, with the value that is stored for it. -/
  | member (enumeration : EnumerationName) (name : String) (stored : Value)
  /-- A record of a type, by its fields in order. -/
  | record (typeName : String) (fields : List (String × Value))

namespace Value

/-- The absent value. -/
@[match_pattern] abbrev null : Value := .scalar .null

/-- A truth value. -/
@[match_pattern] abbrev boolean (truth : Bool) : Value := .scalar (.boolean truth)

/-- An integer. -/
@[match_pattern] abbrev integer (number : Int) : Value := .scalar (.integer number)

/-- A floating-point number. -/
@[match_pattern] abbrev float (number : Float) : Value := .scalar (.float number)

/-- A decimal number. -/
@[match_pattern] abbrev decimal (number : Number.Decimal) : Value := .scalar (.decimal number)

/-- A text. -/
@[match_pattern] abbrev text (content : String) : Value := .scalar (.text content)

/-- An identifier. -/
@[match_pattern] abbrev identifier (identifier : Identifier) : Value :=
  .scalar (.identifier identifier)

instance : Inhabited Value := ⟨null⟩

mutual

/-- Whether two values are equal. -/
def equal : Value → Value → Bool
  | .scalar left, .scalar right => left == right
  | .list left, .list right => equalItems left right
  | .tuple left, .tuple right => equalItems left right
  | .mapping left, .mapping right => equalEntries left right
  | .member leftEnumeration leftName left, .member rightEnumeration rightName right =>
      leftEnumeration == rightEnumeration && leftName == rightName && left.equal right
  | .record leftType left, .record rightType right =>
      leftType == rightType && equalFields left right
  | _, _ => false
termination_by structural left => left

/-- Whether two lists of values are equal. -/
def equalItems : List Value → List Value → Bool
  | [], [] => true
  | left :: lefts, right :: rights => left.equal right && equalItems lefts rights
  | _, _ => false
termination_by structural left => left

/-- Whether two lists of entries are equal. -/
def equalEntries : List (Value × Value) → List (Value × Value) → Bool
  | [], [] => true
  | (leftKey, left) :: lefts, (rightKey, right) :: rights =>
      leftKey.equal rightKey && left.equal right && equalEntries lefts rights
  | _, _ => false
termination_by structural left => left

/-- Whether two lists of fields are equal. -/
def equalFields : List (String × Value) → List (String × Value) → Bool
  | [], [] => true
  | (leftName, left) :: lefts, (rightName, right) :: rights =>
      leftName == rightName && left.equal right && equalFields lefts rights
  | _, _ => false
termination_by structural left => left

end

mutual

theorem equal_iff : ∀ left right : Value, left.equal right = true ↔ left = right
  | .scalar _, right => by cases right <;> simp [equal]
  | .list items, right => by
      cases right with
      | list rightItems => simp [equal, equalItems_iff items rightItems]
      | _ => simp [equal]
  | .tuple items, right => by
      cases right with
      | tuple rightItems => simp [equal, equalItems_iff items rightItems]
      | _ => simp [equal]
  | .mapping entries, right => by
      cases right with
      | mapping rightEntries => simp [equal, equalEntries_iff entries rightEntries]
      | _ => simp [equal]
  | .member _ _ stored, right => by
      cases right with
      | member _ _ rightStored => simp [equal, equal_iff stored rightStored, and_assoc]
      | _ => simp [equal]
  | .record _ fields, right => by
      cases right with
      | record _ rightFields => simp [equal, equalFields_iff fields rightFields]
      | _ => simp [equal]

theorem equalItems_iff :
    ∀ left right : List Value, equalItems left right = true ↔ left = right
  | [], right => by cases right <;> simp [equalItems]
  | head :: tail, right => by
      cases right with
      | nil => simp [equalItems]
      | cons rightHead rightTail =>
        simp [equalItems, equal_iff head rightHead, equalItems_iff tail rightTail]

theorem equalEntries_iff :
    ∀ left right : List (Value × Value), equalEntries left right = true ↔ left = right
  | [], right => by cases right <;> simp [equalEntries]
  | (key, value) :: tail, right => by
      cases right with
      | nil => simp [equalEntries]
      | cons rightHead rightTail =>
        obtain ⟨rightKey, rightValue⟩ := rightHead
        simp [equalEntries, equal_iff key rightKey, equal_iff value rightValue,
          equalEntries_iff tail rightTail]

theorem equalFields_iff :
    ∀ left right : List (String × Value), equalFields left right = true ↔ left = right
  | [], right => by cases right <;> simp [equalFields]
  | (name, value) :: tail, right => by
      cases right with
      | nil => simp [equalFields]
      | cons rightHead rightTail =>
        obtain ⟨rightName, rightValue⟩ := rightHead
        simp [equalFields, equal_iff value rightValue, equalFields_iff tail rightTail]

end

instance : DecidableEq Value := fun left right => decidable_of_iff _ (equal_iff left right)

/-- Whether a value is absent, zero or without content. -/
def isVoid : Value → Bool
  | .scalar .null => true
  | .scalar (.boolean truth) => !truth
  | .scalar (.integer number) => number == 0
  | .scalar (.float number) => number == 0
  | .scalar (.decimal (.finite _ coefficient _)) => coefficient == 0
  | .scalar (.text content) => content == ""
  | .scalar (.octets _ content) => content.isEmpty
  | .scalar (.duration duration) => duration.microseconds == 0
  | .list items => items.isEmpty
  | .tuple items => items.isEmpty
  | .mapping entries => entries.isEmpty
  | _ => false

end Value

end EntityCatalog
