import EntityCatalog.Enumeration
import EntityCatalog.OrderedMap
import EntityCatalog.Text.Blank
import EntityCatalog.Text.Encoding
import EntityCatalog.Value.Items

/-!
# Declarations of enumerations

An enumeration is declared by assigning values to names, one after the other. Most assignments
declare a member. Names with an underscore, the name of the enumeration and two underscores in
front are private to it and declare none; neither do names between double underscores, and those
that the declaration itself sets aside. Names between single underscores are reserved, except for
the few that have a meaning: one sets names aside, one states the order in which the members are
expected, and one is what would be asked for values that no member is stored as.
-/

namespace EntityCatalog

/-- Why assignments make no enumeration. -/
inductive EnumerationError where
  /-- A name is assigned again; this is the value it has. -/
  | redeclared (name : String) (value : Value)
  /-- A name stands between single underscores. -/
  | reserved (name : String)
  /-- Names are set aside that are members already. -/
  | setAsideTooLate (names : List String)
  /-- A value of a type without items stands where names are listed. -/
  | notListed (fault : ItemsFault)
  /-- Names that can be the name of no member. -/
  | unusable (names : List String)
  /-- The name or the description of the enumeration has no encoding. -/
  | unencodable (fault : Text.EncodingFault)
  /-- The name of the enumeration has a null character. -/
  | nullInName
  /-- A member would be made by a value of a type that cannot be called. -/
  | uncallable (typeName : String)
  /-- A value cannot be looked up or compared. -/
  | lookup (fault : LookupFault)
  /-- The members are not in the order that is stated. -/
  | disordered (names : List String) (order : List Value)
deriving DecidableEq

namespace EnumerationError

/-- The wording of an enumeration error. -/
def message : EnumerationError → String
  | .redeclared name value => Text.quoted name ++ " already defined as " ++ value.literal
  | .reserved name =>
      "_sunder_ names, such as " ++ Text.quoted name ++ ", are reserved for future Enum use"
  | .setAsideTooLate names =>
      "_ignore_ cannot specify already set names: \x7b" ++ commaSeparated (names.map Text.quoted) ++
        "\x7d"
  | .notListed fault => fault.message
  | .unusable names =>
      "invalid enum member name(s) " ++ ",".intercalate (names.map Text.quoted)
  | .unencodable fault => fault.message
  | .nullInName => "type name must not contain null characters"
  | .uncallable typeName => uncallableMessage typeName
  | .lookup fault => fault.message
  | .disordered names order =>
      "member order does not match _order_:\n  " ++ textListLiteral names ++ "\n  " ++
        (Value.list order).literal

/-- The class of an enumeration error. -/
def errorClass : EnumerationError → ErrorClass
  | .redeclared .. | .notListed _ | .uncallable _ | .disordered .. => .type
  | .reserved _ | .setAsideTooLate _ | .unusable _ | .nullInName => .value
  | .unencodable _ => .encoding
  | .lookup fault => fault.errorClass

end EnumerationError

instance : ErrorCause EnumerationError := ⟨EnumerationError.errorClass, EnumerationError.message⟩

/-- What a declaration has assigned so far. -/
structure EnumerationScope where
  /-- The values of the names that are assigned. -/
  assigned : OrderedMap String Value
  /-- The names that declare members, in order. -/
  members : List String
  /-- The names that are set aside, and what else is listed with them. -/
  setAside : List Value

namespace EnumerationScope

/-- The start of a declaration. -/
def empty : EnumerationScope := ⟨.empty, [], []⟩

/-- Whether a name has exactly so many underscores at both of its ends, and something between. -/
def isBetweenUnderscores (count : Nat) (name : String) : Bool :=
  let characters := name.toList
  let underscores (characters : List Char) : Nat := (characters.takeWhile (· == '_')).length
  2 * count < characters.length && underscores characters == count &&
    underscores characters.reverse == count

/-- Whether a name is private to the enumeration with a name, which opens it. -/
def isPrivate (enumeration name : String) : Bool :=
  let opening := '_' :: enumeration.toList ++ ['_', '_']
  let characters := name.toList
  opening.length < characters.length && opening.isPrefixOf characters &&
    !(['_', '_'].isPrefixOf characters.reverse)

/-- The name that sets names aside. -/
def settingAside : String := "_ignore_"

/-- The name that states the order of the members. -/
def order : String := "_order_"

/-- Another name for the order of the members. -/
def orderAlias : String := "__order__"

/-- The name of what is asked for values that no member is stored as. -/
def fallback : String := "_missing_"

/-- The names between single underscores that have a meaning of their own. -/
def meaningful : List String :=
  [order, "_generate_next_value_", "_numeric_repr_", fallback, settingAside, "_iter_member_",
    "_iter_member_by_value_", "_iter_member_by_def_"]

/-- The names that are listed by a value: the words of a text, or else the items. -/
def listed? : Value → Except EnumerationError (List Value)
  | .scalar (.text content) => .ok ((Text.words content).map Value.text)
  | value => value.items?.mapError .notListed

/-- Assigns a value to a name that declares no member. -/
def keep (scope : EnumerationScope) (name : String) (value : Value) : EnumerationScope :=
  { scope with assigned := scope.assigned.insert name value }

/-- Whether a name is set aside. -/
def isSetAside (scope : EnumerationScope) (name : String) : Bool :=
  scope.setAside.contains (.text name)

/-- Refuses the first of some values that cannot be looked up. -/
def ensureKeys (values : List Value) : Except EnumerationError Unit :=
  match Value.itemsFault? values with
  | some fault => .error (.lookup fault)
  | none => .ok ()

/-- Sets the names aside that a value lists, in place of those before. -/
def setNamesAside (scope : EnumerationScope) (value : Value) :
    Except EnumerationError EnumerationScope := do
  let names ← listed? value
  ensureKeys names
  match scope.members.filter fun name => names.contains (.text name) with
  | [] => pure { scope.keep settingAside value with setAside := names }
  | late => throw (.setAsideTooLate late)

/-- Assigns a value to a name that is neither reserved nor private. -/
def declare (scope : EnumerationScope) (name : String) (value : Value) :
    Except EnumerationError EnumerationScope :=
  match scope.assigned.get? name with
  | some known =>
      if scope.isSetAside name ∧ name ∉ scope.members then .ok (scope.keep name value)
      else .error (.redeclared name known)
  | none =>
      if scope.isSetAside name then .ok (scope.keep name value)
      else .ok { scope.keep name value with members := scope.members ++ [name] }

/-- Assigns a value to a name in the declaration of an enumeration with a name. -/
def assign (enumeration : String) (scope : EnumerationScope) (name : String) (value : Value) :
    Except EnumerationError EnumerationScope :=
  if isPrivate enumeration name then .ok (scope.keep name value)
  else if isBetweenUnderscores 1 name then
    if name = settingAside then scope.setNamesAside value
    else if meaningful.contains name then .ok (scope.keep name value)
    else .error (.reserved name)
  else if isBetweenUnderscores 2 name then
    .ok (scope.keep (if name = orderAlias then order else name) value)
  else scope.declare name value

/-- What is assigned to a name that is not set aside in the end. -/
def kept? (scope : EnumerationScope) (name : String) : Option Value :=
  if scope.isSetAside name then none else scope.assigned.get? name

/-- The names of the functions that make a member, in the order in which they are called. -/
def makers : List String :=
  ["__new__", "__getattribute__", "__getattr__", "__setattr__", "__init__"]

/-- The value that is called first when a member is made; the absent value does not replace one. -/
def maker? (scope : EnumerationScope) : Option Value :=
  makers.findSome? fun name =>
    (scope.kept? name).filter fun value => name != "__new__" || value != .null

/-- The names that no member can have. -/
def unusableNames : List String := ["", "mro"]

/-- Refuses a text that has no encoding. -/
def ensureEncodable (text : String) : Except EnumerationError Unit :=
  match Text.encodingFault? text with
  | some fault => .error (.unencodable fault)
  | none => .ok ()

/-- Refuses names and a description with which there is no enumeration. -/
def ensureNames (enumeration : String) (scope : EnumerationScope) :
    Except EnumerationError Unit := do
  match unusableNames.filter scope.members.contains with
  | [] => pure ()
  | unusable => throw (.unusable unusable)
  ensureEncodable enumeration
  if enumeration.contains '\x00' then throw .nullInName
  match scope.kept? "__doc__" with
  | some (.scalar (.text description)) => ensureEncodable description
  | _ => pure ()

/-- The name of the enumeration; without its module and its full name it has standard ones. -/
def enumerationName (name : EnumerationName) (scope : EnumerationScope) : EnumerationName :=
  { name with
    module := if scope.isSetAside "__module__" then "enum" else name.module
    qualified := if scope.isSetAside "__qualname__" then name.short else name.qualified }

end EnumerationScope

namespace Enumeration

/--
The value that is stored for a member. For the empty tuple this is a new value, which is the same
as nothing else.
-/
def storedFor (enumeration : EnumerationName) (name : String) : Value → Value
  | .tuple [] => .scalar (.token ⟨"object", name, "<object object>", [enumeration.key, name]⟩)
  | value => value

/-- Declares a further name: of the member with the same stored value, or of a new one. -/
def declare (enumeration : Enumeration) (name : String) (value : Value) :
    Except EnumerationError Enumeration := do
  let stored := storedFor enumeration.name name value
  let known ← (enumeration.memberStoredAs? stored).mapError .lookup
  let member := known.getD ⟨name, stored⟩
  pure { enumeration with declared := enumeration.declared ++ [(name, member)] }

/-- The names of the members, without aliases. -/
def memberNames (enumeration : Enumeration) : List String :=
  (enumeration.declared.filter fun entry => entry.2.name == entry.1).map Prod.fst

/-- Whether a value is the name of an alias. -/
def isAlias (enumeration : Enumeration) : Value → Bool
  | .scalar (.text name) =>
      match enumeration.declared.lookup name with
      | some member => member.name != name
      | none => false
  | _ => false

/-- Refuses members in another order than the stated one, in which aliases do not count. -/
def ensureOrder (enumeration : Enumeration) (stated : Option Value) :
    Except EnumerationError Unit := do
  match stated.filter fun value => !value.isVoid with
  | none => pure ()
  | some value =>
      let listed ← EnumerationScope.listed? value
      EnumerationScope.ensureKeys listed
      let order := listed.filter fun name => !enumeration.isAlias name
      if listed ≠ [] ∧ order ≠ enumeration.memberNames.map Value.text then
        throw (.disordered enumeration.memberNames order)

/-- The enumeration that some assignments declare. -/
def ofDeclarations (name : EnumerationName) (declarations : List (String × Value)) :
    Except EnumerationError Enumeration := do
  let scope ← declarations.foldlM
    (fun scope entry => scope.assign name.short entry.1 entry.2) EnumerationScope.empty
  scope.ensureNames name.short
  match scope.members, scope.maker? with
  | _ :: _, some maker => throw (.uncallable maker.typeName)
  | _, _ => pure ()
  let start : Enumeration :=
    ⟨scope.enumerationName name, [], scope.kept? EnumerationScope.fallback⟩
  let members := scope.members.filterMap fun member =>
    (scope.assigned.get? member).map fun value => (member, value)
  let enumeration ← members.foldlM
    (fun enumeration entry => enumeration.declare entry.1 entry.2) start
  enumeration.ensureOrder (scope.kept? EnumerationScope.order)
  pure enumeration

end Enumeration

/-- A name that is not assigned yet and neither reserved, private nor set aside is a member. -/
theorem EnumerationScope.members_declare {scope : EnumerationScope} {name : String}
    (unassigned : scope.assigned.get? name = none) (open_ : scope.isSetAside name = false)
    (value : Value) :
    scope.declare name value =
      .ok { scope.keep name value with members := scope.members ++ [name] } := by
  simp [declare, unassigned, open_]

end EntityCatalog
