import EntityCatalog.Entity

/-!
# Reports of the database

What the source of introspection reports about an entity, before it is brought into the form in
which entities are registered: columns in ordinal order with raw type names, and the labels of an
enumeration.
-/

namespace EntityCatalog

/-- A column as it is reported. -/
@[ext]
structure ReportedColumn where
  name : String
  typeName : String
  notNull : Bool
  isEnumeration : Bool
  /-- The code of the type's category. -/
  category : String
  modifier : Option Quantity
  hasDefault : Bool
  name_ne_empty : name ≠ ""
  typeName_ne_empty : typeName ≠ ""

instance : DecidableEq ReportedColumn := fun _ _ => decidable_of_iff _ ReportedColumn.ext_iff.symm

/-- An entity as it is reported. -/
structure ReportedEntity where
  kind : EntityKind
  columns : List ReportedColumn
  labels : List String
deriving DecidableEq

end EntityCatalog
