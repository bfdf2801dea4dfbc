import EntityCatalog.Entity

/-!
# Declarations of entities

What an application says about an entity that it wants registered: the name in the database, the
identifier, and options for the entity and for single columns, which are named as the database
names them.
-/

namespace EntityCatalog

variable {τ : Type}

/-- What an application says about one column. -/
structure ColumnOverride (τ : Type) where
  /-- The identifier to use in place of the scope and the column's name. -/
  identifier : Option Identifier
  /-- The transform of the column, which takes precedence over the one of its enumeration. -/
  transform : Option τ
deriving DecidableEq

/-- The options of a declared entity. -/
structure EntityOptions (τ : Type) where
  joins : OrderedMap String Join
  /-- The transform of an enumeration. -/
  transform : Option τ
  /-- Overrides by the name of the column in the database. -/
  columns : OrderedMap String (ColumnOverride τ)
deriving DecidableEq

/-- The options that say nothing. -/
def EntityOptions.none : EntityOptions τ := ⟨.empty, .none, .empty⟩

/-- An entity to register. -/
@[ext]
structure Declaration (τ : Type) where
  /-- The name of the table or type in the database. -/
  tableName : String
  identifier : Identifier
  options : EntityOptions τ
  tableName_ne_empty : tableName ≠ ""

instance [DecidableEq τ] : DecidableEq (Declaration τ) := fun _ _ =>
  decidable_of_iff _ Declaration.ext_iff.symm

/-- The scope of the declared entity and of its columns. -/
def Declaration.scope (declaration : Declaration τ) : String := declaration.identifier.scope

end EntityCatalog
