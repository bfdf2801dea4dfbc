import EntityCatalog.OrderedMap
import EntityCatalog.Validator

/-!
# Catalogs

A catalog maps identifiers to the validators that are declared for them, in the order of first
declaration. Declaring an identifier again replaces its validator, and catalogs of successive
registrations are combined by overlaying them.
-/

namespace EntityCatalog

/-- Declared validators by identifier, in the order of first declaration. -/
structure Catalog (τ : Type) where
  declarations : OrderedMap Identifier (Validator τ)

namespace Catalog

variable {τ : Type}

/-- The catalog without declarations. -/
def empty : Catalog τ := ⟨.empty⟩

instance : Inhabited (Catalog τ) := ⟨empty⟩

/-- The catalog of a list of declarations, of which later ones replace earlier ones. -/
def ofList (declarations : List (Identifier × Validator τ)) : Catalog τ := ⟨.ofList declarations⟩

/-- The declared identifiers in order. -/
def identifiers (catalog : Catalog τ) : List Identifier := catalog.declarations.keys

/-- The number of declarations. -/
def size (catalog : Catalog τ) : Nat := catalog.declarations.size

/-- Adds a declaration, or replaces the one with the same identifier. -/
def declare (catalog : Catalog τ) (identifier : Identifier) (validator : Validator τ) :
    Catalog τ :=
  ⟨catalog.declarations.insert identifier validator⟩

/-- Overlays every declaration of another catalog. -/
def update (catalog other : Catalog τ) : Catalog τ :=
  ⟨catalog.declarations.overlay other.declarations⟩

/-- What is listed under an identifier. -/
def find? (catalog : Catalog τ) (identifier : Identifier) : Option (Validator τ) :=
  catalog.declarations.get? identifier

/--
The validator declared for an identifier. An absent value in place of a validator declares
nothing.
-/
def declared? (catalog : Catalog τ) (identifier : Identifier) : Option (Validator τ) :=
  match catalog.find? identifier with
  | some (.foreign .null) => none
  | found => found

/-- The descriptions of all declarations in order, or the value found in place of a validator. -/
def descriptions [Transform τ] (catalog : Catalog τ) : Except Value (List (String × Json)) :=
  catalog.declarations.entries.mapM fun entry => do
    let description ← entry.2.description
    pure (entry.1.text, description)

@[simp]
theorem find?_declare (catalog : Catalog τ) (identifier other : Identifier)
    (validator : Validator τ) :
    (catalog.declare identifier validator).find? other =
      if other = identifier then some validator else catalog.find? other :=
  OrderedMap.get?_insert catalog.declarations identifier validator other

end Catalog

end EntityCatalog
