import EntityCatalog.Entity
import EntityCatalog.Value.Sameness

/-!
# The registry

The registry holds the entities that have been registered. Batches are merged into it as a whole:
an entity of the batch replaces the one with the same identifier, and none is ever removed. Every
query sees the latest description of each entity.
-/

namespace EntityCatalog

/-- The registered entities. -/
structure Registry (τ : Type) where
  entities : Entities τ
deriving DecidableEq

namespace Registry

variable {τ : Type}

/-- The registry without entities. -/
def empty : Registry τ := ⟨.empty⟩

instance : Inhabited (Registry τ) := ⟨empty⟩

/-- Overlays a batch of entities. -/
def merge (registry : Registry τ) (batch : Entities τ) : Registry τ :=
  ⟨registry.entities.overlay batch⟩

/-- The number of registered entities. -/
def size (registry : Registry τ) : Nat := registry.entities.size

/-- The entity with an identifier. -/
def find? (registry : Registry τ) (identifier : Identifier) : Option (Entity τ) :=
  registry.entities.get? identifier

/-- Whether a value is the identifier of an entity; it has to be one that can be looked up. -/
def contains (registry : Registry τ) : Value → Except LookupFault Bool
  | .scalar (.identifier identifier) => .ok (registry.find? identifier).isSome
  | value => value.ensureKey.map fun _ => false

/-- The identifiers of all entities in increasing order. -/
def identifiers (registry : Registry τ) : List Identifier :=
  Identifier.sorted registry.entities.keys

/-- The columns of an entity; none for an unknown one. -/
def columnsOf (registry : Registry τ) (identifier : Identifier) :
    OrderedMap Identifier (Column τ) :=
  match registry.find? identifier with
  | some entity => entity.columns
  | none => .empty

/-- The declaration of complete rows of an entity, unless it is unknown or an enumeration. -/
def insertIdentifierOf? (registry : Registry τ) (identifier : Identifier) :
    Option Identifier :=
  match registry.find? identifier with
  | some entity => if entity.isEnumeration then none else some entity.insertIdentifier
  | none => none

/-- The entity of a kind with a name in the database. -/
def entityFor? (registry : Registry τ) (name : String) (kind : EntityKind) :
    Option Identifier :=
  registry.entities.findByName? name kind

/-- The identifiers of all entities with a column, in increasing order. -/
def entitiesWithColumn (registry : Registry τ) (column : Identifier) : List Identifier :=
  Identifier.sorted
    ((registry.entities.entries.filter fun entry => entry.2.columns.contains column).map
      Prod.fst)

/-- Whether two registries have the same entities, in whatever order. -/
def same? [DecidableEq τ] (left right : Registry τ) : Except LookupFault Bool :=
  left.entities.agreeBy Entity.same? right.entities

end Registry

end EntityCatalog
