import EntityCatalog.Entity

/-!
# Element types of arrays

The elements of an array may be rows of a composite type or labels of an enumeration. Their type
is looked up by name, in the batch that is being registered and then in the entities registered
before; in each of them composite types come before enumerations. A type that is found nowhere
stays known by its name.
-/

namespace EntityCatalog

variable {τ : Type}

/-- The composite type or enumeration with a name among some entities. -/
def Entities.findType? (entities : Entities τ) (typeName : String) : Option Identifier :=
  (entities.findByName? typeName .composite).or (entities.findByName? typeName .enumeration)

namespace Column

/-- The column with the element type of its array looked up; other columns stay as they are. -/
def resolveElementType (batch prior : Entities τ) (column : Column τ) : Column τ :=
  if column.isArray then
    match (batch.findType? column.typeName).or (prior.findType? column.typeName) with
    | some identifier => { column with elementType := some (.entity identifier) }
    | none => { column with elementType := some (.named column.typeName) }
  else column

end Column

/-- The batch with the element types of all arrays looked up. -/
def resolveElementTypes (batch prior : Entities τ) : Entities τ :=
  batch.mapValues fun _ entity =>
    entity.mapColumns fun _ column => column.resolveElementType batch prior

end EntityCatalog
