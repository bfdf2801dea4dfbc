import EntityCatalog.Entity

/-!
# Inherited transforms

A column of an enumeration type inherits the transform of the enumeration, unless it has one of
its own. Inheriting a second time changes nothing, because a column with a transform inherits
none.
-/

namespace EntityCatalog

variable {τ : Type}

/-- The transform that a column inherits, with the enumeration it comes from. -/
def Column.inheritance? (registered : Entities τ) (column : Column τ) :
    Option (Identifier × τ) :=
  if column.isEnumeration ∧ column.transform.isNone then do
    let identifier ← registered.findByName? column.typeName .enumeration
    let enumeration ← registered.get? identifier
    let transform ← enumeration.transform
    pure (identifier, transform)
  else none

/-- The column with the transform it inherits. -/
def Column.inheritTransform (registered : Entities τ) (column : Column τ) : Column τ :=
  match column.inheritance? registered with
  | some (_, transform) => { column with transform := some transform }
  | none => column

/-- The batch with all columns given the transforms they inherit. -/
def inheritTransforms (registered batch : Entities τ) : Entities τ :=
  batch.mapValues fun _ entity =>
    entity.mapColumns fun _ column => column.inheritTransform registered

/-- The columns of a batch that inherit a transform, with the enumeration and the transform. -/
def inheritances (registered batch : Entities τ) : List (Identifier × Identifier × τ) :=
  batch.values.flatMap fun entity =>
    entity.columns.values.filterMap fun column =>
      (column.inheritance? registered).map fun inherited => (column.identifier, inherited)

end EntityCatalog
