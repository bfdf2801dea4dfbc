import EntityCatalog.Batch.ElementTypes
import EntityCatalog.ReferenceGraph.Order
import EntityCatalog.Validator
import EntityCatalog.Value.Items

/-!
# Derivation of validators

A column's validator is built from the inside out. Its base is the element type of an array, a
reference to the composite type or enumeration that the column's type names, the labels of an
enumeration that is not registered, or a base type, for texts with a bound on their length. A bound
is a difference, and what is held in the place of a modifier may have none. The base is wrapped in
the column's transform, then made nullable unless the column excludes the absent value, and finally
turned into a collection for an array. The transform is left out where the base refers to an
enumeration that applies the same one.
-/

namespace EntityCatalog

variable {τ : Type}

/-- How lengths of texts are derived from type modifiers. -/
structure TextPolicy where
  /-- The part of a modifier that is no length. -/
  margin : Quantity
  /-- What holds the names of the types whose values have a bounded length. -/
  boundedTypes : Value
deriving DecidableEq

namespace TextPolicy

/-- A margin and a list of names. -/
def ofNames (margin : Quantity) (names : List String) : TextPolicy :=
  ⟨margin, .list (names.map .text)⟩

/-- The names that hold unless others are chosen. -/
def standardNames : List String := ["varchar", "text"]

/-- The policy that holds unless another one is chosen. -/
def standard : TextPolicy := .ofNames (.whole 4) standardNames

/-- A policy of other values where there are some. -/
def ofValues (margin boundedTypes : Option Value) : TextPolicy :=
  ⟨(margin.map Quantity.ofValue).getD standard.margin, boundedTypes.getD standard.boundedTypes⟩

end TextPolicy

/-- Why it is not known how a column bounds the length of texts. -/
inductive BoundFault where
  /-- The names of the types with bounds cannot be looked through. -/
  | search (fault : SearchFault)
  /-- The modifier or the margin is no number to calculate with. -/
  | quantity (fault : QuantityFault)
deriving DecidableEq, Repr

/-- The wording of a fault. -/
def BoundFault.message : BoundFault → String
  | .search fault => fault.message
  | .quantity fault => fault.message

/-- The class of a fault. -/
def BoundFault.errorClass : BoundFault → ErrorClass
  | .search fault => ErrorCause.errorClass fault
  | .quantity fault => fault.errorClass

instance : ErrorCause BoundFault := ⟨BoundFault.errorClass, BoundFault.message⟩

namespace Column

/-- The registered entity that a column's type refers to. -/
def reference? (registered : Entities τ) (column : Column τ) : Option Identifier :=
  if column.isArray then
    match column.elementType with
    | some (.entity identifier) => some identifier
    | _ => none
  else
    match registered.findByName? column.typeName .composite with
    | some identifier => some identifier
    | none =>
        if column.isEnumeration then registered.findByName? column.typeName .enumeration
        else none

/-- The enumeration type whose labels are needed: the column's, if it is not registered. -/
def labelSource? (registered : Entities τ) (column : Column τ) : Option String :=
  if !column.isArray ∧ (column.reference? registered).isNone ∧ column.isEnumeration then
    some column.typeName
  else none

/-- The base of an array's validator. -/
def elementValidator? (column : Column τ) : Option (Validator τ) :=
  match column.elementType with
  | some (.entity identifier) => some (.reference identifier)
  | some (.named typeName) => some (.base typeName)
  | none => none

/-- The bound on the length of texts; other types and modifiers that are not positive have none. -/
def lengthBound? (policy : TextPolicy) (column : Column τ) :
    Except BoundFault (Option Quantity) := do
  if ← (policy.boundedTypes.holdsText? column.typeName).mapError .search then
    if ← (column.modifier.exceeds? (.whole 0)).mapError .quantity then
      some <$> (column.modifier.minus? policy.margin).mapError .quantity
    else pure none
  else pure none

/-- The validator of a base type, with a bound on the length of texts. -/
def scalarValidator (policy : TextPolicy) (column : Column τ) :
    Except BoundFault (Validator τ) := do
  match ← column.lengthBound? policy with
  | some bound => pure (.allOf [.base column.typeName, .maxLength bound])
  | none => pure (.base column.typeName)

/-- The base of a column's validator; `labels` are those of the type that needs them. -/
def baseValidator? (registered : Entities τ) (policy : TextPolicy) (labels : List String)
    (column : Column τ) : Except BoundFault (Option (Validator τ)) :=
  if column.isArray then .ok column.elementValidator?
  else
    match column.reference? registered with
    | some identifier => .ok (some (.reference identifier))
    | none =>
        if column.isEnumeration then .ok (if labels = [] then none else some (.oneOf labels))
        else (column.scalarValidator policy).map some

/-- Whether a validator refers to an enumeration that applies a transform itself. -/
def appliesTransform [DecidableEq τ] (registered : Entities τ) (transform : τ) :
    Validator τ → Bool
  | .reference identifier =>
      match registered.get? identifier with
      | some entity => entity.isEnumeration && decide (entity.transform = some transform)
      | none => false
  | _ => false

/-- A base wrapped in the column's transform, unless it applies that transform itself. -/
def wrapTransform [DecidableEq τ] (registered : Entities τ) (column : Column τ)
    (base : Validator τ) : Validator τ :=
  match column.transform with
  | some transform =>
      if appliesTransform registered transform base then base else .transformed base transform
  | none => base

/-- A validator made nullable unless the column excludes the absent value. -/
def wrapNullable (column : Column τ) (validator : Validator τ) : Validator τ :=
  if column.notNull then validator else .nullable validator

/-- A validator turned into one of collections for an array. -/
def wrapCollection (column : Column τ) (validator : Validator τ) : Validator τ :=
  if column.isArray then .collection validator else validator

/-- A base with everything around it that the column asks for. -/
def wrap [DecidableEq τ] (registered : Entities τ) (column : Column τ) (base : Validator τ) :
    Validator τ :=
  column.wrapCollection (column.wrapNullable (column.wrapTransform registered base))

/-- The validator of a column, or nothing if its type has none. -/
def validator? [DecidableEq τ] (registered : Entities τ) (policy : TextPolicy)
    (labels : List String) (column : Column τ) : Except BoundFault (Option (Validator τ)) :=
  (column.baseValidator? registered policy labels).map fun base =>
    base.map (column.wrap registered)

end Column

namespace Entity

/-- The validator of an enumeration: its labels, behind its transform. -/
def labelsValidator (entity : Entity τ) : Validator τ :=
  match entity.transform with
  | some transform => .transformed (.oneOf entity.labels) transform
  | none => .oneOf entity.labels

/-- The validator of rows with any of an entity's columns. -/
def rowValidator (entity : Entity τ) : Validator τ := .keys [] entity.columns.keys

/-- The validator of complete rows of an entity. -/
def insertValidator (entity : Entity τ) : Validator τ :=
  .keys entity.requiredColumns entity.optionalColumns

end Entity

/-- The references of the columns of some entities. -/
def referenceEdges (entities registered : Entities τ) : List (Identifier × Identifier) :=
  entities.entries.flatMap fun entry =>
    entry.2.columns.values.filterMap fun column =>
      (column.reference? registered).map fun target => (entry.1, target)

/-- The graph of some entities and what their columns refer to. -/
def referenceGraph (entities registered : Entities τ) : ReferenceGraph :=
  .ofParts entities.keys (referenceEdges entities registered)

end EntityCatalog
