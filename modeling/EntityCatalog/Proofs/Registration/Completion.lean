import EntityCatalog.Proofs.Outline
import EntityCatalog.Proofs.Registration.Failure

/-!
# Completing the columns of a batch

Between being reported and being registered, a column has its element type looked up and inherits a
transform. Either is decided by what the name of its type means: by the type that arrays find among
the reported entities or else among those registered before, and by the types that the effective
registry has under this name. If a name means the same in two registrations, they make the same of
the columns with this type, and derive the same validators from them.
-/

namespace EntityCatalog

variable {τ : Type}

section Batch

variable {batch registered : Entities τ}

theorem Entity.mapColumns_mapColumns (first second : Identifier → Column τ → Column τ)
    (entity : Entity τ) :
    (entity.mapColumns first).mapColumns second =
      entity.mapColumns fun listed column => second listed (first listed column) := by
  simp [mapColumns, OrderedMap.mapValues, Function.comp_def]

theorem Entity.mapColumns_congr {first second : Identifier → Column τ → Column τ}
    {entity : Entity τ}
    (same : ∀ listed column, entity.columns.get? listed = some column →
      first listed column = second listed column) :
    entity.mapColumns first = entity.mapColumns second := by
  have columnsEq : entity.columns.mapValues first = entity.columns.mapValues second := by
    apply OrderedMap.ext
    apply List.map_congr_left
    rintro ⟨listed, column⟩ mem
    rw [same listed column (OrderedMap.get?_eq_some_iff_mem.mpr mem)]
  simp only [mapColumns, columnsEq]

/-- The names of the types of all columns. -/
def Entities.typeNames (entities : Entities τ) : List String :=
  entities.values.flatMap fun entity => entity.columns.values.map Column.typeName

theorem Entities.mem_typeNames_iff {name : String} :
    name ∈ batch.typeNames ↔ ∃ owner entity listed column, batch.get? owner = some entity ∧
      entity.columns.get? listed = some column ∧ column.typeName = name := by
  simp only [typeNames, List.mem_flatMap, List.mem_map, OrderedMap.mem_values_iff]
  constructor
  · rintro ⟨entity, ⟨owner, member⟩, column, ⟨listed, found⟩, nameEq⟩
    exact ⟨owner, entity, listed, column, member, found, nameEq⟩
  · rintro ⟨owner, entity, listed, column, member, found, nameEq⟩
    exact ⟨entity, ⟨owner, member⟩, column, ⟨listed, found⟩, nameEq⟩

end Batch

/-- The type that an array finds: among the reported entities, or else among earlier ones. -/
def elementType? (prior reported : Entities τ) (name : String) : Option Identifier :=
  (reported.findType? name).or (prior.findType? name)

/-- A column with its element type looked up and its transform inherited. -/
def Column.complete (prior reported : Entities τ) (column : Column τ) : Column τ :=
  (column.resolveElementType reported prior).inheritTransform
    (prior.overlay (resolveElementTypes reported prior))

section Completion

variable {prior reported : Entities τ} {identifier target : Identifier} {column : Column τ}

@[simp]
theorem Column.typeName_complete (prior reported : Entities τ) (column : Column τ) :
    (column.complete prior reported).typeName = column.typeName := by
  rw [complete, typeName_inheritTransform, typeName_resolveElementType]

@[simp]
theorem Column.isArray_complete (prior reported : Entities τ) (column : Column τ) :
    (column.complete prior reported).isArray = column.isArray := by
  rw [complete, isArray_inheritTransform, isArray_resolveElementType]

theorem Column.reference?_complete_of_isArray (array : column.isArray = true)
    (registered : Entities τ) :
    (column.complete prior reported).reference? registered =
      elementType? prior reported column.typeName := by
  rw [complete, reference?_inheritTransform]
  exact reference?_resolveElementType reported prior registered array

/-- The batch has what is made of each reported entity. -/
theorem get?_completeBatch (prior reported : Entities τ) (identifier : Identifier) :
    (completeBatch prior reported).get? identifier = (reported.get? identifier).map fun entity =>
      entity.mapColumns fun _ column => column.complete prior reported := by
  rw [completeBatch, inheritTransforms, OrderedMap.get?_mapValues]
  conv_lhs => arg 2; rw [resolveElementTypes, OrderedMap.get?_mapValues]
  simp only [Option.map_map, Function.comp_def, Entity.mapColumns_mapColumns]
  rfl

@[simp]
theorem keys_completeBatch (prior reported : Entities τ) :
    (completeBatch prior reported).keys = reported.keys := by
  rw [completeBatch, keys_inheritTransforms]
  exact OrderedMap.keys_mapValues _ _

@[simp]
theorem outline?_completeBatch (prior reported : Entities τ) (identifier : Identifier) :
    (completeBatch prior reported).outline? identifier = reported.outline? identifier := by
  rw [completeBatch, Entities.outline?_inheritTransforms, Entities.outline?_resolveElementTypes]

/-- A column of the batch is a completed column of the reported entity. -/
theorem exists_reported_column {entity : Entity τ} {listed : Identifier}
    (member : (completeBatch prior reported).get? identifier = some entity)
    (found : entity.columns.get? listed = some column) :
    ∃ origin originColumn, reported.get? identifier = some origin ∧
      origin.columns.get? listed = some originColumn ∧
      column = originColumn.complete prior reported := by
  rw [get?_completeBatch, Option.map_eq_some_iff] at member
  rcases member with ⟨origin, originMember, rfl⟩
  rw [Entity.columns_mapColumns, OrderedMap.get?_mapValues, Option.map_eq_some_iff] at found
  rcases found with ⟨originColumn, originFound, rfl⟩
  exact ⟨origin, originColumn, originMember, originFound, rfl⟩

end Completion

/--
Whether a type name means the same in two registrations: arrays of it find the same type, which has
the same outline, and in the effective registries there are the same types of this name.
-/
structure MeansAlike (prior reported otherPrior otherReported : Entities τ) (name : String) :
    Prop where
  elementType : elementType? prior reported name = elementType? otherPrior otherReported name
  types : Entities.HaveSameTypes (prior.overlay reported) (otherPrior.overlay otherReported) name
  outline : ∀ target, elementType? prior reported name = some target →
    Entities.outline? (prior.overlay reported) target =
      Entities.outline? (otherPrior.overlay otherReported) target

namespace Column

variable {prior reported otherPrior otherReported : Entities τ} {column : Column τ}
  (alike : MeansAlike prior reported otherPrior otherReported column.typeName)

include alike

/-- What is made of a column depends on what the name of its type means. -/
theorem complete_congr : column.complete prior reported =
    column.complete otherPrior otherReported := by
  have resolved : column.resolveElementType reported prior =
      column.resolveElementType otherReported otherPrior := by
    have elementType := alike.elementType
    unfold elementType? at elementType
    rw [resolveElementType, resolveElementType, elementType]
  unfold complete
  rw [resolved]
  apply inheritTransform_congr
  intro identifier outline isType
  rw [typeName_resolveElementType] at isType
  simpa using alike.types identifier outline isType

theorem haveSameTypes_effective :
    Entities.HaveSameTypes (prior.overlay (completeBatch prior reported))
      (otherPrior.overlay (completeBatch otherPrior otherReported))
      (column.complete prior reported).typeName := by
  intro identifier outline isType
  rw [typeName_complete] at isType
  simpa using alike.types identifier outline isType

theorem reference?_complete_congr :
    (column.complete prior reported).reference?
        (prior.overlay (completeBatch prior reported)) =
      (column.complete prior reported).reference?
        (otherPrior.overlay (completeBatch otherPrior otherReported)) :=
  reference?_congr (haveSameTypes_effective alike)

theorem labelSource?_complete_congr :
    (column.complete prior reported).labelSource?
        (prior.overlay (completeBatch prior reported)) =
      (column.complete prior reported).labelSource?
        (otherPrior.overlay (completeBatch otherPrior otherReported)) :=
  labelSource?_congr (haveSameTypes_effective alike)

/-- What a completed column refers to has the same outline in both effective registries. -/
theorem outline?_of_reference?_complete {target : Identifier}
    (refers : (column.complete prior reported).reference?
      (prior.overlay (completeBatch prior reported)) = some target) :
    Entities.outline? (prior.overlay (completeBatch prior reported)) target =
      Entities.outline? (otherPrior.overlay (completeBatch otherPrior otherReported)) target := by
  by_cases array : column.isArray = true
  · rw [reference?_complete_of_isArray array] at refers
    simpa using alike.outline target refers
  · have notArray : (column.complete prior reported).isArray = false := by
      rw [isArray_complete]
      exact Bool.eq_false_iff.mpr array
    exact (haveSameTypes_effective alike).outline?_eq (hasType_of_reference? notArray refers)

/-- So does the validator that is derived from it in the end. -/
theorem validator?_complete_congr [DecidableEq τ] (policy : TextPolicy) (labels : List String) :
    (column.complete prior reported).validator?
        (prior.overlay (completeBatch prior reported)) policy labels =
      (column.complete prior reported).validator?
        (otherPrior.overlay (completeBatch otherPrior otherReported)) policy labels :=
  validator?_congr (reference?_complete_congr alike) fun _ refers =>
    outline?_of_reference?_complete alike refers

end Column

section Columns

variable {prior reported otherPrior otherReported : Entities τ}
  (alike : ∀ name ∈ reported.typeNames, MeansAlike prior reported otherPrior otherReported name)

include alike

/-- The registries are read through the columns of the completed batch only. -/
theorem exists_meansAlike {owner listed : Identifier} {entity : Entity τ} {column : Column τ}
    (member : (completeBatch prior reported).get? owner = some entity)
    (found : entity.columns.get? listed = some column) :
    ∃ origin : Column τ, column = origin.complete prior reported ∧
      MeansAlike prior reported otherPrior otherReported origin.typeName := by
  rcases exists_reported_column member found with ⟨_, origin, reportedMember, listedIn, rfl⟩
  exact ⟨origin, rfl, alike _ (Entities.mem_typeNames_iff.mpr
    ⟨_, _, _, _, reportedMember, listedIn, rfl⟩)⟩

/-- A completed part of some reported entities is a part of them completed. -/
theorem completeBatch_includedIn (included : reported.IncludedIn otherReported) :
    (completeBatch prior reported).IncludedIn (completeBatch otherPrior otherReported) := by
  intro owner entity member
  rw [get?_completeBatch, Option.map_eq_some_iff] at member
  rcases member with ⟨origin, originMember, rfl⟩
  rw [get?_completeBatch, included owner origin originMember, Option.map_some, Option.some.injEq]
  apply Entity.mapColumns_congr
  intro listed column found
  exact (Column.complete_congr (alike _ (Entities.mem_typeNames_iff.mpr
    ⟨_, _, _, _, originMember, found, rfl⟩))).symm

end Columns

end EntityCatalog
