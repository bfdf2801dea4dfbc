import EntityCatalog.Proofs.Entity
import EntityCatalog.Proofs.Outcome
import EntityCatalog.Proofs.Registration.Stages

/-!
# Where the entities of a batch come from

Every entity of a batch is made of a report and the declaration with its identifier; after that
only element types and transforms of its columns are changed.
-/

namespace EntityCatalog

variable {τ σ : Type}

theorem ReportedColumn.columnTypeName_of_checkTypeName {reported : ReportedColumn}
    {typeName : NonemptyText} (checked : reported.checkTypeName = .valid typeName) :
    typeName.val = reported.columnTypeName := by
  simp only [checkTypeName, Datum.checkNonemptyText, Checked.behind_eq_valid_iff,
    Checked.andThen_eq_valid_iff] at checked
  rcases checked with ⟨content, ⟨⟩, encoded, encodable, nonempty⟩
  unfold Datum.encodable at encodable
  split at encodable
  · cases encodable
    split at nonempty
    · cases nonempty
      rfl
    · cases nonempty
  · cases encodable

theorem ReportedColumn.columnCategory_eq_array_iff {reported : ReportedColumn} :
    reported.columnCategory = .array ↔ reported.category = arrayCode := by
  unfold columnCategory
  by_cases array : reported.category = arrayCode
  · simp [array]
  · simp only [array, if_false, iff_false]
    (repeat' split) <;> simp

namespace Column

/-- What a column takes from its report and its declaration; an array knows its elements by name. -/
structure IsMadeOf (declaration : Declaration τ) (reported : ReportedColumn)
    (column : Column τ) : Prop where
  identifier_eq : column.identifier = declaration.columnIdentifier reported
  typeName_eq : column.typeName = reported.columnTypeName
  category_eq : column.category = reported.columnCategory
  notNull_eq : column.notNull = reported.notNull
  isEnumeration_eq : column.isEnumeration = reported.isEnumeration
  elementType_eq : column.elementType =
    if column.isArray then some (.named column.typeName) else none
  transform_eq : column.transform = (declaration.override? reported).bind ColumnOverride.transform

theorem isMadeOf_of_ofReport {declaration : Declaration τ} {reported : ReportedColumn}
    {column : Column τ} (made : ofReport declaration reported = .ok column) :
    column.IsMadeOf declaration reported := by
  unfold ofReport at made
  rw [Checked.toExcept_eq_ok_iff, Checked.seq_eq_valid_iff] at made
  rcases made with ⟨build, modifier, built, _, rfl⟩
  rcases Checked.map_eq_valid_iff.mp built with ⟨typeName, checked, rfl⟩
  have typeNameEq := ReportedColumn.columnTypeName_of_checkTypeName checked
  exact ⟨rfl, typeNameEq, rfl, rfl, rfl, by simp [isArray, typeNameEq], rfl⟩

/-- A column that is not reported as an array has the type that it is reported with. -/
theorem IsMadeOf.of_notArray {declaration : Declaration τ} {reported : ReportedColumn}
    {column : Column τ} (made : column.IsMadeOf declaration reported)
    (notArray : reported.category ≠ arrayCode) :
    column.isArray = false ∧ column.typeName = reported.typeName := by
  have notArrayCategory : reported.columnCategory ≠ .array :=
    notArray ∘ ReportedColumn.columnCategory_eq_array_iff.mp
  refine ⟨?_, ?_⟩
  · simp [isArray, made.category_eq, notArrayCategory]
  · rw [made.typeName_eq, ReportedColumn.columnTypeName, if_neg notArrayCategory]

/-- Looking up the element type of an array changes nothing else. -/
theorem resolveElementType_eq (batch prior : Entities τ) (column : Column τ) :
    ∃ elementType, column.resolveElementType batch prior = { column with elementType } := by
  unfold resolveElementType
  split
  · split <;> exact ⟨_, rfl⟩
  · exact ⟨column.elementType, rfl⟩

/-- Inheriting a transform changes nothing else. -/
theorem inheritTransform_eq (registered : Entities τ) (column : Column τ) :
    ∃ transform, column.inheritTransform registered = { column with transform } := by
  unfold inheritTransform
  split
  · exact ⟨_, rfl⟩
  · exact ⟨column.transform, rfl⟩

@[simp]
theorem identifier_resolveElementType (batch prior : Entities τ) (column : Column τ) :
    (column.resolveElementType batch prior).identifier = column.identifier := by
  rcases resolveElementType_eq batch prior column with ⟨elementType, columnEq⟩
  rw [columnEq]

@[simp]
theorem transform_resolveElementType (batch prior : Entities τ) (column : Column τ) :
    (column.resolveElementType batch prior).transform = column.transform := by
  rcases resolveElementType_eq batch prior column with ⟨elementType, columnEq⟩
  rw [columnEq]

@[simp]
theorem identifier_inheritTransform (registered : Entities τ) (column : Column τ) :
    (column.inheritTransform registered).identifier = column.identifier := by
  rcases inheritTransform_eq registered column with ⟨transform, columnEq⟩
  rw [columnEq]

@[simp]
theorem typeName_resolveElementType (batch prior : Entities τ) (column : Column τ) :
    (column.resolveElementType batch prior).typeName = column.typeName := by
  rcases resolveElementType_eq batch prior column with ⟨elementType, columnEq⟩
  rw [columnEq]

@[simp]
theorem isArray_resolveElementType (batch prior : Entities τ) (column : Column τ) :
    (column.resolveElementType batch prior).isArray = column.isArray := by
  rcases resolveElementType_eq batch prior column with ⟨elementType, columnEq⟩
  rw [columnEq]
  rfl

@[simp]
theorem typeName_inheritTransform (registered : Entities τ) (column : Column τ) :
    (column.inheritTransform registered).typeName = column.typeName := by
  rcases inheritTransform_eq registered column with ⟨transform, columnEq⟩
  rw [columnEq]

@[simp]
theorem isArray_inheritTransform (registered : Entities τ) (column : Column τ) :
    (column.inheritTransform registered).isArray = column.isArray := by
  rcases inheritTransform_eq registered column with ⟨transform, columnEq⟩
  rw [columnEq]
  rfl

@[simp]
theorem notNull_inheritTransform (registered : Entities τ) (column : Column τ) :
    (column.inheritTransform registered).notNull = column.notNull := by
  rcases inheritTransform_eq registered column with ⟨transform, columnEq⟩
  rw [columnEq]

@[simp]
theorem reference?_inheritTransform (inheriting registered : Entities τ) (column : Column τ) :
    (column.inheritTransform inheriting).reference? registered = column.reference? registered := by
  rcases inheritTransform_eq inheriting column with ⟨transform, columnEq⟩
  rw [columnEq]
  rfl

/-- An array refers to the type that is found in the batch, or else among what was registered. -/
theorem reference?_resolveElementType (batch prior registered : Entities τ) {column : Column τ}
    (array : column.isArray = true) :
    (column.resolveElementType batch prior).reference? registered =
      (batch.findType? column.typeName).or (prior.findType? column.typeName) := by
  unfold resolveElementType
  rw [if_pos array]
  have stillArray (elementType : Option ElementType) :
      ({ column with elementType } : Column τ).isArray = true := array
  rcases (batch.findType? column.typeName).or (prior.findType? column.typeName) with
    _ | identifier
  · simp [reference?, stillArray]
  · simp [reference?, stillArray]

end Column

namespace Entity

theorem column_of_columnsOfReport {declaration : Declaration τ} {report : ReportedEntity}
    {columns : OrderedMap Identifier (Column τ)}
    (made : columnsOfReport declaration report = .ok columns) {identifier : Identifier}
    {column : Column τ} (found : columns.get? identifier = some column) :
    column.identifier = identifier ∧
      ∃ reported, Column.ofReport declaration reported = .ok column := by
  rcases bind_eq_ok_iff.mp made with ⟨list, listMade, ⟨⟩⟩
  rw [OrderedMap.get?_ofList] at found
  have listed := OrderedMap.mem_valuesAt_iff.mp (List.mem_of_getLast? found)
  rcases List.mem_map.mp listed with ⟨_, columnMem, ⟨⟩⟩
  rcases exists_of_mem_mapM listMade columnMem with ⟨reported, _, columnMade⟩
  exact ⟨rfl, reported, columnMade⟩

/-- What an entity takes from its declaration and its report. -/
theorem parts_of_ofReport {declaration : Declaration τ} {report : ReportedEntity}
    {entity : Entity τ} (made : ofReport report declaration = .ok entity) :
    entity.identifier = declaration.identifier ∧
      entity.insertIdentifier = declaration.identifier.insertIdentifier ∧
      entity.transform = declaration.options.transform ∧
      ∀ identifier column, entity.columns.get? identifier = some column →
        column.identifier = identifier ∧
          ∃ reported, Column.ofReport declaration reported = .ok column := by
  unfold ofReport at made
  split at made
  · cases made
    refine ⟨rfl, rfl, rfl, ?_⟩
    intro identifier column found
    cases found
  · rcases bind_eq_ok_iff.mp made with ⟨columns, columnsMade, ⟨⟩⟩
    refine ⟨rfl, rfl, rfl, ?_⟩
    intro identifier column found
    exact column_of_columnsOfReport columnsMade found

end Entity

theorem Step.runFrom_throw (error : RegistrationError) (start : Journal σ) :
    (throw error : Step σ Unit).runFrom start = (.error error, start) := rfl

namespace Registration

/-- Normalization adds the entity of a report for each declaration and changes no other entity. -/
theorem exists_report_of_normalize {introspector : Introspector τ σ}
    {declarations : List (Declaration τ)} {initial batch : Entities τ} {start final : Journal σ}
    (ran : (normalize introspector declarations initial).runFrom start = (.ok batch, final))
    {identifier : Identifier} {entity : Entity τ} (member : batch.get? identifier = some entity) :
    initial.get? identifier = some entity ∨
      ∃ declaration ∈ declarations, declaration.identifier = identifier ∧
        ∃ report, Entity.ofReport report declaration = .ok entity := by
  induction declarations generalizing initial start with
  | nil =>
      rw [normalize, Step.runFrom_pure_eq_ok_iff] at ran
      rw [← ran.1] at member
      exact Or.inl member
  | cons declaration rest ih =>
      unfold normalize at ran
      dsimp only at ran
      split at ran
      · rw [Step.runFrom_bind, Step.runFrom_throw] at ran
        simp at ran
      · simp only [Step.runFrom_bind_eq_ok_iff, Step.runFrom_ofExcept_eq_ok_iff,
          Step.runFrom_record_eq_ok_iff] at ran
        rcases ran with ⟨report, _, _, made, _, ⟨normalized, rfl⟩, _, _, _, restRan⟩
        rw [mapError_eq_ok_iff] at normalized
        rcases ih restRan with found | ⟨other, otherMem, origin⟩
        · rw [OrderedMap.get?_insert] at found
          split at found
          · next same =>
            simp only [Option.some.injEq] at found
            rw [← found]
            exact Or.inr ⟨declaration, List.mem_cons_self, same.symm, report, normalized⟩
          · exact Or.inl found
        · exact Or.inr ⟨other, List.mem_cons_of_mem _ otherMem, origin⟩

namespace Course

variable [DecidableEq τ] [Transform τ] {prior : Entities τ} {introspector : Introspector τ σ}
  {declarations : List (Declaration τ)} {policy : RegistrationPolicy} {start final : Journal σ}
  {registration : Registration τ}

/-- An entity of the batch is a reported one with element types looked up and inheritance. -/
theorem exists_report (course : Course prior introspector declarations policy start registration
    final) {identifier : Identifier} {entity : Entity τ}
    (member : registration.entities.get? identifier = some entity) :
    ∃ declaration ∈ declarations, declaration.identifier = identifier ∧
      ∃ report reported, Entity.ofReport report declaration = .ok reported ∧
        entity = (reported.mapColumns fun _ column =>
            column.resolveElementType course.reported prior).mapColumns fun _ column =>
          column.inheritTransform
            (prior.overlay (resolveElementTypes course.reported prior)) := by
  rw [course.entities_eq, inheritTransforms, OrderedMap.get?_mapValues, resolveElementTypes,
    OrderedMap.get?_mapValues, Option.map_map, Option.map_eq_some_iff] at member
  rcases member with ⟨reported, found, rfl⟩
  rcases exists_report_of_normalize course.normalized found with
    absent | ⟨declaration, declarationMem, same, report, made⟩
  · simp at absent
  · exact ⟨declaration, declarationMem, same, report, reported, made, rfl⟩

/-- A column of the batch is a reported one with its element type looked up and inheritance. -/
theorem exists_origin (course : Course prior introspector declarations policy start registration
    final) {identifier listed : Identifier} {entity : Entity τ} {column : Column τ}
    (member : registration.entities.get? identifier = some entity)
    (found : entity.columns.get? listed = some column) :
    ∃ origin : Column τ, column =
      (origin.resolveElementType course.reported prior).inheritTransform
        (prior.overlay (resolveElementTypes course.reported prior)) := by
  rcases course.exists_report member with ⟨_, _, _, _, reported, _, rfl⟩
  rw [Entity.columns_mapColumns, OrderedMap.get?_mapValues, Entity.columns_mapColumns,
    OrderedMap.get?_mapValues, Option.map_map, Option.map_eq_some_iff] at found
  rcases found with ⟨origin, _, rfl⟩
  exact ⟨origin, rfl⟩

/-- Types are found in the batch where they are found among the reported entities. -/
theorem findType?_entities (course : Course prior introspector declarations policy start
    registration final) (name : String) :
    registration.entities.findType? name = course.reported.findType? name := by
  rw [course.entities_eq, inheritTransforms, Entities.findType?_mapColumns, resolveElementTypes,
    Entities.findType?_mapColumns]

/-- An array of the batch refers to a type of the batch, or else to one registered before. -/
theorem reference?_of_isArray (course : Course prior introspector declarations policy start
    registration final) {identifier listed : Identifier} {entity : Entity τ} {column : Column τ}
    (member : registration.entities.get? identifier = some entity)
    (found : entity.columns.get? listed = some column) (array : column.isArray = true)
    (registered : Entities τ) :
    column.reference? registered =
      (registration.entities.findType? column.typeName).or (prior.findType? column.typeName) := by
  rcases course.exists_origin member found with ⟨origin, rfl⟩
  rw [Column.isArray_inheritTransform, Column.isArray_resolveElementType] at array
  rw [Column.reference?_inheritTransform, Column.typeName_inheritTransform,
    Column.typeName_resolveElementType, course.findType?_entities]
  exact Column.reference?_resolveElementType course.reported prior registered array

/-- The entities of a batch and their columns are listed by their identifiers. -/
theorem identifiers_of_mem (course : Course prior introspector declarations policy start
    registration final) {identifier : Identifier} {entity : Entity τ}
    (member : registration.entities.get? identifier = some entity) :
    entity.identifier = identifier ∧
      entity.insertIdentifier = identifier.insertIdentifier ∧
      ∀ listed column, entity.columns.get? listed = some column → column.identifier = listed := by
  rcases course.exists_report member with ⟨declaration, _, rfl, report, reported, made, rfl⟩
  rcases Entity.parts_of_ofReport made with ⟨identifierEq, insertEq, _, columns⟩
  refine ⟨identifierEq, insertEq, ?_⟩
  intro listed column found
  rw [Entity.columns_mapColumns, OrderedMap.get?_mapValues, Entity.columns_mapColumns,
    OrderedMap.get?_mapValues, Option.map_map, Option.map_eq_some_iff] at found
  rcases found with ⟨origin, originFound, rfl⟩
  have originIdentifier := (columns listed origin originFound).1
  simp [originIdentifier]

end Course

end Registration

end EntityCatalog
