import EntityCatalog.Proofs.Registration.Completion
import EntityCatalog.Proofs.Registration.Enumerations

/-!
# Rewriting the columns of a batch

Two passes rewrite the columns of a batch: one looks up the element types of arrays, the other lets
columns of enumerations inherit transforms. Both look entities up in the very batch that is being
rewritten, but only by their outlines, which neither of them changes. Hence each pass finds the same
when it is run again or after the other one, whatever hides whatever, and they may be run in either
order. Each of them writes one field of some columns and leaves everything else as it is.
-/

namespace EntityCatalog

variable {τ : Type}

namespace Entities

/-- Two passes make what a third one makes if they do so of every column. -/
theorem mapColumns_mapColumns_of_eq {first second both : Column τ → Column τ}
    (eachEq : ∀ column, second (first column) = both column) (entities : Entities τ) :
    ((entities.mapValues fun _ entity => entity.mapColumns fun _ column => first column).mapValues
        fun _ entity => entity.mapColumns fun _ column => second column) =
      entities.mapValues fun _ entity => entity.mapColumns fun _ column => both column := by
  apply OrderedMap.ext
  simp [OrderedMap.mapValues, Entity.mapColumns_mapColumns, eachEq]

/-- Whether an entity is the enumeration with a name that is looked up first. -/
structure IsFirstEnumeration (registered : Entities τ) (name : String) (identifier : Identifier)
    (enumeration : Entity τ) : Prop where
  member : registered.get? identifier = some enumeration
  kind_eq : enumeration.kind = .enumeration
  name_eq : enumeration.name = name
  le : ∀ other otherEntity, registered.get? other = some otherEntity →
    otherEntity.kind = .enumeration → otherEntity.name = name → identifier ≤ other

theorem isFirstEnumeration_iff {registered : Entities τ} {name : String} {identifier : Identifier}
    {enumeration : Entity τ} :
    registered.IsFirstEnumeration name identifier enumeration ↔
      registered.findByName? name .enumeration = some identifier ∧
        registered.get? identifier = some enumeration := by
  simp only [findByName?_eq_some_iff, mem_identifiersOf_iff_get?]
  constructor
  · intro first
    refine ⟨⟨⟨enumeration, first.member, first.kind_eq, first.name_eq⟩, ?_⟩, first.member⟩
    rintro other ⟨otherEntity, member, kindEq, nameEq⟩
    exact first.le other otherEntity member kindEq nameEq
  · rintro ⟨⟨⟨entity, found, kindEq, nameEq⟩, least⟩, member⟩
    rw [found, Option.some.injEq] at member
    subst enumeration
    refine ⟨found, kindEq, nameEq, ?_⟩
    intro other otherEntity otherMember otherKind otherName
    exact least other ⟨otherEntity, otherMember, otherKind, otherName⟩

end Entities

/-- The type of the elements of arrays: the one that is found by a name, or else the name itself. -/
def elementTypeOf (prior reported : Entities τ) (name : String) : ElementType :=
  ((elementType? prior reported name).map ElementType.entity).getD (.named name)

namespace Column

variable {batch prior registered other : Entities τ} {column : Column τ}

section ElementType

theorem resolveElementType_of_isArray (array : column.isArray = true) :
    column.resolveElementType batch prior =
      { column with elementType := some (elementTypeOf prior batch column.typeName) } := by
  unfold resolveElementType elementTypeOf elementType?
  rw [if_pos array]
  rcases (batch.findType? column.typeName).or (prior.findType? column.typeName) <;> rfl

theorem resolveElementType_of_not_isArray (notArray : ¬column.isArray = true) :
    column.resolveElementType batch prior = column :=
  if_neg notArray

theorem resolveElementType_congr (same : ∀ name, batch.findType? name = other.findType? name)
    (prior : Entities τ) (column : Column τ) :
    column.resolveElementType batch prior = column.resolveElementType other prior := by
  simp only [resolveElementType, same]

theorem resolveElementType_resolveElementType (batch prior : Entities τ) (column : Column τ) :
    (column.resolveElementType batch prior).resolveElementType batch prior =
      column.resolveElementType batch prior := by
  by_cases array : column.isArray = true
  · have arrayAgain : (column.resolveElementType batch prior).isArray = true := by simp [array]
    rw [resolveElementType_of_isArray arrayAgain, resolveElementType_of_isArray array]
  · simp only [resolveElementType_of_not_isArray array]

/-- Looking up element types and replacing transforms do not get in the way of each other. -/
theorem resolveElementType_withTransform (batch prior : Entities τ) (column : Column τ)
    (transform : Option τ) :
    ({ column with transform } : Column τ).resolveElementType batch prior =
      { column.resolveElementType batch prior with transform } := by
  by_cases array : column.isArray = true
  · have arrayToo : ({ column with transform } : Column τ).isArray = true := array
    rw [resolveElementType_of_isArray arrayToo, resolveElementType_of_isArray array]
  · have notArrayEither : ¬({ column with transform } : Column τ).isArray = true := array
    rw [resolveElementType_of_not_isArray notArrayEither, resolveElementType_of_not_isArray array]

end ElementType

section Transform

theorem inheritTransform_of_inheritance?_eq_some {identifier : Identifier} {transform : τ}
    (inherited : column.inheritance? registered = some (identifier, transform)) :
    column.inheritTransform registered = { column with transform := some transform } := by
  simp [inheritTransform, inherited]

theorem inheritance?_eq_some_iff {identifier : Identifier} {transform : τ} :
    column.inheritance? registered = some (identifier, transform) ↔
      (column.isEnumeration = true ∧ column.transform = none) ∧
        ∃ enumeration, registered.IsFirstEnumeration column.typeName identifier enumeration ∧
          enumeration.transform = some transform := by
  simp only [inheritance?, Option.isNone_iff_eq_none, Option.ite_none_right_eq_some,
    Option.bind_eq_bind, Option.bind_eq_some_iff, Option.pure_def, Option.some.injEq,
    Prod.mk.injEq, Entities.isFirstEnumeration_iff]
  apply and_congr_right
  intro _
  constructor
  · rintro ⟨_, found, enumeration, member, _, has, rfl, rfl⟩
    exact ⟨enumeration, ⟨found, member⟩, has⟩
  · rintro ⟨enumeration, ⟨found, member⟩, has⟩
    exact ⟨identifier, found, enumeration, member, transform, has, rfl, rfl⟩

theorem inheritTransform_inheritTransform (registered : Entities τ) (column : Column τ) :
    (column.inheritTransform registered).inheritTransform registered =
      column.inheritTransform registered := by
  rcases inherited : column.inheritance? registered with _ | ⟨identifier, transform⟩
  · simp only [inheritTransform_of_inheritance?_eq_none inherited]
  · rw [inheritTransform_of_inheritance?_eq_some inherited]
    exact inheritTransform_of_transform rfl registered

theorem inheritance?_resolveElementType (batch prior registered : Entities τ)
    (column : Column τ) :
    (column.resolveElementType batch prior).inheritance? registered =
      column.inheritance? registered := by
  rcases resolveElementType_eq batch prior column with ⟨elementType, columnEq⟩
  rw [columnEq]
  rfl

theorem inheritTransform_resolveElementType (batch prior registered : Entities τ)
    (column : Column τ) :
    (column.resolveElementType batch prior).inheritTransform registered =
      (column.inheritTransform registered).resolveElementType batch prior := by
  have same := inheritance?_resolveElementType batch prior registered column
  rcases inherited : column.inheritance? registered with _ | ⟨identifier, transform⟩
  · rw [inherited] at same
    rw [inheritTransform_of_inheritance?_eq_none inherited,
      inheritTransform_of_inheritance?_eq_none same]
  · rw [inherited] at same
    rw [inheritTransform_of_inheritance?_eq_some inherited,
      inheritTransform_of_inheritance?_eq_some same]
    exact (resolveElementType_withTransform batch prior column (some transform)).symm

end Transform

/-- Whether a column is another one with its element type looked up, if it is an array. -/
structure ResolvesTo (prior batch : Entities τ) (before after : Column τ) : Prop where
  eq : after = { before with elementType := after.elementType }
  elementType_eq : after.elementType =
    if before.isArray then some (elementTypeOf prior batch before.typeName) else before.elementType

theorem resolvesTo_resolveElementType (batch prior : Entities τ) (column : Column τ) :
    ResolvesTo prior batch column (column.resolveElementType batch prior) := by
  by_cases array : column.isArray = true
  · rw [resolveElementType_of_isArray array]
    exact ⟨rfl, by simp [array]⟩
  · rw [resolveElementType_of_not_isArray array]
    exact ⟨rfl, by simp [array]⟩

/--
Whether a column is another one with the transform that it inherits: that of the first enumeration
with the name of its type, if the column has the flag of enumerations and no transform of its own.
-/
structure InheritsFrom (registered : Entities τ) (before after : Column τ) : Prop where
  eq : after = { before with transform := after.transform }
  transform_eq_some_iff : ∀ transform, after.transform = some transform ↔
    before.transform = some transform ∨
      (before.isEnumeration = true ∧ before.transform = none) ∧
        ∃ identifier enumeration,
          registered.IsFirstEnumeration before.typeName identifier enumeration ∧
            enumeration.transform = some transform

theorem inheritsFrom_inheritTransform (registered : Entities τ) (column : Column τ) :
    InheritsFrom registered column (column.inheritTransform registered) := by
  have inheritedIff (transform : τ) :
      (∃ identifier, column.inheritance? registered = some (identifier, transform)) ↔
        (column.isEnumeration = true ∧ column.transform = none) ∧
          ∃ identifier enumeration,
            registered.IsFirstEnumeration column.typeName identifier enumeration ∧
              enumeration.transform = some transform := by
    simp only [inheritance?_eq_some_iff, exists_and_left]
  rcases inherited : column.inheritance? registered with _ | ⟨identifier, transform⟩
  · rw [inheritTransform_of_inheritance?_eq_none inherited]
    refine ⟨rfl, ?_⟩
    intro transform
    rw [← inheritedIff, inherited]
    simp
  · rw [inheritTransform_of_inheritance?_eq_some inherited]
    refine ⟨rfl, ?_⟩
    intro other
    have untransformed := (inheritance?_eq_some_iff.mp inherited).1.2
    rw [← inheritedIff, inherited, untransformed]
    simp

end Column

/-- The entity with no columns, which has everything else that the entity has. -/
def Entity.withoutColumns (entity : Entity τ) : Entity τ :=
  { entity with columns := .empty, columns_isEmpty_of_enumeration := fun _ => rfl }

/--
Whether entities differ from others in their columns only, and these as told: there are the same
entities with the same columns in the same order.
-/
structure Entities.Rewrites (change : Column τ → Column τ → Prop) (before after : Entities τ) :
    Prop where
  keys_eq : after.keys = before.keys
  exists_entity : ∀ identifier entity, before.get? identifier = some entity →
    ∃ rewritten, after.get? identifier = some rewritten ∧
      rewritten.withoutColumns = entity.withoutColumns ∧
      rewritten.columns.keys = entity.columns.keys ∧
      ∀ listed column, entity.columns.get? listed = some column →
        ∃ replaced, rewritten.columns.get? listed = some replaced ∧ change column replaced

theorem Entities.rewrites_mapColumns {change : Column τ → Column τ → Prop}
    {replace : Column τ → Column τ} (changes : ∀ column, change column (replace column))
    (entities : Entities τ) :
    Entities.Rewrites change entities
      (entities.mapValues fun _ entity => entity.mapColumns fun _ column => replace column) := by
  refine ⟨OrderedMap.keys_mapValues _ _, ?_⟩
  intro identifier entity member
  refine ⟨entity.mapColumns fun _ column => replace column, ?_, rfl,
    OrderedMap.keys_mapValues _ _, ?_⟩
  · simp [OrderedMap.get?_mapValues, member]
  · intro listed column found
    refine ⟨replace column, ?_, changes column⟩
    simp [OrderedMap.get?_mapValues, found]

section Passes

variable (prior batch : Entities τ)

theorem resolveElementTypes_resolveElementTypes :
    resolveElementTypes (resolveElementTypes batch prior) prior =
      resolveElementTypes batch prior := by
  have sameTypes (name : String) :
      (resolveElementTypes batch prior).findType? name = batch.findType? name :=
    Entities.findType?_mapColumns _ _ _
  have again (column : Column τ) :
      (column.resolveElementType batch prior).resolveElementType
        (resolveElementTypes batch prior) prior = column.resolveElementType batch prior := by
    rw [Column.resolveElementType_congr sameTypes, Column.resolveElementType_resolveElementType]
  exact Entities.mapColumns_mapColumns_of_eq again batch

theorem inheritTransforms_inheritTransforms :
    inheritTransforms
        ((prior.overlay batch).overlay (inheritTransforms (prior.overlay batch) batch))
        (inheritTransforms (prior.overlay batch) batch) =
      inheritTransforms (prior.overlay batch) batch := by
  have sameOutlines (identifier : Identifier) :
      Entities.outline?
          ((prior.overlay batch).overlay (inheritTransforms (prior.overlay batch) batch))
          identifier =
        Entities.outline? (prior.overlay batch) identifier := by
    simp only [Entities.outline?_overlay, Entities.outline?_inheritTransforms]
    rcases batch.outline? identifier <;> rfl
  have again (column : Column τ) :
      (column.inheritTransform (prior.overlay batch)).inheritTransform
          ((prior.overlay batch).overlay (inheritTransforms (prior.overlay batch) batch)) =
        column.inheritTransform (prior.overlay batch) := by
    rw [Column.inheritTransform_congr (Entities.haveSameTypes_of_outline?_eq sameOutlines _),
      Column.inheritTransform_inheritTransform]
  exact Entities.mapColumns_mapColumns_of_eq again batch

theorem inheritTransforms_resolveElementTypes :
    inheritTransforms (prior.overlay (resolveElementTypes batch prior))
        (resolveElementTypes batch prior) =
      resolveElementTypes (inheritTransforms (prior.overlay batch) batch) prior := by
  have sameOutlines (identifier : Identifier) :
      Entities.outline? (prior.overlay (resolveElementTypes batch prior)) identifier =
        Entities.outline? (prior.overlay batch) identifier := by
    simp only [Entities.outline?_overlay, Entities.outline?_resolveElementTypes]
  have sameTypes (name : String) :
      batch.findType? name = (inheritTransforms (prior.overlay batch) batch).findType? name :=
    (Entities.findType?_mapColumns _ _ _).symm
  have columnEq (column : Column τ) :
      (column.resolveElementType batch prior).inheritTransform
          (prior.overlay (resolveElementTypes batch prior)) =
        (column.inheritTransform (prior.overlay batch)).resolveElementType
          (inheritTransforms (prior.overlay batch) batch) prior := by
    rw [Column.inheritTransform_congr (Entities.haveSameTypes_of_outline?_eq sameOutlines _),
      Column.inheritTransform_resolveElementType, Column.resolveElementType_congr sameTypes]
  calc
    inheritTransforms (prior.overlay (resolveElementTypes batch prior))
          (resolveElementTypes batch prior) =
        batch.mapValues fun _ entity => entity.mapColumns fun _ column =>
          (column.inheritTransform (prior.overlay batch)).resolveElementType
            (inheritTransforms (prior.overlay batch) batch) prior :=
      Entities.mapColumns_mapColumns_of_eq columnEq batch
    _ = resolveElementTypes (inheritTransforms (prior.overlay batch) batch) prior :=
      (Entities.mapColumns_mapColumns_of_eq (fun _ => rfl) batch).symm

/--
Running either pass twice is running it once, and both orders of the passes make the same batch.
The first pass writes the element types of arrays and nothing else, the second one transforms of
columns that have the flag of enumerations and none yet, whatever registry it is given.
-/
theorem rewritingPasses_idempotent_commute :
    let registered : Entities τ := prior.overlay batch
    let resolved := resolveElementTypes batch prior
    let inherited := inheritTransforms registered batch
    resolveElementTypes resolved prior = resolved ∧
      inheritTransforms (registered.overlay inherited) inherited = inherited ∧
      inheritTransforms (prior.overlay resolved) resolved = resolveElementTypes inherited prior ∧
      batch.Rewrites (Column.ResolvesTo prior batch) resolved ∧
      ∀ others : Entities τ,
        batch.Rewrites (Column.InheritsFrom others) (inheritTransforms others batch) := by
  intro registered resolved inherited
  refine ⟨resolveElementTypes_resolveElementTypes prior batch,
    inheritTransforms_inheritTransforms prior batch,
    inheritTransforms_resolveElementTypes prior batch, ?_, ?_⟩
  · exact Entities.rewrites_mapColumns (Column.resolvesTo_resolveElementType batch prior) batch
  · intro others
    exact Entities.rewrites_mapColumns (Column.inheritsFrom_inheritTransform others) batch

end Passes

end EntityCatalog
