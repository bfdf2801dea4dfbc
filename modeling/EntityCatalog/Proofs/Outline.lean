import EntityCatalog.Proofs.Derivation
import EntityCatalog.Proofs.Registration.Provenance

/-!
# What columns see of entities

A column looks entities up by the name of its type, and all that it can tell of them is their kind,
their name and their transform: the outline of an entity. Of these it only considers composite types
and enumerations of that one name. So a column refers to the same, inherits the same and has the
same validator among any entities that have the same types of this name, whatever else there is, and
whatever the columns of these types are.
-/

namespace EntityCatalog

variable {τ : Type}

/-- What can be told of an entity that is looked up. -/
@[ext]
structure Outline (τ : Type) where
  kind : EntityKind
  name : String
  transform : Option τ

def Entity.outline (entity : Entity τ) : Outline τ := ⟨entity.kind, entity.name, entity.transform⟩

/-- Whether an outline is that of a composite type or an enumeration with a name. -/
def Outline.IsType (outline : Outline τ) (name : String) : Prop :=
  (outline.kind = .composite ∨ outline.kind = .enumeration) ∧ outline.name = name

namespace Entities

/-- The outline of the entity with an identifier. -/
def outline? (entities : Entities τ) (identifier : Identifier) : Option (Outline τ) :=
  (entities.get? identifier).map Entity.outline

variable {entities left right lower upper : Entities τ} {identifier : Identifier} {name : String}
  {kind : EntityKind}

@[simp]
theorem outline?_overlay (lower upper : Entities τ) (identifier : Identifier) :
    Entities.outline? (lower.overlay upper) identifier =
      (upper.outline? identifier).or (lower.outline? identifier) := by
  rw [outline?, outline?, outline?, OrderedMap.get?_overlay]
  rcases upper.get? identifier <;> rfl

@[simp]
theorem outline?_mapColumns (entities : Entities τ)
    (replace : Identifier → Column τ → Column τ) (identifier : Identifier) :
    Entities.outline? (entities.mapValues fun _ entity => entity.mapColumns replace) identifier =
      entities.outline? identifier := by
  rw [outline?, outline?, OrderedMap.get?_mapValues, Option.map_map]
  rfl

@[simp]
theorem outline?_resolveElementTypes (batch prior : Entities τ) (identifier : Identifier) :
    (resolveElementTypes batch prior).outline? identifier = batch.outline? identifier :=
  outline?_mapColumns _ _ _

@[simp]
theorem outline?_inheritTransforms (registered batch : Entities τ) (identifier : Identifier) :
    (inheritTransforms registered batch).outline? identifier = batch.outline? identifier :=
  outline?_mapColumns _ _ _

theorem mem_identifiersOf_iff_outline? :
    identifier ∈ entities.identifiersOf name kind ↔
      ∃ outline, entities.outline? identifier = some outline ∧ outline.kind = kind ∧
        outline.name = name := by
  simp [mem_identifiersOf_iff_get?, outline?, Entity.outline]

theorem hasType_iff_outline? :
    entities.HasType identifier name ↔
      ∃ outline, entities.outline? identifier = some outline ∧ outline.IsType name := by
  simp [HasType, outline?, Entity.outline, Outline.IsType]

/-- Whether among some entities there are the same types of a name as among others. -/
def HaveSameTypes (left right : Entities τ) (name : String) : Prop :=
  ∀ identifier outline, outline.IsType name →
    (left.outline? identifier = some outline ↔ right.outline? identifier = some outline)

theorem haveSameTypes_of_outline?_eq
    (same : ∀ identifier, left.outline? identifier = right.outline? identifier) (name : String) :
    left.HaveSameTypes right name := by
  intro identifier outline _
  rw [same]

namespace HaveSameTypes

variable (same : left.HaveSameTypes right name)

include same

theorem findByName?_eq (isType : kind = .composite ∨ kind = .enumeration) :
    left.findByName? name kind = right.findByName? name kind := by
  apply findByName?_congr
  intro identifier
  simp only [mem_identifiersOf_iff_outline?]
  apply exists_congr
  rintro outline
  apply and_congr_left
  rintro ⟨rfl, nameEq⟩
  exact same identifier outline ⟨isType, nameEq⟩

theorem findType?_eq : left.findType? name = right.findType? name := by
  rw [findType?, findType?, same.findByName?_eq (Or.inl rfl), same.findByName?_eq (Or.inr rfl)]

theorem outline?_eq (hasType : left.HasType identifier name) :
    left.outline? identifier = right.outline? identifier := by
  rcases hasType_iff_outline?.mp hasType with ⟨outline, found, isType⟩
  rw [found, (same identifier outline isType).mp found]

/-- What is laid over both hides the same types of both. -/
theorem overlay (upper : Entities τ) :
    Entities.HaveSameTypes (left.overlay upper) (right.overlay upper) name := by
  intro identifier outline isType
  rw [outline?_overlay, outline?_overlay]
  rcases upper.outline? identifier with _ | hidden
  · simpa using same identifier outline isType
  · simp

end HaveSameTypes

end Entities

namespace Column

variable {left right : Entities τ} {column : Column τ}

section SameTypes

variable (same : left.HaveSameTypes right column.typeName)

include same

theorem reference?_congr : column.reference? left = column.reference? right := by
  simp only [reference?, same.findByName?_eq (Or.inl rfl), same.findByName?_eq (Or.inr rfl)]

theorem labelSource?_congr : column.labelSource? left = column.labelSource? right := by
  simp only [labelSource?, reference?_congr same]

/-- What is inherited is found by name and depends on the outline of what is found. -/
theorem inheritance?_congr : column.inheritance? left = column.inheritance? right := by
  unfold inheritance?
  rw [same.findByName?_eq (Or.inr rfl)]
  split
  · rcases found : right.findByName? column.typeName .enumeration with _ | identifier
    · rfl
    · have outlines : left.outline? identifier = right.outline? identifier := by
        rw [← same.findByName?_eq (Or.inr rfl)] at found
        rcases Entities.exists_of_findByName? found with ⟨entity, member, kindEq, nameEq⟩
        exact same.outline?_eq ⟨entity, member, Or.inr kindEq, nameEq⟩
      have transforms : (left.get? identifier).bind Entity.transform =
          (right.get? identifier).bind Entity.transform := by
        have mapped := congrArg (fun outline? => Option.bind outline? Outline.transform) outlines
        simpa [Entities.outline?, Option.bind_map, Function.comp_def, Entity.outline] using mapped
      simpa [Option.bind_assoc] using
        congrArg (fun found => found.bind fun transform => some (identifier, transform)) transforms
  · rfl

theorem inheritTransform_congr : column.inheritTransform left = column.inheritTransform right := by
  unfold inheritTransform
  rw [inheritance?_congr same]

end SameTypes

section Validator

variable [DecidableEq τ] {policy : TextPolicy} {labels : List String}

theorem appliesTransform_eq_outline? (registered : Entities τ) (transform : τ)
    (target : Identifier) :
    appliesTransform registered transform (.reference target) =
      match registered.outline? target with
      | some outline =>
          (outline.kind == .enumeration) && decide (outline.transform = some transform)
      | none => false := by
  rw [appliesTransform, Entities.outline?]
  rcases registered.get? target <;> rfl

/-- A base is wrapped in the same way if what it refers to has the same outline. -/
theorem wrap_congr {base : Validator τ}
    (sameTargets : ∀ target ∈ base.references, left.outline? target = right.outline? target) :
    column.wrap left base = column.wrap right base := by
  have applies (transform : τ) :
      appliesTransform left transform base = appliesTransform right transform base := by
    cases base with
    | reference target =>
        have outlines := sameTargets target (by simp [Validator.references])
        rw [appliesTransform_eq_outline?, appliesTransform_eq_outline?, outlines]
    | _ => rfl
  simp only [wrap, wrapTransform, applies]

/-- A column has the same validator if it refers to the same and this has the same outline. -/
theorem validator?_congr (sameReference : column.reference? left = column.reference? right)
    (sameTarget : ∀ target, column.reference? left = some target →
      left.outline? target = right.outline? target) :
    column.validator? left policy labels = column.validator? right policy labels := by
  have baseEq : column.baseValidator? left policy labels =
      column.baseValidator? right policy labels := by
    unfold baseValidator?
    rw [sameReference]
  rw [validator?, validator?, ← baseEq]
  rcases ran : column.baseValidator? left policy labels with fault | base
  · rfl
  · rcases base with _ | base
    · rfl
    · have wrapEq : column.wrap left base = column.wrap right base := by
        apply wrap_congr
        intro target mem
        exact sameTarget target ((mem_references_base_iff ran target).mp mem)
      simp [Except.map, wrapEq]

end Validator

end Column

end EntityCatalog
