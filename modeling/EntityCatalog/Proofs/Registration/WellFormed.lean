import EntityCatalog.Proofs.Registration.Provenance
import EntityCatalog.Proofs.Registration.Series

/-!
# Well-formed registries

What the registry holds agrees with where it is held: entities and columns have the identifiers
under which they are listed, and complete rows have the identifier that belongs to the entity. An
enumeration has labels only and every other entity has columns only. The element type of an array
is a registered entity, or is known by the name that the column has for it, and no other column has
an element type.

A reported entity is well-formed because arrays know their element type by name at first. Looking
up the element types keeps this up because what is found is in the batch or was registered before,
and as entities are never removed, it keeps being registered.
-/

namespace EntityCatalog

variable {τ σ : Type}

/-- Whether a column agrees with its place in an entity, and its element type with its category. -/
structure Column.IsWellFormed (registered : Entities τ) (listed : Identifier)
    (column : Column τ) : Prop where
  identifier_eq : column.identifier = listed
  elementType_eq_none : column.isArray = false → column.elementType = none
  elementType_of_isArray : column.isArray = true →
    column.elementType = some (.named column.typeName) ∨
      ∃ target ∈ registered.keys, column.elementType = some (.entity target)

/-- Whether an entity agrees with the place where it is registered, and its parts with its kind. -/
structure Entity.IsWellFormed (registered : Entities τ) (identifier : Identifier)
    (entity : Entity τ) : Prop where
  identifier_eq : entity.identifier = identifier
  insertIdentifier_eq : entity.insertIdentifier = identifier.insertIdentifier
  columns_isEmpty : entity.isEnumeration = true → entity.columns.isEmpty = true
  labels_eq_nil : entity.isEnumeration = false → entity.labels = []
  columns : ∀ listed column, entity.columns.get? listed = some column →
    column.IsWellFormed registered listed

/-- Whether all of some entities are well-formed with respect to the registered ones. -/
def Entities.AreWellFormed (entities registered : Entities τ) : Prop :=
  ∀ identifier entity, entities.get? identifier = some entity →
    entity.IsWellFormed registered identifier

namespace Column

variable {registered later : Entities τ} {listed : Identifier} {column : Column τ}

theorem isWellFormed_of_ofReport {declaration : Declaration τ} {reported : ReportedColumn}
    (made : ofReport declaration reported = .ok column) (registered : Entities τ) :
    column.IsWellFormed registered column.identifier := by
  have elementType := (isMadeOf_of_ofReport made).elementType_eq
  refine ⟨rfl, ?_, ?_⟩
  · intro notArray
    simpa [notArray] using elementType
  · intro isArray
    exact Or.inl (by simpa [isArray] using elementType)

namespace IsWellFormed

theorem mono (wellFormed : column.IsWellFormed registered listed)
    (subset : registered.keys ⊆ later.keys) : column.IsWellFormed later listed := by
  refine ⟨wellFormed.identifier_eq, wellFormed.elementType_eq_none, ?_⟩
  intro isArray
  rcases wellFormed.elementType_of_isArray isArray with named | ⟨target, mem, elementType⟩
  · exact Or.inl named
  · exact Or.inr ⟨target, subset mem, elementType⟩

theorem of_isArray (identifierEq : column.identifier = listed) (isArray : column.isArray = true)
    (elementType : column.elementType = some (.named column.typeName) ∨
      ∃ target ∈ registered.keys, column.elementType = some (.entity target)) :
    column.IsWellFormed registered listed := by
  refine ⟨identifierEq, ?_, fun _ => elementType⟩
  intro notArray
  rw [isArray] at notArray
  cases notArray

theorem resolveElementType {batch prior : Entities τ}
    (wellFormed : column.IsWellFormed registered listed)
    (fromBatch : batch.keys ⊆ registered.keys) (fromPrior : prior.keys ⊆ registered.keys) :
    (column.resolveElementType batch prior).IsWellFormed registered listed := by
  unfold Column.resolveElementType
  split
  · next isArray =>
    split
    · next target found =>
      have mem : target ∈ registered.keys := by
        rcases Option.or_eq_some_iff.mp found with inBatch | ⟨_, inPrior⟩
        · exact fromBatch (Entities.hasType_of_findType? inBatch).mem_keys
        · exact fromPrior (Entities.hasType_of_findType? inPrior).mem_keys
      exact of_isArray wellFormed.identifier_eq isArray (Or.inr ⟨target, mem, rfl⟩)
    · exact of_isArray wellFormed.identifier_eq isArray (Or.inl rfl)
  · exact wellFormed

theorem inheritTransform (wellFormed : column.IsWellFormed registered listed)
    (inheriting : Entities τ) :
    (column.inheritTransform inheriting).IsWellFormed registered listed := by
  rcases inheritTransform_eq inheriting column with ⟨transform, columnEq⟩
  rw [columnEq]
  exact ⟨wellFormed.identifier_eq, wellFormed.elementType_eq_none,
    wellFormed.elementType_of_isArray⟩

end IsWellFormed

end Column

namespace Entity

variable {registered later : Entities τ} {identifier : Identifier} {entity : Entity τ}

theorem isWellFormed_of_ofReport {declaration : Declaration τ} {report : ReportedEntity}
    (made : ofReport report declaration = .ok entity) (registered : Entities τ) :
    entity.IsWellFormed registered declaration.identifier := by
  rcases parts_of_ofReport made with ⟨identifierEq, insertEq, _, columns⟩
  refine ⟨identifierEq, insertEq, ?_, ?_, ?_⟩
  · intro isEnumeration
    exact entity.columns_isEmpty_of_enumeration (eq_of_beq isEnumeration)
  · intro notEnumeration
    unfold ofReport at made
    split at made
    · next enumeration =>
      cases made
      simp [isEnumeration, ofDeclaration, enumeration] at notEnumeration
    · rcases bind_eq_ok_iff.mp made with ⟨_, _, ⟨⟩⟩
      rfl
  · intro listed column found
    rcases columns listed column found with ⟨rfl, _, columnMade⟩
    exact Column.isWellFormed_of_ofReport columnMade registered

namespace IsWellFormed

theorem mono (wellFormed : entity.IsWellFormed registered identifier)
    (subset : registered.keys ⊆ later.keys) : entity.IsWellFormed later identifier where
  identifier_eq := wellFormed.identifier_eq
  insertIdentifier_eq := wellFormed.insertIdentifier_eq
  columns_isEmpty := wellFormed.columns_isEmpty
  labels_eq_nil := wellFormed.labels_eq_nil
  columns listed column found := (wellFormed.columns listed column found).mono subset

theorem mapColumns (wellFormed : entity.IsWellFormed registered identifier)
    {replace : Identifier → Column τ → Column τ}
    (kept : ∀ listed column, column.IsWellFormed registered listed →
      (replace listed column).IsWellFormed registered listed) :
    (entity.mapColumns replace).IsWellFormed registered identifier where
  identifier_eq := wellFormed.identifier_eq
  insertIdentifier_eq := wellFormed.insertIdentifier_eq
  columns_isEmpty isEnumeration :=
    (entity.mapColumns replace).columns_isEmpty_of_enumeration (eq_of_beq isEnumeration)
  labels_eq_nil := wellFormed.labels_eq_nil
  columns listed column found := by
    rw [columns_mapColumns, OrderedMap.get?_mapValues, Option.map_eq_some_iff] at found
    rcases found with ⟨origin, originFound, rfl⟩
    exact kept listed origin (wellFormed.columns listed origin originFound)

end IsWellFormed

end Entity

namespace Entities.AreWellFormed

variable {lower upper : Entities τ}

/-- Overlaying a batch keeps what was registered well-formed, as no identifier gets lost. -/
theorem overlay (lowerWellFormed : lower.AreWellFormed lower)
    (upperWellFormed : upper.AreWellFormed (lower.overlay upper)) :
    Entities.AreWellFormed (lower.overlay upper) (lower.overlay upper) := by
  intro identifier entity found
  rw [OrderedMap.get?_overlay, Option.or_eq_some_iff] at found
  rcases found with above | ⟨_, below⟩
  · exact upperWellFormed identifier entity above
  · apply (lowerWellFormed identifier entity below).mono
    intro other mem
    exact OrderedMap.mem_keys_overlay.mpr (Or.inr mem)

end Entities.AreWellFormed

variable [DecidableEq τ] [Transform τ]

/-- The batch of a registration is well-formed once it is registered. -/
theorem Registration.Course.areWellFormed {prior : Entities τ} {introspector : Introspector τ σ}
    {declarations : List (Declaration τ)} {policy : RegistrationPolicy} {start final : Journal σ}
    {registration : Registration τ}
    (course : Registration.Course prior introspector declarations policy start registration
      final) :
    registration.entities.AreWellFormed (prior.overlay registration.entities) := by
  have reportedKeys : course.reported.keys ⊆ (prior.overlay registration.entities).keys := by
    intro identifier mem
    have keysEq : registration.entities.keys = course.reported.keys := by
      rw [course.entities_eq, keys_inheritTransforms]
      exact OrderedMap.keys_mapValues _ _
    exact OrderedMap.mem_keys_overlay.mpr (Or.inl (keysEq ▸ mem))
  have priorKeys : prior.keys ⊆ (prior.overlay registration.entities).keys :=
    fun identifier mem => OrderedMap.mem_keys_overlay.mpr (Or.inr mem)
  intro identifier entity member
  rcases course.exists_report member with ⟨declaration, _, rfl, report, reported, made, rfl⟩
  -- What is reported is well-formed with respect to any registry, and both passes keep it so.
  have wellFormed := Entity.isWellFormed_of_ofReport made (prior.overlay registration.entities)
  apply Entity.IsWellFormed.mapColumns
  · apply wellFormed.mapColumns
    intro _ column columnWellFormed
    exact columnWellFormed.resolveElementType reportedKeys priorKeys
  · intro _ column columnWellFormed
    exact columnWellFormed.inheritTransform _

namespace Registry

/-- A registration keeps the registry well-formed, whatever it is asked for. -/
theorem areWellFormed_register {registry : Registry τ}
    (wellFormed : registry.entities.AreWellFormed registry.entities)
    (introspector : Introspector τ σ) (source : σ) (declarations : List (Declaration τ))
    (policy : RegistrationPolicy) :
    let later := (registry.register introspector source declarations policy).registry
    later.entities.AreWellFormed later.entities := by
  apply register_preserves
    (motive := fun registry => registry.entities.AreWellFormed registry.entities) wellFormed
  intro registration succeeded
  rcases exists_course_of_register succeeded with ⟨_, ⟨course⟩⟩
  exact wellFormed.overlay course.areWellFormed

/--
After every series of registrations that starts from the empty registry, all entities are
well-formed with respect to the registry that holds them.
-/
theorem registerAll_areWellFormed (source : σ) (requests : List (Request τ σ)) :
    let series := (Registry.empty : Registry τ).registerAll source requests
    series.registry.entities.AreWellFormed series.registry.entities := by
  apply registerAll_preserves
    (motive := fun registry => registry.entities.AreWellFormed registry.entities) source
  · intro request _ registry source wellFormed
    exact areWellFormed_register wellFormed request.introspector source request.declarations
      request.policy
  · intro identifier entity found
    cases found

end Registry

end EntityCatalog
