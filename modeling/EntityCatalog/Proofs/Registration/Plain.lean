import EntityCatalog.Proofs.Registration.Provenance
import EntityCatalog.Proofs.Registration.Series

/-!
# Registrations without transforms

If no declaration has a transform, neither do the entities that are made of them, and then there is
none to inherit. So the batches of a series of such registrations have no transforms, and neither
has the registry, if it had none before.
-/

namespace EntityCatalog

variable {τ σ : Type}

/-- Whether a declaration gives no transform to the entity and to any column. -/
def Declaration.IsPlain (declaration : Declaration τ) : Prop :=
  declaration.options.transform = none ∧
    ∀ name override, declaration.options.columns.get? name = some override →
      override.transform = none

/-- Whether neither an entity nor any of its columns has a transform. -/
def Entity.IsPlain (entity : Entity τ) : Prop :=
  entity.transform = none ∧
    ∀ identifier column, entity.columns.get? identifier = some column → column.transform = none

/-- Whether no entity among some has transforms. -/
def Entities.IsPlain (entities : Entities τ) : Prop :=
  ∀ identifier entity, entities.get? identifier = some entity → entity.IsPlain

theorem Declaration.isPlain_of_options_none {declaration : Declaration τ}
    (options : declaration.options = .none) : declaration.IsPlain := by
  unfold IsPlain
  rw [options]
  refine ⟨rfl, ?_⟩
  intro name override found
  cases found

theorem Entity.isPlain_of_ofReport {declaration : Declaration τ} (plain : declaration.IsPlain)
    {report : ReportedEntity} {entity : Entity τ}
    (made : Entity.ofReport report declaration = .ok entity) : entity.IsPlain := by
  rcases Entity.parts_of_ofReport made with ⟨_, _, transformEq, columns⟩
  refine ⟨transformEq.trans plain.1, ?_⟩
  intro identifier column found
  rcases columns identifier column found with ⟨_, reported, columnMade⟩
  rw [(Column.isMadeOf_of_ofReport columnMade).transform_eq]
  rcases overridden : declaration.override? reported with _ | override
  · rfl
  · exact plain.2 reported.name override overridden

theorem Entity.IsPlain.mapColumns {entity : Entity τ} (plain : entity.IsPlain)
    {replace : Identifier → Column τ → Column τ}
    (kept : ∀ identifier column, column.transform = none →
      (replace identifier column).transform = none) : (entity.mapColumns replace).IsPlain := by
  refine ⟨plain.1, ?_⟩
  intro identifier column found
  rw [Entity.columns_mapColumns, OrderedMap.get?_mapValues, Option.map_eq_some_iff] at found
  rcases found with ⟨origin, originFound, rfl⟩
  exact kept identifier origin (plain.2 identifier origin originFound)

namespace Entities.IsPlain

theorem overlay {lower upper : Entities τ} (lowerPlain : lower.IsPlain)
    (upperPlain : upper.IsPlain) : Entities.IsPlain (lower.overlay upper) := by
  intro identifier entity found
  rw [OrderedMap.get?_overlay, Option.or_eq_some_iff] at found
  rcases found with above | ⟨_, below⟩
  · exact upperPlain identifier entity above
  · exact lowerPlain identifier entity below

theorem resolveElementTypes {batch : Entities τ} (plain : batch.IsPlain) (prior : Entities τ) :
    (resolveElementTypes batch prior).IsPlain := by
  intro identifier entity found
  rw [EntityCatalog.resolveElementTypes, OrderedMap.get?_mapValues,
    Option.map_eq_some_iff] at found
  rcases found with ⟨origin, originFound, rfl⟩
  apply (plain identifier origin originFound).mapColumns
  intro _ column none
  rw [Column.transform_resolveElementType, none]

/-- Where no enumeration has a transform there is none to inherit. -/
theorem inheritTransforms {registered batch : Entities τ} (registeredPlain : registered.IsPlain)
    (plain : batch.IsPlain) : (inheritTransforms registered batch).IsPlain := by
  intro identifier entity found
  rw [EntityCatalog.inheritTransforms, OrderedMap.get?_mapValues, Option.map_eq_some_iff] at found
  rcases found with ⟨origin, originFound, rfl⟩
  apply (plain identifier origin originFound).mapColumns
  intro _ column none
  unfold Column.inheritTransform
  split
  · next enumeration transform inherited =>
    unfold Column.inheritance? at inherited
    split at inherited
    · simp only [Option.bind_eq_bind, Option.bind_eq_some_iff] at inherited
      rcases inherited with ⟨source, _, sourceEntity, sourceFound, sourceTransform, has, _⟩
      rw [(registeredPlain source sourceEntity sourceFound).1] at has
      cases has
    · cases inherited
  · exact none

end Entities.IsPlain

variable [DecidableEq τ] [Transform τ]

theorem Registration.Course.isPlain {prior : Entities τ} {introspector : Introspector τ σ}
    {declarations : List (Declaration τ)} {policy : RegistrationPolicy} {start final : Journal σ}
    {registration : Registration τ}
    (course : Registration.Course prior introspector declarations policy start registration final)
    (priorPlain : prior.IsPlain)
    (plain : ∀ declaration ∈ declarations, declaration.IsPlain) :
    registration.entities.IsPlain := by
  have reportedPlain : course.reported.IsPlain := by
    intro identifier entity found
    rcases exists_report_of_normalize course.normalized found with
      absent | ⟨declaration, mem, _, report, made⟩
    · simp at absent
    · exact Entity.isPlain_of_ofReport (plain declaration mem) made
  have resolvedPlain := reportedPlain.resolveElementTypes prior
  rw [course.entities_eq]
  exact (priorPlain.overlay resolvedPlain).inheritTransforms resolvedPlain

namespace Registry

theorem isPlain_register {registry : Registry τ} (registryPlain : registry.entities.IsPlain)
    (introspector : Introspector τ σ) (source : σ) {declarations : List (Declaration τ)}
    (plain : ∀ declaration ∈ declarations, declaration.IsPlain) (policy : RegistrationPolicy) :
    (registry.register introspector source declarations policy).registry.entities.IsPlain := by
  apply register_preserves (motive := fun registry => registry.entities.IsPlain) registryPlain
  intro registration succeeded
  rcases exists_course_of_register succeeded with ⟨_, ⟨course⟩⟩
  exact registryPlain.overlay (course.isPlain registryPlain plain)

/-- No transform ever reaches the registry if none is declared. -/
theorem isPlain_registerAll {registry : Registry τ} (registryPlain : registry.entities.IsPlain)
    (source : σ) {requests : List (Request τ σ)}
    (plain : ∀ request ∈ requests, ∀ declaration ∈ request.declarations, declaration.IsPlain) :
    (registry.registerAll source requests).registry.entities.IsPlain := by
  apply registerAll_preserves (motive := fun registry => registry.entities.IsPlain) source
  · intro request mem registry source registryPlain
    exact isPlain_register registryPlain request.introspector source (plain request mem)
      request.policy
  · exact registryPlain

end Registry

end EntityCatalog
