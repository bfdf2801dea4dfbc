import EntityCatalog.Proofs.Catalog.Failure
import EntityCatalog.Proofs.Registration.References

/-!
# Catalogs of a series of registrations

The catalogs of the successful registrations of a series are combined in order. A column refers to
an entity of its batch, which is declared along with it, or to one that was registered before. So if
the catalogs so far cover the registry, declaring each of its entities and all that is referred to,
they do so after one more registration, merged or not.
-/

namespace EntityCatalog

variable {τ σ : Type}

/-- The catalog that a registration gives. -/
def Registration.catalog? : Except RegistrationError (Registration τ) → Option (Catalog τ)
  | .ok registration => some registration.catalog
  | .error _ => none

/-- The catalogs of all successful registrations, combined in order. -/
def Series.catalog (series : Series τ σ) : Catalog τ :=
  (series.outcomes.filterMap Registration.catalog?).foldl Catalog.update .empty

/-- Whether a catalog declares registered entities and all that its declarations refer to. -/
structure Catalog.Covers (catalog : Catalog τ) (registered : Entities τ) : Prop where
  closed : catalog.IsClosed
  genuine : catalog.IsGenuine
  declared : registered.keys ⊆ catalog.identifiers

namespace Entity

theorem references_ownValidator (entity : Entity τ) : entity.ownValidator.references = [] := by
  unfold ownValidator labelsValidator
  split
  · split <;> rfl
  · rfl

theorem ownValidator_ne_foreign (entity : Entity τ) (value : Value) :
    entity.ownValidator ≠ .foreign value := by
  unfold ownValidator labelsValidator
  split
  · split <;> simp
  · simp [rowValidator]

end Entity

variable [DecidableEq τ] [Transform τ]

namespace SuccessfulRegistration

variable {success : SuccessfulRegistration τ σ} {catalog : Catalog τ}

theorem mem_identifiers_of_mem_batch {identifier : Identifier}
    (key : identifier ∈ success.batch.keys) : identifier ∈ success.catalog.identifiers := by
  rcases OrderedMap.exists_get?_of_mem_keys key with ⟨entity, member⟩
  have mentioned : entity.ownValidator ∈ success.mentions identifier identifier := by
    simp [mentions_self member]
  exact Catalog.mem_identifiers_iff.mpr (exists_find?_of_mem_mentions key mentioned)

/-- The catalog of a registration refers to registered entities only. -/
theorem mem_effective_of_mem_references {listed target : Identifier} {validator : Validator τ}
    (found : success.catalog.find? listed = some validator)
    (mem : target ∈ validator.references) : target ∈ success.effective.keys := by
  rcases origin_of_find? found with
    ⟨owner, entity, _, rfl | rfl | ⟨column, occurs, derived⟩⟩
  · rw [entity.references_ownValidator] at mem
    cases mem
  · cases mem
  · have refers := (Column.mem_references_iff (Column.validator?_of_derived? derived) target).mp mem
    exact mem_effective_of_reference? occurs refers

theorem isGenuine_catalog (success : SuccessfulRegistration τ σ) : success.catalog.IsGenuine := by
  intro listed value found
  rcases origin_of_find? found with ⟨owner, entity, _, own | rows | ⟨column, _, derived⟩⟩
  · exact entity.ownValidator_ne_foreign value own.symm
  · cases rows
  · rcases Column.exists_base_of_validator? (Column.validator?_of_derived? derived) with
      ⟨base, _, isBase, same⟩
    exact (Column.wrap_ne isBase).2 value same.symm

/-- A catalog that covers the registry covers the effective one once it is updated. -/
theorem covers_update (covers : catalog.Covers success.prior.entities) :
    (catalog.update success.catalog).Covers success.effective := by
  have declared : success.effective.keys ⊆ (catalog.update success.catalog).identifiers := by
    intro identifier mem
    rw [Catalog.mem_identifiers_update]
    rcases OrderedMap.mem_keys_overlay.mp mem with inBatch | inPrior
    · exact Or.inl (mem_identifiers_of_mem_batch inBatch)
    · exact Or.inr (covers.declared inPrior)
  refine ⟨?_, ?_, declared⟩
  · intro listed validator found target mem
    -- What the registration declares may also refer to what only earlier catalogs declare.
    rcases Catalog.find?_update_eq_some found with new | old
    · exact declared (mem_effective_of_mem_references new mem)
    · have before := covers.closed listed validator old target mem
      exact Catalog.mem_identifiers_update.mpr (Or.inr before)
  · intro listed value found
    rcases Catalog.find?_update_eq_some found with new | old
    · exact success.isGenuine_catalog listed value new
    · exact covers.genuine listed value old

end SuccessfulRegistration

namespace Catalog.Covers

variable {catalog : Catalog τ}

omit [DecidableEq τ] [Transform τ] in
theorem empty : (Catalog.empty : Catalog τ).Covers Registry.empty.entities := by
  refine ⟨?_, ?_, List.Subset.refl _⟩
  · intro listed validator found
    cases found
  · intro listed value found
    cases found

/-- One more registration keeps a registry covered, whether it succeeds and is merged or not. -/
theorem carryOut {registry : Registry τ} (covers : catalog.Covers registry.entities)
    (request : Request τ σ) (source : σ) :
    ((Registration.catalog? (request.carryOut registry source).outcome).elim catalog
      catalog.update).Covers (request.carryOut registry source).registry.entities := by
  rw [Registry.registry_carryOut]
  rcases succeeded : (request.carryOut registry source).outcome with error | registration
  · exact covers
  · let success : SuccessfulRegistration τ σ := ⟨registry, request.introspector, source,
      request.declarations, request.policy, registration, succeeded⟩
    have updated : (catalog.update registration.catalog).Covers
        (registry.merge registration.entities).entities := success.covers_update covers
    by_cases committed : registration.committed = true
    · simpa [Registration.catalog?, Registration.mergedBatch?, committed] using updated
    · have subset : registry.entities.keys ⊆ (registry.merge registration.entities).entities.keys :=
        fun identifier mem => OrderedMap.mem_keys_overlay.mpr (Or.inr mem)
      have unmerged : (catalog.update registration.catalog).Covers registry.entities :=
        ⟨updated.closed, updated.genuine, List.Subset.trans subset updated.declared⟩
      simpa [Registration.catalog?, Registration.mergedBatch?, committed] using unmerged

theorem registerAll {registry : Registry τ} (covers : catalog.Covers registry.entities)
    (source : σ) (requests : List (Request τ σ)) :
    (((registry.registerAll source requests).outcomes.filterMap
      Registration.catalog?).foldl Catalog.update catalog).Covers
        (registry.registerAll source requests).registry.entities := by
  induction requests generalizing registry source catalog with
  | nil => exact covers
  | cons request rest ih =>
      have step := covers.carryOut request source
      have later := ih step (request.carryOut registry source).source
      simp only [Registry.registerAll, List.filterMap_cons]
      rcases given : Registration.catalog? (request.carryOut registry source).outcome with
        _ | next
      · simpa [given] using later
      · simpa [given] using later

end Catalog.Covers

/--
After every series of registrations that starts from the empty registry, the combined catalogs
declare every registered entity and everything that a declaration refers to. So an evaluation of a
declared validator by them never fails for a reference, at whatever depth it stops, and where it
fails for the name of a base type, it has reached a base type of that name, which is not known.
-/
theorem Registry.registerAll_catalog_closed (source : σ) (requests : List (Request τ σ)) :
    let series := (Registry.empty : Registry τ).registerAll source requests
    (∀ listed validator, series.catalog.find? listed = some validator →
      ∀ target ∈ validator.references, target ∈ series.catalog.identifiers) ∧
    series.registry.entities.keys ⊆ series.catalog.identifiers ∧
    ∀ listed validator, series.catalog.find? listed = some validator →
      ∀ levels value path error,
        series.catalog.explainWithin levels validator value path = .error (.failed error) →
          (∀ target, error ≠ .undeclared target) ∧
            ∀ typeName, error = .unknownBaseType typeName →
              BaseType.ofName? typeName = none ∧
                Relation.ReflTransGen series.catalog.LeadsTo validator (.base typeName) := by
  intro series
  have covers : series.catalog.Covers series.registry.entities :=
    Catalog.Covers.empty.registerAll source requests
  refine ⟨covers.closed, covers.declared, ?_⟩
  intro listed validator found levels value path error failed
  exact Catalog.error_of_explainWithin covers.closed covers.genuine found failed

end EntityCatalog
