import EntityCatalog.Proofs.Registration.Failure
import EntityCatalog.Proofs.Registration.Purity
import EntityCatalog.Proofs.Registration.Success

/-!
# Registering the same once more

A registration that was merged has no further effect when it is repeated with a pure introspector.
The second time its own batch is among the entities that were registered before, but this makes no
difference: the element type of an array is looked up in the batch first, and what the batch does
not have under some name was registered before and is not replaced. The latter needs that the batch
leaves the kinds and names of registered entities alone. A composite type that a first registration
replaces by a table is gone when the second one looks for it.
-/

namespace EntityCatalog

variable {τ σ : Type}

/-- Whether entities that are registered again keep their kinds and names. -/
def Entities.KeepsTypesOf (batch prior : Entities τ) : Prop :=
  ∀ identifier before after, prior.get? identifier = some before →
    batch.get? identifier = some after → after.kind = before.kind ∧ after.name = before.name

theorem Entities.KeepsTypesOf.hasType {batch prior : Entities τ} (keeps : batch.KeepsTypesOf prior)
    {identifier : Identifier} {name : String} (hasType : prior.HasType identifier name)
    (key : identifier ∈ batch.keys) : batch.HasType identifier name := by
  rcases hasType with ⟨before, member, kinds, nameEq⟩
  rcases OrderedMap.exists_get?_of_mem_keys key with ⟨after, afterMember⟩
  rcases keeps identifier before after member afterMember with ⟨kindEq, sameName⟩
  refine ⟨after, afterMember, ?_, sameName.trans nameEq⟩
  rw [kindEq]
  exact kinds

/-- What a batch has no type for is found among the earlier entities as it was before. -/
theorem Entities.KeepsTypesOf.findType?_overlay {batch prior : Entities τ}
    (keeps : batch.KeepsTypesOf prior) {name : String} (absent : batch.findType? name = none) :
    Entities.findType? (prior.overlay batch) name = prior.findType? name := by
  apply Entities.findType?_overlay_of_eq_none absent
  intro identifier found key
  have hasType := keeps.hasType (Entities.hasType_of_findType? found) key
  exact hasType.findType?_ne_none absent

variable [DecidableEq τ] [Transform τ]

namespace Registration.Course

variable {prior : Entities τ} {introspector : Introspector τ σ}
  {declarations : List (Declaration τ)} {policy : RegistrationPolicy} {start final : Journal σ}
  {registration : Registration τ}

/-- Among the reported entities and those of the batch the same element types are found. -/
theorem resolveElementTypes_again
    (course : Course prior introspector declarations policy start registration final)
    (keeps : registration.entities.KeepsTypesOf prior) :
    resolveElementTypes course.reported (prior.overlay registration.entities) =
      resolveElementTypes course.reported prior := by
  have columnEq (column : Column τ) :
      column.resolveElementType course.reported (prior.overlay registration.entities) =
        column.resolveElementType course.reported prior := by
    unfold Column.resolveElementType
    rcases found : course.reported.findType? column.typeName with _ | target
    · have absent := (course.findType?_entities column.typeName).trans found
      rw [keeps.findType?_overlay absent]
    · rfl
  simp only [resolveElementTypes, columnEq]

/-- The same batch is made of the reported entities once it is registered. -/
theorem completeBatch_again
    (course : Course prior introspector declarations policy start registration final)
    (keeps : registration.entities.KeepsTypesOf prior) :
    completeBatch (prior.overlay registration.entities) course.reported =
      registration.entities := by
  have sameKeys : registration.entities.keys =
      (resolveElementTypes course.reported prior).keys := by
    rw [course.entities_eq, keys_inheritTransforms]
  unfold completeBatch
  rw [course.resolveElementTypes_again keeps, OrderedMap.overlay_overlay_of_keys_eq prior sameKeys]
  exact course.entities_eq.symm

/-- A preparation that succeeded does so again once its batch is registered. -/
theorem outcome_prepare_again
    (course : Course prior introspector declarations policy start registration final)
    (keeps : registration.entities.KeepsTypesOf prior) (isPure : introspector.IsPure)
    {other : Journal σ} (alike : start.memo.RemembersLike other.memo) :
    ((prepare (prior.overlay registration.entities) introspector declarations policy).runFrom
      other).1 = .ok registration := by
  -- The second registration makes the same batch, so it sees the same effective registry.
  have overlaid : (prior.overlay registration.entities).overlay registration.entities =
      prior.overlay registration.entities := OrderedMap.overlay_overlay_of_keys_eq prior rfl
  have normalizeIgnores := normalize_ignoresSource isPure declarations .empty
  rcases normalizeIgnores.exists_runFrom course.normalized alike with
    ⟨otherDescribed, normalized, describedAlike⟩
  have batchEq := (course.completeBatch_again keeps).symm
  have ordered : (referenceGraph registration.entities
      ((prior.overlay registration.entities).overlay registration.entities)).dependencyOrder? =
        some course.order := by
    rw [overlaid]
    exact course.ordered
  have declared (checked : Journal σ) (memoEq : checked.memo = otherDescribed.memo) :
      ((emit introspector policy.text
        ((prior.overlay registration.entities).overlay registration.entities)
        registration.entities course.order).runFrom checked).1 = .ok course.emission := by
    have checkedAlike : course.checked.memo.RemembersLike checked.memo := by
      rw [course.checked_memo, memoEq]
      exact describedAlike
    have emitIgnores := emit_ignoresSource isPure policy.text
      (prior.overlay registration.entities) registration.entities course.order
    rcases emitIgnores.exists_runFrom course.declared checkedAlike with ⟨_, emitted, _⟩
    rw [overlaid, emitted]
  rw [outcome_prepare_of_stages normalized batchEq course.consistent ordered declared,
    ← course.catalog_eq, ← course.excluded_eq, ← course.committed_eq]

end Registration.Course

namespace Registry

variable {registry : Registry τ} {introspector : Introspector τ σ} {source : σ}
  {declarations : List (Declaration τ)} {policy : RegistrationPolicy}
  {registration : Registration τ}

/--
A registration with a pure introspector that was merged has the same outcome again, in whatever
state the introspector is by then, and leaves the registry as it is. It must not have changed the
kind or the name of an entity that was registered before.
-/
theorem register_again (isPure : introspector.IsPure)
    (succeeded : (registry.register introspector source declarations policy).outcome =
      .ok registration)
    (committed : registration.committed = true)
    (keeps : registration.entities.KeepsTypesOf registry.entities) (other : σ) :
    let first := registry.register introspector source declarations policy
    let second := first.registry.register introspector other declarations policy
    second.outcome = .ok registration ∧ second.registry = first.registry := by
  intro first second
  have merged : first.registry = registry.merge registration.entities :=
    registry_register_of_committed succeeded committed
  have outcomeEq : second.outcome = .ok registration := by
    rcases exists_course_of_register succeeded with ⟨final, ⟨course⟩⟩
    rw [register_outcome, merged]
    exact course.outcome_prepare_again keeps isPure (.fresh source other)
  refine ⟨outcomeEq, ?_⟩
  have mergedAgain : second.registry = first.registry.merge registration.entities :=
    registry_register_of_committed outcomeEq committed
  rw [mergedAgain, merged]
  exact congrArg Registry.mk (OrderedMap.overlay_overlay_of_keys_eq registry.entities rfl)

end Registry

namespace Sample

/-- Reports a composite type and a table with an array of its values. -/
def cornersIntrospector : Introspector Empty Unit :=
  introspector
    [("point", ⟨.composite, columns [("x", "int4", "", true)], []⟩),
      ("shape", ⟨.table, columns [("corners", "_point", "A", true)], []⟩)]

def registerCorners (registry : Registry Empty) (names : List String) :
    RegistrationReport Empty Unit :=
  registry.register cornersIntrospector () (declarations names) ⟨true, .standard⟩

/-- A registry with the composite type only. -/
def registryOfPoint : Registry Empty := (registerCorners .empty ["point"]).registry

/-- The first registration adds the table to the registry, the second one adds nothing. -/
theorem register_again_of_registerCorners :
    let first := registerCorners registryOfPoint ["shape", "point"]
    let second := registerCorners first.registry ["shape", "point"]
    first.registry ≠ registryOfPoint ∧
      ∃ registration, first.outcome = .ok registration ∧ second.outcome = .ok registration ∧
        second.registry = first.registry := by
  intro first second
  have changed : first.registry ≠ registryOfPoint := by decide +kernel
  have facts : ∃ registration ∈ first.outcome.toOption.toList, registration.committed = true ∧
      ∀ before ∈ registryOfPoint.entities.entries, ∀ after ∈ registration.entities.entries,
        before.1 = after.1 → after.2.kind = before.2.kind ∧ after.2.name = before.2.name := by
    decide +kernel
  rcases facts with ⟨registration, mem, committed, agree⟩
  have succeeded : first.outcome = .ok registration := by
    rcases outcome : first.outcome with error | result
    · simp [outcome, Except.toOption] at mem
    · simp only [outcome, Except.toOption, Option.toList, List.mem_singleton] at mem
      rw [mem]
  have keeps : registration.entities.KeepsTypesOf registryOfPoint.entities := by
    intro identifier before after found foundAfter
    exact agree (identifier, before) (OrderedMap.get?_eq_some_iff_mem.mp found)
      (identifier, after) (OrderedMap.get?_eq_some_iff_mem.mp foundAfter) rfl
  have isPure : cornersIntrospector.IsPure := (Introspector.gives_ofReports _ _).isPure
  have again := Registry.register_again isPure succeeded committed keeps ()
  exact ⟨changed, registration, succeeded, again⟩

end Sample

end EntityCatalog
