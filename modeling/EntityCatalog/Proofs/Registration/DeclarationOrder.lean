import EntityCatalog.Proofs.Registration.Answers
import EntityCatalog.Proofs.Registration.Success

/-!
# The order of declarations

With an introspector that always answers alike, a registration has the same outcome in whatever
order its entities are declared, apart from the order of the batch. No stage looks at that order:
look-ups by name take the least identifier, consistency is about all pairs of columns, and the order
in which validators are declared is the dependency order, which only depends on what refers to what.
-/

namespace EntityCatalog

variable {τ σ : Type}

section Stages

variable {left right registered other : Entities τ} (same : left.SameAs right)
  (sameRegistered : registered.SameAs other)

include same

theorem resolveElementTypes_sameAs (prior : Entities τ) :
    (resolveElementTypes left prior).SameAs (resolveElementTypes right prior) := by
  have columnEq (column : Column τ) :
      column.resolveElementType left prior = column.resolveElementType right prior := by
    simp only [Column.resolveElementType, Entities.findType?_eq_of_sameAs same]
  simp only [resolveElementTypes, columnEq]
  exact same.mapValues _

include sameRegistered

theorem inheritTransforms_sameAs :
    (inheritTransforms registered left).SameAs (inheritTransforms other right) := by
  have columnEq (column : Column τ) :
      column.inheritTransform registered = column.inheritTransform other := by
    simp only [Column.inheritTransform, Column.inheritance?,
      Entities.findByName?_eq_of_sameAs sameRegistered, sameRegistered _]
  simp only [inheritTransforms, columnEq]
  exact same.mapValues _

/-- The same validators are declared for the same entities. -/
theorem Registration.emit_eq_of_sameAs [DecidableEq τ] (introspector : Introspector τ σ)
    (policy : TextPolicy) (order : List Identifier) :
    emit introspector policy registered left order = emit introspector policy other right order := by
  apply emit_congr introspector same
  intro _ _ _ column _ _
  exact ⟨column.labelSource?_eq_of_sameAs sameRegistered,
    column.validator?_eq_of_sameAs sameRegistered policy⟩

/-- What is declared for a batch is declared for the same batch at any other time. -/
theorem Registration.outcome_emit_of_sameAs [DecidableEq τ] {introspector : Introspector τ σ}
    {answers : Introspector.Answers} (gives : introspector.Gives answers) {policy : TextPolicy}
    {order : List Identifier} {emission : Emission τ} {checked emitted : Journal σ}
    (faithful : checked.memo.IsFaithful answers)
    (declared : (emit introspector policy registered left order).runFrom checked =
      (.ok emission, emitted)) {start : Journal σ} (startFaithful : start.memo.IsFaithful answers) :
    ((emit introspector policy other right order).runFrom start).1 = .ok emission := by
  rcases emit_isRepeatable gives policy registered left order with ⟨outcome, yields⟩
  have outcomeEq := (yields checked faithful).1
  rw [declared] at outcomeEq
  rw [← emit_eq_of_sameAs same sameRegistered]
  exact (yields start startFaithful).1.trans outcomeEq.symm

end Stages

/-- Whether two registrations differ in the order of their entities at most. -/
structure Registration.SameAs (left right : Registration τ) : Prop where
  entities : left.entities.SameAs right.entities
  catalog : left.catalog = right.catalog
  excluded : left.excluded = right.excluded
  committed : left.committed = right.committed

namespace Registry

variable [DecidableEq τ] [Transform τ]

section Permutation

variable {introspector : Introspector τ σ} {answers : Introspector.Answers}
  (gives : introspector.Gives answers)
  {declarations permuted : List (Declaration τ)} (same : declarations.Perm permuted)
  {registry : Registry τ} {policy : RegistrationPolicy}

include gives same

/-- A registration that succeeds does so with its declarations in any other order. -/
theorem exists_outcome_of_perm {source : σ} (other : σ) {left : Registration τ}
    (succeeded : (registry.register introspector source declarations policy).outcome = .ok left) :
    ∃ right, (registry.register introspector other permuted policy).outcome = .ok right ∧
      left.SameAs right := by
  rcases exists_course_of_register succeeded with ⟨final, ⟨course⟩⟩
  rcases Registration.exists_normalize_of_perm gives same course.normalized
    (Introspector.Memo.isFaithful_fresh source) ⟨.fresh other, []⟩
    (Introspector.Memo.isFaithful_fresh other) with
    ⟨describedFaithful, reported, otherDescribed, normalized, sameReported, otherFaithful⟩
  -- From here on no stage looks at the order of the batch.
  have sameResolved := resolveElementTypes_sameAs sameReported registry.entities
  have sameOverlaid := (OrderedMap.SameAs.refl registry.entities).overlay sameResolved
  have sameBatch := inheritTransforms_sameAs sameResolved sameOverlaid
  rw [← course.entities_eq] at sameBatch
  have sameRegistered := (OrderedMap.SameAs.refl registry.entities).overlay sameBatch
  have consistent := inconsistency?_eq_none_of_sameAs sameBatch course.consistent
  have ordered :=
    (dependencyOrder?_eq_of_sameAs sameBatch sameRegistered).symm.trans course.ordered
  have checkedFaithful : course.checked.memo.IsFaithful answers := by
    rw [course.checked_memo]
    exact describedFaithful
  have outcomeEq := Registration.outcome_prepare_of_stages normalized rfl consistent ordered
    fun checked memoEq => Registration.outcome_emit_of_sameAs sameBatch sameRegistered gives
      checkedFaithful course.declared (memoEq ▸ otherFaithful)
  refine ⟨_, (register_outcome registry introspector other permuted policy).trans outcomeEq, ?_⟩
  exact ⟨sameBatch, course.catalog_eq, course.excluded_eq, course.committed_eq⟩

/-- Two registrations that differ in the order of their declarations fail or succeed together. -/
theorem outcomes_of_perm (source other : σ) :
    (∃ error otherError,
      (registry.register introspector source declarations policy).outcome = .error error ∧
        (registry.register introspector other permuted policy).outcome = .error otherError) ∨
      ∃ left right,
        (registry.register introspector source declarations policy).outcome = .ok left ∧
          (registry.register introspector other permuted policy).outcome = .ok right ∧
            left.SameAs right := by
  rcases succeeded : (registry.register introspector source declarations policy).outcome with
    error | left
  · rcases otherSucceeded : (registry.register introspector other permuted policy).outcome with
      otherError | right
    · exact Or.inl ⟨error, otherError, rfl, rfl⟩
    · rcases exists_outcome_of_perm gives same.symm source otherSucceeded with ⟨left, found, _⟩
      rw [succeeded] at found
      cases found
  · rcases exists_outcome_of_perm gives same other succeeded with ⟨right, found, sameAs⟩
    exact Or.inr ⟨left, right, rfl, found, sameAs⟩

end Permutation

/--
A registration with an introspector that always answers alike succeeds with its declarations in one
order exactly if it does so in another. Both registrations then have the same entities, the same
catalog in the same order, and the same excluded columns, and in any case they leave the same
registry.
-/
theorem register_perm {introspector : Introspector τ σ} {answers : Introspector.Answers}
    (gives : introspector.Gives answers) {declarations permuted : List (Declaration τ)}
    (same : declarations.Perm permuted) (registry : Registry τ) (policy : RegistrationPolicy)
    (source other : σ) :
    let first := registry.register introspector source declarations policy
    let second := registry.register introspector other permuted policy
    ((∃ left, first.outcome = .ok left) ↔ ∃ right, second.outcome = .ok right) ∧
      (∀ left right, first.outcome = .ok left → second.outcome = .ok right →
        left.entities.SameAs right.entities ∧ left.catalog = right.catalog ∧
          left.excluded = right.excluded) ∧
      first.registry.entities.SameAs second.registry.entities := by
  intro first second
  have firstRegistry : first.registry =
      ((Registration.mergedBatch? first.outcome).map registry.merge).getD registry :=
    register_registry _ _ _ _ _
  have secondRegistry : second.registry =
      ((Registration.mergedBatch? second.outcome).map registry.merge).getD registry :=
    register_registry _ _ _ _ _
  have unchanged := OrderedMap.SameAs.refl registry.entities
  rcases outcomes_of_perm gives same source other with
    ⟨error, otherError, failed, otherFailed⟩ | ⟨left, right, succeeded, otherSucceeded, sameAs⟩
  · have failed : first.outcome = .error error := failed
    have otherFailed : second.outcome = .error otherError := otherFailed
    rw [firstRegistry, secondRegistry, failed, otherFailed]
    exact ⟨by simp, nofun, unchanged⟩
  · have succeeded : first.outcome = .ok left := succeeded
    have otherSucceeded : second.outcome = .ok right := otherSucceeded
    rw [firstRegistry, secondRegistry, succeeded, otherSucceeded]
    refine ⟨by simp, ?_, ?_⟩
    · rintro _ _ ⟨⟩ ⟨⟩
      exact ⟨sameAs.entities, sameAs.catalog, sameAs.excluded⟩
    · rw [Registration.mergedBatch?, Registration.mergedBatch?, sameAs.committed]
      by_cases committed : right.committed = true
      · rw [if_pos committed, if_pos committed]
        exact unchanged.overlay sameAs.entities
      · rw [if_neg committed, if_neg committed]
        exact unchanged

end Registry

namespace Sample

/-- Registers a table, a composite type that its column has, or both, in some order. -/
def registerShapes (names : List String) : RegistrationReport Empty Unit :=
  Registry.empty.register
    (introspector
      [("shape", ⟨.table, columns [("corner", "point", "C", true)], []⟩),
        ("point", ⟨.composite, columns [("x", "int4", "", true)], []⟩)])
    () (declarations names) ⟨true, .standard⟩

/-- The batches have their entities in different orders, the catalogs are equal. -/
theorem register_perm_of_registerShapes :
    ∃ left right, (registerShapes ["shape", "point"]).outcome = .ok left ∧
      (registerShapes ["point", "shape"]).outcome = .ok right ∧
      left.entities.keys ≠ right.entities.keys ∧ left.entities.SameAs right.entities ∧
      left.catalog = right.catalog ∧ left.excluded = right.excluded := by
  have succeeds : (registerShapes ["shape", "point"]).outcome.toOption.isSome := by
    decide +kernel
  have differ : (registerShapes ["shape", "point"]).outcome.toOption.map
      (fun left => left.entities.keys) ≠
        (registerShapes ["point", "shape"]).outcome.toOption.map
          fun right => right.entities.keys := by
    decide +kernel
  have same : (declarations ["shape", "point"]).Perm (declarations ["point", "shape"]) :=
    (List.Perm.swap "point" "shape" []).filterMap _
  rcases Registry.register_perm (Introspector.gives_ofReports _ _) same .empty ⟨true, .standard⟩
    () () with ⟨together, alike, _⟩
  rcases leftEq : (registerShapes ["shape", "point"]).outcome with error | left
  · rw [leftEq] at succeeds
    cases succeeds
  · rcases together.mp ⟨left, leftEq⟩ with ⟨right, rightEq⟩
    have rightEq : (registerShapes ["point", "shape"]).outcome = .ok right := rightEq
    rw [leftEq, rightEq] at differ
    refine ⟨left, right, rfl, rightEq, ?_, alike left right leftEq rightEq⟩
    intro sameKeys
    exact differ (congrArg some sameKeys)

end Sample

end EntityCatalog
