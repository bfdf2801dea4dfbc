import EntityCatalog.Proofs.Registration.Answers
import EntityCatalog.Proofs.Registration.Completion
import EntityCatalog.Proofs.Registration.Success

/-!
# Parts of a registration

Some of the declarations of a registration that succeeded can be registered by themselves, on top of
a registry in which the names of the types of their columns mean the same. With an introspector that
always answers alike, this part of the registration succeeds as well: its batch is a part of the
batch, so it is consistent and free of circles, and its columns derive the same validators.
-/

namespace EntityCatalog

open Introspector (Answers)

variable {τ σ : Type} [DecidableEq τ] [Transform τ]

namespace SuccessfulRegistration

variable {success : SuccessfulRegistration τ σ} {answers : Answers}
  (gives : success.introspector.Gives answers)

include gives

theorem exists_reported : ∃ reported, answers.batch success.declarations .empty = .ok reported ∧
    success.batch = completeBatch success.prior.entities reported := by
  rcases success.nonempty_course with ⟨_, ⟨course⟩, _⟩
  exact ⟨course.reported, (course.isFaithful gives).1, course.entities_eq⟩

/-- The answers make of a column what was derived from it. -/
theorem Occurs.validator?_eq {listed owner : Identifier} {column : Column τ}
    (occurs : success.Occurs listed owner column) :
    answers.validator? success.effective success.policy.text column =
      .ok (success.derived? column) := by
  rcases success.nonempty_course with ⟨final, ⟨course⟩, labelsEq⟩
  have faithful := (course.isFaithful gives).2.labels
  rw [labelsEq] at faithful
  rcases occurs.isAnswered with ⟨known, computed⟩
  have labelled : answers.neededLabels success.effective column =
      .ok (column.neededLabels success.effective success.answers) := by
    unfold Answers.neededLabels Column.neededLabels
    rcases source : column.labelSource? success.effective with _ | typeName
    · rfl
    · rcases OrderedMap.exists_get?_of_mem_keys (known typeName source) with ⟨labels, found⟩
      simp only [found, faithful typeName labels found]
      rfl
  rw [Answers.validator?, labelled]
  exact mapError_eq_ok_iff.mpr computed

end SuccessfulRegistration

/--
Whether some declarations, on top of some registered entities, are a part of a registration: they
are described as in it, and the names of the types of their columns mean the same.
-/
structure SuccessfulRegistration.HasPart (success : SuccessfulRegistration τ σ) (answers : Answers)
    (prior : Entities τ) (part : List (Declaration τ)) (reported partReported : Entities τ) :
    Prop where
  made : answers.batch part .empty = .ok partReported
  batch_eq : success.batch = completeBatch success.prior.entities reported
  included : partReported.IncludedIn reported
  alike : ∀ name ∈ partReported.typeNames,
    MeansAlike prior partReported success.prior.entities reported name

namespace SuccessfulRegistration.HasPart

variable {success : SuccessfulRegistration τ σ} {answers : Answers} {prior : Entities τ}
  {part : List (Declaration τ)} {reported partReported : Entities τ}
  (isPart : success.HasPart answers prior part reported partReported)

include isPart

theorem includedIn_batch : (completeBatch prior partReported).IncludedIn success.batch := by
  rw [isPart.batch_eq]
  exact completeBatch_includedIn isPart.alike isPart.included

theorem reference?_eq {owner listed : Identifier} {entity : Entity τ} {column : Column τ}
    (member : (completeBatch prior partReported).get? owner = some entity)
    (found : entity.columns.get? listed = some column) :
    column.reference? (prior.overlay (completeBatch prior partReported)) =
      column.reference? success.effective := by
  rcases exists_meansAlike isPart.alike member found with ⟨origin, rfl, alike⟩
  rw [effective, isPart.batch_eq]
  exact Column.reference?_complete_congr alike

theorem validator?_eq (gives : success.introspector.Gives answers) {owner listed : Identifier}
    {entity : Entity τ} {column : Column τ}
    (member : (completeBatch prior partReported).get? owner = some entity)
    (found : entity.columns.get? listed = some column) :
    answers.validator? (prior.overlay (completeBatch prior partReported)) success.policy.text
      column = .ok (success.derived? column) := by
  have occurs : success.Occurs listed owner column :=
    ⟨entity, isPart.includedIn_batch owner entity member, found⟩
  rw [← occurs.validator?_eq gives]
  rcases exists_meansAlike isPart.alike member found with ⟨origin, rfl, alike⟩
  simp only [effective, isPart.batch_eq, Answers.validator?, Answers.neededLabels,
    Column.labelSource?_complete_congr alike, Column.validator?_complete_congr alike]

/-- What the part refers to, it refers to in the whole. -/
theorem exists_dependencyOrder? : ∃ order,
    (referenceGraph (completeBatch prior partReported)
      (prior.overlay (completeBatch prior partReported))).dependencyOrder? = some order := by
  have acyclic : (referenceGraph success.batch success.effective).IsAcyclic := by
    rw [← ReferenceGraph.isSome_dependencyOrder?_iff, success.ordered]
    rfl
  rw [← Option.isSome_iff_exists, ReferenceGraph.isSome_dependencyOrder?_iff]
  apply acyclic.mono
  intro owner target refers
  rcases refersTo_referenceGraph_iff.mp refers with ⟨entity, listed, column, member, found, refers⟩
  rw [isPart.reference?_eq member found] at refers
  exact refersTo_referenceGraph_iff.mpr
    ⟨entity, listed, column, isPart.includedIn_batch owner entity member, found, refers⟩

/-- A part of a registration succeeds and declares what is derived in the whole. -/
theorem exists_outcome (gives : success.introspector.Gives answers) (source : σ) :
    ∃ registration order,
      (Registry.register ⟨prior⟩ success.introspector source part success.policy).outcome =
          .ok registration ∧
        registration.entities = completeBatch prior partReported ∧
        (∀ identifier ∈ registration.entities.keys, identifier ∈ order) ∧
        registration.catalog.declarations =
          .ofList (registration.entities.declarations success.derived? order) := by
  have described := Registration.normalize_yields gives part .empty ⟨.fresh source, []⟩
    (Introspector.Memo.isFaithful_fresh source)
  rw [isPart.made] at described
  have consistent :=
    inconsistency?_eq_none_of_includedIn isPart.includedIn_batch success.consistent
  rcases isPart.exists_dependencyOrder? with ⟨order, ordered⟩
  have yields := Registration.emit_yields gives
    (fun owner entity listed column => isPart.validator?_eq gives) order
  have outcome := Registration.outcome_prepare_of_stages (Prod.ext described.1 rfl) rfl consistent
    ordered fun checked memoEq => (yields checked (memoEq ▸ described.2)).1
  refine ⟨_, order, (Registry.register_outcome _ _ _ _ _).trans outcome, rfl, ?_,
    Registration.Emission.declarations_ofBatch _ _ _⟩
  intro identifier key
  rw [(ReferenceGraph.dependencyOrder?_perm ordered).mem_iff, referenceGraph,
    ReferenceGraph.mem_nodes_ofParts_iff]
  exact Or.inl key

end SuccessfulRegistration.HasPart

end EntityCatalog
