import EntityCatalog.Proofs.Registration.Completion
import EntityCatalog.Proofs.Registration.Success

/-!
# What a registration declares and what it leaves out

Nothing of a batch is lost between its description and its catalog. The catalog has a declaration
for every entity, for the complete rows of every entity that is no enumeration, and for every column
that a validator is derived from, and it has no other. The columns without a validator are listed:
they are the columns of enumeration types that are not registered and that the introspector has no
labels for. An array is never one of them, because it has an element type, if only by name.
-/

namespace EntityCatalog

variable {τ σ : Type}

section Given

variable {introspector : Introspector τ σ}

/-- Whether all labels that are remembered were given by an introspector in one of its states. -/
def Introspector.HasGiven (introspector : Introspector τ σ) (memo : Introspector.Memo σ) : Prop :=
  ∀ typeName labels, memo.labels.get? typeName = some labels →
    ∃ state, (introspector.labels typeName state).1 = .ok labels

theorem Introspector.hasGiven_fresh (introspector : Introspector τ σ) (source : σ) :
    introspector.HasGiven (.fresh source) := by
  intro _ _ found
  cases found

theorem Registration.report_keeps_hasGiven (declaration : Declaration τ) :
    (report introspector declaration).Keeps introspector.HasGiven := by
  apply Step.keeps_announced
  intro start given typeName labels found
  change (introspector.memoized.describe _ _ declaration.options start.memo).2.labels.get? _ = _
    at found
  rcases remembered : start.memo.reports.get? (declaration.scope, declaration.tableName) with
    _ | report
  · rw [Introspector.memoized_describe_of_none remembered] at found
    rcases answered : (introspector.describe declaration.tableName declaration.scope
      declaration.options start.memo.source).1 <;>
    · rw [answered] at found
      exact given typeName labels found
  · rw [Introspector.memoized_describe_of_some remembered] at found
    exact given typeName labels found

theorem Registration.labels_keeps_hasGiven (typeName : String) :
    (labels introspector typeName).Keeps introspector.HasGiven := by
  apply Step.keeps_announced
  intro start given other labels found
  change (introspector.memoized.labels typeName start.memo).2.labels.get? other = _ at found
  rcases remembered : start.memo.labels.get? typeName with _ | known
  · rw [Introspector.memoized_labels_of_none remembered] at found
    rcases answered : (introspector.labels typeName start.memo.source).1 with error | answer
    · rw [answered] at found
      exact given other labels found
    · rw [answered, Introspector.Memo.keepLabels, OrderedMap.get?_insert] at found
      split at found
      · next same =>
        cases found
        rw [same]
        exact ⟨start.memo.source, answered⟩
      · exact given other labels found
  · rw [Introspector.memoized_labels_of_some remembered] at found
    exact given other labels found

end Given

theorem Column.elementType_complete_ne_none {column : Column τ} (array : column.isArray = true)
    (prior reported : Entities τ) : (column.complete prior reported).elementType ≠ none := by
  have resolved : (column.resolveElementType reported prior).elementType ≠ none := by
    rw [resolveElementType, if_pos array]
    split <;> simp
  rw [complete, inheritTransform]
  split
  · exact resolved
  · exact resolved

namespace SuccessfulRegistration

variable [DecidableEq τ] [Transform τ] {success : SuccessfulRegistration τ σ}

/-- The introspector was asked for every list of labels that is known. -/
theorem exists_given {typeName : String} {labels : List String}
    (known : success.answers.get? typeName = some labels) :
    ∃ state, (success.introspector.labels typeName state).1 = .ok labels := by
  rcases success.nonempty_course with ⟨final, ⟨course⟩, labelsEq⟩
  have described : success.introspector.HasGiven course.described.memo := by
    have kept := Registration.holds_normalize
      (Step.isCompositional_keeps success.introspector.HasGiven)
      Registration.report_keeps_hasGiven (fun outcome => Step.keeps_ofExcept outcome _)
      success.declarations .empty ⟨.fresh success.source, []⟩
      (success.introspector.hasGiven_fresh success.source)
    rwa [course.normalized] at kept
  have emitted : success.introspector.HasGiven course.emitted.memo := by
    have kept := Registration.holds_emit
      (Step.isCompositional_keeps success.introspector.HasGiven)
      Registration.labels_keeps_hasGiven (fun outcome => Step.keeps_ofExcept _ _)
      success.policy.text (success.prior.entities.overlay success.registration.entities)
      success.registration.entities course.order course.checked
      (course.checked_memo ▸ described)
    rwa [course.declared] at kept
  rw [← labelsEq, course.final_memo] at known
  exact emitted typeName labels known

theorem Occurs.elementType_ne_none {listed owner : Identifier} {column : Column τ}
    (occurs : success.Occurs listed owner column) (array : column.isArray = true) :
    column.elementType ≠ none := by
  rcases occurs with ⟨entity, member, found⟩
  rcases success.nonempty_course with ⟨_, ⟨course⟩, _⟩
  have member : success.registration.entities.get? owner = some entity := member
  rw [course.entities_eq] at member
  rcases exists_reported_column member found with ⟨_, origin, _, _, rfl⟩
  rw [Column.isArray_complete] at array
  exact Column.elementType_complete_ne_none array _ _

/-- A column has no validator exactly if it needs labels and the introspector has none. -/
theorem Occurs.derived?_eq_none_iff {listed owner : Identifier} {column : Column τ}
    (occurs : success.Occurs listed owner column) :
    success.derived? column = none ↔
      column.NeedsLabels success.effective ∧ success.answers.get? column.typeName = some [] := by
  rcases occurs.isAnswered with ⟨known, computed⟩
  have unfolded : success.derived? column = none ↔
      column.validator? success.effective success.policy.text
        (column.neededLabels success.effective success.answers) = .ok none := by
    rw [computed, Except.ok.injEq]
    rfl
  rw [unfolded, Column.validator?_eq_ok_none_iff, or_iff_right]
  · apply and_congr_right
    intro needs
    have source := Column.labelSource?_eq_some_iff.mpr ⟨needs, rfl⟩
    rcases OrderedMap.exists_get?_of_mem_keys (known _ source) with ⟨labels, found⟩
    simp [Column.neededLabels, source, found]
  · rintro ⟨array, absent⟩
    exact occurs.elementType_ne_none array absent

theorem occurs_of_mem_columnsAlong {entry : Identifier × Column τ}
    (mem : entry ∈ success.batch.columnsAlong success.order) :
    ∃ owner, success.Occurs entry.1 owner entry.2 := by
  rcases Entities.mem_columnsAlong_iff.mp mem with ⟨owner, _, entity, member, found⟩
  exact ⟨owner, entity, member, found⟩

theorem exists_columnMentions_iff {listed owner : Identifier} :
    success.columnMentions listed owner ≠ [] ↔
      ∃ column, success.Occurs listed owner column ∧ (success.derived? column).isSome := by
  simp [columnMentions_eq_nil_iff, Option.isSome_iff_ne_none]

/-- Everything that an entity of the batch declares something for is in the catalog. -/
theorem mem_identifiers_iff {identifier : Identifier} :
    identifier ∈ success.catalog.identifiers ↔
      identifier ∈ success.batch.keys ∨
        (∃ owner entity, success.batch.get? owner = some entity ∧ entity.isEnumeration = false ∧
          entity.insertIdentifier = identifier) ∨
        ∃ owner column, success.Occurs identifier owner column ∧
          (success.derived? column).isSome := by
  have mentioned : identifier ∈ success.catalog.identifiers ↔
      ∃ owner ∈ success.order, success.mentions identifier owner ≠ [] := by
    rw [Catalog.identifiers, OrderedMap.mem_keys_iff]
    change (success.catalog.find? identifier).isSome ↔ _
    simp [find?_catalog, List.getLast?_isSome]
  have ofEntity {owner : Identifier} {entity : Entity τ}
      (member : success.batch.get? owner = some entity) :
      success.mentions identifier owner ≠ [] ↔ owner = identifier ∨
        (entity.isEnumeration = false ∧ entity.insertIdentifier = identifier) ∨
          ∃ column, success.Occurs identifier owner column ∧
            (success.derived? column).isSome := by
    rw [mentions_of_mem member, ← exists_columnMentions_iff]
    simp only [ne_eq, List.append_eq_nil_iff, ite_eq_right_iff, List.cons_ne_nil, imp_false,
      not_and_or, not_or, not_not]
  rw [mentioned]
  constructor
  · rintro ⟨owner, _, some⟩
    rcases member : success.batch.get? owner with _ | entity
    · exact absurd (mentions_of_notMem (OrderedMap.get?_eq_none_iff.mp member) identifier) some
    · rcases (ofEntity member).mp some with rfl | ⟨notEnumeration, rows⟩ | ⟨column, derived⟩
      · exact Or.inl (OrderedMap.mem_keys_of_get? member)
      · exact Or.inr (Or.inl ⟨owner, entity, member, notEnumeration, rows⟩)
      · exact Or.inr (Or.inr ⟨owner, column, derived⟩)
  · -- Every entity of the batch is somewhere in the order of declaration.
    have listed {owner : Identifier} {entity : Entity τ}
        (member : success.batch.get? owner = some entity) : owner ∈ success.order :=
      success.mem_order_of_mem_batch (OrderedMap.mem_keys_of_get? member)
    rintro (key | ⟨owner, entity, member, rows⟩ | ⟨owner, column, occurs, derived⟩)
    · rcases OrderedMap.exists_get?_of_mem_keys key with ⟨entity, member⟩
      exact ⟨identifier, listed member, (ofEntity member).mpr (Or.inl rfl)⟩
    · exact ⟨owner, listed member, (ofEntity member).mpr (Or.inr (Or.inl rows))⟩
    · rcases occurs with ⟨entity, member, found⟩
      exact ⟨owner, listed member,
        (ofEntity member).mpr (Or.inr (Or.inr ⟨column, ⟨entity, member, found⟩, derived⟩))⟩

/--
The declaration of a batch is complete. The catalog has exactly the identifiers of the entities of
the batch, those of the complete rows of its entities that are no enumerations, and those of the
columns that a validator is derived from. The excluded columns are, in the order of declaration in
which every entity of the batch comes once, all columns of enumeration types that are no arrays,
that are not registered under their name, and that the introspector reports no labels for; these
are the columns without a validator. All labels are answers of the introspector.
-/
theorem emission_complete (success : SuccessfulRegistration τ σ) :
    (∀ identifier, identifier ∈ success.catalog.identifiers ↔
      identifier ∈ success.batch.keys ∨
        (∃ owner entity, success.batch.get? owner = some entity ∧ entity.isEnumeration = false ∧
          entity.insertIdentifier = identifier) ∨
        ∃ owner column, success.Occurs identifier owner column ∧
          (success.derived? column).isSome) ∧
      success.registration.excluded =
        ((success.batch.columnsAlong success.order).filter fun entry =>
          decide (entry.2.NeedsLabels success.effective ∧
            success.answers.get? entry.2.typeName = some [])).map Prod.fst ∧
      (∀ identifier ∈ success.batch.keys, success.order.count identifier = 1) ∧
      (∀ listed owner column, success.Occurs listed owner column →
        (success.derived? column = none ↔ column.NeedsLabels success.effective ∧
          success.answers.get? column.typeName = some [])) ∧
      ∀ typeName labels, success.answers.get? typeName = some labels →
        ∃ state, (success.introspector.labels typeName state).1 = .ok labels := by
  refine ⟨fun identifier => mem_identifiers_iff, ?_, ?_, ?_, fun _ _ => exists_given⟩
  · rw [success.emission_eq.2, Registration.Emission.excluded_ofBatch]
    congr 1
    apply List.filter_congr
    intro entry mem
    rcases occurs_of_mem_columnsAlong mem with ⟨owner, occurs⟩
    rw [Bool.eq_iff_iff, Option.isNone_iff_eq_none, decide_eq_true_iff]
    exact occurs.derived?_eq_none_iff
  · intro identifier key
    exact List.count_eq_one_of_mem success.order_nodup (success.mem_order_of_mem_batch key)
  · intro listed owner column occurs
    exact occurs.derived?_eq_none_iff

end SuccessfulRegistration

end EntityCatalog
