import EntityCatalog.Proofs.Registration.Success

/-!
# The declarations of columns

A column that occurs in several entities has the same declared type everywhere, but what else its
validator is derived from may differ. The catalog holds the validator of the last occurrence that
has one.
-/

namespace EntityCatalog.SuccessfulRegistration

variable {τ σ : Type} [DecidableEq τ] [Transform τ] {success : SuccessfulRegistration τ σ}

section Occurrences

variable {listed owner : Identifier} {column : Column τ}
  (occurs : success.Occurs listed owner column)

include occurs

theorem exists_find?_of_derived? {validator : Validator τ}
    (derived : success.derived? column = some validator) :
    ∃ found, success.catalog.find? listed = some found := by
  rcases OrderedMap.exists_get?_of_mem_keys occurs.mem_keys with ⟨entity, member⟩
  have mentioned : validator ∈ success.mentions listed owner := by
    rw [mentions_of_mem member, List.mem_append, List.mem_append]
    exact Or.inr (Or.inr (mem_columnMentions_iff.mpr ⟨column, occurs, derived⟩))
  exact exists_find?_of_mem_mentions occurs.mem_keys mentioned

variable (notRows : ∀ entity ∈ success.batch.values, entity.isEnumeration = false →
  entity.insertIdentifier ≠ listed)

include notRows

/-- An identifier of a column that names no complete rows is declared by columns only. -/
theorem mentions_of_column (other : Identifier) :
    success.mentions listed other = success.columnMentions listed other := by
  by_cases same : other = listed
  · have absent : other ∉ success.batch.keys := same ▸ occurs.notMem_keys
    rw [mentions_of_notMem absent, columnMentions, OrderedMap.get?_eq_none_iff.mpr absent]
  · apply mentions_of_ne same
    intro entity member notEnumeration
    rw [← (identifiers_of_mem member).2.1]
    exact notRows entity (OrderedMap.mem_values_iff.mpr ⟨other, member⟩) notEnumeration

/-- The last occurrence of a column that has a validator decides what the catalog holds. -/
theorem find?_column_iff (validator : Validator τ) :
    success.catalog.find? listed = some validator ↔
      ∃ last lastColumn, success.Occurs listed last lastColumn ∧
        success.derived? lastColumn = some validator ∧
        ∀ later laterColumn, success.Occurs listed later laterColumn →
          success.DeclaredBefore last later → success.derived? laterColumn = none := by
  simp only [find?_catalog_eq_some_iff, mentions_of_column occurs notRows,
    columnMentions_eq_nil_iff]
  constructor
  · rintro ⟨last, _, lastEq, none⟩
    rcases mem_columnMentions_iff.mp (List.mem_of_getLast? lastEq) with
      ⟨lastColumn, lastOccurs, derived⟩
    exact ⟨last, lastColumn, lastOccurs, derived,
      fun later laterColumn laterOccurs order => none later order laterColumn laterOccurs⟩
  · rintro ⟨last, lastColumn, lastOccurs, derived, none⟩
    refine ⟨last, success.mem_order_of_mem_batch lastOccurs.mem_keys, ?_, ?_⟩
    · rw [getLast?_columnMentions lastOccurs, derived]
    · intro later order laterColumn laterOccurs
      exact none later laterColumn laterOccurs order

end Occurrences

theorem exists_occurs_of_mem_values {entity : Entity τ} (member : entity ∈ success.batch.values)
    {column : Column τ} (columnMem : column ∈ entity.columns.values) :
    ∃ owner, success.Occurs column.identifier owner column := by
  rcases OrderedMap.mem_values_iff.mp member with ⟨owner, found⟩
  rcases OrderedMap.mem_values_iff.mp columnMem with ⟨listed, columnFound⟩
  have listedEq := (identifiers_of_mem found).2.2 listed column columnFound
  rw [← listedEq] at columnFound
  exact ⟨owner, entity, found, columnFound⟩

/--
All occurrences of a column have the same declared type, and the one declared last among those
with a validator decides what the catalog holds. A column is kept faithfully exactly if that one
derives the same validator.
-/
theorem column_kept_iff (success : SuccessfulRegistration τ σ) {entity : Entity τ}
    (member : entity ∈ success.batch.values) {column : Column τ}
    (columnMem : column ∈ entity.columns.values)
    (notRows : ∀ other ∈ success.batch.values, other.isEnumeration = false →
      other.insertIdentifier ≠ column.identifier)
    {validator : Validator τ} (derived : success.derived? column = some validator) :
    (∀ other otherColumn, success.Occurs column.identifier other otherColumn →
      otherColumn.declaredType = column.declaredType) ∧
    (success.catalog.find? column.identifier = some validator ↔
      ∀ last lastColumn, success.Occurs column.identifier last lastColumn →
        (success.derived? lastColumn).isSome →
        (∀ later laterColumn, success.Occurs column.identifier later laterColumn →
          success.DeclaredBefore last later → success.derived? laterColumn = none) →
        success.derived? lastColumn = some validator) := by
  rcases exists_occurs_of_mem_values member columnMem with ⟨owner, occurs⟩
  constructor
  · rintro other otherColumn ⟨otherEntity, otherMember, otherFound⟩
    rcases occurs with ⟨_, ownerMember, found⟩
    exact declaredType_eq_of_consistent success.consistent ownerMember found otherMember otherFound
  · constructor
    · intro held last lastColumn lastOccurs lastDerived none
      rcases Option.isSome_iff_exists.mp lastDerived with ⟨lastValidator, lastDerived⟩
      have lastHeld := (find?_column_iff occurs notRows lastValidator).mpr
        ⟨last, lastColumn, lastOccurs, lastDerived, none⟩
      rw [lastDerived, ← lastHeld, held]
    · intro agree
      rcases exists_find?_of_derived? occurs derived with ⟨held, heldEq⟩
      rcases (find?_column_iff occurs notRows held).mp heldEq with
        ⟨last, lastColumn, lastOccurs, lastDerived, none⟩
      have lastEq := agree last lastColumn lastOccurs (by rw [lastDerived]; rfl) none
      rw [heldEq, ← lastDerived, lastEq]

/-- Two tables with a column that only the first one keeps from being absent. -/
def columnOfTwoTables : SuccessfulRegistration Empty Unit :=
  (Sample.register? .empty
    [("t1", ⟨.table, Sample.columns [("x", "int4", "", true)], []⟩),
      ("t2", ⟨.table, Sample.columns [("x", "int4", "", false)], []⟩)]).get (by decide +kernel)

/-- The catalog cannot be faithful to both columns, which have the same declared type. -/
theorem column_not_kept_of_columnOfTwoTables :
    ¬∀ entity ∈ columnOfTwoTables.batch.values, ∀ column ∈ entity.columns.values, ∀ validator,
      columnOfTwoTables.derived? column = some validator →
        columnOfTwoTables.catalog.find? column.identifier = some validator := by
  intro kept
  have facts : ∃ entity ∈ columnOfTwoTables.batch.values, ∃ column ∈ entity.columns.values,
      columnOfTwoTables.derived? column = some (.base "int4") ∧
        columnOfTwoTables.catalog.find? column.identifier ≠ some (.base "int4") := by
    decide +kernel
  rcases facts with ⟨entity, member, column, columnMem, derived, lost⟩
  exact lost (kept entity member column columnMem _ derived)

/-- The column is lost to an occurrence of the same declared type. -/
theorem column_replaced_of_columnOfTwoTables :
    ∃ entity ∈ columnOfTwoTables.batch.values, ∃ column ∈ entity.columns.values,
      ∃ last lastColumn, columnOfTwoTables.Occurs column.identifier last lastColumn ∧
        lastColumn.declaredType = column.declaredType ∧
        columnOfTwoTables.derived? lastColumn ≠ columnOfTwoTables.derived? column := by
  have facts : ∃ entity ∈ columnOfTwoTables.batch.values, ∃ column ∈ entity.columns.values,
      columnOfTwoTables.derived? column = some (.base "int4") ∧
      (∀ other ∈ columnOfTwoTables.batch.values, other.isEnumeration = false →
        other.insertIdentifier ≠ column.identifier) ∧
      columnOfTwoTables.catalog.find? column.identifier ≠ some (.base "int4") := by
    decide +kernel
  rcases facts with ⟨entity, member, column, columnMem, derived, notRows, lost⟩
  rcases column_kept_iff columnOfTwoTables member columnMem notRows derived with
    ⟨sameType, keptIff⟩
  by_contra alone
  apply lost
  apply keptIff.mpr
  intro last lastColumn occurs _ _
  by_contra different
  exact alone ⟨entity, member, column, columnMem, last, lastColumn, occurs,
    sameType last lastColumn occurs, by rwa [derived]⟩

end EntityCatalog.SuccessfulRegistration
