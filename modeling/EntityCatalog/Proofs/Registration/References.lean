import EntityCatalog.Proofs.Registration.Success

/-!
# Where the columns of a batch lead

What a column refers to is registered once its batch is. It is a composite type or an enumeration
with the name of the column's type, with one exception: an array whose type is not in the batch
refers to what an earlier registration gave that name, and the batch may replace that entity by one
that is not of this type any more. Columns that are no arrays see the replacement.
-/

namespace EntityCatalog.SuccessfulRegistration

variable {τ σ : Type} [DecidableEq τ] [Transform τ] {success : SuccessfulRegistration τ σ}

theorem hasType_effective_of_mem {identifier : Identifier}
    (key : identifier ∈ success.batch.keys) (name : String) :
    success.effective.HasType identifier name ↔ success.batch.HasType identifier name :=
  Entities.hasType_overlay_of_mem key

theorem hasType_effective_of_notMem {identifier : Identifier}
    (absent : identifier ∉ success.batch.keys) (name : String) :
    success.effective.HasType identifier name ↔
      success.prior.entities.HasType identifier name :=
  Entities.hasType_overlay_of_notMem absent

section Reference

variable {listed owner target : Identifier} {column : Column τ}
  (occurs : success.Occurs listed owner column)
  (refers : column.reference? success.effective = some target)

include occurs refers

/-- An array refers to a type of the batch, or to one registered before if the batch has none. -/
theorem hasType_of_isArray (array : column.isArray = true) :
    success.batch.HasType target column.typeName ∨
      success.batch.findType? column.typeName = none ∧
        success.prior.entities.HasType target column.typeName := by
  rcases occurs with ⟨entity, member, found⟩
  rcases success.nonempty_course with ⟨_, ⟨course⟩, _⟩
  have lookedUp := course.reference?_of_isArray member found array success.effective
  rw [refers] at lookedUp
  rcases Option.or_eq_some_iff.mp lookedUp.symm with inBatch | ⟨notInBatch, inPrior⟩
  · exact Or.inl (Entities.hasType_of_findType? inBatch)
  · exact Or.inr ⟨notInBatch, Entities.hasType_of_findType? inPrior⟩

theorem mem_effective_of_reference? : target ∈ success.effective.keys := by
  by_cases array : column.isArray = true
  · rw [effective, OrderedMap.mem_keys_overlay]
    rcases hasType_of_isArray occurs refers array with inBatch | ⟨_, inPrior⟩
    · exact Or.inl inBatch.mem_keys
    · exact Or.inr inPrior.mem_keys
  · exact (Column.hasType_of_reference? (Bool.eq_false_iff.mpr array) refers).mem_keys

end Reference

/--
What a column of a batch refers to is registered, and it is a composite type or an enumeration with
the name of the column's type, except where an array refers to a type that was registered before,
is not in the batch under that name, and whose identifier the batch registers again.
-/
theorem reference_hasType_iff (success : SuccessfulRegistration τ σ)
    {listed owner target : Identifier} {column : Column τ}
    (occurs : success.Occurs listed owner column)
    (refers : column.reference? success.effective = some target) :
    target ∈ success.effective.keys ∧
      (success.effective.HasType target column.typeName ↔
        ¬(column.isArray = true ∧ success.batch.findType? column.typeName = none ∧
          target ∈ success.batch.keys)) := by
  refine ⟨mem_effective_of_reference? occurs refers, ?_, ?_⟩
  · rintro hasType ⟨_, notInBatch, key⟩
    exact ((hasType_effective_of_mem key _).mp hasType).findType?_ne_none notInBatch
  · intro notReplaced
    by_cases array : column.isArray = true
    · by_cases key : target ∈ success.batch.keys
      · rcases hasType_of_isArray occurs refers array with inBatch | ⟨notInBatch, _⟩
        · exact (hasType_effective_of_mem key _).mpr inBatch
        · exact absurd ⟨array, notInBatch, key⟩ notReplaced
      · rcases hasType_of_isArray occurs refers array with inBatch | ⟨_, inPrior⟩
        · exact absurd inBatch.mem_keys key
        · exact (hasType_effective_of_notMem key _).mpr inPrior
    · exact Column.hasType_of_reference? (Bool.eq_false_iff.mpr array) refers

/-- A composite type. -/
def registeredPoint : SuccessfulRegistration Empty Unit :=
  (Sample.register? .empty
    [("point", ⟨.composite, Sample.columns [("x", "int4", "", true)], []⟩)]).get
      (by decide +kernel)

/-- A table takes the place of the composite type, along with an array of the latter. -/
def pointReplacedByTable : SuccessfulRegistration Empty Unit :=
  (Sample.register? (Registry.empty.merge registeredPoint.batch)
    [("point", ⟨.table, Sample.columns [("x", "int4", "", true)], []⟩),
      ("shape", ⟨.table, Sample.columns [("corners", "_point", "A", true)], []⟩)]).get
        (by decide +kernel)

/-- The elements of the array are said to be rows of the table. -/
theorem not_hasType_of_pointReplacedByTable :
    ∃ listed owner column target, pointReplacedByTable.Occurs listed owner column ∧
      column.reference? pointReplacedByTable.effective = some target ∧
      ¬pointReplacedByTable.effective.HasType target column.typeName := by
  have facts : ∃ owner ∈ pointReplacedByTable.batch.entries,
      ∃ listed ∈ owner.2.columns.entries, ∃ target ∈ pointReplacedByTable.batch.keys,
        listed.2.reference? pointReplacedByTable.effective = some target ∧
        listed.2.isArray = true ∧
        pointReplacedByTable.batch.findType? listed.2.typeName = none := by
    decide +kernel
  rcases facts with ⟨⟨owner, entity⟩, member, ⟨listed, column⟩, found, target, key, refers,
    array, notInBatch⟩
  have occurs : pointReplacedByTable.Occurs listed owner column :=
    ⟨entity, OrderedMap.get?_eq_some_iff_mem.mpr member,
      OrderedMap.get?_eq_some_iff_mem.mpr found⟩
  refine ⟨listed, owner, column, target, occurs, refers, ?_⟩
  rw [(reference_hasType_iff pointReplacedByTable occurs refers).2, not_not]
  exact ⟨array, notInBatch, key⟩

end EntityCatalog.SuccessfulRegistration
