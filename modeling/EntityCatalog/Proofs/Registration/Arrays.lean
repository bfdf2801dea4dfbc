import EntityCatalog.Proofs.Registration.References

/-!
# Arrays and other columns of one type

The element type of an array is looked up in the batch and only then among the entities registered
before, while any other column of the same type sees the effective registry as a whole. So the two
refer to different entities if the batch has a type of that name and one that was registered before
outranks it, being composite where the other is an enumeration, or having the lesser identifier.
-/

namespace EntityCatalog

variable {τ σ : Type}

namespace SuccessfulRegistration

variable [DecidableEq τ] [Transform τ] {success : SuccessfulRegistration τ σ}

theorem reference?_of_isArray {listed owner : Identifier} {array : Column τ}
    (occurs : success.Occurs listed owner array) (isArray : array.isArray = true) :
    array.reference? success.effective =
      (success.batch.findType? array.typeName).or
        (success.prior.entities.findType? array.typeName) := by
  rcases occurs with ⟨entity, member, found⟩
  rcases success.nonempty_course with ⟨_, ⟨course⟩, _⟩
  exact course.reference?_of_isArray member found isArray success.effective

/-- What the entities registered before have under a name is only hidden by a type of the batch. -/
theorem findType?_effective_of_eq_none {name : String}
    (notInBatch : success.batch.findType? name = none)
    (genuine : ∀ target, success.prior.entities.findType? name = some target →
      success.effective.HasType target name) :
    success.effective.findType? name = success.prior.entities.findType? name := by
  apply Entities.findType?_overlay_of_eq_none notInBatch
  intro target found key
  have hasType := (Entities.hasType_overlay_of_mem key).mp (genuine target found)
  exact Entities.findType?_eq_none_iff.mp notInBatch target hasType

/--
An array of a batch and a column of an enumeration with the same type name refer to the same entity,
or neither to any, exactly if no type of that name which was registered before, and which the batch
does not replace, outranks the type that the batch has. This presupposes that what the array refers
to is still a type of that name.
-/
theorem reference?_agree_iff (success : SuccessfulRegistration τ σ)
    {listed owner : Identifier} {array column : Column τ}
    (occurs : success.Occurs listed owner array) (isArray : array.isArray = true)
    (notArray : column.isArray = false) (isEnumeration : column.isEnumeration = true)
    (sameType : column.typeName = array.typeName)
    (genuine : ∀ target, array.reference? success.effective = some target →
      success.effective.HasType target array.typeName) :
    array.reference? success.effective = column.reference? success.effective ↔
      ∀ chosen, success.batch.findType? array.typeName = some chosen →
        ∀ other ∉ success.batch.keys, success.prior.entities.HasType other array.typeName →
          ¬success.effective.Outranks other chosen := by
  have arrayRefers := reference?_of_isArray occurs isArray
  rw [arrayRefers] at genuine
  rw [arrayRefers, Column.reference?_of_isEnumeration notArray isEnumeration, sameType]
  rcases inBatch : success.batch.findType? array.typeName with _ | chosen
  · rw [inBatch, Option.none_or] at genuine
    simp [findType?_effective_of_eq_none inBatch genuine]
  · have chosenIff : success.effective.findType? array.typeName = some chosen ↔
        ∀ other ∉ success.batch.keys, success.prior.entities.HasType other array.typeName →
          ¬success.effective.Outranks other chosen :=
      Entities.findType?_overlay_eq_some_iff inBatch
    rw [Option.some_or, eq_comm]
    simpa using chosenIff

/-- An enumeration. -/
def registeredStatus : SuccessfulRegistration Empty Unit :=
  (Sample.register? .empty [("status", ⟨.enumeration, [], ["new", "shipped"]⟩)]).get
    (by decide +kernel)

/-- A table with a column of an enumeration and an array of its values. -/
def reportedOrders : ReportedEntity :=
  ⟨.table,
    [⟨"state", "status", true, true, "E", none, false, by decide, by decide⟩,
      ⟨"history", "_status", true, false, "A", none, false, by decide, by decide⟩], []⟩

/-- The enumeration is registered in another scope as well, together with the table. -/
def statusOfTwoScopes : SuccessfulRegistration Empty Unit :=
  (ofRegister? (Registry.empty.merge registeredStatus.batch)
    (Sample.introspector
      [("status", ⟨.enumeration, [], ["new", "shipped"]⟩), ("orders", reportedOrders)]) ()
    [⟨"status", ⟨"shop", "status", by decide, by decide, by decide⟩, .none, by decide⟩,
      ⟨"orders", ⟨"shop", "orders", by decide, by decide, by decide⟩, .none, by decide⟩]
    ⟨true, .standard⟩).get (by decide +kernel)

/-- The array and the other column of the table refer to enumerations of different scopes. -/
theorem exists_columns_of_statusOfTwoScopes :
    ∃ owner arrayListed listed array column,
      statusOfTwoScopes.Occurs arrayListed owner array ∧
      statusOfTwoScopes.Occurs listed owner column ∧ array.isArray = true ∧
      column.isArray = false ∧ column.isEnumeration = true ∧ column.typeName = array.typeName ∧
      array.reference? statusOfTwoScopes.effective =
        statusOfTwoScopes.batch.findType? array.typeName ∧
      array.reference? statusOfTwoScopes.effective ≠
        column.reference? statusOfTwoScopes.effective := by
  have facts : ∃ owner ∈ statusOfTwoScopes.batch.entries, ∃ array ∈ owner.2.columns.entries,
      ∃ column ∈ owner.2.columns.entries, array.2.isArray = true ∧ column.2.isArray = false ∧
        column.2.isEnumeration = true ∧ column.2.typeName = array.2.typeName ∧
        array.2.reference? statusOfTwoScopes.effective =
          statusOfTwoScopes.batch.findType? array.2.typeName ∧
        array.2.reference? statusOfTwoScopes.effective ≠
          column.2.reference? statusOfTwoScopes.effective := by
    decide +kernel
  rcases facts with ⟨⟨owner, entity⟩, member, ⟨arrayListed, array⟩, arrayFound,
    ⟨listed, column⟩, found, facts⟩
  have member := OrderedMap.get?_eq_some_iff_mem.mpr member
  exact ⟨owner, arrayListed, listed, array, column,
    ⟨entity, member, OrderedMap.get?_eq_some_iff_mem.mpr arrayFound⟩,
    ⟨entity, member, OrderedMap.get?_eq_some_iff_mem.mpr found⟩, facts⟩

/-- Not all arrays of a batch agree with the other columns of their type. -/
theorem not_reference?_agree_of_statusOfTwoScopes :
    ¬∀ arrayListed arrayOwner listed owner array column,
      statusOfTwoScopes.Occurs arrayListed arrayOwner array →
      statusOfTwoScopes.Occurs listed owner column → array.isArray = true →
      column.isArray = false → column.isEnumeration = true →
      column.typeName = array.typeName →
      array.reference? statusOfTwoScopes.effective =
        column.reference? statusOfTwoScopes.effective := by
  intro agree
  rcases exists_columns_of_statusOfTwoScopes with ⟨owner, arrayListed, listed, array, column,
    arrayOccurs, occurs, isArray, notArray, isEnumeration, sameType, _, differ⟩
  exact differ (agree arrayListed owner listed owner array column arrayOccurs occurs isArray
    notArray isEnumeration sameType)

/-- The enumeration that was registered before outranks that of the batch. -/
theorem outranks_of_statusOfTwoScopes :
    ∃ name chosen other, statusOfTwoScopes.batch.findType? name = some chosen ∧
      other ∉ statusOfTwoScopes.batch.keys ∧
      statusOfTwoScopes.prior.entities.HasType other name ∧
      statusOfTwoScopes.effective.Outranks other chosen := by
  rcases exists_columns_of_statusOfTwoScopes with ⟨owner, arrayListed, listed, array, column,
    arrayOccurs, _, isArray, notArray, isEnumeration, sameType, fromBatch, differ⟩
  have genuine : ∀ target, array.reference? statusOfTwoScopes.effective = some target →
      statusOfTwoScopes.effective.HasType target array.typeName := by
    intro target refers
    rw [fromBatch] at refers
    have hasType := Entities.hasType_of_findType? refers
    exact (Entities.hasType_overlay_of_mem hasType.mem_keys).mpr hasType
  have agreeIff := reference?_agree_iff statusOfTwoScopes arrayOccurs isArray notArray
    isEnumeration sameType genuine
  by_contra alone
  apply differ
  rw [agreeIff]
  intro chosen found other notMem hasType outranks
  exact alone ⟨array.typeName, chosen, other, found, notMem, hasType, outranks⟩

end SuccessfulRegistration

end EntityCatalog
