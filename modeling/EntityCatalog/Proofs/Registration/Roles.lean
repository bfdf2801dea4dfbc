import EntityCatalog.Proofs.Registration.Success

/-!
# The declarations of entities and of their rows

An identifier may name an entity, the complete rows of another entity, and a column, and the
catalog holds one declaration for it. No entity has the identifier of a column, but the two other
pairs of roles can clash: then the last declaration replaces the others.
-/

namespace EntityCatalog.SuccessfulRegistration

variable {τ σ : Type} [DecidableEq τ] [Transform τ] {success : SuccessfulRegistration τ σ}
  {owner : Identifier} {entity : Entity τ}

section Self

/-- Under the identifier of an entity, the other declarations are those of rows. -/
theorem mentions_key_of_rows (key : owner ∈ success.batch.keys) {other : Identifier}
    {otherEntity : Entity τ} (otherMember : success.batch.get? other = some otherEntity)
    (notEnumeration : otherEntity.isEnumeration = false)
    (same : otherEntity.insertIdentifier = owner) :
    success.mentions owner other = [otherEntity.insertValidator] := by
  rw [(identifiers_of_mem otherMember).2.1] at same
  rw [← same, mentions_insertIdentifier otherMember notEnumeration, same,
    columnMentions_of_mem_keys key]

theorem mentions_key_of_ne (key : owner ∈ success.batch.keys) {other : Identifier}
    (notSelf : other ≠ owner)
    (notRows : ∀ otherEntity, success.batch.get? other = some otherEntity →
      otherEntity.isEnumeration = false → otherEntity.insertIdentifier ≠ owner) :
    success.mentions owner other = [] := by
  rw [mentions_of_ne notSelf, columnMentions_of_mem_keys key]
  intro otherEntity otherMember notEnumeration
  rw [← (identifiers_of_mem otherMember).2.1]
  exact notRows otherEntity otherMember notEnumeration

theorem eq_of_insertIdentifier_eq {left right : Identifier} {leftEntity rightEntity : Entity τ}
    (leftMember : success.batch.get? left = some leftEntity)
    (rightMember : success.batch.get? right = some rightEntity)
    (same : leftEntity.insertIdentifier = rightEntity.insertIdentifier) : left = right := by
  rw [(identifiers_of_mem leftMember).2.1, (identifiers_of_mem rightMember).2.1] at same
  exact Identifier.insertIdentifier_injective same

variable {other : Identifier} {otherEntity : Entity τ}
  (otherMember : success.batch.get? other = some otherEntity)
  (notEnumeration : otherEntity.isEnumeration = false)
  (same : otherEntity.insertIdentifier = owner) (after : success.DeclaredBefore owner other)

include otherMember notEnumeration same after

theorem find?_self_of_rows_after (key : owner ∈ success.batch.keys) :
    success.catalog.find? owner = some otherEntity.insertValidator := by
  rw [find?_catalog_eq_some_iff]
  refine ⟨other, after.mem_later, ?_, ?_⟩
  · rw [mentions_key_of_rows key otherMember notEnumeration same]
    rfl
  · intro later order
    apply mentions_key_of_ne key
    · rintro rfl
      exact Precedes.asymm success.order_nodup after order
    · intro laterEntity laterMember _ laterSame
      have laterEq := eq_of_insertIdentifier_eq laterMember otherMember (laterSame.trans same.symm)
      rw [laterEq] at order
      exact Precedes.irrefl success.order_nodup other order

end Self

theorem find?_self_of_no_rows_after (member : success.batch.get? owner = some entity)
    (notAfter : ∀ other otherEntity, success.batch.get? other = some otherEntity →
      otherEntity.isEnumeration = false → otherEntity.insertIdentifier = owner →
      ¬success.DeclaredBefore owner other) :
    success.catalog.find? owner = some entity.ownValidator := by
  have key := OrderedMap.mem_keys_of_get? member
  rw [find?_catalog_eq_some_iff]
  refine ⟨owner, success.mem_order_of_mem_batch key, ?_, ?_⟩
  · rw [mentions_self member]
    rfl
  · intro later order
    apply mentions_key_of_ne key
    · rintro rfl
      exact Precedes.irrefl success.order_nodup later order
    · intro laterEntity laterMember notEnumeration same
      exact notAfter later laterEntity laterMember notEnumeration same order

/-- An entity keeps its own declaration unless it names complete rows that are declared later. -/
theorem find?_self_iff (member : success.batch.get? owner = some entity) :
    success.catalog.find? owner = some entity.ownValidator ↔
      ∀ other otherEntity, success.batch.get? other = some otherEntity →
        otherEntity.isEnumeration = false → otherEntity.insertIdentifier = owner →
        success.DeclaredBefore owner other →
        otherEntity.insertValidator = entity.ownValidator := by
  have key := OrderedMap.mem_keys_of_get? member
  constructor
  · intro held other otherEntity otherMember notEnumeration same after
    rw [find?_self_of_rows_after otherMember notEnumeration same after key] at held
    exact Option.some.inj held
  · intro agree
    by_cases replaced : ∃ other otherEntity, success.batch.get? other = some otherEntity ∧
      otherEntity.isEnumeration = false ∧ otherEntity.insertIdentifier = owner ∧
        success.DeclaredBefore owner other
    · rcases replaced with ⟨other, otherEntity, otherMember, notEnumeration, same, after⟩
      rw [find?_self_of_rows_after otherMember notEnumeration same after key,
        agree other otherEntity otherMember notEnumeration same after]
    · apply find?_self_of_no_rows_after member
      intro other otherEntity otherMember notEnumeration same after
      exact replaced ⟨other, otherEntity, otherMember, notEnumeration, same, after⟩

section Rows

/-- Entities other than the one that complete rows belong to can only name them by a column. -/
theorem mentions_insertIdentifier_of_ne {other : Identifier} (notOwner : other ≠ owner)
    (notSelf : other ≠ owner.insertIdentifier) :
    success.mentions owner.insertIdentifier other =
      success.columnMentions owner.insertIdentifier other :=
  mentions_of_ne notSelf fun _ _ _ same => notOwner (Identifier.insertIdentifier_injective same)

theorem find?_insertIdentifier_of_entity_after {other : Entity τ}
    (otherMember : success.batch.get? owner.insertIdentifier = some other)
    (after : success.DeclaredBefore owner owner.insertIdentifier) :
    success.catalog.find? owner.insertIdentifier = some other.ownValidator := by
  have key := OrderedMap.mem_keys_of_get? otherMember
  rw [find?_catalog_eq_some_iff]
  refine ⟨owner.insertIdentifier, after.mem_later, ?_, ?_⟩
  · rw [mentions_self otherMember]
    rfl
  · intro later order
    rw [mentions_insertIdentifier_of_ne, columnMentions_of_mem_keys key]
    · rintro rfl
      exact Precedes.asymm success.order_nodup after order
    · rintro rfl
      exact Precedes.irrefl success.order_nodup _ order

variable (member : success.batch.get? owner = some entity)
  (notEnumeration : entity.isEnumeration = false)

include member notEnumeration

theorem find?_insertIdentifier_of_kept
    (notAfter : owner.insertIdentifier ∈ success.batch.keys →
      ¬success.DeclaredBefore owner owner.insertIdentifier)
    (before : ∀ other column, success.Occurs owner.insertIdentifier other column →
      (success.derived? column).isSome → success.DeclaredBefore other owner) :
    success.catalog.find? owner.insertIdentifier = some entity.insertValidator := by
  have noColumn {later : Identifier} (notBefore : ¬success.DeclaredBefore later owner) :
      success.columnMentions owner.insertIdentifier later = [] := by
    rw [columnMentions_eq_nil_iff]
    intro column occurs
    by_contra derived
    exact notBefore (before later column occurs (Option.isSome_iff_ne_none.mpr derived))
  rw [find?_catalog_eq_some_iff]
  refine ⟨owner, success.mem_order_of_mem_batch (OrderedMap.mem_keys_of_get? member), ?_, ?_⟩
  · rw [mentions_insertIdentifier member notEnumeration,
      noColumn (Precedes.irrefl success.order_nodup owner)]
    rfl
  · intro later order
    by_cases self : later = owner.insertIdentifier
    · rw [self] at order ⊢
      exact mentions_of_notMem (fun key => notAfter key order) _
    · rw [mentions_insertIdentifier_of_ne _ self,
        noColumn (Precedes.asymm success.order_nodup order)]
      rintro rfl
      exact Precedes.irrefl success.order_nodup later order

/-- A last mention that is about rows comes from the rows or from an entity of that identifier. -/
theorem owner_of_last_insertValidator {item : Identifier}
    (last : (success.mentions owner.insertIdentifier item).getLast? =
      some entity.insertValidator) :
    item = owner.insertIdentifier ∨
      item = owner ∧ success.columnMentions owner.insertIdentifier owner = [] := by
  have aboutRows := success.keys_notMem_columnMentions owner.insertIdentifier item
    entity.requiredColumns entity.optionalColumns
  by_cases self : item = owner.insertIdentifier
  · exact Or.inl self
  · by_cases itemEq : item = owner
    · subst itemEq
      rw [mentions_insertIdentifier member notEnumeration] at last
      rcases columns : success.columnMentions item.insertIdentifier item with _ | ⟨first, rest⟩
      · exact Or.inr ⟨rfl, rfl⟩
      · rw [columns, List.getLast?_cons_cons, ← columns] at last
        exact absurd (List.mem_of_getLast? last) aboutRows
    · rw [mentions_insertIdentifier_of_ne itemEq self] at last
      exact absurd (List.mem_of_getLast? last) aboutRows

/-- Where rows keep their declaration, the columns of that identifier are declared before. -/
theorem declaredBefore_of_find?_insertIdentifier
    (held : success.catalog.find? owner.insertIdentifier = some entity.insertValidator)
    {other : Identifier} {column : Column τ}
    (occurs : success.Occurs owner.insertIdentifier other column)
    (derived : (success.derived? column).isSome) : success.DeclaredBefore other owner := by
  rcases (success.find?_catalog_eq_some_iff _ _).mp held with ⟨item, itemMem, last, none⟩
  have mentioned : success.columnMentions owner.insertIdentifier other ≠ [] := by
    intro empty
    rw [columnMentions_eq_nil_iff.mp empty column occurs] at derived
    cases derived
  rcases owner_of_last_insertValidator member notEnumeration last with rfl | ⟨rfl, empty⟩
  · rw [mentions_of_notMem occurs.notMem_keys] at last
    cases last
  · have notOwner : other ≠ item := by
      rintro rfl
      exact mentioned empty
    have notSelf : other ≠ item.insertIdentifier := by
      rintro rfl
      exact occurs.notMem_keys occurs.mem_keys
    rcases Precedes.total (success.mem_order_of_mem_batch occurs.mem_keys) itemMem notOwner with
      order | order
    · exact order
    · have otherEmpty := none other order
      rw [mentions_insertIdentifier_of_ne notOwner notSelf] at otherEmpty
      exact absurd otherEmpty mentioned

/--
The declaration of complete rows stays unless an entity of the same identifier is declared later,
or a column of that identifier is not declared before.
-/
theorem find?_insertIdentifier_iff :
    success.catalog.find? owner.insertIdentifier = some entity.insertValidator ↔
      (∀ other otherEntity, success.batch.get? other = some otherEntity →
        other = owner.insertIdentifier → success.DeclaredBefore owner other →
        otherEntity.ownValidator = entity.insertValidator) ∧
      ∀ other column, success.Occurs owner.insertIdentifier other column →
        (success.derived? column).isSome → success.DeclaredBefore other owner := by
  constructor
  · intro held
    constructor
    · rintro _ otherEntity otherMember rfl after
      rw [find?_insertIdentifier_of_entity_after otherMember after] at held
      exact Option.some.inj held
    · intro other column
      exact declaredBefore_of_find?_insertIdentifier member notEnumeration held
  · rintro ⟨agree, before⟩
    by_cases replaced : owner.insertIdentifier ∈ success.batch.keys ∧
      success.DeclaredBefore owner owner.insertIdentifier
    · rcases replaced with ⟨key, after⟩
      rcases OrderedMap.exists_get?_of_mem_keys key with ⟨other, otherMember⟩
      rw [find?_insertIdentifier_of_entity_after otherMember after,
        agree _ other otherMember rfl after]
    · exact find?_insertIdentifier_of_kept member notEnumeration
        (fun key after => replaced ⟨key, after⟩) before

end Rows

/--
When exactly the declarations of an entity stay as they are: an entity whose identifier is that of
complete rows may lose its own declaration to them or replace theirs, whichever is declared later,
and a column of that identifier replaces the declaration of the rows unless it is declared before.
-/
theorem roles_kept_iff (success : SuccessfulRegistration τ σ) {entity : Entity τ}
    (member : entity ∈ success.batch.values) :
    (success.catalog.find? entity.identifier = some entity.ownValidator ↔
      ∀ other ∈ success.batch.values, other.isEnumeration = false →
        other.insertIdentifier = entity.identifier →
        success.DeclaredBefore entity.identifier other.identifier →
        other.insertValidator = entity.ownValidator) ∧
    (entity.isEnumeration = false →
      (success.catalog.find? entity.insertIdentifier = some entity.insertValidator ↔
        (∀ other ∈ success.batch.values, other.identifier = entity.insertIdentifier →
          success.DeclaredBefore entity.identifier other.identifier →
          other.ownValidator = entity.insertValidator) ∧
        ∀ other column, success.Occurs entity.insertIdentifier other column →
          (success.derived? column).isSome → success.DeclaredBefore other entity.identifier)) := by
  rcases OrderedMap.mem_values_iff.mp member with ⟨owner, found⟩
  rcases identifiers_of_mem found with ⟨identifierEq, insertEq, _⟩
  rw [identifierEq, insertEq]
  constructor
  · rw [find?_self_iff found]
    exact (forall_mem_batch_iff (motive := fun other otherEntity =>
      otherEntity.isEnumeration = false → otherEntity.insertIdentifier = owner →
        success.DeclaredBefore owner other →
        otherEntity.insertValidator = entity.ownValidator)).symm
  · intro notEnumeration
    rw [find?_insertIdentifier_iff found notEnumeration]
    apply and_congr_left'
    exact (forall_mem_batch_iff (motive := fun other otherEntity =>
      other = owner.insertIdentifier → success.DeclaredBefore owner other →
        otherEntity.ownValidator = entity.insertValidator)).symm

/-- A table with a column that has the identifier of its complete rows. -/
def rowsNamedLikeColumn : SuccessfulRegistration Empty Unit :=
  (Sample.register? .empty
    [("users", ⟨.table, Sample.columns [("id", "int4", "", true),
      ("users-insert", "int4", "", false)], []⟩)]).get (by decide +kernel)

/-- The table keeps its own declaration and loses that of its rows to its column. -/
theorem roles_of_rowsNamedLikeColumn :
    ∃ entity ∈ rowsNamedLikeColumn.batch.values, entity.isEnumeration = false ∧
      rowsNamedLikeColumn.catalog.find? entity.identifier = some entity.ownValidator ∧
      rowsNamedLikeColumn.catalog.find? entity.insertIdentifier ≠
        some entity.insertValidator := by
  have facts : ∃ entity ∈ rowsNamedLikeColumn.batch.values, entity.isEnumeration = false ∧
      (∀ other ∈ rowsNamedLikeColumn.batch.values,
        other.insertIdentifier ≠ entity.identifier) ∧
      rowsNamedLikeColumn.batch.get? entity.identifier = some entity ∧
      ((entity.columns.get? entity.insertIdentifier).bind
        rowsNamedLikeColumn.derived?).isSome := by
    decide +kernel
  rcases facts with ⟨entity, member, notEnumeration, unnamed, found, derived⟩
  rcases columnFound : entity.columns.get? entity.insertIdentifier with _ | column
  · rw [columnFound] at derived
    cases derived
  · rw [columnFound, Option.bind_some] at derived
    rcases roles_kept_iff rowsNamedLikeColumn member with ⟨own, rows⟩
    refine ⟨entity, member, notEnumeration, ?_, ?_⟩
    · apply own.mpr
      intro other otherMember _ same _
      exact absurd same (unnamed other otherMember)
    · intro kept
      have before := ((rows notEnumeration).mp kept).2 entity.identifier column
        ⟨entity, found, columnFound⟩ derived
      exact Precedes.irrefl rowsNamedLikeColumn.order_nodup _ before

end EntityCatalog.SuccessfulRegistration
