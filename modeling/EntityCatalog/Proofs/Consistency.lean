import EntityCatalog.Batch.Consistency
import EntityCatalog.Proofs.OrderedMap

/-!
# What consistency of a batch means

In a consistent batch all occurrences of a column have the same declared type, and no entity has
the identifier of a column.
-/

namespace EntityCatalog

variable {τ : Type}

theorem mem_columnOccurrences_iff {batch : Entities τ} {listed : Identifier} {declared : String} :
    (listed, declared) ∈ columnOccurrences batch ↔
      ∃ owner entity column, batch.get? owner = some entity ∧
        entity.columns.get? listed = some column ∧ column.declaredType = declared := by
  simp only [columnOccurrences, List.mem_flatMap, List.mem_map, OrderedMap.mem_values_iff,
    Prod.exists, Prod.mk.injEq, ← OrderedMap.get?_eq_some_iff_mem]
  constructor
  · rintro ⟨entity, ⟨owner, member⟩, _, column, found, rfl, rfl⟩
    exact ⟨owner, entity, column, member, found, rfl⟩
  · rintro ⟨owner, entity, column, member, found, rfl⟩
    exact ⟨entity, ⟨owner, member⟩, listed, column, found, rfl, rfl⟩

theorem mem_columnOccurrences {batch : Entities τ} {owner listed : Identifier} {entity : Entity τ}
    {column : Column τ} (member : batch.get? owner = some entity)
    (occurs : entity.columns.get? listed = some column) :
    (listed, column.declaredType) ∈ columnOccurrences batch :=
  mem_columnOccurrences_iff.mpr ⟨owner, entity, column, member, occurs, rfl⟩

theorem firstTypeConflict?_cons_eq_none_iff {seen : OrderedMap Identifier String}
    {column : Identifier} {declared : String} {rest : List (Identifier × String)} :
    firstTypeConflict? seen ((column, declared) :: rest) = none ↔
      (∀ previous, seen.get? column = some previous → previous = declared) ∧
        firstTypeConflict? (seen.insert column declared) rest = none := by
  rw [firstTypeConflict?]
  rcases found : seen.get? column with _ | previous
  · simp
  · by_cases same : previous = declared <;> simp [same]

/-- Whether some occurrences agree with each other and with what was seen before. -/
def Agree (seen : OrderedMap Identifier String) (occurrences : List (Identifier × String)) : Prop :=
  ∀ listed declared, (listed, declared) ∈ occurrences →
    (∀ previous, seen.get? listed = some previous → previous = declared) ∧
      ∀ other, (listed, other) ∈ occurrences → other = declared

/-- An occurrence that agrees with what was seen may as well have been seen itself. -/
theorem agree_cons_iff {seen : OrderedMap Identifier String} {column : Identifier}
    {declared : String} {rest : List (Identifier × String)} :
    Agree seen ((column, declared) :: rest) ↔
      (∀ previous, seen.get? column = some previous → previous = declared) ∧
        Agree (seen.insert column declared) rest := by
  constructor
  · intro agree
    refine ⟨(agree column declared (by simp)).1, ?_⟩
    intro listed type mem
    have here := agree listed type (List.mem_cons_of_mem _ mem)
    refine ⟨?_, fun other otherMem => here.2 other (List.mem_cons_of_mem _ otherMem)⟩
    intro previous found
    rw [OrderedMap.get?_insert] at found
    split at found
    · next same =>
      cases found
      exact here.2 declared (by simp [same])
    · exact here.1 previous found
  · rintro ⟨first, agree⟩ listed type mem
    have seenFirst (other : String) (later : (column, other) ∈ rest) : declared = other :=
      (agree column other later).1 declared (by simp)
    rcases List.mem_cons.mp mem with head | tail
    · cases head
      refine ⟨first, ?_⟩
      intro other otherMem
      rcases List.mem_cons.mp otherMem with head | later
      · cases head
        rfl
      · exact (seenFirst other later).symm
    · have later := agree listed type tail
      refine ⟨?_, ?_⟩
      · intro previous found
        by_cases same : listed = column
        · subst same
          rw [first previous found]
          exact seenFirst type tail
        · exact later.1 previous (by simpa [same] using found)
      · intro other otherMem
        rcases List.mem_cons.mp otherMem with head | otherTail
        · cases head
          exact seenFirst type tail
        · exact later.2 other otherTail

theorem firstTypeConflict?_eq_none_iff {seen : OrderedMap Identifier String}
    {occurrences : List (Identifier × String)} :
    firstTypeConflict? seen occurrences = none ↔ Agree seen occurrences := by
  induction occurrences generalizing seen with
  | nil => simp [firstTypeConflict?, Agree]
  | cons first rest ih =>
      rw [firstTypeConflict?_cons_eq_none_iff, agree_cons_iff, ih]

/-- A batch is consistent if its columns agree and none has the identifier of an entity. -/
theorem inconsistency?_eq_none_iff {batch : Entities τ} :
    inconsistency? batch = none ↔
      (∀ listed declared, (listed, declared) ∈ columnOccurrences batch →
        ∀ other, (listed, other) ∈ columnOccurrences batch → other = declared) ∧
      ∀ listed declared, (listed, declared) ∈ columnOccurrences batch → listed ∉ batch.keys := by
  rw [inconsistency?, Option.or_eq_none_iff, typeConflict?, firstTypeConflict?_eq_none_iff,
    nameCollision?, Option.map_eq_none_iff, List.find?_eq_none]
  apply and_congr
  · simp [Agree]
  · simp only [List.contains_iff_mem, List.mem_map, Prod.exists, exists_and_right,
      exists_eq_right, not_exists]
    constructor
    · intro free listed declared mem key
      exact free listed key declared mem
    · intro free listed key declared mem
      exact free listed declared mem key

/-- A part of a consistent batch is consistent. -/
theorem inconsistency?_eq_none_of_includedIn {smaller larger : Entities τ}
    (included : smaller.IncludedIn larger) (consistent : inconsistency? larger = none) :
    inconsistency? smaller = none := by
  have occurs {listed : Identifier} {declared : String}
      (mem : (listed, declared) ∈ columnOccurrences smaller) :
      (listed, declared) ∈ columnOccurrences larger := by
    rcases mem_columnOccurrences_iff.mp mem with ⟨owner, entity, column, member, found⟩
    exact mem_columnOccurrences_iff.mpr ⟨owner, entity, column, included owner entity member, found⟩
  rw [inconsistency?_eq_none_iff] at consistent ⊢
  refine ⟨?_, ?_⟩
  · intro listed declared mem other otherMem
    exact consistent.1 listed declared (occurs mem) other (occurs otherMem)
  · intro listed declared mem key
    exact consistent.2 listed declared (occurs mem) (included.mem_keys key)

theorem inconsistency?_eq_none_of_sameAs {left right : Entities τ} (same : left.SameAs right)
    (consistent : inconsistency? left = none) : inconsistency? right = none :=
  inconsistency?_eq_none_of_includedIn (fun key _ found => (same key).trans found) consistent

section Consistent

variable {batch : Entities τ} {owner other listed : Identifier} {entity otherEntity : Entity τ}
  {column otherColumn : Column τ}

theorem declaredType_eq_of_consistent (consistent : inconsistency? batch = none)
    (member : batch.get? owner = some entity) (occurs : entity.columns.get? listed = some column)
    (otherMember : batch.get? other = some otherEntity)
    (otherOccurs : otherEntity.columns.get? listed = some otherColumn) :
    otherColumn.declaredType = column.declaredType := by
  have types := (inconsistency?_eq_none_iff.mp consistent).1
  exact types listed _ (mem_columnOccurrences member occurs) _
    (mem_columnOccurrences otherMember otherOccurs)

theorem notMem_keys_of_consistent (consistent : inconsistency? batch = none)
    (member : batch.get? owner = some entity)
    (occurs : entity.columns.get? listed = some column) : listed ∉ batch.keys :=
  (inconsistency?_eq_none_iff.mp consistent).2 listed _ (mem_columnOccurrences member occurs)

end Consistent

end EntityCatalog
