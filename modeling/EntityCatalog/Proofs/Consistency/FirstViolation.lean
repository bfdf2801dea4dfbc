import EntityCatalog.Proofs.Consistency.DeclaredType

/-!
# Which violation is reported

The check of a batch goes through all occurrences of columns, entity by entity, and remembers the
type that it saw last for each of them. As long as it goes on, all types of a column were the same,
so that the type seen last is the first one too. It therefore stops at the first occurrence whose
type differs from an earlier one, and names the first type of the column as the previous one. The
identifiers of the entities are looked at only if the types agree.
-/

namespace EntityCatalog

variable {τ : Type}

/-- Whether no occurrence of a column has a type that differs from that of an earlier one. -/
def AreUniform (occurrences : List (Identifier × String)) : Prop :=
  occurrences.Pairwise fun earlier later => earlier.1 = later.1 → earlier.2 = later.2

/-- Whether the type of an occurrence differs from that of an earlier one of the same column. -/
def Deviates (earlier : List (Identifier × String)) (column : Identifier) (declared : String) :
    Prop :=
  ∃ other, (column, other) ∈ earlier ∧ other ≠ declared

/-- Whether the first deviation among some occurrences is that of a column from its first type. -/
structure IsFirstConflict (occurrences : List (Identifier × String)) (column : Identifier)
    (previous new : String) : Prop where
  /-- The occurrence with the new type deviates, and none before it does. -/
  deviates : ∃ front back, occurrences = front ++ (column, new) :: back ∧
    AreUniform front ∧ Deviates front column new
  /-- The previous type is that of the first occurrence of the column. -/
  first : ∃ front back, occurrences = front ++ (column, previous) :: back ∧
    column ∉ front.map Prod.fst

/-- Whether an identifier is the first one among the entities that is a column as well. -/
def Entities.IsFirstCollision (batch : Entities τ) (identifier : Identifier) : Prop :=
  (∃ column, batch.HasColumn identifier column) ∧
    ∃ front back, batch.keys = front ++ identifier :: back ∧
      ∀ key ∈ front, ¬∃ column, batch.HasColumn key column

section Uniform

variable {prior front : List (Identifier × String)} {column : Identifier} {declared : String}

theorem AreUniform.append_singleton (uniform : AreUniform prior)
    (agrees : ¬Deviates prior column declared) : AreUniform (prior ++ [(column, declared)]) := by
  apply List.pairwise_append.mpr
  refine ⟨uniform, List.pairwise_singleton _ _, ?_⟩
  rintro ⟨listed, other⟩ mem later laterMem sameColumn
  simp only [List.mem_singleton] at laterMem
  subst later
  simp only at sameColumn
  subst listed
  by_contra different
  exact agrees ⟨other, mem, different⟩

theorem AreUniform.not_deviates
    (uniform : AreUniform (prior ++ (column, declared) :: front)) :
    ¬Deviates prior column declared := by
  rintro ⟨other, mem, different⟩
  have apart := (List.pairwise_append.mp uniform).2.2
  exact different (apart (column, other) mem (column, declared) (by simp) rfl)

/-- Among uniform occurrences the first type of a column is the type of each. -/
theorem AreUniform.findEntry_eq (uniform : AreUniform prior) (mem : (column, declared) ∈ prior) :
    OrderedMap.findEntry column prior = some declared := by
  induction prior with
  | nil => cases mem
  | cons entry rest ih =>
      rcases List.pairwise_cons.mp uniform with ⟨sameAsFirst, restUniform⟩
      rcases List.mem_cons.mp mem with rfl | later
      · simp [OrderedMap.findEntry]
      · by_cases same : column = entry.1
        · have firstType := sameAsFirst _ later same.symm
          simp [OrderedMap.findEntry, same, firstType]
        · simpa [OrderedMap.findEntry, same] using ih restUniform later

end Uniform

/-- What the check knows after some occurrences among which it found no conflict. -/
structure Remembers (seen : OrderedMap Identifier String) (prior : List (Identifier × String)) :
    Prop where
  uniform : AreUniform prior
  get?_eq : ∀ column, seen.get? column = OrderedMap.findEntry column prior

namespace Remembers

variable {seen : OrderedMap Identifier String} {prior rest : List (Identifier × String)}
  {column : Identifier} {declared previous new : String}

theorem empty : Remembers .empty [] := ⟨List.Pairwise.nil, fun _ => rfl⟩

theorem deviates_iff (remembers : Remembers seen prior) :
    Deviates prior column declared ↔
      ∃ previous, seen.get? column = some previous ∧ previous ≠ declared := by
  constructor
  · rintro ⟨other, mem, different⟩
    refine ⟨other, ?_, different⟩
    rw [remembers.get?_eq]
    exact remembers.uniform.findEntry_eq mem
  · rintro ⟨previous, found, different⟩
    rw [remembers.get?_eq] at found
    exact ⟨previous, OrderedMap.mem_of_findEntry_eq_some found, different⟩

theorem insert (remembers : Remembers seen prior) (agrees : ¬Deviates prior column declared) :
    Remembers (seen.insert column declared) (prior ++ [(column, declared)]) := by
  refine ⟨remembers.uniform.append_singleton agrees, ?_⟩
  intro listed
  have seenBefore := remembers.get?_eq listed
  simp only [OrderedMap.get?_insert, OrderedMap.findEntry_append, OrderedMap.findEntry]
  by_cases same : listed = column
  · subst same
    rcases found : OrderedMap.findEntry listed prior with _ | previous
    · simp
    · have previousEq : previous = declared := by
        by_contra different
        exact agrees ⟨previous, OrderedMap.mem_of_findEntry_eq_some found, different⟩
      simp [previousEq]
  · simpa [same] using seenBefore

/-- The check stops at a deviation and names the type of the first occurrence. -/
theorem firstTypeConflict?_of_deviates (remembers : Remembers seen prior)
    (deviates : Deviates prior column declared) :
    ∃ previous, OrderedMap.findEntry column prior = some previous ∧
      firstTypeConflict? seen ((column, declared) :: rest) =
        some (.typeConflict column previous declared) := by
  rcases remembers.deviates_iff.mp deviates with ⟨previous, found, different⟩
  refine ⟨previous, ?_, by simp [firstTypeConflict?, found, different]⟩
  rw [← remembers.get?_eq]
  exact found

theorem firstTypeConflict?_of_not_deviates (remembers : Remembers seen prior)
    (agrees : ¬Deviates prior column declared) :
    firstTypeConflict? seen ((column, declared) :: rest) =
      firstTypeConflict? (seen.insert column declared) rest := by
  rcases found : seen.get? column with _ | previous
  · simp [firstTypeConflict?, found]
  · have same : previous = declared := by
      by_contra different
      exact agrees (remembers.deviates_iff.mpr ⟨previous, found, different⟩)
    simp [firstTypeConflict?, found, same]

/--
What the check finds among further occurrences. The induction is on them; each one without a
deviation joins those that the check remembers.
-/
theorem firstTypeConflict?_eq_some_iff (remembers : Remembers seen prior) :
    firstTypeConflict? seen rest = some (.typeConflict column previous new) ↔
      ∃ front back, rest = front ++ (column, new) :: back ∧ AreUniform (prior ++ front) ∧
        Deviates (prior ++ front) column new ∧
        OrderedMap.findEntry column (prior ++ front) = some previous := by
  induction rest generalizing seen prior with
  | nil => simp [firstTypeConflict?]
  | cons entry rest ih =>
      rcases entry with ⟨listed, declared⟩
      by_cases deviates : Deviates prior listed declared
      · rcases remembers.firstTypeConflict?_of_deviates deviates with ⟨first, found, stopped⟩
        rw [stopped]
        constructor
        · intro reported
          cases reported
          exact ⟨[], rest, rfl, by simpa using remembers.uniform, by simpa using deviates,
            by simpa using found⟩
        · rintro ⟨front, back, parts, uniform, _, foundThere⟩
          rcases front with _ | ⟨entry, front⟩
          · cases parts
            simp_all
          · cases parts
            exact absurd deviates uniform.not_deviates
      · rw [remembers.firstTypeConflict?_of_not_deviates deviates, ih (remembers.insert deviates)]
        constructor
        · rintro ⟨front, back, rfl, goesOn⟩
          exact ⟨(listed, declared) :: front, back, rfl, by simpa using goesOn⟩
        · rintro ⟨front, back, parts, goesOn⟩
          rcases front with _ | ⟨entry, front⟩
          · cases parts
            simp only [List.append_nil] at goesOn
            exact absurd goesOn.2.1 deviates
          · cases parts
            exact ⟨front, back, rfl, by simpa using goesOn⟩

end Remembers

variable {batch : Entities τ} {column identifier : Identifier} {previous new : String}

theorem typeConflict?_eq_some_iff :
    typeConflict? batch = some (.typeConflict column previous new) ↔
      IsFirstConflict (columnOccurrences batch) column previous new := by
  rw [typeConflict?, Remembers.empty.firstTypeConflict?_eq_some_iff]
  constructor
  · rintro ⟨front, back, parts, uniform, deviates, found⟩
    rcases OrderedMap.findEntry_eq_some_iff.mp found with ⟨before, after, frontParts, fresh⟩
    refine ⟨⟨front, back, parts, uniform, deviates⟩, before, after ++ (column, new) :: back, ?_,
      fresh⟩
    simp only [List.nil_append] at frontParts
    simp [parts, frontParts]
  · rintro ⟨⟨front, back, parts, uniform, deviates⟩, before, after, firstParts, fresh⟩
    refine ⟨front, back, parts, uniform, deviates, ?_⟩
    have found : OrderedMap.findEntry column (columnOccurrences batch) = some previous :=
      OrderedMap.findEntry_eq_some_iff.mpr ⟨before, after, firstParts, fresh⟩
    rcases deviates with ⟨other, mem, _⟩
    have foundInFront := uniform.findEntry_eq mem
    rw [parts, OrderedMap.findEntry_append, foundInFront] at found
    simpa [foundInFront] using found

theorem exists_of_firstTypeConflict?_eq_some {seen : OrderedMap Identifier String}
    {occurrences : List (Identifier × String)} {violation : Inconsistency}
    (reported : firstTypeConflict? seen occurrences = some violation) :
    ∃ column previous new, violation = .typeConflict column previous new := by
  induction occurrences generalizing seen with
  | nil => cases reported
  | cons entry rest ih =>
      simp only [firstTypeConflict?] at reported
      split at reported
      · split at reported
        · exact ih reported
        · cases reported
          exact ⟨_, _, _, rfl⟩
      · exact ih reported

theorem exists_hasColumn_iff :
    (∃ column, batch.HasColumn identifier column) ↔
      identifier ∈ (columnOccurrences batch).map Prod.fst := by
  constructor
  · rintro ⟨column, owner, entity, member, occurs⟩
    exact List.mem_map_of_mem (mem_columnOccurrences member occurs)
  · intro mem
    rcases List.mem_map.mp mem with ⟨⟨_, declared⟩, occurrence, rfl⟩
    rcases mem_columnOccurrences_iff.mp occurrence with
      ⟨owner, entity, column, member, occurs, _⟩
    exact ⟨column, owner, entity, member, occurs⟩

theorem nameCollision?_eq_some_iff {violation : Inconsistency} :
    nameCollision? batch = some violation ↔
      ∃ identifier, violation = .nameCollision identifier ∧ batch.IsFirstCollision identifier := by
  have isColumn (key : Identifier) :
      ((columnOccurrences batch).map Prod.fst).contains key = true ↔
        ∃ column, batch.HasColumn key column := by
    rw [List.contains_iff_mem, exists_hasColumn_iff]
  rw [nameCollision?, Option.map_eq_some_iff]
  apply exists_congr
  intro identifier
  rw [List.find?_eq_some_iff_append, Entities.IsFirstCollision, isColumn]
  simp only [Bool.not_eq_true', ← Bool.not_eq_true, isColumn]
  constructor
  · rintro ⟨first, rfl⟩
    exact ⟨rfl, first⟩
  · rintro ⟨rfl, first⟩
    exact ⟨first, rfl⟩

theorem nameCollision?_eq_none_iff :
    nameCollision? batch = none ↔ ∀ key ∈ batch.keys, ¬∃ column, batch.HasColumn key column := by
  simp [nameCollision?, exists_hasColumn_iff]

/-- Whether the types of a batch differ for some column. -/
def Entities.TypesDiffer (batch : Entities τ) : Prop :=
  ∃ listed column other, batch.HasColumn listed column ∧ batch.HasColumn listed other ∧
    column.declaredType ≠ other.declaredType

theorem typeConflict?_eq_none_iff_not_typesDiffer :
    typeConflict? batch = none ↔ ¬batch.TypesDiffer := by
  rw [typeConflict?_eq_none_iff, Entities.TypesDiffer]
  simp only [not_exists, not_and, ne_eq, not_not]

/--
A batch passes exactly if all occurrences of each column have equal types and no entity has the
identifier of a column. Otherwise the first occurrence that deviates is reported if types differ,
also if there is a collision of names besides, and the first collision if they do not.
-/
theorem inconsistency?_reports (batch : Entities τ) :
    (inconsistency? batch = none ↔
      ¬batch.TypesDiffer ∧ ∀ key ∈ batch.keys, ¬∃ column, batch.HasColumn key column) ∧
    (∀ column previous new, inconsistency? batch = some (.typeConflict column previous new) ↔
      IsFirstConflict (columnOccurrences batch) column previous new) ∧
    ((∃ column previous new, inconsistency? batch = some (.typeConflict column previous new)) ↔
      batch.TypesDiffer) ∧
    ∀ identifier, inconsistency? batch = some (.nameCollision identifier) ↔
      ¬batch.TypesDiffer ∧ batch.IsFirstCollision identifier := by
  have fromTypes (column : Identifier) (previous new : String) :
      inconsistency? batch = some (.typeConflict column previous new) ↔
        typeConflict? batch = some (.typeConflict column previous new) := by
    rw [inconsistency?, Option.or_eq_some_iff, nameCollision?_eq_some_iff]
    simp
  refine ⟨?_, ?_, ?_, ?_⟩
  · rw [inconsistency?, Option.or_eq_none_iff, typeConflict?_eq_none_iff_not_typesDiffer,
      nameCollision?_eq_none_iff]
  · intro column previous new
    rw [fromTypes, typeConflict?_eq_some_iff]
  · simp only [fromTypes]
    rw [← not_iff_not, ← typeConflict?_eq_none_iff_not_typesDiffer]
    constructor
    · intro unreported
      rcases reported : typeConflict? batch with _ | violation
      · rfl
      · rcases exists_of_firstTypeConflict?_eq_some reported with ⟨column, previous, new, rfl⟩
        exact absurd ⟨column, previous, new, reported⟩ unreported
    · rintro clear ⟨column, previous, new, reported⟩
      rw [clear] at reported
      cases reported
  · intro identifier
    rw [inconsistency?, Option.or_eq_some_iff, typeConflict?_eq_none_iff_not_typesDiffer,
      nameCollision?_eq_some_iff]
    constructor
    · rintro (reported | ⟨agree, _, ⟨⟩, first⟩)
      · rcases exists_of_firstTypeConflict?_eq_some reported with ⟨_, _, _, ⟨⟩⟩
      · exact ⟨agree, first⟩
    · rintro ⟨agree, first⟩
      exact Or.inr ⟨agree, identifier, rfl, first⟩

end EntityCatalog
