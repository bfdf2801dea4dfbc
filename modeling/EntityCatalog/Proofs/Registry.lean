import EntityCatalog.Registry
import EntityCatalog.Proofs.Entity
import EntityCatalog.Proofs.Precedence

/-!
# The history of a registry

Batches are merged into a registry and snapshots are taken of it, in any order. The latest
description of an entity is that of the last merged batch with its identifier, and it is all that
counts: what a registry answers about identifiers, columns, types and complete rows follows from the
latest descriptions. So an entity that was replaced is never found by the kind, the name or the
columns that it had. A snapshot keeps what the registry held, whatever is merged after it.
-/

namespace EntityCatalog

variable {τ : Type}

/-- What is done with a registry. -/
inductive RegistryAction (τ : Type) where
  | merge (batch : Entities τ)
  | snapshot

namespace RegistryAction

/-- The batch that an action merges. -/
def batch? : RegistryAction τ → Option (Entities τ)
  | .merge batch => some batch
  | .snapshot => none

/-- The batches that some actions merge, in order. -/
def mergedBatches (actions : List (RegistryAction τ)) : List (Entities τ) :=
  actions.filterMap batch?

end RegistryAction

/-- A registry with the snapshots that were taken of it, the earliest first. -/
structure RegistryHistory (τ : Type) where
  registry : Registry τ
  snapshots : List (Entities τ)

namespace RegistryHistory

/-- The history of a new registry. -/
def start : RegistryHistory τ := ⟨.empty, []⟩

def carryOut (history : RegistryHistory τ) : RegistryAction τ → RegistryHistory τ
  | .merge batch => { history with registry := history.registry.merge batch }
  | .snapshot => { history with snapshots := history.snapshots ++ [history.registry.entities] }

/-- Carries out actions on a new registry, one after the other. -/
def ofActions (actions : List (RegistryAction τ)) : RegistryHistory τ :=
  actions.foldl carryOut start

end RegistryHistory

/-- Whether an entity is how the last of some batches with an identifier describes it. -/
def IsLatest (batches : List (Entities τ)) (identifier : Identifier) (entity : Entity τ) : Prop :=
  ∃ front batch back, batches = front ++ batch :: back ∧ batch.get? identifier = some entity ∧
    ∀ later ∈ back, identifier ∉ later.keys

/-- Whether the latest description of an identifier is that of an entity of a kind with a name. -/
def HasLatestType (batches : List (Entities τ)) (name : String) (kind : EntityKind)
    (identifier : Identifier) : Prop :=
  ∃ entity, IsLatest batches identifier entity ∧ entity.kind = kind ∧ entity.name = name

/-- Whether the latest description of an identifier is that of an entity with a column. -/
def HasLatestColumn (batches : List (Entities τ)) (column identifier : Identifier) : Prop :=
  ∃ entity, IsLatest batches identifier entity ∧ column ∈ entity.columns.keys

section Latest

variable {batches : List (Entities τ)} {batch : Entities τ} {identifier : Identifier}
  {entity : Entity τ}

theorem isLatest_append_singleton :
    IsLatest (batches ++ [batch]) identifier entity ↔
      batch.get? identifier = some entity ∨
        identifier ∉ batch.keys ∧ IsLatest batches identifier entity := by
  constructor
  · rintro ⟨front, described, back, split, found, kept⟩
    rcases split_append_singleton split with ⟨_, rfl, _⟩ | ⟨middle, rfl, rfl⟩
    · exact Or.inl found
    · refine Or.inr ⟨kept batch (by simp), front, described, middle, rfl, found, ?_⟩
      intro later mem
      exact kept later (by simp [mem])
  · rintro (found | ⟨absent, front, described, back, rfl, found, kept⟩)
    · exact ⟨batches, batch, [], rfl, found, by simp⟩
    · refine ⟨front, described, back ++ [batch], by simp, found, ?_⟩
      intro later mem
      rcases List.mem_append.mp mem with earlier | last
      · exact kept later earlier
      · rw [List.mem_singleton.mp last]
        exact absent

/-- There is a latest description of exactly the identifiers that were merged. -/
theorem exists_isLatest_iff :
    (∃ entity, IsLatest batches identifier entity) ↔ ∃ batch ∈ batches, identifier ∈ batch.keys := by
  induction batches using List.reverseRecOn with
  | nil => simp [IsLatest]
  | append_singleton earlier last ih =>
      simp only [isLatest_append_singleton, exists_or, exists_and_left, ih, List.mem_append,
        List.mem_singleton, or_and_right, exists_eq_left, ← Option.isSome_iff_exists,
        ← OrderedMap.mem_keys_iff]
      by_cases present : identifier ∈ last.keys <;> simp [present]

end Latest

namespace Registry

/-- Whether the entities of a registry are the latest descriptions in some batches. -/
def HoldsLatest (registry : Registry τ) (batches : List (Entities τ)) : Prop :=
  ∀ identifier entity,
    registry.find? identifier = some entity ↔ IsLatest batches identifier entity

theorem holdsLatest_empty : (empty : Registry τ).HoldsLatest [] := by
  intro identifier entity
  simp [find?, empty, IsLatest]

variable {registry : Registry τ} {batches : List (Entities τ)} {identifier : Identifier}
  {entity : Entity τ}

theorem find?_merge (registry : Registry τ) (batch : Entities τ) (identifier : Identifier) :
    (registry.merge batch).find? identifier =
      (batch.get? identifier).or (registry.find? identifier) :=
  OrderedMap.get?_overlay registry.entities batch identifier

/-- A merged batch describes its own identifiers anew and leaves all others. -/
theorem HoldsLatest.merge (holds : registry.HoldsLatest batches) (batch : Entities τ) :
    (registry.merge batch).HoldsLatest (batches ++ [batch]) := by
  intro identifier entity
  rw [find?_merge, isLatest_append_singleton, ← holds identifier entity, Option.or_eq_some_iff,
    OrderedMap.get?_eq_none_iff]

/-- Batches can be merged one after the other or overlaid before they are merged. -/
theorem merge_merge (registry : Registry τ) (first second : Entities τ) :
    (registry.merge first).merge second = registry.merge (first.overlay second) :=
  congrArg Registry.mk (OrderedMap.overlay_assoc registry.entities first second)

/-- Whether everything that a registry answers follows from the latest descriptions in batches. -/
structure AnswersFromLatest (registry : Registry τ) (batches : List (Entities τ)) : Prop where
  find?_iff : ∀ identifier entity,
    registry.find? identifier = some entity ↔ IsLatest batches identifier entity
  find?_eq_none_iff : ∀ identifier,
    registry.find? identifier = none ↔ ∀ batch ∈ batches, identifier ∉ batch.keys
  identifiers : Identifier.IsListing registry.identifiers fun identifier =>
    ∃ batch ∈ batches, identifier ∈ batch.keys
  columnsOf : ∀ identifier entity, IsLatest batches identifier entity →
    registry.columnsOf identifier = entity.columns
  columnsOf_unknown : ∀ identifier, (∀ batch ∈ batches, identifier ∉ batch.keys) →
    registry.columnsOf identifier = .empty
  entitiesWithColumn : ∀ column,
    Identifier.IsListing (registry.entitiesWithColumn column) (HasLatestColumn batches column)
  mem_entitiesWithColumn_iff : ∀ column identifier,
    identifier ∈ registry.entitiesWithColumn column ↔
      column ∈ (registry.columnsOf identifier).keys
  entityFor?_iff : ∀ name kind identifier,
    registry.entityFor? name kind = some identifier ↔
      HasLatestType batches name kind identifier ∧
        ∀ other, HasLatestType batches name kind other → identifier ≤ other
  entityFor?_eq_none_iff : ∀ name kind,
    registry.entityFor? name kind = none ↔
      ∀ identifier, ¬HasLatestType batches name kind identifier
  insertIdentifierOf?_eq_none_iff : ∀ identifier,
    registry.insertIdentifierOf? identifier = none ↔
      (∀ batch ∈ batches, identifier ∉ batch.keys) ∨
        ∃ entity, IsLatest batches identifier entity ∧ entity.kind = .enumeration
  insertIdentifierOf? : ∀ identifier entity, IsLatest batches identifier entity →
    entity.kind ≠ .enumeration →
      registry.insertIdentifierOf? identifier = some entity.insertIdentifier
  /-- An entity is not found by what it was before it was replaced. -/
  replaced : ∀ identifier entity, IsLatest batches identifier entity →
    (∀ name kind, entity.kind ≠ kind ∨ entity.name ≠ name →
        registry.entityFor? name kind ≠ some identifier) ∧
      ∀ column ∉ entity.columns.keys, identifier ∉ registry.entitiesWithColumn column

namespace HoldsLatest

variable (holds : registry.HoldsLatest batches)

include holds

theorem mem_keys_iff :
    identifier ∈ registry.entities.keys ↔ ∃ batch ∈ batches, identifier ∈ batch.keys := by
  rw [← exists_isLatest_iff, OrderedMap.mem_keys_iff, Option.isSome_iff_exists]
  exact exists_congr (holds identifier)

theorem find?_eq_none_iff :
    registry.find? identifier = none ↔ ∀ batch ∈ batches, identifier ∉ batch.keys := by
  rw [find?, OrderedMap.get?_eq_none_iff, holds.mem_keys_iff]
  simp

theorem isListing_identifiers :
    Identifier.IsListing registry.identifiers fun identifier =>
      ∃ batch ∈ batches, identifier ∈ batch.keys := by
  have listing := Identifier.isListing_sorted registry.entities.nodup_keys
  exact ⟨listing.1, fun identifier => (listing.2 identifier).trans holds.mem_keys_iff⟩

theorem columnsOf_eq (latest : IsLatest batches identifier entity) :
    registry.columnsOf identifier = entity.columns := by
  rw [columnsOf, (holds identifier entity).mpr latest]

theorem columnsOf_eq_empty (unknown : ∀ batch ∈ batches, identifier ∉ batch.keys) :
    registry.columnsOf identifier = .empty := by
  rw [columnsOf, holds.find?_eq_none_iff.mpr unknown]

theorem isListing_entitiesWithColumn (column : Identifier) :
    Identifier.IsListing (registry.entitiesWithColumn column)
      (HasLatestColumn batches column) := by
  have nodup : ((registry.entities.entries.filter fun entry =>
      entry.2.columns.contains column).map Prod.fst).Nodup :=
    registry.entities.nodup_keys.sublist (List.filter_sublist.map Prod.fst)
  have listing := Identifier.isListing_sorted nodup
  refine ⟨listing.1, fun identifier => (listing.2 identifier).trans ?_⟩
  simp only [HasLatestColumn, ← holds identifier, OrderedMap.mem_keys_iff]
  exact OrderedMap.mem_keys_filter_iff fun entity : Entity τ => entity.columns.contains column

theorem mem_entitiesWithColumn_iff {column : Identifier} :
    identifier ∈ registry.entitiesWithColumn column ↔
      column ∈ (registry.columnsOf identifier).keys := by
  rw [(holds.isListing_entitiesWithColumn column).2 identifier, HasLatestColumn, columnsOf]
  simp only [← holds identifier]
  rcases registry.find? identifier with _ | entity
  · simp [OrderedMap.keys, OrderedMap.empty]
  · simp

theorem mem_identifiersOf_iff {name : String} {kind : EntityKind} :
    identifier ∈ registry.entities.identifiersOf name kind ↔
      HasLatestType batches name kind identifier := by
  rw [Entities.mem_identifiersOf_iff_get?]
  exact exists_congr fun entity => and_congr_left' (holds identifier entity)

theorem entityFor?_eq_some_iff {name : String} {kind : EntityKind} :
    registry.entityFor? name kind = some identifier ↔
      HasLatestType batches name kind identifier ∧
        ∀ other, HasLatestType batches name kind other → identifier ≤ other := by
  simp only [entityFor?, Entities.findByName?_eq_some_iff, holds.mem_identifiersOf_iff]

theorem entityFor?_eq_none_iff {name : String} {kind : EntityKind} :
    registry.entityFor? name kind = none ↔
      ∀ identifier, ¬HasLatestType batches name kind identifier := by
  simp only [entityFor?, Entities.findByName?, List.min?_eq_none_iff,
    List.eq_nil_iff_forall_not_mem, holds.mem_identifiersOf_iff]

theorem insertIdentifierOf?_eq_none_iff :
    registry.insertIdentifierOf? identifier = none ↔
      (∀ batch ∈ batches, identifier ∉ batch.keys) ∨
        ∃ entity, IsLatest batches identifier entity ∧ entity.kind = .enumeration := by
  rw [← holds.find?_eq_none_iff]
  simp only [← holds identifier]
  rw [insertIdentifierOf?]
  rcases registry.find? identifier with _ | entity
  · simp
  · simp [Entity.isEnumeration]

theorem insertIdentifierOf?_eq_some (latest : IsLatest batches identifier entity)
    (notEnumeration : entity.kind ≠ .enumeration) :
    registry.insertIdentifierOf? identifier = some entity.insertIdentifier := by
  rw [insertIdentifierOf?, (holds identifier entity).mpr latest]
  simp [Entity.isEnumeration, notEnumeration]

theorem entityFor?_ne_some (latest : IsLatest batches identifier entity) {name : String}
    {kind : EntityKind} (other : entity.kind ≠ kind ∨ entity.name ≠ name) :
    registry.entityFor? name kind ≠ some identifier := by
  intro found
  rcases (holds.entityFor?_eq_some_iff.mp found).1 with ⟨described, latestToo, rfl, rfl⟩
  rw [← holds] at latest latestToo
  rw [latest, Option.some.injEq] at latestToo
  simp [latestToo] at other

theorem notMem_entitiesWithColumn (latest : IsLatest batches identifier entity)
    {column : Identifier} (absent : column ∉ entity.columns.keys) :
    identifier ∉ registry.entitiesWithColumn column := by
  rwa [holds.mem_entitiesWithColumn_iff, holds.columnsOf_eq latest]

theorem answersFromLatest : registry.AnswersFromLatest batches where
  find?_iff := holds
  find?_eq_none_iff _ := holds.find?_eq_none_iff
  identifiers := holds.isListing_identifiers
  columnsOf _ _ latest := holds.columnsOf_eq latest
  columnsOf_unknown _ unknown := holds.columnsOf_eq_empty unknown
  entitiesWithColumn := holds.isListing_entitiesWithColumn
  mem_entitiesWithColumn_iff _ _ := holds.mem_entitiesWithColumn_iff
  entityFor?_iff _ _ _ := holds.entityFor?_eq_some_iff
  entityFor?_eq_none_iff _ _ := holds.entityFor?_eq_none_iff
  insertIdentifierOf?_eq_none_iff _ := holds.insertIdentifierOf?_eq_none_iff
  insertIdentifierOf? _ _ latest := holds.insertIdentifierOf?_eq_some latest
  replaced _ _ latest :=
    ⟨fun _ _ other => holds.entityFor?_ne_some latest other,
      fun _ absent => holds.notMem_entitiesWithColumn latest absent⟩

end HoldsLatest

end Registry

namespace RegistryHistory

open RegistryAction (mergedBatches)

variable {history : RegistryHistory τ} {batches : List (Entities τ)}

theorem holdsLatest_carryOut (holds : history.registry.HoldsLatest batches)
    (action : RegistryAction τ) :
    (history.carryOut action).registry.HoldsLatest (batches ++ action.batch?.toList) := by
  cases action with
  | merge batch => exact holds.merge batch
  | snapshot =>
      have unchanged : batches ++ (RegistryAction.snapshot : RegistryAction τ).batch?.toList =
          batches := List.append_nil batches
      rw [unchanged]
      exact holds

theorem holdsLatest_foldl (holds : history.registry.HoldsLatest batches)
    (actions : List (RegistryAction τ)) :
    (actions.foldl carryOut history).registry.HoldsLatest (batches ++ mergedBatches actions) := by
  induction actions generalizing history batches with
  | nil => simpa [mergedBatches] using holds
  | cons action rest ih =>
      have merged : mergedBatches (action :: rest) = action.batch?.toList ++ mergedBatches rest := by
        rw [mergedBatches, List.filterMap_cons]
        cases action.batch? <;> rfl
      rw [merged, ← List.append_assoc]
      exact ih (holdsLatest_carryOut holds action)

theorem snapshots_prefix_foldl (history : RegistryHistory τ) (actions : List (RegistryAction τ)) :
    history.snapshots <+: (actions.foldl carryOut history).snapshots := by
  induction actions generalizing history with
  | nil => exact List.prefix_refl _
  | cons action rest ih =>
      have first : history.snapshots <+: (history.carryOut action).snapshots := by
        cases action with
        | merge batch => exact List.prefix_refl _
        | snapshot => exact List.prefix_append _ _
      exact first.trans (ih _)

/--
Whatever is merged into a new registry and however often, it answers from the latest descriptions
alone. A snapshot that is taken then, and all those before it, stay as they are whatever is done
later. Merging two batches one after the other is merging the second one overlaid on the first.
-/
theorem registry_answersFromLatest (actions later : List (RegistryAction τ)) :
    let history := ofActions actions
    history.registry.AnswersFromLatest (mergedBatches actions) ∧
      history.snapshots ++ [history.registry.entities] <+:
        (ofActions (actions ++ .snapshot :: later)).snapshots ∧
      ∀ first second, (history.registry.merge first).merge second =
        history.registry.merge (first.overlay second) := by
  intro history
  refine ⟨?_, ?_, history.registry.merge_merge⟩
  · have fresh : (start : RegistryHistory τ).registry.HoldsLatest [] := Registry.holdsLatest_empty
    exact (holdsLatest_foldl fresh actions).answersFromLatest
  · rw [ofActions, List.foldl_append, List.foldl_cons]
    exact snapshots_prefix_foldl (history.carryOut .snapshot) later

end RegistryHistory

end EntityCatalog
