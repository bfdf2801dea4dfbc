import EntityCatalog.Batch.ElementTypes
import EntityCatalog.Proofs.Identifier
import EntityCatalog.Proofs.OrderedMap

/-!
# Looking entities up by name

A look-up by name finds an entity that is registered under the identifier it gives, and fails only
if there is none of that kind and name. What it finds depends on the identifiers, kinds and names
of the entities and on nothing else, so replacing columns makes no difference. Of several types with
a name, composite types outrank enumerations and lesser identifiers greater ones; this decides what
an overlay has under a name.
-/

namespace EntityCatalog.Entities

variable {τ : Type} {entities left right lower upper : Entities τ} {name : String} {kind : EntityKind}
  {identifier : Identifier}

/-- Whether an identifier is that of a composite type or an enumeration with a name. -/
def HasType (entities : Entities τ) (identifier : Identifier) (name : String) : Prop :=
  ∃ entity, entities.get? identifier = some entity ∧
    (entity.kind = .composite ∨ entity.kind = .enumeration) ∧ entity.name = name

theorem mem_identifiersOf_iff_get? :
    identifier ∈ entities.identifiersOf name kind ↔
      ∃ entity, entities.get? identifier = some entity ∧ entity.kind = kind ∧
        entity.name = name := by
  simp only [mem_identifiersOf_iff, OrderedMap.get?_eq_some_iff_mem]

theorem exists_of_findByName? (found : entities.findByName? name kind = some identifier) :
    ∃ entity, entities.get? identifier = some entity ∧ entity.kind = kind ∧
      entity.name = name :=
  mem_identifiersOf_iff_get?.mp (List.min?_mem found)

theorem findByName?_ne_none {entity : Entity τ} (member : entities.get? identifier = some entity) :
    entities.findByName? entity.name entity.kind ≠ none := by
  intro absent
  have mem : identifier ∈ entities.identifiersOf entity.name entity.kind :=
    mem_identifiersOf_iff_get?.mpr ⟨entity, member, rfl, rfl⟩
  rw [List.min?_eq_none_iff.mp absent] at mem
  cases mem

theorem hasType_of_findType? (found : entities.findType? name = some identifier) :
    entities.HasType identifier name := by
  rcases Option.or_eq_some_iff.mp found with composite | ⟨_, enumeration⟩
  · rcases exists_of_findByName? composite with ⟨entity, member, kindEq, nameEq⟩
    exact ⟨entity, member, Or.inl kindEq, nameEq⟩
  · rcases exists_of_findByName? enumeration with ⟨entity, member, kindEq, nameEq⟩
    exact ⟨entity, member, Or.inr kindEq, nameEq⟩

theorem HasType.findType?_ne_none (hasType : entities.HasType identifier name) :
    entities.findType? name ≠ none := by
  rcases hasType with ⟨entity, member, kinds, rfl⟩
  have found := findByName?_ne_none member
  intro absent
  rcases Option.or_eq_none_iff.mp absent with ⟨noComposite, noEnumeration⟩
  rcases kinds with kindEq | kindEq
  · exact found (kindEq ▸ noComposite)
  · exact found (kindEq ▸ noEnumeration)

theorem HasType.mem_keys (hasType : entities.HasType identifier name) :
    identifier ∈ entities.keys := by
  rcases hasType with ⟨_, member, _⟩
  exact OrderedMap.mem_keys_of_get? member

/-- The least of some identifiers does not depend on how they are listed. -/
theorem findByName?_congr
    (same : ∀ identifier, identifier ∈ left.identifiersOf name kind ↔
      identifier ∈ right.identifiersOf name kind) :
    left.findByName? name kind = right.findByName? name kind := by
  apply Option.ext
  intro least
  simp only [findByName?, List.min?_eq_some_iff, same]

theorem findByName?_eq_of_sameAs (same : left.SameAs right) :
    left.findByName? name kind = right.findByName? name kind := by
  apply findByName?_congr
  intro identifier
  simp only [mem_identifiersOf_iff_get?, same identifier]

theorem findType?_eq_of_sameAs (same : left.SameAs right) :
    left.findType? name = right.findType? name := by
  rw [findType?, findType?, findByName?_eq_of_sameAs same, findByName?_eq_of_sameAs same]

theorem findType?_mapColumns (entities : Entities τ)
    (replace : Identifier → Column τ → Column τ) (name : String) :
    Entities.findType? (entities.mapValues fun _ entity => entity.mapColumns replace) name =
      entities.findType? name := by
  have same (kind : EntityKind) (identifier : Identifier) :
      identifier ∈ Entities.identifiersOf
          (entities.mapValues fun _ entity => entity.mapColumns replace) name kind ↔
        identifier ∈ entities.identifiersOf name kind := by
    simp only [mem_identifiersOf_iff_get?, OrderedMap.get?_mapValues, Option.map_eq_some_iff]
    constructor
    · rintro ⟨_, ⟨entity, member, rfl⟩, kindEq, nameEq⟩
      exact ⟨entity, member, kindEq, nameEq⟩
    · rintro ⟨entity, member, kindEq, nameEq⟩
      exact ⟨entity.mapColumns replace, ⟨entity, member, rfl⟩, kindEq, nameEq⟩
  rw [findType?, findType?, findByName?_congr (same .composite),
    findByName?_congr (same .enumeration)]

theorem findByName?_eq_some_iff :
    entities.findByName? name kind = some identifier ↔
      identifier ∈ entities.identifiersOf name kind ∧
        ∀ other ∈ entities.identifiersOf name kind, identifier ≤ other := by
  rw [findByName?, List.min?_eq_some_iff]

/--
Whether one entity is found rather than another one of the same name: a composite type rather than
an enumeration, and of two entities of one kind the one with the lesser identifier.
-/
def Outranks (entities : Entities τ) (identifier other : Identifier) : Prop :=
  ∃ entity otherEntity, entities.get? identifier = some entity ∧
    entities.get? other = some otherEntity ∧
    (entity.kind = .composite ∧ otherEntity.kind = .enumeration ∨
      entity.kind = otherEntity.kind ∧ identifier < other)

theorem hasType_iff :
    entities.HasType identifier name ↔
      identifier ∈ entities.identifiersOf name .composite ∨
        identifier ∈ entities.identifiersOf name .enumeration := by
  simp only [HasType, mem_identifiersOf_iff_get?]
  grind

theorem outranks_iff {otherName : String} {otherKind : EntityKind} {other : Identifier}
    (mem : identifier ∈ entities.identifiersOf name kind)
    (otherMem : other ∈ entities.identifiersOf otherName otherKind) :
    entities.Outranks identifier other ↔
      kind = .composite ∧ otherKind = .enumeration ∨ kind = otherKind ∧ identifier < other := by
  rcases mem_identifiersOf_iff_get?.mp mem with ⟨entity, member, rfl, _⟩
  rcases mem_identifiersOf_iff_get?.mp otherMem with ⟨otherEntity, otherMember, rfl, _⟩
  simp [Outranks, member, otherMember]

/-- The type that is found by its name is the one that no other type of that name outranks. -/
theorem findType?_eq_some_iff :
    entities.findType? name = some identifier ↔
      entities.HasType identifier name ∧
        ∀ other, entities.HasType other name → ¬entities.Outranks other identifier := by
  rw [findType?, Option.or_eq_some_iff]
  constructor
  · rintro (composite | ⟨noComposite, enumeration⟩)
    · rcases findByName?_eq_some_iff.mp composite with ⟨mem, least⟩
      refine ⟨hasType_iff.mpr (Or.inl mem), ?_⟩
      intro other hasType
      rcases hasType_iff.mp hasType with otherMem | otherMem
      · rw [outranks_iff otherMem mem, ← Identifier.not_le_iff_lt]
        simp [least other otherMem]
      · simp [outranks_iff otherMem mem]
    · rcases findByName?_eq_some_iff.mp enumeration with ⟨mem, least⟩
      refine ⟨hasType_iff.mpr (Or.inr mem), ?_⟩
      intro other hasType
      rcases hasType_iff.mp hasType with otherMem | otherMem
      · rw [List.min?_eq_none_iff.mp noComposite] at otherMem
        cases otherMem
      · rw [outranks_iff otherMem mem, ← Identifier.not_le_iff_lt]
        simp [least other otherMem]
  · rintro ⟨hasType, unbeaten⟩
    have least {kind : EntityKind} (mem : identifier ∈ entities.identifiersOf name kind)
        (other : Identifier) (otherMem : other ∈ entities.identifiersOf name kind)
        (otherType : entities.HasType other name) : identifier ≤ other := by
      have notBefore := unbeaten other otherType
      rw [outranks_iff otherMem mem, ← Identifier.not_le_iff_lt] at notBefore
      by_contra greater
      exact notBefore (Or.inr ⟨rfl, greater⟩)
    rcases hasType_iff.mp hasType with mem | mem
    · left
      rw [findByName?_eq_some_iff]
      exact ⟨mem, fun other otherMem => least mem other otherMem (hasType_iff.mpr (Or.inl otherMem))⟩
    · right
      constructor
      · apply List.min?_eq_none_iff.mpr
        apply List.eq_nil_iff_forall_not_mem.mpr
        intro other otherMem
        apply unbeaten other (hasType_iff.mpr (Or.inl otherMem))
        simp [outranks_iff otherMem mem]
      · rw [findByName?_eq_some_iff]
        exact ⟨mem, fun other otherMem =>
          least mem other otherMem (hasType_iff.mpr (Or.inr otherMem))⟩

theorem findType?_eq_none_iff :
    entities.findType? name = none ↔ ∀ identifier, ¬entities.HasType identifier name := by
  constructor
  · intro absent identifier hasType
    exact hasType.findType?_ne_none absent
  · intro none
    rw [Option.eq_none_iff_forall_ne_some]
    intro identifier found
    exact none identifier (hasType_of_findType? found)

theorem hasType_overlay_of_mem (key : identifier ∈ upper.keys) :
    Entities.HasType (lower.overlay upper) identifier name ↔ upper.HasType identifier name := by
  rcases OrderedMap.exists_get?_of_mem_keys key with ⟨entity, member⟩
  simp [HasType, member]

theorem hasType_overlay_of_notMem (absent : identifier ∉ upper.keys) :
    Entities.HasType (lower.overlay upper) identifier name ↔ lower.HasType identifier name := by
  simp [HasType, OrderedMap.get?_eq_none_iff.mpr absent]

/--
Where the upper entities have no type of a name, the overlay has the type that the lower ones have,
unless the upper ones replace it.
-/
theorem findType?_overlay_of_eq_none (absent : upper.findType? name = none)
    (kept : ∀ found, lower.findType? name = some found → found ∉ upper.keys) :
    Entities.findType? (lower.overlay upper) name = lower.findType? name := by
  have below (other : Identifier) (hasType : Entities.HasType (lower.overlay upper) other name) :
      other ∉ upper.keys ∧ lower.HasType other name := by
    have notMem : other ∉ upper.keys := by
      intro key
      exact findType?_eq_none_iff.mp absent other ((hasType_overlay_of_mem key).mp hasType)
    exact ⟨notMem, (hasType_overlay_of_notMem notMem).mp hasType⟩
  rcases found : lower.findType? name with _ | identifier
  · rw [findType?_eq_none_iff] at found ⊢
    intro other hasType
    exact found other (below other hasType).2
  · have notMem := kept identifier found
    rw [findType?_eq_some_iff] at found ⊢
    refine ⟨(hasType_overlay_of_notMem notMem).mpr found.1, ?_⟩
    intro other hasType outranks
    rcases below other hasType with ⟨otherNotMem, otherType⟩
    apply found.2 other otherType
    simpa [Outranks, OrderedMap.get?_eq_none_iff.mpr notMem,
      OrderedMap.get?_eq_none_iff.mpr otherNotMem] using outranks

/--
Where the upper entities have a type of a name, the overlay has the same one unless a lower entity
that is not replaced outranks it.
-/
theorem findType?_overlay_eq_some_iff (found : upper.findType? name = some identifier) :
    Entities.findType? (lower.overlay upper) name = some identifier ↔
      ∀ other ∉ upper.keys, lower.HasType other name →
        ¬Entities.Outranks (lower.overlay upper) other identifier := by
  have key := (hasType_of_findType? found).mem_keys
  rcases OrderedMap.exists_get?_of_mem_keys key with ⟨entity, member⟩
  rw [findType?_eq_some_iff] at found ⊢
  rw [hasType_overlay_of_mem key]
  constructor
  · rintro ⟨_, unbeaten⟩ other notMem otherType
    exact unbeaten other ((hasType_overlay_of_notMem notMem).mpr otherType)
  · intro unbeaten
    refine ⟨found.1, ?_⟩
    intro other otherType outranks
    by_cases otherKey : other ∈ upper.keys
    · apply found.2 other ((hasType_overlay_of_mem otherKey).mp otherType)
      rcases OrderedMap.exists_get?_of_mem_keys otherKey with ⟨otherEntity, otherMember⟩
      simpa [Outranks, member, otherMember] using outranks
    · exact unbeaten other otherKey ((hasType_overlay_of_notMem otherKey).mp otherType) outranks

end EntityCatalog.Entities
