import EntityCatalog.Proofs.Registration.Completion
import EntityCatalog.Proofs.Registration.Success

/-!
# What a registration sees of earlier ones

Of everything that was registered before, a registration sees the composite types and enumerations
that are named like a type of one of its columns, and nothing else. With two registries that agree
on these, all of its stages give the same, so it has the same outcome, and even the introspector is
left in the same state. Tables, views, types of other names and the order of the entities make no
difference.
-/

namespace EntityCatalog

variable {τ σ : Type}

section Types

variable {entities left right prior reported : Entities τ} {names : List String} {name : String}

/-- Whether the composite types and enumerations of certain names are the same in two registries. -/
def Entities.AgreeOnTypes (left right : Entities τ) (names : List String) : Prop :=
  ∀ identifier entity, (entity.kind = .composite ∨ entity.kind = .enumeration) →
    entity.name ∈ names →
      (left.get? identifier = some entity ↔ right.get? identifier = some entity)

theorem Entities.AgreeOnTypes.haveSameTypes (agree : left.AgreeOnTypes right names)
    (mem : name ∈ names) : left.HaveSameTypes right name := by
  intro identifier outline isType
  simp only [outline?, Option.map_eq_some_iff]
  apply exists_congr
  intro entity
  apply and_congr_left
  rintro rfl
  rcases isType with ⟨isType, rfl⟩
  exact agree identifier entity isType mem

/-- Two registries agree if each has the relevant types of the other. -/
theorem Entities.agreeOnTypes_iff : left.AgreeOnTypes right names ↔
    (∀ entry ∈ left.entries, (entry.2.kind = .composite ∨ entry.2.kind = .enumeration) →
      entry.2.name ∈ names → right.get? entry.1 = some entry.2) ∧
    ∀ entry ∈ right.entries, (entry.2.kind = .composite ∨ entry.2.kind = .enumeration) →
      entry.2.name ∈ names → left.get? entry.1 = some entry.2 := by
  constructor
  · intro agree
    refine ⟨?_, ?_⟩
    · intro entry mem isType named
      exact (agree _ _ isType named).mp (OrderedMap.get?_eq_some_iff_mem.mpr mem)
    · intro entry mem isType named
      exact (agree _ _ isType named).mpr (OrderedMap.get?_eq_some_iff_mem.mpr mem)
  · rintro ⟨leftIn, rightIn⟩ identifier entity isType named
    constructor
    · intro found
      exact leftIn _ (OrderedMap.get?_eq_some_iff_mem.mp found) isType named
    · intro found
      exact rightIn _ (OrderedMap.get?_eq_some_iff_mem.mp found) isType named

instance [DecidableEq τ] : Decidable (left.AgreeOnTypes right names) :=
  decidable_of_iff _ Entities.agreeOnTypes_iff.symm

/-- A name means the same on top of two registries that have the same types of it. -/
theorem MeansAlike.of_haveSameTypes (reported : Entities τ) (same : left.HaveSameTypes right name) :
    MeansAlike left reported right reported name where
  elementType := by rw [elementType?, elementType?, same.findType?_eq]
  types := same.overlay reported
  outline target found := by
    rw [Entities.outline?_overlay, Entities.outline?_overlay]
    rcases Option.or_eq_some_iff.mp found with inBatch | ⟨_, earlier⟩
    · rcases Entities.hasType_iff_outline?.mp (Entities.hasType_of_findType? inBatch) with
        ⟨outline, reportedOutline, _⟩
      rw [reportedOutline]
      rfl
    · rw [same.outline?_eq (Entities.hasType_of_findType? earlier)]

theorem Entities.typeName_mem_typeNames {entity : Entity τ} {column : Column τ}
    (entityMem : entity ∈ entities.values) (columnMem : column ∈ entity.columns.values) :
    column.typeName ∈ entities.typeNames :=
  List.mem_flatMap.mpr ⟨entity, entityMem, List.mem_map_of_mem columnMem⟩

theorem Entities.mapColumns_congr {first second : Column τ → Column τ}
    (same : ∀ entity ∈ entities.values, ∀ column ∈ entity.columns.values,
      first column = second column) :
    (entities.mapValues fun _ entity => entity.mapColumns fun _ column => first column) =
      entities.mapValues fun _ entity => entity.mapColumns fun _ column => second column := by
  apply OrderedMap.ext
  apply List.map_congr_left
  intro entry mem
  congr 1
  apply Entity.mapColumns_congr
  intro listed column found
  exact same entry.2 (List.mem_map_of_mem mem) column (OrderedMap.mem_values_iff.mpr ⟨_, found⟩)

theorem Entities.typeNames_mapColumns {replace : Column τ → Column τ}
    (keeps : ∀ column, (replace column).typeName = column.typeName) :
    Entities.typeNames (entities.mapValues fun _ entity =>
      entity.mapColumns fun _ column => replace column) = entities.typeNames := by
  simp [typeNames, OrderedMap.values, OrderedMap.mapValues, Entity.mapColumns, List.flatMap_map,
    Function.comp_def, keeps]

@[simp]
theorem Entities.typeNames_resolveElementTypes (batch prior : Entities τ) :
    (resolveElementTypes batch prior).typeNames = batch.typeNames :=
  typeNames_mapColumns fun column => Column.typeName_resolveElementType batch prior column

end Types

section Stages

variable {left right batch reported : Entities τ}

section Batch

variable (same : ∀ name ∈ batch.typeNames, left.HaveSameTypes right name)

include same

theorem resolveElementTypes_congr :
    resolveElementTypes batch left = resolveElementTypes batch right := by
  apply Entities.mapColumns_congr
  intro entity entityMem column columnMem
  have found := (same _ (Entities.typeName_mem_typeNames entityMem columnMem)).findType?_eq
  simp only [Column.resolveElementType, found]

theorem inheritTransforms_congr : inheritTransforms left batch = inheritTransforms right batch := by
  apply Entities.mapColumns_congr
  intro entity entityMem column columnMem
  exact Column.inheritTransform_congr (same _ (Entities.typeName_mem_typeNames entityMem columnMem))

theorem inheritances_congr : inheritances left batch = inheritances right batch := by
  apply List.flatMap_congr
  intro entity entityMem
  apply List.filterMap_congr
  intro column columnMem
  rw [Column.inheritance?_congr (same _ (Entities.typeName_mem_typeNames entityMem columnMem))]

end Batch

theorem referenceGraph_congr (same : ∀ owner entity listed column,
    batch.get? owner = some entity → entity.columns.get? listed = some column →
      column.reference? left = column.reference? right) :
    referenceGraph batch left = referenceGraph batch right := by
  have edgesEq : referenceEdges batch left = referenceEdges batch right := by
    apply List.flatMap_congr
    rintro ⟨owner, entity⟩ mem
    apply List.filterMap_congr
    intro column columnMem
    rcases OrderedMap.mem_values_iff.mp columnMem with ⟨listed, found⟩
    rw [same owner entity listed column (OrderedMap.get?_eq_some_iff_mem.mpr mem) found]
  rw [referenceGraph, referenceGraph, edgesEq]

end Stages

section Completion

variable {left right reported : Entities τ}
  (same : ∀ name ∈ reported.typeNames, left.HaveSameTypes right name)

include same

theorem haveSameTypes_overlaid : ∀ name ∈ (resolveElementTypes reported right).typeNames,
    Entities.HaveSameTypes (left.overlay (resolveElementTypes reported right))
      (right.overlay (resolveElementTypes reported right)) name := by
  intro name mem
  rw [Entities.typeNames_resolveElementTypes] at mem
  exact (same name mem).overlay _

theorem completeBatch_congr : completeBatch left reported = completeBatch right reported := by
  rw [completeBatch, completeBatch, resolveElementTypes_congr same,
    inheritTransforms_congr (haveSameTypes_overlaid same)]

theorem meansAlike_of_haveSameTypes :
    ∀ name ∈ reported.typeNames, MeansAlike left reported right reported name :=
  fun name mem => .of_haveSameTypes reported (same name mem)

theorem referenceGraph_completeBatch :
    referenceGraph (completeBatch right reported)
        (left.overlay (completeBatch right reported)) =
      referenceGraph (completeBatch right reported)
        (right.overlay (completeBatch right reported)) := by
  apply referenceGraph_congr
  intro owner entity listed column member found
  rw [← completeBatch_congr same] at member
  rcases exists_meansAlike (meansAlike_of_haveSameTypes same) member found with
    ⟨origin, rfl, alike⟩
  simpa only [completeBatch_congr same] using Column.reference?_complete_congr alike

theorem Registration.emit_completeBatch [DecidableEq τ] (introspector : Introspector τ σ)
    (policy : TextPolicy) (order : List Identifier) :
    emit introspector policy (left.overlay (completeBatch right reported))
        (completeBatch right reported) order =
      emit introspector policy (right.overlay (completeBatch right reported))
        (completeBatch right reported) order := by
  apply emit_congr introspector (.refl _)
  intro owner entity listed column member found
  rw [← completeBatch_congr same] at member
  rcases exists_meansAlike (meansAlike_of_haveSameTypes same) member found with
    ⟨origin, rfl, alike⟩
  have sources := Column.labelSource?_complete_congr alike
  have validators := Column.validator?_complete_congr alike policy
  rw [completeBatch_congr same] at sources validators
  exact ⟨sources, validators⟩

end Completion

section Run

variable [DecidableEq τ] [Transform τ] {introspector : Introspector τ σ}
  {declarations : List (Declaration τ)}

/-- Both preparations run alike, down to the events and the state of the introspector. -/
theorem Registration.prepare_congr {left right : Entities τ} {start : Journal σ}
    (agree : ∀ reported described,
      (normalize introspector declarations .empty).runFrom start = (.ok reported, described) →
        left.AgreeOnTypes right reported.typeNames) (policy : RegistrationPolicy) :
    (prepare left introspector declarations policy).runFrom start =
      (prepare right introspector declarations policy).runFrom start := by
  unfold prepare
  rw [Step.runFrom_bind, Step.runFrom_bind]
  rcases normalized : (Step.timed normalizeOperation
    (normalize introspector declarations .empty)).runFrom start with ⟨error | reported, described⟩
  · rfl
  · rcases Step.runFrom_timed_eq_ok_iff.mp normalized with ⟨_, reportedRan, _⟩
    have same : ∀ name ∈ reported.typeNames, left.HaveSameTypes right name :=
      fun name mem => (agree reported _ reportedRan).haveSameTypes mem
    have overlaid := haveSameTypes_overlaid same
    have graphEq := referenceGraph_completeBatch same
    have emitEq := emit_completeBatch same introspector policy.text
    rw [completeBatch] at graphEq emitEq
    dsimp only
    simp only [resolveElementTypes_congr same, inheritances_congr overlaid,
      inheritTransforms_congr overlaid, overlay_inheritTransforms, graphEq, emitEq]

/--
Earlier registrations that have nothing to do with a registration do not influence it. If two
registries have the same composite types and enumerations among those that are named like the type,
or the element type, of a column of the reported batch, then with any introspector a registration
ends with the same error on both, or with the same entities, catalog and excluded columns, and it
leaves the introspector in the same state.
-/
theorem Registry.register_outcome_eq_of_agreeOnTypes (left right : Registry τ) (source : σ)
    (policy : RegistrationPolicy)
    (agree : ∀ reported described,
      (Registration.normalize introspector declarations .empty).runFrom ⟨.fresh source, []⟩ =
        (.ok reported, described) →
          left.entities.AgreeOnTypes right.entities reported.typeNames) :
    (left.register introspector source declarations policy).outcome =
        (right.register introspector source declarations policy).outcome ∧
      (left.register introspector source declarations policy).source =
        (right.register introspector source declarations policy).source := by
  have ranAlike := Registration.prepare_congr agree policy
  refine ⟨?_, ?_⟩
  · rw [register_outcome, register_outcome, ranAlike]
  · rw [register_source, register_source, ranAlike]

end Run

namespace Sample

/-- A composite type, an enumeration, a table, and a table of arrays of the composite type. -/
def drawings : Introspector Empty Unit :=
  introspector
    [("point", ⟨.composite, columns [("x", "int4", "", true)], []⟩),
      ("status", ⟨.enumeration, [], ["open", "closed"]⟩),
      ("user", ⟨.table, columns [("id", "int4", "", true)], []⟩),
      ("shape", ⟨.table, columns [("corners", "_point", "A", true), ("area", "int4", "", false)],
        []⟩)]

def registerDrawings (prior : Registry Empty) (names : List String) :
    RegistrationReport Empty Unit :=
  prior.register drawings () (declarations names) ⟨true, .standard⟩

/-- A table and another type, registered before or not, make no difference to shapes. -/
theorem register_outcome_eq_of_registerDrawings :
    let left := (registerDrawings .empty ["point", "user"]).registry
    let right := (registerDrawings .empty ["status", "point"]).registry
    left.entities.keys ≠ right.entities.keys ∧
      (registerDrawings left ["shape"]).outcome.toOption.isSome ∧
      (registerDrawings left ["shape"]).outcome = (registerDrawings right ["shape"]).outcome := by
  intro left right
  have agree : ∀ reported ∈ ((Registration.normalize drawings (declarations ["shape"])
      .empty).runFrom ⟨.fresh (), []⟩).1.toOption,
        left.entities.AgreeOnTypes right.entities reported.typeNames := by
    decide +kernel
  refine ⟨by decide +kernel, by decide +kernel, ?_⟩
  refine (Registry.register_outcome_eq_of_agreeOnTypes left right () ⟨true, .standard⟩ ?_).1
  intro reported described normalized
  apply agree
  rw [normalized]
  rfl

end Sample

end EntityCatalog
