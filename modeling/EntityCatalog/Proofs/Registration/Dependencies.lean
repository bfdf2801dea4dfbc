import EntityCatalog.Proofs.Registration.Failure
import EntityCatalog.Proofs.Registration.Success

/-!
# Validators and the order of their declaration

The order of a batch is found by following its columns, before any validator is derived. What is
found is what the validators themselves refer to: a column's validator refers to what the column
refers to, whatever is wrapped around the reference and whichever labels are known. So a
batch is refused exactly if the validators of its columns lead in a circle, and otherwise what they
refer to is declared first. In the catalog it also stands first, unless an entity of the batch is
named like complete rows, which may be declared before their turn.
-/

namespace EntityCatalog

variable {τ σ : Type}

/-- What is written first for the first time has the earlier key. -/
theorem OrderedMap.precedes_keys_ofList {κ α : Type} [DecidableEq κ] {front back : List (κ × α)}
    {earlier later : κ} (earlierMem : earlier ∈ front.map Prod.fst)
    (laterNotMem : later ∉ front.map Prod.fst) (laterMem : later ∈ back.map Prod.fst) :
    Precedes (ofList (front ++ back)).keys earlier later := by
  have split : ofList (front ++ back) = (ofList front).insertAll back :=
    insertAll_append empty front back
  rcases keys_prefix_insertAll (ofList front) back with ⟨added, keysEq⟩
  have laterKey : later ∈ ((ofList front).insertAll back).keys :=
    mem_keys_insertAll.mpr (Or.inl laterMem)
  rw [← keysEq, List.mem_append, mem_keys_ofList] at laterKey
  rw [split, ← keysEq]
  exact Precedes.of_append (mem_keys_ofList.mpr earlierMem) (laterKey.resolve_left laterNotMem)

theorem Entity.role_of_mem_declarations {derive : Column τ → Option (Validator τ)}
    {owner listed : Identifier} {entity : Entity τ} {validator : Validator τ}
    (mem : (listed, validator) ∈ entity.declarations derive owner) :
    listed = owner ∨ listed = entity.insertIdentifier ∨
      ∃ column, entity.columns.get? listed = some column := by
  rcases List.mem_cons.mp mem with own | mem
  · exact Or.inl (Prod.mk.inj own).1
  · rcases List.mem_append.mp mem with rows | columns
    · unfold insertDeclarations at rows
      split at rows
      · cases rows
      · exact Or.inr (Or.inl (Prod.mk.inj (List.mem_singleton.mp rows)).1)
    · rcases List.mem_filterMap.mp columns with ⟨⟨_, column⟩, found, declared⟩
      rcases Option.map_eq_some_iff.mp declared with ⟨_, _, ⟨⟩⟩
      exact Or.inr (Or.inr ⟨column, OrderedMap.get?_eq_some_iff_mem.mpr found⟩)

variable [DecidableEq τ]

/-- A column that refers to an entity has a validator that does, whichever labels are known. -/
theorem Column.exists_derived?_of_reference? {registered : Entities τ} {column : Column τ}
    {target : Identifier} (refers : column.reference? registered = some target)
    (policy : TextPolicy) (known : KnownLabels) :
    ∃ validator, column.derived? registered policy known = some validator ∧
      target ∈ validator.references := by
  refine ⟨column.wrap registered (.reference target), ?_, ?_⟩
  · rw [derived?, validator?_of_reference? refers]
    rfl
  · rw [references_wrap]
    exact List.mem_singleton.mpr rfl

/--
Whether one entity of a batch has a column whose validator refers to another one of the batch.
-/
def Entities.DefersTo (batch registered : Entities τ) (policy : TextPolicy) (known : KnownLabels)
    (source target : Identifier) : Prop :=
  target ∈ batch.keys ∧ ∃ entity listed column validator, batch.get? source = some entity ∧
    entity.columns.get? listed = some column ∧
    column.derived? registered policy known = some validator ∧ target ∈ validator.references

section Circles

variable {batch registered : Entities τ} {policy : TextPolicy} {known : KnownLabels}
  {source target : Identifier}

/-- The validators of a batch refer to each other as the reference graph says. -/
theorem defersTo_iff :
    batch.DefersTo registered policy known source target ↔
      target ∈ batch.keys ∧ (referenceGraph batch registered).RefersTo source target := by
  rw [Entities.DefersTo, refersTo_referenceGraph_iff]
  apply and_congr_right'
  constructor
  · rintro ⟨entity, listed, column, validator, member, found, derived, mem⟩
    have refers := (Column.mem_references_iff (Column.validator?_of_derived? derived) target).mp mem
    exact ⟨entity, listed, column, member, found, refers⟩
  · rintro ⟨entity, listed, column, member, found, refers⟩
    rcases Column.exists_derived?_of_reference? refers policy known with ⟨validator, derived, mem⟩
    exact ⟨entity, listed, column, validator, member, found, derived, mem⟩

/-- A walk that ends in the batch never leaves it, because other entities refer to nothing. -/
theorem transGen_defersTo
    (walk : Relation.TransGen (referenceGraph batch registered).RefersTo source target)
    (mem : target ∈ batch.keys) :
    Relation.TransGen (batch.DefersTo registered policy known) source target := by
  induction walk with
  | single refers => exact .single (defersTo_iff.mpr ⟨mem, refers⟩)
  | tail _ refers ih =>
      exact .tail (ih (mem_keys_of_refersTo refers)) (defersTo_iff.mpr ⟨mem, refers⟩)

/-- A batch has no dependency order exactly if its validators lead in a circle. -/
theorem dependencyOrder?_eq_none_iff (policy : TextPolicy) (known : KnownLabels) :
    (referenceGraph batch registered).dependencyOrder? = none ↔
      ∃ node, Relation.TransGen (batch.DefersTo registered policy known) node node := by
  rw [← Option.not_isSome_iff_eq_none, ReferenceGraph.isSome_dependencyOrder?_iff,
    ReferenceGraph.IsAcyclic]
  push Not
  constructor
  · rintro ⟨node, circle⟩
    rcases Relation.TransGen.head'_iff.mp circle with ⟨_, refers, _⟩
    exact ⟨node, transGen_defersTo circle (mem_keys_of_refersTo refers)⟩
  · rintro ⟨node, circle⟩
    exact ⟨node, Relation.TransGen.mono (fun _ _ defers => (defersTo_iff.mp defers).2) _ _ circle⟩

end Circles

variable [Transform τ]

namespace SuccessfulRegistration

variable {success : SuccessfulRegistration τ σ} {source target : Identifier}

/-- What is declared before an entity of the batch has an earlier place in the catalog. -/
theorem precedes_of_declaredBefore
    (notRows : ∀ entity ∈ success.batch.values, entity.insertIdentifier ∉ success.batch.keys)
    (sourceKey : source ∈ success.batch.keys) (targetKey : target ∈ success.batch.keys)
    (before : success.DeclaredBefore target source) :
    Precedes success.catalog.identifiers target source := by
  rcases before.exists_split with ⟨front, back, orderEq, targetMem⟩
  rcases OrderedMap.exists_get?_of_mem_keys sourceKey with ⟨sourceEntity, sourceMember⟩
  rcases OrderedMap.exists_get?_of_mem_keys targetKey with ⟨targetEntity, targetMember⟩
  have nodup := success.order_nodup
  rw [orderEq] at nodup
  have sourceNotMem : source ∉ front := fun mem =>
    (List.nodup_append.mp nodup).2.2 source mem source List.mem_cons_self rfl
  rw [Catalog.identifiers, catalog_declarations, orderEq, Entities.declarations,
    List.flatMap_append]
  apply OrderedMap.precedes_keys_ofList
  · refine List.mem_map.mpr ⟨(target, targetEntity.ownValidator), ?_, rfl⟩
    refine List.mem_flatMap.mpr ⟨target, targetMem, ?_⟩
    rw [targetMember]
    exact List.mem_cons_self
  · -- Of the entities declared before, none has the identifier of the source in any role.
    intro mem
    rcases List.mem_map.mp mem with ⟨⟨listed, validator⟩, entryMem, same⟩
    have same : listed = source := same
    subst same
    rcases List.mem_flatMap.mp entryMem with ⟨owner, ownerMem, declared⟩
    rcases member : success.batch.get? owner with _ | entity
    · rw [member] at declared
      cases declared
    · rw [member] at declared
      rcases Entity.role_of_mem_declarations declared with own | rows | ⟨column, found⟩
      · exact sourceNotMem (own ▸ ownerMem)
      · have value := OrderedMap.mem_values_iff.mpr ⟨owner, member⟩
        exact notRows entity value (rows ▸ sourceKey)
      · exact notMem_keys_of_consistent success.consistent member found sourceKey
  · refine List.mem_map.mpr ⟨(source, sourceEntity.ownValidator), ?_, rfl⟩
    refine List.mem_flatMap.mpr ⟨source, List.mem_cons_self, ?_⟩
    rw [sourceMember]
    exact List.mem_cons_self

end SuccessfulRegistration

namespace Registry

variable {registry : Registry τ} {introspector : Introspector τ σ} {source : σ}
  {declarations : List (Declaration τ)} {policy : RegistrationPolicy} {reported : Entities τ}
  {described : Journal σ}

theorem stops_of_register {error : RegistrationError}
    (failed : (registry.register introspector source declarations policy).outcome =
      .error error) :
    Registration.Stops registry.entities introspector declarations policy ⟨.fresh source, []⟩
      error := by
  rw [register_outcome] at failed
  exact Registration.stops_of_prepare (Prod.ext failed rfl)

section Normalized

variable (normalized : (Registration.normalize introspector declarations .empty).runFrom
  ⟨.fresh source, []⟩ = (.ok reported, described))

include normalized

theorem entities_eq_of_normalized {registration : Registration τ}
    (succeeded : (registry.register introspector source declarations policy).outcome =
      .ok registration) :
    registration.entities = completeBatch registry.entities reported := by
  rcases exists_course_of_register succeeded with ⟨_, ⟨course⟩⟩
  rw [course.entities_eq, Step.eq_of_runFrom_eq_ok course.normalized normalized]
  rfl

/-- A consistent batch is refused for a circle exactly if it has no dependency order. -/
theorem cyclicReferences_iff
    (consistent : inconsistency? (completeBatch registry.entities reported) = none) :
    (∃ cycles, (registry.register introspector source declarations policy).outcome =
        .error (.cyclicReferences cycles)) ↔
      (referenceGraph (completeBatch registry.entities reported)
        (registry.entities.overlay
          (completeBatch registry.entities reported))).dependencyOrder? = none := by
  constructor
  · -- Only the check of the dependency order refuses circles.
    rintro ⟨cycles, failed⟩
    cases stops_of_register failed with
    | undescribed failed =>
        have same := failed.symm.trans normalized
        cases (Prod.mk.inj same).1
    | cyclic otherNormalized _ unordered =>
        rw [Step.eq_of_runFrom_eq_ok otherNormalized normalized] at unordered
        exact unordered
    | undeclared _ _ _ failed => cases Registration.emit_failsWith _ _ _ _ _ _ _ _ failed
  · intro unordered
    rcases outcome : (registry.register introspector source declarations policy).outcome with
      error | registration
    · cases stops_of_register outcome with
      | undescribed failed =>
          have same := failed.symm.trans normalized
          cases (Prod.mk.inj same).1
      | inconsistent otherNormalized failed =>
          rw [Step.eq_of_runFrom_eq_ok otherNormalized normalized, consistent] at failed
          cases failed
      | cyclic => exact ⟨_, rfl⟩
      | undeclared otherNormalized _ ordered _ =>
          rw [Step.eq_of_runFrom_eq_ok otherNormalized normalized, unordered] at ordered
          cases ordered
    · rcases exists_course_of_register outcome with ⟨_, ⟨course⟩⟩
      have ordered := course.ordered
      rw [entities_eq_of_normalized normalized outcome, unordered] at ordered
      cases ordered

end Normalized

/--
A consistent batch is refused for a circle exactly if the validators of its columns lead from an
entity back to itself. If it is registered, and no entity of it has the identifier of complete rows,
every entity has a later place in the catalog than the entities of the batch that the validators of
its columns refer to.
-/
theorem register_dependencies (registry : Registry τ) (introspector : Introspector τ σ) (source : σ)
    (declarations : List (Declaration τ)) (policy : RegistrationPolicy) {reported : Entities τ}
    {described : Journal σ}
    (normalized : (Registration.normalize introspector declarations .empty).runFrom
      ⟨.fresh source, []⟩ = (.ok reported, described))
    (consistent : inconsistency? (completeBatch registry.entities reported) = none)
    (known : KnownLabels) :
    let batch := completeBatch registry.entities reported
    let defers := batch.DefersTo (registry.entities.overlay batch) policy.text known
    let outcome := (registry.register introspector source declarations policy).outcome
    ((∃ cycles, outcome = .error (.cyclicReferences cycles)) ↔
        ∃ entity, Relation.TransGen defers entity entity) ∧
      ∀ registration, outcome = .ok registration →
        (∀ entity ∈ batch.values, entity.insertIdentifier ∉ batch.keys) →
          ∀ entity target, defers entity target →
            Precedes registration.catalog.identifiers target entity := by
  intro batch defers outcome
  constructor
  · exact (cyclicReferences_iff normalized consistent).trans
      (dependencyOrder?_eq_none_iff policy.text known)
  · intro registration succeeded notRows entity target refers
    let success : SuccessfulRegistration τ σ :=
      ⟨registry, introspector, source, declarations, policy, registration, succeeded⟩
    have batchEq : success.batch = batch := entities_eq_of_normalized normalized succeeded
    have refersTo := defersTo_iff.mp refers
    rw [← batchEq] at notRows refersTo
    have before : success.DeclaredBefore target entity :=
      ReferenceGraph.precedes_of_transGen success.ordered (.single refersTo.2)
    exact success.precedes_of_declaredBefore notRows (mem_keys_of_refersTo refersTo.2) refersTo.1
      before

end Registry

namespace Sample

/-- A table with a column of a composite type, declared before that type. -/
def shapes : SuccessfulRegistration Empty Unit :=
  (register? .empty
    [("shape", ⟨.table, columns [("corner", "point", "C", true)], []⟩),
      ("point", ⟨.composite, columns [("x", "int4", "", true)], []⟩)]).get (by decide +kernel)

/-- The batch has no circle, and what the table refers to has an earlier place in the catalog. -/
theorem dependencies_of_shapes :
    (∀ entity, ¬Relation.TransGen
        (shapes.batch.DefersTo shapes.effective shapes.policy.text .empty) entity entity) ∧
      ∃ entity target, shapes.batch.DefersTo shapes.effective shapes.policy.text .empty entity
          target ∧ Precedes shapes.batch.keys entity target ∧
        Precedes shapes.catalog.identifiers target entity := by
  have facts : ∃ entry ∈ shapes.batch.entries, ∃ column ∈ entry.2.columns.entries,
      ∃ target ∈ shapes.batch.keys, column.2.reference? shapes.effective = some target ∧
        shapes.batch.keys = [entry.1, target] := by
    decide +kernel
  have notRows : ∀ entity ∈ shapes.batch.values, entity.insertIdentifier ∉ shapes.batch.keys := by
    decide +kernel
  rcases shapes.nonempty_course with ⟨_, ⟨course⟩, _⟩
  have batchEq : shapes.batch = completeBatch shapes.prior.entities course.reported :=
    course.entities_eq
  have consistent := shapes.consistent
  rw [batchEq] at consistent
  have dependencies := Registry.register_dependencies shapes.prior shapes.introspector
    shapes.source shapes.declarations shapes.policy course.normalized consistent .empty
  rw [← batchEq] at dependencies
  constructor
  · intro entity circle
    rcases dependencies.1.mpr ⟨entity, circle⟩ with ⟨cycles, failed⟩
    have same := failed.symm.trans shapes.succeeded
    cases same
  · rcases facts with ⟨⟨owner, entity⟩, member, ⟨listed, column⟩, found, target, targetMem, refers,
      keys⟩
    have refersTo : (referenceGraph shapes.batch shapes.effective).RefersTo owner target :=
      refersTo_referenceGraph_iff.mpr ⟨entity, listed, column,
        OrderedMap.get?_eq_some_iff_mem.mpr member, OrderedMap.get?_eq_some_iff_mem.mpr found,
        refers⟩
    have defers : shapes.batch.DefersTo shapes.effective shapes.policy.text .empty owner target :=
      defersTo_iff.mpr ⟨targetMem, refersTo⟩
    refine ⟨owner, target, defers, ?_, dependencies.2 _ shapes.succeeded notRows _ _ defers⟩
    rw [keys]
    exact Precedes.of_append (List.mem_singleton.mpr rfl) (List.mem_singleton.mpr rfl)

end Sample

end EntityCatalog
