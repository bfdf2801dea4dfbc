import EntityCatalog.Proofs.Consistency
import EntityCatalog.Proofs.Derivation
import EntityCatalog.Proofs.Identifier
import EntityCatalog.Proofs.Precedence
import EntityCatalog.Proofs.ReferenceGraph
import EntityCatalog.Proofs.Registration.Emission
import EntityCatalog.Proofs.Registration.Provenance
import EntityCatalog.Proofs.Registration.Series

/-!
# Successful registrations

A registration together with the fact that it succeeded. Its catalog is the list of everything that
is declared for its batch, where of several declarations of one identifier the last one stays. An
identifier is declared by the entity that has it, by the entity whose complete rows it names, and
by every entity with a column of that identifier.
-/

namespace EntityCatalog

variable {τ σ : Type}

/-- A registration that succeeded. -/
structure SuccessfulRegistration (τ σ : Type) [DecidableEq τ] [Transform τ] where
  prior : Registry τ
  introspector : Introspector τ σ
  source : σ
  declarations : List (Declaration τ)
  policy : RegistrationPolicy
  registration : Registration τ
  succeeded : (prior.register introspector source declarations policy).outcome = .ok registration

namespace SuccessfulRegistration

variable [DecidableEq τ] [Transform τ] (success : SuccessfulRegistration τ σ)

/-- The entities that were registered. -/
def batch : Entities τ := success.registration.entities

def catalog : Catalog τ := success.registration.catalog

/-- The entities that columns may refer to: those registered before, overlaid by the batch. -/
def effective : Entities τ := success.prior.entities.overlay success.batch

/-- The labels that the introspector gave. -/
def answers : KnownLabels :=
  ((Registration.prepare success.prior.entities success.introspector success.declarations
    success.policy).runFrom ⟨.fresh success.source, []⟩).2.memo.labels

/-- The validator that is derived from a column, if there is one. -/
def derived? (column : Column τ) : Option (Validator τ) :=
  column.derived? success.effective success.policy.text success.answers

/-- The order of declaration. -/
def order : List Identifier :=
  ((referenceGraph success.batch success.effective).dependencyOrder?).getD []

def DeclaredBefore (earlier later : Identifier) : Prop := Precedes success.order earlier later

/-- Whether an entity of the batch has a column with an identifier. -/
def Occurs (listed owner : Identifier) (column : Column τ) : Prop :=
  ∃ entity, success.batch.get? owner = some entity ∧ entity.columns.get? listed = some column

/-- Everything that is declared for an identifier by the entity with some identifier. -/
def mentions (listed owner : Identifier) : List (Validator τ) :=
  match success.batch.get? owner with
  | some entity =>
      OrderedMap.valuesAt listed (entity.declarations success.derived? owner)
  | none => []

/-- A registration with the fact that it succeeded, if it did. -/
def ofRegister? (prior : Registry τ) (introspector : Introspector τ σ) (source : σ)
    (declarations : List (Declaration τ)) (policy : RegistrationPolicy) :
    Option (SuccessfulRegistration τ σ) :=
  match succeeded : (prior.register introspector source declarations policy).outcome with
  | .ok registration =>
      some ⟨prior, introspector, source, declarations, policy, registration, succeeded⟩
  | .error _ => none

/-- What the entity with some identifier declares for an identifier as one of its columns. -/
def columnMentions (listed owner : Identifier) : List (Validator τ) :=
  match success.batch.get? owner with
  | some entity => ((entity.columns.get? listed).bind success.derived?).toList
  | none => []

theorem nonempty_course :
    ∃ final, Nonempty (Registration.Course success.prior.entities success.introspector
      success.declarations success.policy ⟨.fresh success.source, []⟩ success.registration final) ∧
      final.memo.labels = success.answers := by
  have succeeded := success.succeeded
  rw [Registry.register_outcome] at succeeded
  exact ⟨_, Registration.nonempty_course_of_prepare (Prod.ext succeeded rfl), rfl⟩

theorem consistent : inconsistency? success.batch = none := by
  rcases success.nonempty_course with ⟨_, ⟨course⟩, _⟩
  exact course.consistent

theorem ordered :
    (referenceGraph success.batch success.effective).dependencyOrder? = some success.order := by
  rcases success.nonempty_course with ⟨_, ⟨course⟩, _⟩
  have ordered : (referenceGraph success.batch success.effective).dependencyOrder? =
      some course.order := course.ordered
  rw [order, ordered]
  rfl

theorem order_nodup : success.order.Nodup :=
  ReferenceGraph.dependencyOrder?_nodup success.ordered

theorem mem_order_of_mem_batch {identifier : Identifier}
    (mem : identifier ∈ success.batch.keys) : identifier ∈ success.order := by
  rw [(ReferenceGraph.dependencyOrder?_perm success.ordered).mem_iff, referenceGraph,
    ReferenceGraph.mem_nodes_ofParts_iff]
  exact Or.inl mem

theorem declared : ∃ checked emission emitted,
    (Registration.emit success.introspector success.policy.text success.effective success.batch
      success.order).runFrom checked = (.ok emission, emitted) ∧
      success.catalog = emission.catalog ∧
      success.registration.excluded = emission.excluded ∧
      emitted.memo.labels = success.answers := by
  rcases success.nonempty_course with ⟨final, ⟨course⟩, labelsEq⟩
  have orderEq : course.order = success.order := by
    have ordered : (referenceGraph success.batch success.effective).dependencyOrder? =
        some course.order := course.ordered
    rw [success.ordered, Option.some.injEq] at ordered
    exact ordered.symm
  refine ⟨course.checked, course.emission, course.emitted, ?_, course.catalog_eq,
    course.excluded_eq, ?_⟩
  · rw [← orderEq]
    exact course.declared
  · rw [← course.final_memo, labelsEq]

/-- The outcome is what is declared by the labels that the introspector gave. -/
theorem emission_eq :
    success.catalog = (Registration.Emission.ofBatch success.derived? success.batch
        success.order).catalog ∧
      success.registration.excluded = (Registration.Emission.ofBatch success.derived? success.batch
        success.order).excluded := by
  rcases success.declared with ⟨checked, emission, emitted, ran, catalogEq, excludedEq, labelsEq⟩
  have computed := (Registration.emit_computes _ _ _ _ _ _ _ _ ran).2 emitted.memo.labels
    (.refl _)
  rw [labelsEq] at computed
  rw [catalogEq, excludedEq, computed]
  exact ⟨rfl, rfl⟩

theorem catalog_declarations :
    success.catalog.declarations =
      .ofList (success.batch.declarations success.derived? success.order) := by
  rw [success.emission_eq.1, Registration.Emission.declarations_ofBatch]

/-- The last mention of an identifier decides what the catalog holds. -/
theorem find?_catalog (listed : Identifier) :
    success.catalog.find? listed =
      (success.order.flatMap (success.mentions listed)).getLast? := by
  rw [Catalog.find?, catalog_declarations, OrderedMap.get?_ofList, Entities.declarations,
    OrderedMap.valuesAt_flatMap]
  congr 2
  funext owner
  unfold mentions
  rcases success.batch.get? owner with _ | entity <;> rfl

theorem find?_catalog_eq_some_iff (listed : Identifier) (validator : Validator τ) :
    success.catalog.find? listed = some validator ↔
      ∃ owner ∈ success.order, (success.mentions listed owner).getLast? = some validator ∧
        ∀ later, success.DeclaredBefore owner later → success.mentions listed later = [] := by
  rw [find?_catalog]
  exact getLast?_flatMap_eq_some_iff success.order_nodup _ _

section Mentions

variable {success}

/-- Nothing that is declared for an identifier leaves it without a declaration. -/
theorem exists_find?_of_mem_mentions {listed owner : Identifier} {validator : Validator τ}
    (key : owner ∈ success.batch.keys) (mentioned : validator ∈ success.mentions listed owner) :
    ∃ found, success.catalog.find? listed = some found := by
  rw [find?_catalog, ← Option.isSome_iff_exists, List.getLast?_isSome]
  apply List.ne_nil_of_mem
  exact List.mem_flatMap.mpr ⟨owner, success.mem_order_of_mem_batch key, mentioned⟩

theorem identifiers_of_mem {owner : Identifier} {entity : Entity τ}
    (member : success.batch.get? owner = some entity) :
    entity.identifier = owner ∧ entity.insertIdentifier = owner.insertIdentifier ∧
      ∀ listed column, entity.columns.get? listed = some column → column.identifier = listed := by
  rcases success.nonempty_course with ⟨_, ⟨course⟩, _⟩
  exact course.identifiers_of_mem member

theorem Occurs.notMem_keys {listed owner : Identifier} {column : Column τ}
    (occurs : success.Occurs listed owner column) : listed ∉ success.batch.keys := by
  rcases occurs with ⟨entity, member, found⟩
  exact notMem_keys_of_consistent success.consistent member found

theorem Occurs.mem_keys {listed owner : Identifier} {column : Column τ}
    (occurs : success.Occurs listed owner column) : owner ∈ success.batch.keys := by
  rcases occurs with ⟨entity, member, _⟩
  exact OrderedMap.mem_keys_of_get? member

/-- What is derived from a column is calculated from labels that the introspector gave. -/
theorem Occurs.isAnswered {listed owner : Identifier} {column : Column τ}
    (occurs : success.Occurs listed owner column) :
    column.IsAnswered success.effective success.policy.text success.answers := by
  have key := occurs.mem_keys
  rcases occurs with ⟨entity, member, found⟩
  have mem := OrderedMap.get?_eq_some_iff_mem.mp found
  have notEnumeration : entity.isEnumeration = false := by
    rw [← Bool.not_eq_true]
    intro enumeration
    rw [Entity.columns_entries_of_isEnumeration enumeration] at mem
    cases mem
  rcases success.declared with ⟨checked, emission, emitted, ran, _, _, labelsEq⟩
  exact Registration.emit_establishes success.introspector success.policy.text success.effective
    (success.mem_order_of_mem_batch key) member notEnumeration mem checked emission emitted ran
    success.answers (labelsEq ▸ .refl _)

theorem forall_mem_batch_iff {motive : Identifier → Entity τ → Prop} :
    (∀ entity ∈ success.batch.values, motive entity.identifier entity) ↔
      ∀ owner entity, success.batch.get? owner = some entity → motive owner entity := by
  constructor
  · intro each owner entity member
    rw [← (identifiers_of_mem member).1]
    exact each entity (OrderedMap.mem_values_iff.mpr ⟨owner, member⟩)
  · intro each entity mem
    rcases OrderedMap.mem_values_iff.mp mem with ⟨owner, member⟩
    rw [(identifiers_of_mem member).1]
    exact each owner entity member

theorem mem_columnMentions_iff {listed owner : Identifier} {validator : Validator τ} :
    validator ∈ success.columnMentions listed owner ↔
      ∃ column, success.Occurs listed owner column ∧
        success.derived? column = some validator := by
  unfold columnMentions Occurs
  rcases success.batch.get? owner with _ | entity <;> simp [Option.bind_eq_some_iff]

theorem columnMentions_eq_nil_iff {listed owner : Identifier} :
    success.columnMentions listed owner = [] ↔
      ∀ column, success.Occurs listed owner column → success.derived? column = none := by
  rw [List.eq_nil_iff_forall_not_mem]
  constructor
  · intro none column occurs
    rw [Option.eq_none_iff_forall_ne_some]
    intro validator derived
    exact none validator (mem_columnMentions_iff.mpr ⟨column, occurs, derived⟩)
  · intro none validator mem
    rcases mem_columnMentions_iff.mp mem with ⟨column, occurs, derived⟩
    rw [none column occurs] at derived
    cases derived

theorem getLast?_columnMentions {listed owner : Identifier} {column : Column τ}
    (occurs : success.Occurs listed owner column) :
    (success.columnMentions listed owner).getLast? = success.derived? column := by
  rcases occurs with ⟨entity, member, found⟩
  rw [columnMentions, member]
  simp only [found, Option.bind_some]
  rcases success.derived? column with _ | validator <;> rfl

theorem columnMentions_of_mem_keys {listed : Identifier} (key : listed ∈ success.batch.keys)
    (owner : Identifier) : success.columnMentions listed owner = [] :=
  columnMentions_eq_nil_iff.mpr fun _ occurs => absurd key occurs.notMem_keys

theorem mentions_of_mem {owner : Identifier} {entity : Entity τ}
    (member : success.batch.get? owner = some entity) (listed : Identifier) :
    success.mentions listed owner =
      (if owner = listed then [entity.ownValidator] else []) ++
        ((if entity.isEnumeration = false ∧ entity.insertIdentifier = listed then
            [entity.insertValidator] else []) ++ success.columnMentions listed owner) := by
  rw [mentions, columnMentions, member]
  exact Entity.valuesAt_declarations _ _ _ _

theorem mentions_of_notMem {owner : Identifier} (absent : owner ∉ success.batch.keys)
    (listed : Identifier) : success.mentions listed owner = [] := by
  rw [mentions, OrderedMap.get?_eq_none_iff.mpr absent]

theorem mentions_self {owner : Identifier} {entity : Entity τ}
    (member : success.batch.get? owner = some entity) :
    success.mentions owner owner = [entity.ownValidator] := by
  rw [mentions_of_mem member, (identifiers_of_mem member).2.1, if_pos rfl,
    columnMentions_of_mem_keys (OrderedMap.mem_keys_of_get? member), if_neg]
  · rfl
  · rintro ⟨_, same⟩
    exact owner.insertIdentifier_ne_self same

/-- Complete rows are declared before a column of that identifier. -/
theorem mentions_insertIdentifier {owner : Identifier} {entity : Entity τ}
    (member : success.batch.get? owner = some entity)
    (notEnumeration : entity.isEnumeration = false) :
    success.mentions owner.insertIdentifier owner =
      entity.insertValidator :: success.columnMentions owner.insertIdentifier owner := by
  rw [mentions_of_mem member, (identifiers_of_mem member).2.1,
    if_neg owner.insertIdentifier_ne_self.symm, if_pos ⟨notEnumeration, rfl⟩]
  rfl

/-- Apart from itself and its complete rows, an entity declares its columns only. -/
theorem mentions_of_ne {listed owner : Identifier} (notSelf : owner ≠ listed)
    (notRows : ∀ entity, success.batch.get? owner = some entity →
      entity.isEnumeration = false → owner.insertIdentifier ≠ listed) :
    success.mentions listed owner = success.columnMentions listed owner := by
  rcases member : success.batch.get? owner with _ | entity
  · rw [mentions, columnMentions, member]
  · rw [mentions_of_mem member, (identifiers_of_mem member).2.1, if_neg notSelf, if_neg]
    · rfl
    · rintro ⟨notEnumeration, same⟩
      exact notRows entity member notEnumeration same

/-- What the catalog holds comes from an entity of the batch, in one of three roles. -/
theorem origin_of_find? {listed : Identifier} {validator : Validator τ}
    (found : success.catalog.find? listed = some validator) :
    ∃ owner entity, success.batch.get? owner = some entity ∧
      (validator = entity.ownValidator ∨ validator = entity.insertValidator ∨
        ∃ column, success.Occurs listed owner column ∧
          success.derived? column = some validator) := by
  rcases (success.find?_catalog_eq_some_iff listed validator).mp found with ⟨owner, _, last, _⟩
  have mem := List.mem_of_getLast? last
  rcases member : success.batch.get? owner with _ | entity
  · rw [mentions_of_notMem (OrderedMap.get?_eq_none_iff.mp member)] at mem
    cases mem
  · refine ⟨owner, entity, member, ?_⟩
    rw [mentions_of_mem member, List.mem_append, List.mem_append] at mem
    rcases mem with own | rows | columnMem
    · split at own
      · exact Or.inl (List.mem_singleton.mp own)
      · cases own
    · split at rows
      · exact Or.inr (Or.inl (List.mem_singleton.mp rows))
      · cases rows
    · exact Or.inr (Or.inr (mem_columnMentions_iff.mp columnMem))

theorem keys_notMem_columnMentions (listed owner : Identifier)
    (required optional : List Identifier) :
    .keys required optional ∉ success.columnMentions listed owner := by
  intro mem
  rcases mem_columnMentions_iff.mp mem with ⟨column, _, derived⟩
  rcases Column.exists_base_of_validator? (Column.validator?_of_derived? derived) with
    ⟨base, _, isBase, same⟩
  exact (Column.wrap_ne isBase).1 required optional same.symm

end Mentions

end SuccessfulRegistration

namespace Sample

/-- An application without transforms. -/
instance : Transform Empty where
  name := Empty.elim
  toStorage := Empty.elim
  fromStorage := Empty.elim

/-- Columns by their names, types, categories, and whether they exclude the absent value. -/
def columns (parts : List (String × String × String × Bool)) : List ReportedColumn :=
  parts.filterMap fun (name, typeName, category, notNull) =>
    if nonempty : name ≠ "" ∧ typeName ≠ "" then
      some ⟨name, typeName, notNull, false, category, none, false, nonempty.1, nonempty.2⟩
    else none

/-- Declarations of entities under their own names. -/
def declarations (names : List String) : List (Declaration Empty) :=
  names.filterMap fun name =>
    if nonempty : name ≠ "" then
      some ⟨name, ⟨"app", name, by decide, nonempty, by decide⟩, .none, nonempty⟩
    else none

def introspector (reports : List (String × ReportedEntity)) : Introspector Empty Unit :=
  .ofReports (.ofList reports) .empty

/-- Registers all of some reported entities. -/
def register? (prior : Registry Empty) (reports : List (String × ReportedEntity)) :
    Option (SuccessfulRegistration Empty Unit) :=
  SuccessfulRegistration.ofRegister? prior (introspector reports) ()
    (declarations (reports.map Prod.fst)) ⟨true, .standard⟩

end Sample

end EntityCatalog
