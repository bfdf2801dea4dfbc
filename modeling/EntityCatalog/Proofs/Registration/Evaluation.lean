import EntityCatalog.Proofs.Catalog.Depth
import EntityCatalog.Proofs.Registration.Plain
import EntityCatalog.Proofs.Registration.Success

/-!
# Evaluation of catalogs without transforms

The declarations of entities and of their rows defer to nothing, and that of a column defers to the
entity that its type names. As no entity of a batch has the identifier of a column, a circle can
only lead through entities that were registered before and are hidden by columns of the batch.
-/

namespace EntityCatalog.SuccessfulRegistration

variable {τ σ ρ : Type} [DecidableEq τ] [Transform τ] {success : SuccessfulRegistration τ σ}

section Plain

variable (plain : success.batch.IsPlain)

include plain

/-- Only a column defers, to a registered entity, and its validator does no more than that. -/
theorem deferred_of_find? {listed : Identifier} {validator : Validator τ}
    (found : success.catalog.find? listed = some validator) :
    validator.isUntransformed = true ∧ ∀ target ∈ validator.deferred,
      (validator = .reference target ∨ validator = .nullable (.reference target)) ∧
        (∃ owner column, success.Occurs listed owner column) ∧
          target ∈ success.effective.keys := by
  rcases origin_of_find? found with
    ⟨owner, entity, member, rfl | rfl | ⟨column, occurs, derived⟩⟩
  · unfold Entity.ownValidator Entity.labelsValidator
    rw [(plain owner entity member).1]
    split <;> exact ⟨rfl, by simp [Validator.deferred, Entity.rowValidator]⟩
  · exact ⟨rfl, by simp [Validator.deferred, Entity.insertValidator]⟩
  · rcases occurs with ⟨other, otherMember, columnFound⟩
    have untransformed := (plain owner other otherMember).2 listed column columnFound
    have ran := Column.validator?_of_derived? derived
    refine ⟨Column.isUntransformed_of_validator? untransformed ran, ?_⟩
    intro target mem
    rcases Column.deferred_of_validator? untransformed ran mem with ⟨form, hasType⟩
    exact ⟨form, ⟨owner, column, other, otherMember, columnFound⟩, hasType.mem_keys⟩

/-- Every identifier on a circle is that of a column and of an entity registered before. -/
theorem hidden_of_circle {listed : Identifier}
    (circle : Relation.TransGen success.catalog.Defers listed listed) :
    listed ∈ success.prior.entities.keys ∧ listed ∉ success.batch.keys ∧
      ∃ owner column, success.Occurs listed owner column := by
  rcases Relation.TransGen.head'_iff.mp circle with ⟨next, ⟨validator, found, mem⟩, _⟩
  rcases (deferred_of_find? plain (Catalog.find?_of_declared? found)).2 next mem with
    ⟨_, ⟨owner, column, occurs⟩, _⟩
  rcases Relation.TransGen.tail'_iff.mp circle with ⟨last, _, lastValidator, lastFound, lastMem⟩
  rcases (deferred_of_find? plain (Catalog.find?_of_declared? lastFound)).2 listed lastMem with
    ⟨_, _, registered⟩
  refine ⟨?_, occurs.notMem_keys, owner, column, occurs⟩
  rcases OrderedMap.mem_keys_overlay.mp registered with inBatch | inPrior
  · exact absurd inBatch occurs.notMem_keys
  · exact inPrior

/-- Evaluation settles for all values exactly if no declaration defers to itself. -/
theorem settles_iff_acyclic :
    (∀ listed validator, success.catalog.find? listed = some validator →
      ∀ value path, success.catalog.Settles validator value path) ↔
    ∀ listed, ¬Relation.TransGen success.catalog.Defers listed listed := by
  constructor
  · intro settles listed circle
    rcases Relation.TransGen.head'_iff.mp circle with ⟨_, ⟨validator, found, _⟩, _⟩
    have thin : ∀ source declaration, success.catalog.declared? source = some declaration →
        ∀ target ∈ declaration.deferred,
          declaration = .reference target ∨ declaration = .nullable (.reference target) :=
      fun source declaration declared target mem =>
        ((deferred_of_find? plain (Catalog.find?_of_declared? declared)).2 target mem).1
    have never : ¬success.catalog.Settles validator (.boolean true) "value" :=
      Catalog.not_settles_of_circle thin circle found (by simp) "value"
    exact never (settles listed validator (Catalog.find?_of_declared? found) _ _)
  · intro acyclic listed validator found value path
    have untransformed : success.catalog.IsUntransformed := fun key declaration declared =>
      (deferred_of_find? plain (Catalog.find?_of_declared? declared)).1
    exact Catalog.settles_of_acyclic untransformed acyclic (deferred_of_find? plain found).1
      value path

end Plain

/-- A batch has no transforms if none was ever declared. -/
theorem isPlain_batch {source : ρ} {requests : List (Request τ ρ)}
    (plainBefore : ∀ request ∈ requests, ∀ declaration ∈ request.declarations,
      declaration.IsPlain)
    (continues : success.prior = (Registry.empty.registerAll source requests).registry)
    (plain : ∀ declaration ∈ success.declarations, declaration.IsPlain) :
    success.batch.IsPlain := by
  have emptyPlain : (Registry.empty : Registry τ).entities.IsPlain := by
    intro identifier entity found
    cases found
  have priorPlain : success.prior.entities.IsPlain := by
    rw [continues]
    exact Registry.isPlain_registerAll emptyPlain source plainBefore
  rcases success.nonempty_course with ⟨_, ⟨course⟩, _⟩
  exact course.isPlain priorPlain plain

/--
After a series of registrations without transforms, evaluation by the catalog of a further one
settles for every declared identifier and every value exactly if no declaration defers to itself.
This can only fail for columns that have the identifier of an entity which was registered before
and is not registered again.
-/
theorem explain_settles_iff {source : ρ} {requests : List (Request τ ρ)}
    (plainBefore : ∀ request ∈ requests, ∀ declaration ∈ request.declarations,
      declaration.IsPlain)
    (success : SuccessfulRegistration τ σ)
    (continues : success.prior = (Registry.empty.registerAll source requests).registry)
    (plain : ∀ declaration ∈ success.declarations, declaration.IsPlain) :
    ((∀ listed validator, success.catalog.find? listed = some validator →
      ∀ value path, success.catalog.Settles validator value path) ↔
        ∀ listed, ¬Relation.TransGen success.catalog.Defers listed listed) ∧
    ∀ listed, Relation.TransGen success.catalog.Defers listed listed →
      listed ∈ success.prior.entities.keys ∧ listed ∉ success.batch.keys ∧
        ∃ owner column, success.Occurs listed owner column := by
  have batchPlain := isPlain_batch plainBefore continues plain
  exact ⟨settles_iff_acyclic batchPlain, fun listed circle => hidden_of_circle batchPlain circle⟩

/-- Registers a composite type. -/
def registerPoint : Request Empty Unit where
  introspector := Sample.introspector
    [("point", ⟨.composite, Sample.columns [("x", "int4", "", true)], []⟩)]
  declarations := Sample.declarations ["point"]
  settings := ⟨.development, false, true, .whole 4, TextPolicy.standardNames, false, .info⟩
  commit := none

/-- Registers a table later, with a column that is named like the type of its values. -/
def pointNamedLikeColumn : SuccessfulRegistration Empty Unit :=
  (Sample.register? (Registry.empty.registerAll () [registerPoint]).registry
    [("shape", ⟨.table, Sample.columns [("point", "point", "C", true)], []⟩)]).get
      (by decide +kernel)

theorem pointNamedLikeColumn_prior :
    pointNamedLikeColumn.prior = (Registry.empty.registerAll () [registerPoint]).registry := by
  decide +kernel

theorem registerPoint_isPlain :
    ∀ request ∈ [registerPoint], ∀ declaration ∈ request.declarations, declaration.IsPlain := by
  intro request requestMem declaration mem
  rw [List.mem_singleton.mp requestMem] at mem
  have options : ∀ declaration ∈ registerPoint.declarations, declaration.options = .none := by
    decide +kernel
  exact Declaration.isPlain_of_options_none (options declaration mem)

theorem pointNamedLikeColumn_isPlain :
    ∀ declaration ∈ pointNamedLikeColumn.declarations, declaration.IsPlain := by
  intro declaration mem
  have options : ∀ declaration ∈ pointNamedLikeColumn.declarations,
      declaration.options = .none := by
    decide +kernel
  exact Declaration.isPlain_of_options_none (options declaration mem)

/-- The column takes the place of the composite type and refers to itself. -/
theorem pointNamedLikeColumn_circle :
    ∃ point, Relation.TransGen pointNamedLikeColumn.catalog.Defers point point := by
  have declared : ∃ point ∈ pointNamedLikeColumn.catalog.identifiers,
      pointNamedLikeColumn.catalog.declared? point = some (.reference point) := by
    decide +kernel
  rcases declared with ⟨point, _, found⟩
  refine ⟨point, .single ⟨.reference point, found, ?_⟩⟩
  simp [Validator.deferred]

/-- Some evaluation by the later catalog never settles. -/
theorem not_settles_of_pointNamedLikeColumn :
    pointNamedLikeColumn.prior = (Registry.empty.registerAll () [registerPoint]).registry ∧
      (∀ declaration ∈ registerPoint.declarations, declaration.IsPlain) ∧
      (∀ declaration ∈ pointNamedLikeColumn.declarations, declaration.IsPlain) ∧
      ¬∀ listed validator, pointNamedLikeColumn.catalog.find? listed = some validator →
        ∀ value path, pointNamedLikeColumn.catalog.Settles validator value path := by
  refine ⟨pointNamedLikeColumn_prior, registerPoint_isPlain registerPoint (by simp),
    pointNamedLikeColumn_isPlain, ?_⟩
  have plain := isPlain_batch registerPoint_isPlain pointNamedLikeColumn_prior
    pointNamedLikeColumn_isPlain
  rw [settles_iff_acyclic plain]
  intro acyclic
  rcases pointNamedLikeColumn_circle with ⟨point, circle⟩
  exact acyclic point circle

/-- The composite type was registered before and is hidden by the column. -/
theorem explain_settles_iff_of_pointNamedLikeColumn :
    ∃ point ∈ pointNamedLikeColumn.prior.entities.keys,
      point ∉ pointNamedLikeColumn.batch.keys ∧
        ∃ owner column, pointNamedLikeColumn.Occurs point owner column := by
  have hidden := (explain_settles_iff registerPoint_isPlain pointNamedLikeColumn
    pointNamedLikeColumn_prior pointNamedLikeColumn_isPlain).2
  rcases pointNamedLikeColumn_circle with ⟨point, circle⟩
  exact ⟨point, hidden point circle⟩

end EntityCatalog.SuccessfulRegistration
