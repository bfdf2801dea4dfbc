import EntityCatalog.Derivation
import EntityCatalog.Proofs.Catalog.Termination
import EntityCatalog.Proofs.Entity
import EntityCatalog.Proofs.Outcome
import EntityCatalog.Proofs.ReferenceGraph

/-!
# The form of derived validators

The base of a column's validator is a reference, a base type with or without a bound on lengths, or
a choice of labels, and only a transform, the absent value and a collection are put around it. A
column that is no array refers to a registered entity, and what a column refers to is what its
validator refers to. None of this depends on the order of the registered entities.
-/

namespace EntityCatalog

variable {τ : Type}

namespace Column

/-- The validators that are the base of others. -/
inductive IsBase : Validator τ → Prop where
  | reference (target : Identifier) : IsBase (.reference target)
  | base (typeName : String) : IsBase (.base typeName)
  | bounded (typeName : String) (bound : Quantity) :
      IsBase (.allOf [.base typeName, .maxLength bound])
  | labels (labels : List String) : IsBase (.oneOf labels)

variable {registered : Entities τ} {policy : TextPolicy} {labels : List String}
  {column : Column τ} {base validator : Validator τ}

/-- Of the bases only a reference refers to anything. -/
theorem IsBase.eq_reference (isBase : IsBase base) {target : Identifier}
    (mem : target ∈ base.references) : base = .reference target := by
  cases isBase with
  | reference other =>
      rw [Validator.references, List.mem_singleton] at mem
      rw [mem]
  | base typeName => cases mem
  | bounded typeName bound => simp [Validator.references, Validator.partsReferences] at mem
  | labels labels => cases mem

theorem IsBase.deferred_eq (isBase : IsBase base) : base.deferred = base.references := by
  cases isBase <;> rfl

theorem scalarValidator_cases (ran : column.scalarValidator policy = .ok base) :
    base = .base column.typeName ∨
      ∃ bound, base = .allOf [.base column.typeName, .maxLength bound] := by
  rcases bind_eq_ok_iff.mp ran with ⟨bound, _, made⟩
  rcases bound with _ | bound
  · cases made
    exact Or.inl rfl
  · cases made
    exact Or.inr ⟨bound, rfl⟩

theorem minus?_of_lengthBound? {bound : Quantity}
    (ran : column.lengthBound? policy = .ok (some bound)) :
    column.modifier.minus? policy.margin = .ok bound := by
  rcases bind_eq_ok_iff.mp ran with ⟨named, _, ran⟩
  cases named
  · cases ran
  · rcases bind_eq_ok_iff.mp ran with ⟨positive, _, ran⟩
    cases positive
    · cases ran
    · rcases map_eq_ok_iff.mp ran with ⟨_, difference, ⟨⟩⟩
      exact mapError_eq_ok_iff.mp difference

theorem isBase_of_elementValidator? (found : column.elementValidator? = some base) :
    IsBase base := by
  unfold elementValidator? at found
  split at found
  · next identifier _ =>
    cases found
    exact .reference identifier
  · next typeName _ =>
    cases found
    exact .base typeName
  · cases found

theorem isBase_of_baseValidator?
    (ran : column.baseValidator? registered policy labels = .ok (some base)) : IsBase base := by
  unfold baseValidator? at ran
  split at ran
  · exact isBase_of_elementValidator? (Except.ok.inj ran)
  · split at ran
    · next identifier _ =>
      cases ran
      exact .reference identifier
    · split at ran
      · have found := Except.ok.inj ran
        split at found
        · cases found
        · cases found
          exact .labels labels
      · rcases map_eq_ok_iff.mp ran with ⟨_, scalar, ⟨⟩⟩
        rcases scalarValidator_cases scalar with rfl | ⟨bound, rfl⟩
        · exact .base column.typeName
        · exact .bounded column.typeName bound

/-- A column that is no array refers to a registered type with the name of its own. -/
theorem hasType_of_reference? {target : Identifier} (notArray : column.isArray = false)
    (found : column.reference? registered = some target) :
    registered.HasType target column.typeName := by
  unfold reference? at found
  rw [notArray] at found
  simp only [Bool.false_eq_true, if_false] at found
  split at found
  · next identifier composite =>
    cases found
    rcases Entities.exists_of_findByName? composite with ⟨entity, member, kindEq, nameEq⟩
    exact ⟨entity, member, Or.inl kindEq, nameEq⟩
  · split at found
    · rcases Entities.exists_of_findByName? found with ⟨entity, member, kindEq, nameEq⟩
      exact ⟨entity, member, Or.inr kindEq, nameEq⟩
    · cases found

/-- A column of an enumeration that is no array refers to the type that its type's name finds. -/
theorem reference?_of_isEnumeration (notArray : column.isArray = false)
    (isEnumeration : column.isEnumeration = true) (registered : Entities τ) :
    column.reference? registered = registered.findType? column.typeName := by
  simp only [reference?, notArray, isEnumeration, Entities.findType?, Bool.false_eq_true, if_false,
    if_true]
  rcases registered.findByName? column.typeName .composite <;> rfl

/-- Whether a column is of an enumeration type that is not registered, and no array of it. -/
def NeedsLabels (registered : Entities τ) (column : Column τ) : Prop :=
  column.isEnumeration = true ∧ column.isArray = false ∧
    ∀ identifier, ¬registered.HasType identifier column.typeName

instance (registered : Entities τ) (column : Column τ) :
    Decidable (column.NeedsLabels registered) :=
  decidable_of_iff
    (column.isEnumeration = true ∧ column.isArray = false ∧
      registered.findType? column.typeName = none)
    (and_congr_right fun _ => and_congr_right fun _ => Entities.findType?_eq_none_iff)

theorem needsLabels_iff : column.NeedsLabels registered ↔
    column.isArray = false ∧ column.reference? registered = none ∧
      column.isEnumeration = true := by
  constructor
  · rintro ⟨isEnumeration, notArray, unregistered⟩
    refine ⟨notArray, ?_, isEnumeration⟩
    rw [reference?_of_isEnumeration notArray isEnumeration]
    exact Entities.findType?_eq_none_iff.mpr unregistered
  · rintro ⟨notArray, noReference, isEnumeration⟩
    rw [reference?_of_isEnumeration notArray isEnumeration] at noReference
    exact ⟨isEnumeration, notArray, Entities.findType?_eq_none_iff.mp noReference⟩

theorem labelSource?_eq_some_iff {typeName : String} :
    column.labelSource? registered = some typeName ↔
      column.NeedsLabels registered ∧ column.typeName = typeName := by
  simp [labelSource?, needsLabels_iff]

/--
Apart from arrays without an element type, a column only lacks a validator for want of labels.
-/
theorem validator?_eq_ok_none_iff [DecidableEq τ] :
    column.validator? registered policy labels = .ok none ↔
      (column.isArray = true ∧ column.elementType = none) ∨
        (column.NeedsLabels registered ∧ labels = []) := by
  have baseless : column.validator? registered policy labels = .ok none ↔
      column.baseValidator? registered policy labels = .ok none := by
    simp [validator?, map_eq_ok_iff]
  rw [baseless, baseValidator?, needsLabels_iff]
  by_cases array : column.isArray = true
  · rcases elementType : column.elementType with _ | (identifier | typeName) <;>
      simp [array, elementValidator?, elementType]
  · rcases column.reference? registered with _ | identifier
    · rcases column.isEnumeration
      · simp [array, map_eq_ok_iff]
      · simp [array]
    · simp [array]

theorem mem_references_base_iff
    (ran : column.baseValidator? registered policy labels = .ok (some base))
    (target : Identifier) :
    target ∈ base.references ↔ column.reference? registered = some target := by
  unfold baseValidator? at ran
  by_cases array : column.isArray = true
  · rw [if_pos array] at ran
    have found := Except.ok.inj ran
    unfold elementValidator? at found
    unfold reference?
    rw [if_pos array]
    rcases elementType : column.elementType with _ | (identifier | typeName)
    · rw [elementType] at found
      cases found
    · rw [elementType] at found
      cases found
      simp [Validator.references, eq_comm]
    · rw [elementType] at found
      cases found
      simp [Validator.references]
  · rw [if_neg array] at ran
    rcases found : column.reference? registered with _ | identifier
    · rw [found] at ran
      have noReferences : base.references = [] := by
        simp only at ran
        split at ran
        · have chosen := Except.ok.inj ran
          split at chosen <;> cases chosen
          rfl
        · rcases map_eq_ok_iff.mp ran with ⟨_, scalar, ⟨⟩⟩
          rcases scalarValidator_cases scalar with rfl | ⟨bound, rfl⟩ <;>
            simp [Validator.references, Validator.partsReferences]
      simp [noReferences]
    · rw [found] at ran
      cases ran
      simp [Validator.references, eq_comm]

/-- A bound on the length of texts is what the column's modifier is above the margin. -/
theorem bound_of_baseValidator? {typeName : String} {bound : Quantity}
    (ran : column.baseValidator? registered policy labels =
      .ok (some (.allOf [.base typeName, .maxLength bound]))) :
    column.modifier.minus? policy.margin = .ok bound := by
  unfold baseValidator? at ran
  split at ran
  · have found := Except.ok.inj ran
    unfold elementValidator? at found
    split at found <;> cases found
  · split at ran
    · cases ran
    · split at ran
      · have found := Except.ok.inj ran
        split at found <;> cases found
      · rcases map_eq_ok_iff.mp ran with ⟨_, scalar, ⟨⟩⟩
        rcases bind_eq_ok_iff.mp scalar with ⟨found, bounded, made⟩
        rcases found with _ | found
        · cases made
        · cases made
          exact minus?_of_lengthBound? bounded

theorem isUntransformed_of_isBase (isBase : IsBase base) : base.isUntransformed = true := by
  cases isBase <;> rfl

variable [DecidableEq τ]

/-- A column's validator is a base with everything around it that the column asks for. -/
theorem exists_base_of_validator?
    (ran : column.validator? registered policy labels = .ok (some validator)) :
    ∃ base, column.baseValidator? registered policy labels = .ok (some base) ∧ IsBase base ∧
      validator = column.wrap registered base := by
  rcases map_eq_ok_iff.mp ran with ⟨base, baseRan, wrapped⟩
  rcases Option.map_eq_some_iff.mp wrapped with ⟨base, rfl, rfl⟩
  exact ⟨base, baseRan, isBase_of_baseValidator? baseRan, rfl⟩

/-- A column that refers to an entity has a validator for that, whichever labels are known. -/
theorem validator?_of_reference? {target : Identifier}
    (refers : column.reference? registered = some target) (policy : TextPolicy)
    (labels : List String) :
    column.validator? registered policy labels =
      .ok (some (column.wrap registered (.reference target))) := by
  have base : column.baseValidator? registered policy labels = .ok (some (.reference target)) := by
    unfold baseValidator?
    by_cases array : column.isArray = true
    · rw [if_pos array]
      unfold reference? at refers
      rw [if_pos array] at refers
      unfold elementValidator?
      split at refers
      · next elementType =>
        cases refers
        rw [elementType]
      · cases refers
    · rw [if_neg array, refers]
  rw [validator?, base]
  rfl

theorem references_wrap (base : Validator τ) :
    (column.wrap registered base).references = base.references := by
  unfold wrap wrapCollection wrapNullable wrapTransform
  (repeat' split) <;> rfl

/-- A column's validator refers to what the column refers to. -/
theorem mem_references_iff
    (ran : column.validator? registered policy labels = .ok (some validator))
    (target : Identifier) :
    target ∈ validator.references ↔ column.reference? registered = some target := by
  rcases exists_base_of_validator? ran with ⟨base, baseRan, _, rfl⟩
  rw [references_wrap]
  exact mem_references_base_iff baseRan target

/-- A column's validator is not about rows, and no value stands in its place. -/
theorem wrap_ne (isBase : IsBase base) :
    (∀ required optional, column.wrap registered base ≠ .keys required optional) ∧
      ∀ value, column.wrap registered base ≠ .foreign value := by
  unfold wrap wrapCollection wrapNullable wrapTransform
  cases isBase <;> (repeat' split) <;> simp

theorem wrap_of_untransformed (untransformed : column.transform = none) (base : Validator τ) :
    column.wrap registered base = column.wrapCollection (column.wrapNullable base) := by
  rw [wrap, wrapTransform, untransformed]

theorem isUntransformed_of_validator? (untransformed : column.transform = none)
    (ran : column.validator? registered policy labels = .ok (some validator)) :
    validator.isUntransformed = true := by
  rcases exists_base_of_validator? ran with ⟨base, _, isBase, rfl⟩
  rw [wrap_of_untransformed untransformed, wrapCollection, wrapNullable]
  have basePlain := isUntransformed_of_isBase isBase
  split <;> split <;> exact basePlain

/-- Without a transform a column's validator defers to what its type names, and does no more. -/
theorem deferred_of_validator? (untransformed : column.transform = none)
    (ran : column.validator? registered policy labels = .ok (some validator))
    {target : Identifier} (mem : target ∈ validator.deferred) :
    (validator = .reference target ∨ validator = .nullable (.reference target)) ∧
      registered.HasType target column.typeName := by
  rcases exists_base_of_validator? ran with ⟨base, baseRan, isBase, rfl⟩
  rw [wrap_of_untransformed untransformed, wrapCollection] at mem ⊢
  by_cases array : column.isArray = true
  · rw [if_pos array] at mem
    cases mem
  · rw [if_neg array] at mem ⊢
    have baseMem : target ∈ base.deferred := by
      unfold wrapNullable at mem
      split at mem <;> exact mem
    have baseEq : base = .reference target := by
      rw [isBase.deferred_eq] at baseMem
      exact isBase.eq_reference baseMem
    rw [baseEq] at baseRan
    have notArray := Bool.eq_false_iff.mpr array
    have refers := (mem_references_base_iff baseRan target).mp (by simp [Validator.references])
    refine ⟨?_, hasType_of_reference? notArray refers⟩
    rw [baseEq, wrapNullable]
    split
    · exact Or.inl rfl
    · exact Or.inr rfl

end Column

theorem mem_referenceEdges_iff {entities registered : Entities τ} {source target : Identifier} :
    (source, target) ∈ referenceEdges entities registered ↔
      ∃ entity listed column, entities.get? source = some entity ∧
        entity.columns.get? listed = some column ∧
        column.reference? registered = some target := by
  simp only [referenceEdges, List.mem_flatMap, List.mem_filterMap, Option.map_eq_some_iff,
    OrderedMap.mem_values_iff, ← OrderedMap.get?_eq_some_iff_mem, Prod.exists, Prod.mk.injEq]
  constructor
  · rintro ⟨_, entity, member, column, ⟨listed, found⟩, _, refers, rfl, rfl⟩
    exact ⟨entity, listed, column, member, found, refers⟩
  · rintro ⟨entity, listed, column, member, found, refers⟩
    exact ⟨source, entity, member, column, ⟨listed, found⟩, target, refers, rfl, rfl⟩

theorem refersTo_referenceGraph_iff {batch registered : Entities τ} {source target : Identifier} :
    (referenceGraph batch registered).RefersTo source target ↔
      ∃ entity listed column, batch.get? source = some entity ∧
        entity.columns.get? listed = some column ∧ column.reference? registered = some target :=
  ReferenceGraph.mem_edges_ofParts_iff.trans mem_referenceEdges_iff

/-- Only an entity of the batch refers to anything. -/
theorem mem_keys_of_refersTo {batch registered : Entities τ} {source target : Identifier}
    (refers : (referenceGraph batch registered).RefersTo source target) :
    source ∈ batch.keys := by
  rcases refersTo_referenceGraph_iff.mp refers with ⟨_, _, _, member, _⟩
  exact OrderedMap.mem_keys_of_get? member

section Order

variable {left right : Entities τ} (same : left.SameAs right)

include same

theorem Column.reference?_eq_of_sameAs (column : Column τ) :
    column.reference? left = column.reference? right := by
  simp only [reference?, Entities.findByName?_eq_of_sameAs same]

theorem Column.labelSource?_eq_of_sameAs (column : Column τ) :
    column.labelSource? left = column.labelSource? right := by
  simp only [labelSource?, reference?_eq_of_sameAs same]

theorem Column.validator?_eq_of_sameAs [DecidableEq τ] (policy : TextPolicy)
    (labels : List String) (column : Column τ) :
    column.validator? left policy labels = column.validator? right policy labels := by
  have baseEq : column.baseValidator? left policy labels =
      column.baseValidator? right policy labels := by
    simp only [baseValidator?, reference?_eq_of_sameAs same]
  have wrapEq : column.wrap left = column.wrap right := by
    funext base
    have applies (transform : τ) :
        appliesTransform left transform base = appliesTransform right transform base := by
      cases base with
      | reference target => simp only [appliesTransform, same target]
      | _ => rfl
    simp only [wrap, wrapTransform, applies]
  rw [validator?, validator?, baseEq, wrapEq]

end Order

/-- The dependency order of a batch does not depend on the order of its entities. -/
theorem dependencyOrder?_eq_of_sameAs {left right registered other : Entities τ}
    (same : left.SameAs right) (sameRegistered : registered.SameAs other) :
    (referenceGraph left registered).dependencyOrder? =
      (referenceGraph right other).dependencyOrder? := by
  have sameEdges (edge : Identifier × Identifier) :
      edge ∈ referenceEdges left registered ↔ edge ∈ referenceEdges right other := by
    rcases edge with ⟨source, target⟩
    simp only [mem_referenceEdges_iff, same source,
      Column.reference?_eq_of_sameAs sameRegistered]
  apply ReferenceGraph.dependencyOrder?_congr
  · intro edge
    rw [referenceGraph, referenceGraph, ReferenceGraph.mem_edges_ofParts_iff,
      ReferenceGraph.mem_edges_ofParts_iff, sameEdges]
  · intro node
    simp only [referenceGraph, ReferenceGraph.mem_nodes_ofParts_iff, same.mem_keys_iff, sameEdges]

end EntityCatalog
