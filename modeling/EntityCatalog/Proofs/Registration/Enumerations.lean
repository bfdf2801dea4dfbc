import EntityCatalog.Proofs.Derivation.Acceptance
import EntityCatalog.Proofs.Registration.Provenance
import EntityCatalog.Transform.Standard

/-!
# Columns of enumerations

The declaration of an enumeration has its labels behind its transform. A column of the enumeration
that inherits the transform refers to this declaration and is not wrapped in the transform once
more, so the transform is applied exactly once. A column with a transform of its own is wrapped in
it, but it still refers to the declaration: unless both transforms are the same, the enumeration's
is applied to what the column's has stored.

Only the flag of a reported column counts for all this. A column that is told to be of an
enumeration by the code of its category alone inherits nothing, and what its validator has as its
base is a base type with the name of the enumeration.
-/

namespace EntityCatalog

variable {τ : Type}

/-- Whether an enumeration is registered, and is the only type with its name. -/
structure Entities.HasSoleEnumeration (registered : Entities τ) (identifier : Identifier)
    (enumeration : Entity τ) : Prop where
  member : registered.get? identifier = some enumeration
  kind_eq : enumeration.kind = .enumeration
  eq_of_hasType : ∀ other, registered.HasType other enumeration.name → other = identifier

namespace Entities.HasSoleEnumeration

variable {registered : Entities τ} {identifier : Identifier} {enumeration : Entity τ}

instance [DecidableEq τ] :
    Decidable (registered.HasSoleEnumeration identifier enumeration) :=
  decidable_of_iff
    (registered.get? identifier = some enumeration ∧ enumeration.kind = .enumeration ∧
      ∀ other ∈ registered.identifiersOf enumeration.name .composite ++
        registered.identifiersOf enumeration.name .enumeration, other = identifier)
    ⟨fun ⟨member, kindEq, unique⟩ => ⟨member, kindEq, fun other hasType =>
        unique other (List.mem_append.mpr (hasType_iff.mp hasType))⟩,
      fun ⟨member, kindEq, unique⟩ => ⟨member, kindEq, fun other mem =>
        unique other (hasType_iff.mpr (List.mem_append.mp mem))⟩⟩

variable (sole : registered.HasSoleEnumeration identifier enumeration)

include sole

theorem findByName?_composite : registered.findByName? enumeration.name .composite = none := by
  rw [Option.eq_none_iff_forall_ne_some]
  intro other found
  rcases exists_of_findByName? found with ⟨entity, member, kindEq, nameEq⟩
  have same := sole.eq_of_hasType other ⟨entity, member, Or.inl kindEq, nameEq⟩
  rw [same, sole.member, Option.some.injEq] at member
  rw [← member, sole.kind_eq] at kindEq
  cases kindEq

theorem findType?_eq : registered.findType? enumeration.name = some identifier := by
  have hasType : registered.HasType identifier enumeration.name :=
    ⟨enumeration, sole.member, Or.inr sole.kind_eq, rfl⟩
  rcases found : registered.findType? enumeration.name with _ | other
  · exact absurd found hasType.findType?_ne_none
  · rw [sole.eq_of_hasType other (hasType_of_findType? found)]

theorem findByName?_enumeration :
    registered.findByName? enumeration.name .enumeration = some identifier := by
  have found := sole.findType?_eq
  rwa [findType?, sole.findByName?_composite, Option.none_or] at found

end Entities.HasSoleEnumeration

/-- Whether a transform stores a value as one of the labels of an enumeration. -/
def Entity.StoresLabel [Transform τ] (enumeration : Entity τ) (transform : τ) (value : Value) :
    Prop :=
  ∃ label ∈ enumeration.labels, Transform.toStorage transform value = .ok (.text label)

instance [Transform τ] (enumeration : Entity τ) (transform : τ) (value : Value) :
    Decidable (enumeration.StoresLabel transform value) :=
  inferInstanceAs (Decidable (∃ label ∈ enumeration.labels, _))

section Declaration

variable {enumeration : Entity τ} {catalog : Catalog τ} {identifier : Identifier} {value : Value}

theorem Entity.satisfies_labelsValidator_iff [Transform τ] {transform : τ}
    (transformed : enumeration.transform = some transform) :
    catalog.Satisfies enumeration.labelsValidator value ↔
      enumeration.StoresLabel transform value := by
  rw [labelsValidator, transformed]
  simp only [Catalog.satisfies_transformed_iff, Catalog.satisfies_oneOf_iff, StoresLabel]
  constructor
  · rintro ⟨_, converted, label, mem, rfl⟩
    exact ⟨label, mem, converted⟩
  · rintro ⟨label, mem, converted⟩
    exact ⟨_, converted, label, mem, rfl⟩

theorem Entity.fits_labelsValidator (enumeration : Entity τ) (catalog : Catalog τ) :
    catalog.Fits 2 enumeration.labelsValidator := by
  unfold labelsValidator
  split
  · exact (Catalog.fits_oneOf _).transformed _
  · exact Catalog.fits_oneOf _

theorem Entity.declared?_labelsValidator
    (found : catalog.find? identifier = some enumeration.labelsValidator) :
    catalog.declared? identifier = some enumeration.labelsValidator := by
  apply Catalog.declared?_of_find? found
  unfold labelsValidator
  split <;> simp

/-- A value satisfies a reference to an enumeration if the transform stores it as a label. -/
theorem Entity.satisfies_reference_iff [Transform τ] {transform : τ}
    (found : catalog.find? identifier = some enumeration.labelsValidator)
    (transformed : enumeration.transform = some transform) (value : Value) :
    catalog.Satisfies (.reference identifier) value ↔ enumeration.StoresLabel transform value := by
  rw [Catalog.satisfies_reference_iff (declared?_labelsValidator found),
    satisfies_labelsValidator_iff transformed]

end Declaration

namespace Column

variable {registered : Entities τ} {identifier : Identifier} {enumeration : Entity τ}
  {column : Column τ}

section Transforms

theorem inheritTransform_of_inheritance?_eq_none (none : column.inheritance? registered = none) :
    column.inheritTransform registered = column := by
  rw [inheritTransform, none]

/-- A column with a transform of its own keeps it. -/
theorem inheritTransform_of_transform {own : τ} (has : column.transform = some own)
    (registered : Entities τ) : column.inheritTransform registered = column :=
  inheritTransform_of_inheritance?_eq_none (by simp [inheritance?, has])

/-- A column without the flag of enumerations inherits nothing. -/
theorem inheritTransform_of_not_isEnumeration (unflagged : column.isEnumeration = false)
    (registered : Entities τ) : column.inheritTransform registered = column :=
  inheritTransform_of_inheritance?_eq_none (by simp [inheritance?, unflagged])

theorem takes_inheritTransform (registered : Entities τ) (column : Column τ) :
    (column.inheritTransform registered).Takes = column.Takes := by
  funext test value
  simp [Takes, TakesItem]

end Transforms

section Sole

variable (sole : registered.HasSoleEnumeration identifier enumeration)
  (ofType : column.typeName = enumeration.name)

include sole ofType

/-- A column with the flag and without a transform gets the enumeration's, if there is one. -/
theorem transform_inheritTransform (isEnumeration : column.isEnumeration = true)
    (untransformed : column.transform = none) :
    (column.inheritTransform registered).transform = enumeration.transform := by
  have inherited : column.inheritance? registered =
      enumeration.transform.bind fun transform => some (identifier, transform) := by
    simp [inheritance?, isEnumeration, untransformed, ofType, sole.findByName?_enumeration,
      sole.member]
  rcases has : enumeration.transform with _ | transform
  · rw [has, Option.bind_none] at inherited
    rw [inheritTransform_of_inheritance?_eq_none inherited, untransformed]
  · rw [has, Option.bind_some] at inherited
    rw [inheritTransform, inherited]

/-- A column with the flag refers to the only type of its name, if an array has it resolved. -/
theorem reference?_of_hasSoleEnumeration (isEnumeration : column.isEnumeration = true)
    (resolved : column.isArray = true → column.elementType = some (.entity identifier)) :
    column.reference? registered = some identifier := by
  by_cases array : column.isArray = true
  · simp [reference?, array, resolved array]
  · have notArray := Bool.eq_false_iff.mpr array
    rw [reference?_of_isEnumeration notArray isEnumeration, ofType, sole.findType?_eq]

/-- A column without the flag does not refer to an enumeration. -/
theorem reference?_of_not_isEnumeration (notArray : column.isArray = false)
    (unflagged : column.isEnumeration = false) : column.reference? registered = none := by
  simp [reference?, notArray, ofType, sole.findByName?_composite, unflagged]

end Sole

section Wrap

variable [DecidableEq τ] (sole : registered.HasSoleEnumeration identifier enumeration)

include sole

theorem appliesTransform_reference (transform : τ) :
    appliesTransform registered transform (.reference identifier) =
      decide (enumeration.transform = some transform) := by
  simp [appliesTransform, sole.member, Entity.isEnumeration, sole.kind_eq]

/-- A reference to an enumeration is not wrapped in the enumeration's own transform. -/
theorem wrapTransform_of_transform_eq (same : column.transform = enumeration.transform) :
    column.wrapTransform registered (.reference identifier) = .reference identifier := by
  unfold wrapTransform
  split
  · next transform has =>
    rw [appliesTransform_reference sole, ← same, has]
    simp
  · rfl

/-- A reference to an enumeration is wrapped in any other transform. -/
theorem wrapTransform_of_transform_ne {own : τ} (has : column.transform = some own)
    (differs : enumeration.transform ≠ some own) :
    column.wrapTransform registered (.reference identifier) =
      .transformed (.reference identifier) own := by
  simp [wrapTransform, has, appliesTransform_reference sole, differs]

end Wrap

/-- A column with the flag has a validator with a reference to the only type of its name. -/
theorem validator?_of_hasSoleEnumeration [DecidableEq τ]
    (sole : registered.HasSoleEnumeration identifier enumeration)
    (ofType : column.typeName = enumeration.name) (isEnumeration : column.isEnumeration = true)
    (resolved : column.isArray = true → column.elementType = some (.entity identifier))
    (policy : TextPolicy) (labels : List String) :
    (column.inheritTransform registered).validator? registered policy labels =
      .ok (some
        ((column.inheritTransform registered).wrap registered (.reference identifier))) := by
  apply validator?_of_reference?
  rw [reference?_inheritTransform]
  exact reference?_of_hasSoleEnumeration sole ofType isEnumeration resolved

/-- A wrapped reference to an enumeration is evaluated within the levels that there are. -/
theorem explain_wrap_reference_iff [DecidableEq τ] [Transform τ] {catalog : Catalog τ}
    (declared : catalog.find? identifier = some enumeration.labelsValidator) {value : Value}
    {path : String} :
    catalog.explain (column.wrap registered (.reference identifier)) value path = .ok [] ↔
      column.Takes
        (catalog.Satisfies (column.wrapTransform registered (.reference identifier))) value := by
  have fits : catalog.Fits 6 (column.wrap registered (.reference identifier)) :=
    fits_wrap registered (Catalog.Fits.reference (Entity.declared?_labelsValidator declared)
      (enumeration.fits_labelsValidator catalog))
  rw [fits.explain_eq_ok_nil_iff (by decide), satisfies_wrap_iff]

end Column

namespace Sample

instance : Conversion Empty := ⟨Empty.elim, Empty.elim⟩

/-- A transform by the members of an enumeration of moods. -/
def moodMembers (name : String) : StandardTransform Empty :=
  .members ⟨⟨name, "desk", name⟩,
    [("HAPPY", ⟨"HAPPY", .text "happy"⟩), ("SAD", ⟨"SAD", .text "sad"⟩)], none⟩

/-- The member that is stored as the first label. -/
def happyMember (name : String) : Value := .member ⟨name, "desk", name⟩ "HAPPY" (.text "happy")

/-- An enumeration of moods with a transform. -/
def mood : Entity (StandardTransform Empty) :=
  .ofDeclaration
    ⟨"mood", ⟨"desk", "mood", by decide, by decide, by decide⟩,
      ⟨.empty, some (moodMembers "Mood"), .empty⟩, by decide⟩
    .enumeration .empty ["happy", "sad"] fun _ => rfl

/-- The registered entities if there are no others. -/
def onlyMood : Entities (StandardTransform Empty) := .ofList [(mood.identifier, mood)]

theorem onlyMood_hasSoleEnumeration :
    onlyMood.HasSoleEnumeration mood.identifier mood := by
  decide +kernel

/-- A table of people, whose feelings may have a transform of their own. -/
def people (own : Option (StandardTransform Empty)) : Declaration (StandardTransform Empty) :=
  ⟨"person", ⟨"desk", "person", by decide, by decide, by decide⟩,
    ⟨.empty, none, .ofList [("feeling", ⟨none, own⟩)]⟩, by decide⟩

/-- The feeling of a person as it is reported, with the flag of enumerations or without it. -/
def reportedFeeling (isEnumeration : Bool) : ReportedColumn :=
  ⟨"feeling", "mood", true, isEnumeration, enumerationCode, none, false, by decide, by decide⟩

/-- The feeling of a person. -/
def feeling (own : Option (StandardTransform Empty)) (isEnumeration : Bool) :
    Column (StandardTransform Empty) where
  identifier := ⟨"desk", "feeling", by decide, by decide, by decide⟩
  name := "feeling"
  typeName := "mood"
  category := .enumeration
  notNull := true
  isEnumeration := isEnumeration
  hasDefault := false
  modifier := .whole 0
  elementType := none
  transform := own
  name_ne_empty := by decide
  typeName_ne_empty := by decide

/-- An array of feelings, each of which may be absent. -/
def feelings : Column (StandardTransform Empty) :=
  { feeling none true with
    category := .array, notNull := false, elementType := some (.entity mood.identifier) }

end Sample

section Derivation

variable [DecidableEq τ] [Transform τ] {registered : Entities τ} {identifier : Identifier}
  {enumeration : Entity τ} {transform : τ} {column : Column τ} {declaration : Declaration τ}
  {reported : ReportedColumn}

/--
An inherited transform is applied exactly once: whatever is around the reference to the enumeration,
what the column takes are the values that the enumeration's transform stores as labels, and no
transform occurs in the column's validator itself.
-/
theorem Column.explain_of_inheritedTransform
    (sole : registered.HasSoleEnumeration identifier enumeration)
    (transformed : enumeration.transform = some transform)
    (isEnumeration : column.isEnumeration = true) (untransformed : column.transform = none)
    (ofType : column.typeName = enumeration.name)
    (resolved : column.isArray = true → column.elementType = some (.entity identifier))
    (policy : TextPolicy) (labels : List String) :
    ∃ validator,
      (column.inheritTransform registered).validator? registered policy labels =
        .ok (some validator) ∧
      validator.isUntransformed = true ∧
      ∀ catalog : Catalog τ, catalog.find? identifier = some enumeration.labelsValidator →
        ∀ value path, catalog.explain validator value path = .ok [] ↔
          column.Takes (enumeration.StoresLabel transform) value := by
  have inherited := transform_inheritTransform sole ofType isEnumeration untransformed
  have unwrapped := wrapTransform_of_transform_eq sole inherited
  refine ⟨_, validator?_of_hasSoleEnumeration sole ofType isEnumeration resolved policy labels,
    ?_, ?_⟩
  · rw [wrap, unwrapped, wrapCollection, wrapNullable]
    split <;> split <;> rfl
  · intro catalog declared value path
    rw [explain_wrap_reference_iff declared, unwrapped, takes_inheritTransform]
    exact takes_congr (Entity.satisfies_reference_iff declared transformed) value

/-- A list of members, one of them absent, has no problems; a list of labels has some. -/
theorem Sample.explain_of_feelings :
    ∃ validator,
      (feelings.inheritTransform onlyMood).validator? onlyMood .standard [] =
        .ok (some validator) ∧
      ∀ catalog : Catalog (StandardTransform Empty),
        catalog.find? mood.identifier = some mood.labelsValidator → ∀ path,
          catalog.explain validator (.list [happyMember "Mood", .null]) path = .ok [] ∧
            catalog.explain validator (.list [.text "happy"]) path ≠ .ok [] := by
  have isEnumeration : feelings.isEnumeration = true := rfl
  rcases Column.explain_of_inheritedTransform onlyMood_hasSoleEnumeration rfl isEnumeration rfl
    rfl (fun _ => rfl) .standard [] with ⟨validator, derived, _, takes⟩
  refine ⟨validator, derived, ?_⟩
  intro catalog declared path
  have storesMember : mood.StoresLabel (moodMembers "Mood") (happyMember "Mood") := by
    decide +kernel
  have refusesLabel : ¬mood.StoresLabel (moodMembers "Mood") (.text "happy") := by
    decide +kernel
  rw [takes catalog declared, Ne, takes catalog declared]
  have array : feelings.isArray = true := rfl
  have nullable : feelings.notNull = false := rfl
  simp [Column.Takes, Column.TakesItem, array, nullable, storesMember, refusesLabel]

/--
A column's own transform is applied before the one of its enumeration and not in its place: what the
own transform has stored is given to the other one, and that has to store it as a label. If they are
the same, the transform is applied once.
-/
theorem Column.explain_of_ownTransform {own : τ}
    (sole : registered.HasSoleEnumeration identifier enumeration)
    (transformed : enumeration.transform = some transform)
    (made : Column.ofReport declaration reported = .ok column)
    (notArray : reported.category ≠ arrayCode) (isEnumeration : reported.isEnumeration = true)
    (ofType : reported.typeName = enumeration.name)
    (overridden : (declaration.override? reported).bind ColumnOverride.transform = some own)
    (policy : TextPolicy) (labels : List String) :
    ∃ validator,
      (column.inheritTransform registered).validator? registered policy labels =
        .ok (some validator) ∧
      ∀ catalog : Catalog τ, catalog.find? identifier = some enumeration.labelsValidator →
        ∀ value path, value ≠ .null → (catalog.explain validator value path = .ok [] ↔
          if own = transform then enumeration.StoresLabel own value
          else ∃ stored, Transform.toStorage own value = .ok stored ∧
            enumeration.StoresLabel transform stored) := by
  have parts := isMadeOf_of_ofReport made
  have has : column.transform = some own := parts.transform_eq.trans overridden
  rcases parts.of_notArray notArray with ⟨notArrayColumn, typeNameEq⟩
  have derived := validator?_of_hasSoleEnumeration sole (typeNameEq.trans ofType)
    (parts.isEnumeration_eq.trans isEnumeration) (by simp [notArrayColumn]) policy labels
  rw [inheritTransform_of_transform has] at derived ⊢
  refine ⟨_, derived, ?_⟩
  intro catalog declared value path present
  -- Whatever is around the reference, the declaration behind it applies its own transform.
  have behind := Entity.satisfies_reference_iff declared transformed
  rw [explain_wrap_reference_iff declared, takes_iff_of_ne_null notArrayColumn present]
  split
  · next same =>
    rw [same] at has ⊢
    rw [wrapTransform_of_transform_eq sole (has.trans transformed.symm), behind]
  · next differs =>
    have notSame : enumeration.transform ≠ some own := by
      rw [transformed, Ne, Option.some.injEq]
      exact Ne.symm differs
    rw [wrapTransform_of_transform_ne sole has notSame, Catalog.satisfies_transformed_iff]
    simp only [behind]

/-- The own transform stores its member as a label, which the other transform refuses. -/
theorem Sample.explain_of_feelingOfOtherMembers :
    ∃ validator,
      ((feeling (some (moodMembers "Feeling")) true).inheritTransform onlyMood).validator?
        onlyMood .standard [] = .ok (some validator) ∧
      mood.StoresLabel (moodMembers "Feeling") (happyMember "Feeling") ∧
      ∀ catalog : Catalog (StandardTransform Empty),
        catalog.find? mood.identifier = some mood.labelsValidator → ∀ path,
          catalog.explain validator (happyMember "Feeling") path ≠ .ok [] := by
  have made : Column.ofReport (people (some (moodMembers "Feeling"))) (reportedFeeling true) =
      .ok (feeling (some (moodMembers "Feeling")) true) := by decide +kernel
  have overridden : ((people (some (moodMembers "Feeling"))).override? (reportedFeeling true)).bind
      ColumnOverride.transform = some (moodMembers "Feeling") := by decide +kernel
  rcases Column.explain_of_ownTransform onlyMood_hasSoleEnumeration rfl made (by decide) rfl rfl
    overridden .standard [] with ⟨validator, derived, applied⟩
  have differs : moodMembers "Feeling" ≠ moodMembers "Mood" := by decide +kernel
  have storedAs : Transform.toStorage (moodMembers "Feeling") (happyMember "Feeling") =
      .ok (.text "happy") := by decide +kernel
  have refusesLabel : ¬mood.StoresLabel (moodMembers "Mood") (.text "happy") := by
    decide +kernel
  refine ⟨validator, derived, ⟨"happy", by decide, storedAs⟩, ?_⟩
  intro catalog declared path
  rw [Ne, applied catalog declared _ path (by simp [happyMember]), if_neg differs]
  rintro ⟨stored, converted, stores⟩
  rw [storedAs] at converted
  cases converted
  exact refusesLabel stores

omit [Transform τ] in
/--
A column that is reported with the code of enumerations is treated as one if it is flagged, too.
Without the flag it inherits no transform, and the base of its validator is the one of a base type
with the name of the enumeration.
-/
theorem Column.validator?_of_enumerationCode
    (sole : registered.HasSoleEnumeration identifier enumeration)
    (made : Column.ofReport declaration reported = .ok column)
    (code : reported.category = enumerationCode) (ofType : reported.typeName = enumeration.name)
    (untransformed : (declaration.override? reported).bind ColumnOverride.transform = none)
    (policy : TextPolicy) (labels : List String) :
    let inherited := column.inheritTransform registered
    let nullableUnlessNotNull := fun base : Validator τ =>
      if reported.notNull then base else .nullable base
    (reported.isEnumeration = true →
      inherited.transform = enumeration.transform ∧
        inherited.validator? registered policy labels =
          .ok (some (nullableUnlessNotNull (.reference identifier)))) ∧
    (reported.isEnumeration = false →
      inherited.transform = none ∧
        inherited.validator? registered policy labels =
          (column.scalarValidator policy).map fun base => some (nullableUnlessNotNull base)) := by
  intro inherited nullableUnlessNotNull
  have parts := isMadeOf_of_ofReport made
  have none : column.transform = none := parts.transform_eq.trans untransformed
  have notArray : reported.category ≠ arrayCode := by
    rw [code]
    decide
  rcases parts.of_notArray notArray with ⟨notArrayColumn, typeNameEq⟩
  have ofEnumeration := typeNameEq.trans ofType
  have wrapped (base : Validator τ) :
      inherited.wrapCollection (inherited.wrapNullable base) = nullableUnlessNotNull base := by
    simp [inherited, nullableUnlessNotNull, wrapCollection, wrapNullable, notArrayColumn,
      parts.notNull_eq]
  refine ⟨?_, ?_⟩
  · intro flagged
    have isEnumeration := parts.isEnumeration_eq.trans flagged
    have transformEq : inherited.transform = enumeration.transform :=
      transform_inheritTransform sole ofEnumeration isEnumeration none
    refine ⟨transformEq, ?_⟩
    rw [validator?_of_hasSoleEnumeration sole ofEnumeration isEnumeration
      (by simp [notArrayColumn]), wrap, wrapTransform_of_transform_eq sole transformEq, wrapped]
  · intro unflagged
    have notEnumeration := parts.isEnumeration_eq.trans unflagged
    have kept : inherited = column :=
      inheritTransform_of_not_isEnumeration notEnumeration registered
    have noReference :=
      reference?_of_not_isEnumeration sole ofEnumeration notArrayColumn notEnumeration
    have base : column.baseValidator? registered policy labels =
        (column.scalarValidator policy).map some := by
      simp [baseValidator?, notArrayColumn, noReference, notEnumeration]
    rw [kept] at wrapped ⊢
    refine ⟨none, ?_⟩
    rw [validator?, base]
    rcases column.scalarValidator policy with fault | scalar
    · rfl
    · simp [Except.map, wrap_of_untransformed none, wrapped]

/-- A reported feeling without the flag has a base type for its validator. -/
theorem Sample.validator?_of_feelingWithoutFlag :
    Column.ofReport (people none) (reportedFeeling false) = .ok (feeling none false) ∧
      ((feeling none false).inheritTransform onlyMood).transform = none ∧
      ((feeling none false).inheritTransform onlyMood).validator? onlyMood .standard [] =
        .ok (some (.base "mood")) := by
  have made : Column.ofReport (people none) (reportedFeeling false) = .ok (feeling none false) := by
    decide +kernel
  rcases (Column.validator?_of_enumerationCode onlyMood_hasSoleEnumeration made rfl rfl
    (by decide +kernel) .standard []).2 rfl with ⟨untransformed, derived⟩
  refine ⟨made, untransformed, ?_⟩
  rw [derived]
  decide +kernel

end Derivation

end EntityCatalog
